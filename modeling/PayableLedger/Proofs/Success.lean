import Mathlib.Algebra.Ring.Nat
import PayableLedger.Ledger

set_option autoImplicit false

namespace PayableLedger

section Except

variable {ε α β : Type}

theorem bind_eq_ok_iff {first : Except ε α} {next : α → Except ε β} {b : β} :
    first >>= next = .ok b ↔ ∃ a, first = .ok a ∧ next a = .ok b := by
  cases first with
  | error e => simp [bind, Except.bind]
  | ok a => simp [bind, Except.bind]

theorem bind_eq_error_iff {first : Except ε α} {next : α → Except ε β} {e : ε} :
    first >>= next = .error e ↔ first = .error e ∨ ∃ a, first = .ok a ∧ next a = .error e := by
  cases first with
  | error e => simp [bind, Except.bind]
  | ok a => simp [bind, Except.bind]

theorem exists_unit_iff {p : Unit → Prop} : (∃ u, p u) ↔ p () :=
  ⟨fun ⟨(), holds⟩ => holds, fun holds => ⟨(), holds⟩⟩

theorem throw_bind {e : ε} {next : α → Except ε β} : throw e >>= next = .error e := rfl

theorem pure_eq_ok_iff {a b : α} : (pure a : Except ε α) = .ok b ↔ b = a := by
  simp only [pure, Except.pure, Except.ok.injEq, eq_comm]

theorem lift_eq_ok_iff {result : Except Error α} {a : α} :
    (liftM result : Except Failure α) = .ok a ↔ result = .ok a := by
  cases result with
  | error cause =>
    change Except.error (Failure.refused cause) = Except.ok a ↔ _
    simp only [reduceCtorEq]
  | ok found =>
    change Except.ok found = Except.ok a ↔ _
    simp only [Except.ok.injEq]

/-- A check that refuses where a condition holds is passed where it does not. -/
theorem refuse_eq_ok_iff {condition : Prop} [Decidable condition] {e : ε} {next : Except ε β}
    {b : β} : (if condition then .error e else next) = .ok b ↔ ¬ condition ∧ next = .ok b := by
  by_cases refused : condition
  · simp [refused]
  · simp [refused]

theorem unless_eq_ok_iff {condition : Bool} {check : Except ε Unit} {next : Except ε β} {b : β} :
    (if (!condition) = true then check >>= fun _ => next else next) = .ok b ↔
      (condition = true ∨ check = .ok ()) ∧ next = .ok b := by
  cases condition with
  | false =>
    simp only [Bool.not_false, if_true, bind_eq_ok_iff, exists_unit_iff, Bool.false_eq_true,
      false_or]
  | true => simp

end Except

theorem checkFields_eq_ok_iff {checks : List (String × Bool)} :
    checkFields checks = .ok () ↔ ∀ check ∈ checks, check.2 = false := by
  unfold checkFields
  cases faults : faultyFields checks with
  | nil => simpa [faultyFields] using faults
  | cons field rest =>
    have faulty : faultyFields checks ≠ [] := by simp [faults]
    simpa [faultyFields] using faulty

theorem checkFeePercent_eq_ok_iff {percent? : Option Decimal} :
    checkFeePercent percent? = .ok () ↔
      ∀ percent, percent? = some percent → percent.atomics ≤ Decimal.unit := by
  unfold checkFeePercent
  cases percent? with
  | none => simp
  | some percent =>
    simp only [refuse_eq_ok_iff, and_true, Nat.not_lt, Option.some.injEq, forall_eq']
    rfl

theorem isUnreadableCost_eq_false_iff {cost? : Option String} :
    isUnreadableCost cost? = false ↔ ∃ amount?, readCost cost? = .ok amount? := by
  unfold isUnreadableCost readCost
  cases cost? with
  | none => simp
  | some cost => cases parsed : Amount.parse cost <;> simp [parsed]

theorem readCost_some_eq_ok_iff {cost : String} {amount? : Option Amount} :
    readCost (some cost) = .ok amount? ↔
      ∃ amount, Amount.parse cost = .ok amount ∧ amount? = some amount := by
  unfold readCost
  cases parsed : Amount.parse cost <;> simp [parsed, eq_comm]

theorem Instantiation.validate_eq_ok_iff {request : Instantiation} :
    request.validate = .ok () ↔
      request.name ≠ "" ∧ request.feeCollector ≠ some "" ∧
        (∃ cost?, readCost request.onboardingCost = .ok cost?) ∧
        request.onboardingDenom ≠ some "" ∧
        (∀ percent, request.feePercent = some percent → percent.atomics ≤ Decimal.unit) ∧
        (request.onboardingDenom = none → request.onboardingCost = none) := by
  simp only [validate, bind_eq_ok_iff, exists_unit_iff, checkFields_eq_ok_iff,
    checkFeePercent_eq_ok_iff, isUnreadableCost_eq_false_iff, List.forall_mem_cons,
    List.not_mem_nil, false_implies, implies_true, and_true, and_assoc, beq_eq_false_iff_ne,
    String.isEmpty_eq_false_iff]
  cases request.onboardingCost <;> cases request.onboardingDenom <;> simp

theorem Migration.validate_eq_ok_iff {request : Migration} :
    request.validate = .ok () ↔
      request.feeCollector ≠ some "" ∧
        (∃ cost?, readCost request.onboardingCost = .ok cost?) ∧
        request.onboardingDenom ≠ some "" ∧
        ∀ percent, request.feePercent = some percent → percent.atomics ≤ Decimal.unit := by
  simp only [validate, bind_eq_ok_iff, exists_unit_iff, checkFields_eq_ok_iff,
    checkFeePercent_eq_ok_iff, isUnreadableCost_eq_false_iff, List.forall_mem_cons,
    List.not_mem_nil, false_implies, implies_true, and_true, and_assoc, beq_eq_false_iff_ne]

theorem Execution.validate_register_eq_ok_iff {registration : Registration} :
    (register registration).validate = .ok () ↔
      registration.oracle ≠ "" ∧ registration.denom ≠ "" ∧ registration.kind ≠ "" ∧
        registration.uuid ≠ "" ∧ registration.scopeId ≠ "" := by
  simp [validate, checkFields_eq_ok_iff]

theorem Query.validate_payable_eq_ok_iff {uuid : String} :
    (payable uuid).validate = .ok () ↔ uuid ≠ "" := by
  simp [validate, checkFields_eq_ok_iff]

theorem Query.validate_payableOfScope_eq_ok_iff {scopeId : String} :
    (payableOfScope scopeId).validate = .ok () ↔ scopeId ≠ "" := by
  simp [validate, checkFields_eq_ok_iff]

theorem Instantiation.configuration_eq_ok_iff {request : Instantiation} {config : Configuration} :
    request.configuration = .ok config ↔
      ∃ cost?, readCost request.onboardingCost = .ok cost? ∧
        config = ⟨request.name, request.feeCollector, request.feePercent,
          request.isLocal.getD false, cost?, request.onboardingDenom⟩ := by
  simp only [configuration, bind_eq_ok_iff, pure_eq_ok_iff]

theorem Instantiation.exists_configuration {request : Instantiation}
    (valid : request.validate = .ok ()) : ∃ config, request.configuration = .ok config := by
  obtain ⟨_, _, ⟨cost?, readable⟩, _⟩ := validate_eq_ok_iff.1 valid
  exact ⟨_, configuration_eq_ok_iff.2 ⟨cost?, readable, rfl⟩⟩

theorem Instantiation.bindName_eq_ok_iff {name address : String} {bound : Message} :
    bindName name address = .ok bound ↔
      Text.isBlank name = false ∧ Text.isBlank address = false ∧
        bound = .bindName name address := by
  unfold bindName
  cases Text.isBlank name <;> cases Text.isBlank address <;> simp [eq_comm]

theorem Instantiation.bindName_eq_error_iff {name address : String} {cause : Error} :
    bindName name address = .error cause ↔
      (Text.isBlank name = true ∨ Text.isBlank address = true) ∧
        cause = if Text.isBlank name then .blankName else .blankAddress := by
  unfold bindName
  cases Text.isBlank name <;> cases Text.isBlank address <;> simp [eq_comm]

theorem Configuration.onboard_eq_none_iff {config : Configuration} {call : Call} :
    config.onboard call = .ok none ↔
      call.funds = [] ∧ (config.onboardingCharge = none ∨ config.isLocal = true) := by
  unfold onboard
  cases config.onboardingCharge with
  | none => cases call.funds <;> simp
  | some charge =>
    simp only [reduceCtorEq, false_or]
    split
    · next waived => simpa [and_comm] using waived
    · next asked =>
      rw [Bool.and_eq_true, List.isEmpty_iff, and_comm] at asked
      split <;> simp [asked]

theorem Configuration.onboard_eq_some_iff {config : Configuration} {call : Call}
    {fee : OnboardingFee} :
    config.onboard call = .ok (some fee) ↔
      ∃ charge, config.onboardingCharge = some charge ∧
        ¬ (config.isLocal = true ∧ call.funds = []) ∧
        (∀ coin ∈ call.funds, coin.denom = charge.denom) ∧
        provided charge.denom call.funds = charge.amount ∧
        fee = config.takeCharge call.sender charge := by
  unfold onboard
  cases config.onboardingCharge with
  | none => cases call.funds <;> simp
  | some charge =>
    simp only [Option.some.injEq, exists_eq_left']
    split
    · next waived => simp_all
    · next asked =>
      rw [Bool.and_eq_true, List.isEmpty_iff] at asked
      rw [refuse_eq_ok_iff, Except.ok.injEq, Option.some.injEq, @eq_comm _ _ fee]
      simp only [asked, not_false_eq_true, true_and, Bool.or_eq_true, List.any_eq_true,
        bne_iff_ne, not_or, not_exists, not_and, not_not, and_assoc]

theorem Registration.accept_eq_ok_iff {request : Registration} {records : Records}
    {scopes : ScopeTable} {call : Call} {fee : Option OnboardingFee} :
    request.accept records scopes call = .ok fee ↔
      request.total.units ≠ 0 ∧ records.payable? request.uuid = .ok none ∧
        records.indexed? request.scopeId = .ok none ∧
        ∃ config, records.configuration = .ok config ∧
          (config.isLocal = true ∨ scopes.verifyOwner request.scopeId call.sender = .ok ()) ∧
          config.onboard call = .ok fee := by
  simp only [accept, throw_bind, refuse_eq_ok_iff, bind_eq_ok_iff, unless_eq_ok_iff,
    Amount.isZero_iff, Option.not_isSome_iff_eq_none]
  constructor
  · rintro ⟨total, _, payable, rfl, _, indexed, rfl, rest⟩
    exact ⟨total, payable, indexed, rest⟩
  · rintro ⟨total, payable, indexed, rest⟩
    exact ⟨total, none, payable, rfl, none, indexed, rfl, rest⟩

theorem Registration.decide_eq_ok_iff {request : Registration} {records : Records}
    {scopes : ScopeTable} {call : Call} {changes : List Change} {response : Response} :
    request.decide records scopes call = .ok (changes, response) ↔
      ∃ fee, request.accept records scopes call = .ok fee ∧
        changes = [.payable (request.toPayable call.sender),
          .indexed request.scopeId request.uuid] ∧
        response = request.response fee := by
  simp only [decide, bind_eq_ok_iff, lift_eq_ok_iff, pure_eq_ok_iff, Prod.mk.injEq]

theorem Approval.approve_eq_ok_iff {payable approved : Payable} {sender : String} :
    approve payable sender = .ok approved ↔
      sender = payable.oracle ∧ payable.status = .pending ∧
        approved = { payable with status := .approved } := by
  unfold approve
  split
  · next stranger => simp [stranger]
  · next oracle =>
    split
    · next settled => simp [settled]
    · next pending => simp_all [eq_comm]

theorem Approval.decide_eq_ok_iff {request : Approval} {records : Records} {call : Call}
    {changes : List Change} {response : Response} :
    request.decide records call = .ok (changes, response) ↔
      call.funds = [] ∧
        ∃ payable, records.payable request.uuid = .ok payable ∧
          ∃ approved, approve payable call.sender = .ok approved ∧
            changes = [.payable approved] ∧ response = ⟨[], attributes approved⟩ := by
  simp only [decide, throw_bind, refuse_eq_ok_iff, bind_eq_ok_iff, lift_eq_ok_iff, pure_eq_ok_iff,
    Prod.mk.injEq, Bool.not_eq_true', Bool.not_eq_false, List.isEmpty_iff]

theorem Payment.decide_eq_ok_iff {request : Payment} {records : Records} {call : Call}
    {changes : List Change} {response : Response} :
    request.decide records call = .ok (changes, response) ↔
      ∃ config, records.configuration = .ok config ∧
        ∃ payable, records.payable request.uuid = .ok payable ∧
          ∃ amount, amountOf payable call.funds = .ok amount ∧
            ∃ division, config.splitFee amount = .ok division ∧
              changes = [.payable (afterPayment payable amount)] ∧
              response = ⟨messages (afterPayment payable amount) division,
                attributes (afterPayment payable amount) amount division call.sender⟩ := by
  simp only [decide, bind_eq_ok_iff, lift_eq_ok_iff, pure_eq_ok_iff, Prod.mk.injEq]

theorem Payment.checkStatus_eq_ok_iff {payable : Payable} :
    checkStatus payable = .ok () ↔
      payable.status = .approved ∨ payable.status = .partiallyPaid := by
  unfold checkStatus
  cases payable.status <;> simp

theorem Payment.foreignDenoms_eq_nil_iff {accepted : String} {funds : List Coin} :
    foreignDenoms accepted funds = [] ↔ ∀ coin ∈ funds, coin.denom = accepted := by
  simp [foreignDenoms]

/-- The amounts of coins added as natural numbers. -/
def unitsOf (funds : List Coin) : Nat := (funds.map fun coin => coin.amount.units).sum

@[simp] theorem unitsOf_nil : unitsOf [] = 0 := rfl

@[simp] theorem unitsOf_cons (coin : Coin) (rest : List Coin) :
    unitsOf (coin :: rest) = coin.amount.units + unitsOf rest := List.sum_cons

@[simp] theorem unitsOf_append (coins more : List Coin) :
    unitsOf (coins ++ more) = unitsOf coins + unitsOf more := by
  rw [unitsOf, List.map_append, List.sum_append_nat]
  rfl

theorem Payment.addCoins_eq_ok_iff {sum total : Amount} {funds : List Coin} :
    addCoins sum funds = .ok total ↔ total.units = sum.units + unitsOf funds := by
  induction funds generalizing sum with
  | nil =>
    simp only [addCoins, Except.ok.injEq, unitsOf_nil, Nat.add_zero]
    exact ⟨fun same => same ▸ rfl, fun same => Amount.ext same.symm⟩
  | cons coin rest ih =>
    rw [addCoins, unitsOf_cons]
    cases next : sum.add? coin.amount with
    | none =>
      have outside := Amount.add?_eq_none_iff.1 next
      have inside := total.units_lt
      simp only [reduceCtorEq, false_iff]
      omega
    | some more =>
      have units := Amount.add?_eq_some_iff.1 next
      simp only [ih, units, Nat.add_assoc]

theorem Payment.amountOf_eq_ok_iff {payable : Payable} {funds : List Coin} {amount : Amount} :
    amountOf payable funds = .ok amount ↔
      (payable.status = .approved ∨ payable.status = .partiallyPaid) ∧
        (∀ coin ∈ funds, coin.denom = payable.denom) ∧ amount.units = unitsOf funds ∧
        amount.units ≠ 0 ∧ amount.units ≤ payable.remaining.units := by
  simp only [amountOf, throw_bind, bind_eq_ok_iff, exists_unit_iff, refuse_eq_ok_iff,
    pure_eq_ok_iff, Bool.not_eq_true', Bool.not_eq_false, List.isEmpty_iff, Amount.isZero_iff,
    checkStatus_eq_ok_iff, foreignDenoms_eq_nil_iff, addCoins_eq_ok_iff, Nat.not_lt, Amount.zero,
    Nat.zero_add]
  refine and_congr_right fun _ => and_congr_right fun _ => ?_
  constructor
  · rintro ⟨sum, added, positive, within, rfl⟩
    exact ⟨added, positive, within⟩
  · rintro ⟨added, positive, within⟩
    exact ⟨amount, added, positive, within, rfl⟩

theorem Migration.toOverlay_eq_ok_iff {request : Migration} {change : Overlay} :
    request.toOverlay = .ok change ↔
      ∃ cost?, readCost request.onboardingCost = .ok cost? ∧
        change = ⟨request.feeCollector, request.feePercent, request.isLocal, cost?,
          request.onboardingDenom⟩ := by
  simp only [toOverlay, bind_eq_ok_iff, pure_eq_ok_iff]

theorem Migration.exists_overlay {request : Migration} (valid : request.validate = .ok ()) :
    ∃ change, request.toOverlay = .ok change := by
  obtain ⟨_, ⟨cost?, readable⟩, _⟩ := validate_eq_ok_iff.1 valid
  exact ⟨_, toOverlay_eq_ok_iff.2 ⟨cost?, readable, rfl⟩⟩

theorem Migration.decide_eq_ok_iff {request : Migration} {records : Records}
    {changes : List Change} {response : Response} :
    request.decide records = .ok (changes, response) ↔
      ∃ stamp, records.stamp = .ok stamp ∧ stamp.checkMigration = .ok () ∧
        ∃ change, request.toOverlay = .ok change ∧
          ∃ config, records.configuration = .ok config ∧
            checkPaired (config.overlay change) = .ok () ∧
            changes = [.configuration (config.overlay change), .stamp .running] ∧
            response = Migration.response .running change := by
  simp only [decide, bind_eq_ok_iff, lift_eq_ok_iff, pure_eq_ok_iff, Prod.mk.injEq,
    exists_unit_iff]

end PayableLedger
