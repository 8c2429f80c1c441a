import PayableLedger.Proofs.Execution
import PayableLedger.Proofs.Transfers

set_option autoImplicit false

namespace PayableLedger

/-- The coins are just the charge. They are added as natural numbers. -/
structure Coin.PaidBy (charge : Coin) (funds : List Coin) : Prop where
  single : ∀ coin ∈ funds, coin.denom = charge.denom
  exactly : unitsOf funds = charge.amount.units

namespace Configuration

/-- A registration costs something: the cost is not zero, and a denomination goes with it. -/
structure Costs (config : Configuration) (charge : Coin) : Prop where
  cost : config.onboardingCost = some charge.amount
  denom : config.onboardingDenom = some charge.denom
  positive : charge.amount.units ≠ 0

/-- The charge is asked for, unless it is waived: nothing came along with a call of a local
ledger. -/
structure Asks (config : Configuration) (call : Call) (charge : Coin) : Prop where
  costs : config.Costs charge
  unwaived : ¬ (config.isLocal = true ∧ call.funds = [])

/-- How a charge that is taken exactly is dealt with, whatever comes along. A refusal tells how
much of the right denomination there was, as far as an amount can tell. -/
inductive Charges (config : Configuration) (call : Call) :
    Except Error (Option OnboardingFee) → Prop
  | free (uncharged : ∀ charge, ¬ config.Costs charge) (nothing : call.funds = []) :
      Charges config call (.ok none)
  | unasked (uncharged : ∀ charge, ¬ config.Costs charge) (something : call.funds ≠ []) :
      Charges config call (.error .fundsPresent)
  | waived {charge : Coin} (costs : config.Costs charge) (atHome : config.isLocal = true)
      (nothing : call.funds = []) : Charges config call (.ok none)
  | collected {charge : Coin} {collector : String} (asks : config.Asks call charge)
      (paid : charge.PaidBy call.funds) (collects : config.feeCollector = some collector) :
      Charges config call
        (.ok (some ⟨.send collector charge, .onboardingFeeCollected charge⟩))
  | refunded {charge : Coin} (asks : config.Asks call charge) (paid : charge.PaidBy call.funds)
      (nobody : config.feeCollector = none) :
      Charges config call
        (.ok (some ⟨.send call.sender charge, .onboardingFeeRefunded charge⟩))
  | refused {charge : Coin} {sum : Amount} (asks : config.Asks call charge)
      (unpaid : ¬ charge.PaidBy call.funds)
      (counted : sum.units = min (unitsIn charge.denom call.funds) Amount.max.units) :
      Charges config call
        (.error (.insufficientOnboardingFee charge.amount sum charge.denom))

/-- The charge is the greatest amount, and the coins, all of its denomination, are more. -/
structure Saturates (config : Configuration) (call : Call) (charge : Coin) : Prop where
  costs : config.Costs charge
  greatest : charge.amount = .max
  single : ∀ coin ∈ call.funds, coin.denom = charge.denom
  more : charge.amount.units < unitsOf call.funds

variable {config : Configuration} {call : Call} {charge : Coin}

theorem onboardingCharge_eq_some_iff :
    config.onboardingCharge = some charge ↔ config.Costs charge := by
  constructor
  · intro charged
    unfold onboardingCharge at charged
    split at charged
    · next cost denom priced denominated =>
      split at charged
      · cases charged
      · next positive =>
        cases charged
        exact ⟨priced, denominated, mt Amount.isZero_iff.2 positive⟩
    · cases charged
  · intro costs
    have positive := mt Amount.isZero_iff.1 costs.positive
    simp [onboardingCharge, costs.cost, costs.denom, positive]

theorem onboardingCharge_eq_none_iff :
    config.onboardingCharge = none ↔ ∀ charge, ¬ config.Costs charge := by
  simp only [← onboardingCharge_eq_some_iff, Option.eq_none_iff_forall_ne_some, ne_eq]

/-- Where the charge is asked for, coins of its denomination that come to it are taken. They are
counted like amounts, so that a sum too large comes to the greatest amount. -/
theorem onboard_of_asks (asks : config.Asks call charge) :
    config.onboard call =
      if (∀ coin ∈ call.funds, coin.denom = charge.denom) ∧
          provided charge.denom call.funds = charge.amount then
        .ok (some (config.takeCharge call.sender charge))
      else
        .error (.insufficientOnboardingFee charge.amount (provided charge.denom call.funds)
          charge.denom) := by
  have unwaived : (config.isLocal && call.funds.isEmpty) = false := by
    rw [← Bool.not_eq_true, Bool.and_eq_true, List.isEmpty_iff]
    exact asks.unwaived
  have refusal : ((call.funds.any fun coin => coin.denom != charge.denom) ||
      provided charge.denom call.funds != charge.amount) = true ↔
      ¬ ((∀ coin ∈ call.funds, coin.denom = charge.denom) ∧
        provided charge.denom call.funds = charge.amount) := by
    simp only [Bool.or_eq_true, List.any_eq_true, bne_iff_ne, ne_eq, not_and_or, not_forall,
      exists_prop]
  rw [onboard, onboardingCharge_eq_some_iff.2 asks.costs]
  simp only [unwaived, Bool.false_eq_true, if_false, refusal, ite_not]

/-- Coins of one denomination count in full, up to the greatest amount. -/
theorem units_provided_of_single (single : ∀ coin ∈ call.funds, coin.denom = charge.denom) :
    (provided charge.denom call.funds).units = min (unitsOf call.funds) (Amount.bound - 1) := by
  rw [units_provided, unitsIn_self single]

theorem paidBy_iff (costs : config.Costs charge) (unsaturated : ¬ config.Saturates call charge) :
    charge.PaidBy call.funds ↔
      (∀ coin ∈ call.funds, coin.denom = charge.denom) ∧
        provided charge.denom call.funds = charge.amount := by
  have inRange := charge.amount.units_lt
  constructor
  · intro paid
    have exactly := paid.exactly
    refine ⟨paid.single, Amount.ext ?_⟩
    rw [units_provided_of_single paid.single]
    omega
  · rintro ⟨single, counted⟩
    refine ⟨single, ?_⟩
    by_contra inexact
    have units := units_provided_of_single single
    rw [counted] at units
    -- A sum that was cut off can equal no other charge.
    have greatest : charge.amount = .max := by
      apply Amount.ext
      change charge.amount.units = Amount.bound - 1
      omega
    exact unsaturated ⟨costs, greatest, single, by omega⟩

theorem Saturates.onboard (saturates : config.Saturates call charge) :
    config.onboard call = .ok (some (config.takeCharge call.sender charge)) := by
  have asks : config.Asks call charge := by
    refine ⟨saturates.costs, ?_⟩
    rintro ⟨_, nothing⟩
    have more := saturates.more
    rw [nothing] at more
    exact Nat.not_lt_zero _ more
  have counted : provided charge.denom call.funds = charge.amount := by
    have more := saturates.more
    have units : charge.amount.units = Amount.bound - 1 := congrArg Amount.units saturates.greatest
    apply Amount.ext
    rw [units_provided_of_single saturates.single]
    omega
  rw [onboard_of_asks asks, if_pos ⟨saturates.single, counted⟩]

theorem Charges.paidBy {fee : OnboardingFee} (charges : config.Charges call (.ok (some fee))) :
    ∃ charge : Coin, config.Costs charge ∧ charge.PaidBy call.funds := by
  cases charges with
  | collected asks paid collects => exact ⟨_, asks.costs, paid⟩
  | refunded asks paid nobody => exact ⟨_, asks.costs, paid⟩

theorem Costs.unique {other : Coin} (costs : config.Costs charge) (others : config.Costs other) :
    charge = other := by
  rw [← onboardingCharge_eq_some_iff] at costs others
  exact Option.some.inj (costs.symm.trans others)

theorem Saturates.not_charges (saturates : config.Saturates call charge) :
    ¬ config.Charges call (config.onboard call) := by
  rw [saturates.onboard]
  intro charges
  obtain ⟨other, costs, paid⟩ := charges.paidBy
  obtain rfl := saturates.costs.unique costs
  have more := saturates.more
  have exactly := paid.exactly
  omega

theorem Asks.charges (asks : config.Asks call charge)
    (unsaturated : ¬ config.Saturates call charge) :
    config.Charges call (config.onboard call) := by
  have paid := paidBy_iff asks.costs unsaturated
  rw [onboard_of_asks asks]
  split
  · next enough =>
    unfold takeCharge
    split
    · next collector collects => exact .collected asks (paid.2 enough) collects
    · next nobody => exact .refunded asks (paid.2 enough) nobody
  · next short => exact .refused asks (mt paid.1 short) (units_provided _ _)

theorem charges_of_free (uncharged : ∀ charge, ¬ config.Costs charge) :
    config.Charges call (config.onboard call) := by
  rw [onboard, onboardingCharge_eq_none_iff.2 uncharged]
  simp only [List.isEmpty_iff]
  split
  · next nothing => exact .free uncharged nothing
  · next something => exact .unasked uncharged something

theorem charges_onboard (unsaturated : ∀ charge, ¬ config.Saturates call charge) :
    config.Charges call (config.onboard call) := by
  cases charged : config.onboardingCharge with
  | none => exact charges_of_free (onboardingCharge_eq_none_iff.1 charged)
  | some charge =>
    have costs := onboardingCharge_eq_some_iff.1 charged
    by_cases waived : config.isLocal = true ∧ call.funds = []
    · rw [onboard_eq_none_iff.2 ⟨waived.2, .inr waived.1⟩]
      exact .waived costs waived.1 waived.2
    · exact Asks.charges ⟨costs, waived⟩ (unsaturated charge)

/-- The step comes to nothing else than what the rules say. -/
theorem Charges.onboard {outcome : Except Error (Option OnboardingFee)}
    (charges : config.Charges call outcome)
    (unsaturated : ∀ charge, ¬ config.Saturates call charge) : config.onboard call = outcome := by
  cases charges with
  | free uncharged nothing =>
    exact onboard_eq_none_iff.2 ⟨nothing, .inl (onboardingCharge_eq_none_iff.2 uncharged)⟩
  | unasked uncharged something =>
    rw [Configuration.onboard, onboardingCharge_eq_none_iff.2 uncharged]
    simp only [List.isEmpty_iff, something, if_false]
  | waived costs atHome nothing => exact onboard_eq_none_iff.2 ⟨nothing, .inr atHome⟩
  | collected asks paid collects =>
    rw [onboard_of_asks asks, if_pos ((paidBy_iff asks.costs (unsaturated _)).1 paid), takeCharge,
      collects]
  | refunded asks paid nobody =>
    rw [onboard_of_asks asks, if_pos ((paidBy_iff asks.costs (unsaturated _)).1 paid), takeCharge,
      nobody]
  | @refused charge sum asks unpaid counted =>
    have shown : provided charge.denom call.funds = sum :=
      Amount.ext ((units_provided _ _).trans counted.symm)
    rw [onboard_of_asks asks, if_neg (mt (paidBy_iff asks.costs (unsaturated _)).2 unpaid), shown]

end Configuration

/-- For all settings and every call, the charge is dealt with as it is to be taken exactly, but for
coins that are more than the greatest amount where this is the charge: they are taken for it, and
only the charge is passed on. -/
theorem charge_exact_unless_saturated (config : Configuration) (call : Call) :
    ((∀ outcome, config.onboard call = outcome ↔ config.Charges call outcome) ↔
        ∀ charge, ¬ config.Saturates call charge) ∧
      ∀ charge, config.Saturates call charge →
        config.onboard call = .ok (some (config.takeCharge call.sender charge)) := by
  refine ⟨⟨?_, ?_⟩, fun charge saturates => saturates.onboard⟩
  · intro exact charge saturates
    exact saturates.not_charges ((exact _).1 rfl)
  · intro unsaturated outcome
    constructor
    · rintro rfl
      exact Configuration.charges_onboard unsaturated
    · exact fun charges => charges.onboard unsaturated

def steepRun : List Entry := [
  .instantiate "contract" ⟨"admin", []⟩
    ⟨"registry", some "collector", none, some "340282366920938463463374607431768211455",
      some "usd", some true⟩]

/-- One unit more than the charge of `steepRun`, in two coins. -/
def steepCall : Call := ⟨"payee", [⟨"usd", .max⟩, ⟨"usd", ⟨1, by decide⟩⟩]⟩

/-- The registration goes through, and the unit that is too much is sent to nobody. -/
theorem overpaid_charge_taken :
    ∃ config, (Ledger.after steepRun).records.configuration = .ok config ∧
      config.Costs ⟨"usd", .max⟩ ∧ unitsOf steepCall.funds = Amount.max.units + 1 ∧
      ¬ config.Charges steepCall (config.onboard steepCall) ∧
      ∃ response,
        (Ledger.execute (Ledger.after steepRun) [] steepCall
          (.register partialRegistration)).answer = .ok response ∧
        response.messages = [.send "collector" ⟨"usd", .max⟩] := by
  have configured : (Ledger.after steepRun).records.configuration =
      .ok ⟨"registry", some "collector", none, true, some .max, some "usd"⟩ :=
    Ledger.configuration_eq_ok_iff.2 rfl
  have saturates : Configuration.Saturates
      ⟨"registry", some "collector", none, true, some .max, some "usd"⟩ steepCall
      ⟨"usd", .max⟩ :=
    ⟨⟨rfl, rfl, by decide⟩, rfl, by decide, by decide⟩
  refine ⟨_, configured, saturates.costs, rfl, saturates.not_charges, ?_⟩
  rw [Ledger.answer_execute, (Ledger.holds_after _).records]
  exact ⟨_, rfl, rfl⟩

end PayableLedger
