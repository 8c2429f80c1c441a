import PayableLedger.Proofs.Balance
import PayableLedger.Proofs.Settings

set_option autoImplicit false

namespace PayableLedger

open Json (decode? encode)

/-- The causes that blame what is stored, or a text that validation has let through. -/
def Error.IsFault : Error → Prop
  | .unreadable => True
  | .badDecimal _ => True
  | .badAmount _ => True
  | .badVersion _ => True
  | .foreignContract _ _ => True
  | .newerVersion _ _ => True
  | _ => False

def Failure.IsFault : Failure → Prop
  | .refused cause => cause.IsFault
  | .aborted => True

section Except

variable {ε α β : Type} {bad : ε → Prop}

/-- The result is a value, or an error that is not one of the bad ones. -/
def Avoids (bad : ε → Prop) (result : Except ε α) : Prop := ∀ e, result = .error e → ¬ bad e

theorem avoids_ok (a : α) : Avoids bad (.ok a : Except ε α) := by
  intro e failed
  cases failed

theorem avoids_error_iff {e : ε} : Avoids bad (.error e : Except ε α) ↔ ¬ bad e := by
  constructor
  · intro avoids
    exact avoids e rfl
  · rintro mild _ ⟨⟩
    exact mild

theorem avoids_pure (a : α) : Avoids bad (pure a : Except ε α) := avoids_ok a

theorem avoids_bind_iff {first : Except ε α} {next : α → Except ε β} :
    Avoids bad (first >>= next) ↔
      Avoids bad first ∧ ∀ a, first = .ok a → Avoids bad (next a) := by
  cases first with
  | error e =>
    change Avoids bad (.error e) ↔ _
    simp [avoids_error_iff]
  | ok a =>
    change Avoids bad (next a) ↔ _
    simp [avoids_ok]

theorem avoids_ite_iff {condition : Prop} [Decidable condition] {first second : Except ε α} :
    Avoids bad (if condition then first else second) ↔
      (condition → Avoids bad first) ∧ (¬ condition → Avoids bad second) := by
  by_cases holds : condition <;> simp [holds]

theorem avoids_map_iff {result : Except ε α} {f : α → β} :
    Avoids bad (result.map f) ↔ Avoids bad result := by
  cases result <;> simp only [Except.map, avoids_error_iff, avoids_ok]

theorem avoids_mapError_iff {result : Except Error α} :
    Avoids Failure.IsFault (result.mapError .refused) ↔ Avoids Error.IsFault result := by
  cases result <;> simp only [Except.mapError, avoids_error_iff, avoids_ok, Failure.IsFault]

theorem avoids_lift_iff {result : Except Error α} :
    Avoids Failure.IsFault (liftM result : Except Failure α) ↔ Avoids Error.IsFault result :=
  avoids_mapError_iff

end Except

theorem avoids_checkFields (checks : List (String × Bool)) :
    Avoids Error.IsFault (checkFields checks) := by
  unfold checkFields
  split
  · exact avoids_ok ()
  · -- By its definition `IsFault` is false of this cause, and of all others below.
    exact avoids_error_iff.2 id

theorem avoids_checkFeePercent (percent? : Option Decimal) :
    Avoids Error.IsFault (checkFeePercent percent?) := by
  unfold checkFeePercent
  split
  · exact avoids_ok ()
  · split
    · exact avoids_error_iff.2 id
    · exact avoids_ok ()

theorem Instantiation.avoids_validate (request : Instantiation) :
    Avoids Error.IsFault request.validate := by
  simp only [validate, avoids_bind_iff, avoids_checkFields, avoids_checkFeePercent, true_and]
  intro _ _ _ _
  split
  · exact avoids_error_iff.2 id
  · exact avoids_ok ()

theorem Migration.avoids_validate (request : Migration) :
    Avoids Error.IsFault request.validate := by
  simp only [validate, avoids_bind_iff, avoids_checkFields, avoids_checkFeePercent, true_and,
    implies_true]

theorem Execution.avoids_validate (request : Execution) :
    Avoids Error.IsFault request.validate := by
  cases request <;> exact avoids_checkFields _

theorem Query.avoids_validate (request : Query) : Avoids Error.IsFault request.validate := by
  cases request with
  | state => exact avoids_ok ()
  | payableOfScope scopeId => exact avoids_checkFields _
  | payable uuid => exact avoids_checkFields _

namespace Book

variable (book : Book)

theorem avoids_configuration : Avoids Error.IsFault book.records.configuration := by
  rw [Records.configuration, avoids_bind_iff]
  refine ⟨avoids_ok _, ?_⟩
  rintro (_ | config) _
  · exact avoids_error_iff.2 id
  · exact avoids_ok config

theorem avoids_stamp : Avoids Error.IsFault book.records.stamp := by
  rw [Records.stamp, avoids_bind_iff]
  refine ⟨avoids_ok _, ?_⟩
  rintro (_ | stamp) _
  · exact avoids_error_iff.2 id
  · exact avoids_ok stamp

theorem avoids_payable (uuid : String) : Avoids Error.IsFault (book.records.payable uuid) := by
  rw [Records.payable, avoids_bind_iff]
  refine ⟨avoids_ok _, ?_⟩
  rintro (_ | payable) _
  · exact avoids_error_iff.2 id
  · exact avoids_ok payable

end Book

theorem ScopeTable.avoids_verifyOwner (scopes : ScopeTable) (scopeId address : String) :
    Avoids Error.IsFault (scopes.verifyOwner scopeId address) := by
  unfold verifyOwner
  split
  · exact avoids_error_iff.2 id
  · split
    · exact avoids_error_iff.2 id
    · split
      · exact avoids_ok ()
      · exact avoids_error_iff.2 id

theorem Configuration.avoids_onboard (config : Configuration) (call : Call) :
    Avoids Error.IsFault (config.onboard call) := by
  unfold onboard
  split
  · split
    · exact avoids_ok none
    · exact avoids_error_iff.2 id
  · split
    · exact avoids_ok none
    · dsimp only
      split
      · exact avoids_error_iff.2 id
      · exact avoids_ok _

theorem Registration.avoids_decide (request : Registration) (book : Book) (scopes : ScopeTable)
    (call : Call) : Avoids Failure.IsFault (request.decide book.records scopes call) := by
  have accepts : Avoids Error.IsFault (request.accept book.records scopes call) := by
    simp only [accept, throw_bind, avoids_bind_iff, avoids_ite_iff, avoids_error_iff,
      Error.IsFault, Book.payable?_records, Book.indexed?_records, avoids_ok,
      book.avoids_configuration, scopes.avoids_verifyOwner, Configuration.avoids_onboard,
      not_false_eq_true, implies_true, and_self]
  simp only [decide, avoids_bind_iff, avoids_lift_iff, accepts, avoids_pure, implies_true,
    and_self]

theorem Approval.avoids_decide (request : Approval) (book : Book) (call : Call) :
    Avoids Failure.IsFault (request.decide book.records call) := by
  have approves (payable : Payable) : Avoids Error.IsFault (approve payable call.sender) := by
    unfold approve
    split
    · exact avoids_error_iff.2 id
    · split
      · exact avoids_error_iff.2 id
      · exact avoids_ok _
  simp only [decide, throw_bind, avoids_bind_iff, avoids_ite_iff, avoids_error_iff,
    avoids_lift_iff, Failure.IsFault, Error.IsFault, book.avoids_payable, approves, avoids_pure,
    not_false_eq_true, implies_true, and_self]

theorem Payment.avoids_amountOf (payable : Payable) (funds : List Coin) :
    Avoids Error.IsFault (amountOf payable funds) := by
  have status : Avoids Error.IsFault (checkStatus payable) := by
    unfold checkStatus
    split
    · exact avoids_ok ()
    · exact avoids_ok ()
    · exact avoids_error_iff.2 id
    · exact avoids_error_iff.2 id
    · exact avoids_error_iff.2 id
  have sum (start : Amount) : Avoids Error.IsFault (addCoins start funds) := by
    induction funds generalizing start with
    | nil => exact avoids_ok start
    | cons coin rest ih =>
      unfold addCoins
      split
      · exact avoids_error_iff.2 id
      · exact ih _
  simp only [amountOf, throw_bind, avoids_bind_iff, avoids_ite_iff, avoids_error_iff,
    Error.IsFault, status, sum, avoids_pure, not_false_eq_true, implies_true, and_self]

/-- The fee of a payment is in range since the settings are sound. -/
theorem Payment.avoids_decide (request : Payment) {book : Book} (sound : book.Sound)
    (call : Call) : Avoids Failure.IsFault (request.decide book.records call) := by
  simp only [decide, avoids_bind_iff, avoids_lift_iff, book.avoids_configuration,
    book.avoids_payable, avoids_amountOf, avoids_pure, implies_true, and_true, true_and]
  intro config configured _ _ amount _
  rw [lift_eq_ok_iff, Book.configuration_records_eq_ok_iff] at configured
  obtain ⟨division, divided⟩ := (sound.configuration config configured).splitFee amount
  rw [divided]
  exact avoids_ok division

/-- The only stamp that is ever stored is that of the running program, and costs that validation
has passed are readable. -/
theorem Migration.avoids_decide {request : Migration} (valid : request.validate = .ok ())
    {book : Book} (sound : book.Sound) : Avoids Failure.IsFault (request.decide book.records) := by
  have checked (stamp : Stamp) (stamped : book.records.stamp = .ok stamp) :
      stamp.checkMigration = .ok () := by
    rw [Book.stamp_records_eq_ok_iff] at stamped
    rw [sound.stamp stamp stamped]
    rfl
  have paired (config : Configuration) : Avoids Error.IsFault (checkPaired config) := by
    unfold checkPaired
    split
    · exact avoids_error_iff.2 id
    · exact avoids_ok ()
  obtain ⟨change, overlay⟩ := exists_overlay valid
  simp only [decide, avoids_bind_iff, avoids_lift_iff, book.avoids_stamp,
    book.avoids_configuration, overlay, paired, avoids_ok, avoids_pure, implies_true, and_true,
    true_and]
  intro stamp stamped
  rw [lift_eq_ok_iff] at stamped
  rw [checked stamp stamped]
  exact avoids_ok ()

theorem Instantiation.avoids_carryOut {request : Instantiation}
    (valid : request.validate = .ok ()) (address : String) (call : Call) :
    Avoids Failure.IsFault (request.carryOut address call).answer := by
  obtain ⟨config, settings⟩ := exists_configuration valid
  unfold carryOut
  split
  · exact avoids_error_iff.2 id
  · simp only [settings]
    split
    · next cause unbound =>
      obtain ⟨_, rfl⟩ := bindName_eq_error_iff.1 unbound
      rw [avoids_error_iff]
      split <;> exact id
    · exact avoids_ok _

theorem Query.avoids_answer (request : Query) (book : Book) :
    Avoids Error.IsFault (request.answer book.records) := by
  cases request with
  | state =>
    simp only [answer, avoids_bind_iff, book.avoids_configuration, avoids_pure, implies_true,
      and_self]
  | payable uuid =>
    simp only [answer, avoids_bind_iff, book.avoids_payable, avoids_pure, implies_true, and_self]
  | payableOfScope scopeId =>
    have owned : Avoids Error.IsFault (payableOf book.records scopeId) := by
      rw [payableOf, avoids_bind_iff]
      refine ⟨avoids_ok _, ?_⟩
      rintro (_ | uuid) _
      · exact avoids_error_iff.2 id
      · exact book.avoids_payable uuid
    simp only [answer, avoids_bind_iff, owned, avoids_pure, implies_true, and_self]

theorem Outcome.avoids_atomic {decision : Except Failure (List Change × Response)}
    (avoids : Avoids Failure.IsFault decision) :
    Avoids Failure.IsFault (Outcome.atomic decision).answer := by
  cases decision with
  | error failure => exact avoids_error_iff.2 (avoids_error_iff.1 avoids)
  | ok result => exact avoids_ok _

namespace Effect

theorem avoids_ofOutcome {outcome : Outcome} (avoids : Avoids Failure.IsFault outcome.answer) :
    Avoids Failure.IsFault (ofOutcome outcome).answer :=
  avoids_map_iff.2 avoids

theorem avoids_ofAnswer {answer : Except Error String} (avoids : Avoids Error.IsFault answer) :
    Avoids Failure.IsFault (ofAnswer answer).answer :=
  avoids_mapError_iff.2 (avoids_map_iff.2 avoids)

theorem avoids_whenValid {validation : Except Error Unit} {effect : Effect}
    (validates : Avoids Error.IsFault validation)
    (valid : validation = .ok () → Avoids Failure.IsFault effect.answer) :
    Avoids Failure.IsFault (whenValid validation effect).answer := by
  cases validation with
  | error cause =>
    have mild : ¬ cause.IsFault := avoids_error_iff.1 validates
    exact avoids_error_iff.2 mild
  | ok => exact valid rfl

end Effect

theorem Book.Sound.avoids_effect {book : Book} (sound : book.Sound) (entry : Entry) :
    Avoids Failure.IsFault (entry.effect book.records).answer := by
  cases entry with
  | instantiate address call request =>
    apply Effect.avoids_whenValid request.avoids_validate
    intro valid
    exact Effect.avoids_ofOutcome (Instantiation.avoids_carryOut valid address call)
  | execute scopes call request =>
    apply Effect.avoids_whenValid request.avoids_validate
    intro _
    apply Effect.avoids_ofOutcome
    cases request with
    | register registration =>
      exact Outcome.avoids_atomic (registration.avoids_decide book scopes call)
    | approve approval => exact Outcome.avoids_atomic (approval.avoids_decide book call)
    | pay payment => exact Outcome.avoids_atomic (payment.avoids_decide sound call)
  | migrate request =>
    apply Effect.avoids_whenValid request.avoids_validate
    intro valid
    exact Effect.avoids_ofOutcome (Outcome.avoids_atomic (Migration.avoids_decide valid sound))
  | query request =>
    apply Effect.avoids_whenValid request.avoids_validate
    intro _
    exact Effect.avoids_ofAnswer (request.avoids_answer book)

/-- The hundredfold of a decimal, which an error about a percentage shows, is always an amount. -/
theorem Decimal.percentText_eq (percent : Decimal) :
    ∃ hundredfold, percent.times? ⟨100, by decide⟩ = some hundredfold ∧
      percent.percentText = hundredfold.toText := by
  have le : 100 * percent.atomics / unit ≤ percent.atomics := by
    apply Nat.div_le_of_le_mul
    exact Nat.mul_le_mul_right _ (by decide)
  have inRange := Nat.lt_of_le_of_lt le percent.atomics_lt
  exact ⟨⟨_, inRange⟩, Amount.ofNat?_eq_some_iff.2 rfl, rfl⟩

/-- Whatever calls have been made from empty storage on, successful or not: settings that are
stored are readable and sound and divide every payment, and the next call, whichever it is, gives
its answer or a refusal. It does not break off in the arithmetic of a fee or of a percentage, and
it is not refused for a record that cannot be read, for an amount or a version that is none, or for
a stamp of another or of a newer program. -/
theorem no_call_faults (entries : List Entry) :
    (∀ text, (Ledger.after entries).get? Key.configuration = some text →
      ∃ config, decode? Configuration text = some config ∧ config.Sound ∧
        ∀ amount, ∃ division, config.splitFee amount = .ok division) ∧
      (∀ entry failure, (Entry.perform (Ledger.after entries) entry).answer = .error failure →
        ¬ failure.IsFault) ∧
      ∀ percent : Decimal, ∃ hundredfold, percent.times? ⟨100, by decide⟩ = some hundredfold ∧
        percent.percentText = hundredfold.toText := by
  have holds := Ledger.holds_after entries
  have sound := Book.sound_after entries
  refine ⟨?_, ?_, Decimal.percentText_eq⟩
  · intro text stored
    rw [holds.configuration, Option.map_eq_some_iff] at stored
    obtain ⟨config, configured, rfl⟩ := stored
    have kept := sound.configuration config configured
    exact ⟨config, config.decode?_encode, kept, kept.splitFee⟩
  · intro entry failure failed
    rw [holds.answer] at failed
    exact sound.avoids_effect entry failure failed

theorem no_call_faults_partialRun :
    ∃ text config, (Ledger.after partialRun).get? Key.configuration = some text ∧
      decode? Configuration text = some config ∧ config.Sound := by
  obtain ⟨readable, _⟩ := no_call_faults partialRun
  have configured : ∃ config, (Book.after partialRun).configuration? = some config := ⟨_, rfl⟩
  obtain ⟨settings, configured⟩ := configured
  have stored : (Ledger.after partialRun).get? Key.configuration = some (encode settings) := by
    rw [(Ledger.holds_after partialRun).configuration, configured, Option.map_some]
  obtain ⟨config, decoded, sound, _⟩ := readable _ stored
  exact ⟨_, config, stored, decoded, sound⟩

end PayableLedger
