import PayableLedger.Proofs.Deed
import PayableLedger.Proofs.Settings

set_option autoImplicit false

namespace PayableLedger

namespace Execution

def uuid : Execution → String
  | .register registration => registration.uuid
  | .approve approval => approval.uuid
  | .pay payment => payment.uuid

/-- The scope that an execution is about. Only a registration names one. -/
def scopeId? : Execution → Option String
  | .register registration => some registration.scopeId
  | .approve _ => none
  | .pay _ => none

def decide (records : Records) (scopes : ScopeTable) (call : Call) :
    Execution → Except Failure (List Change × Response)
  | .register registration => registration.decide records scopes call
  | .approve approval => approval.decide records call
  | .pay payment => payment.decide records call

/-- What an execution comes to, from its validation on. -/
def verdict (records : Records) (scopes : ScopeTable) (call : Call) (request : Execution) :
    Except Failure (List Change × Response) := do
  request.validate
  request.decide records scopes call

/-- What an execution writes, which is nothing if it fails. -/
def changes (records : Records) (scopes : ScopeTable) (call : Call) (request : Execution) :
    List Change :=
  (Outcome.atomic (request.verdict records scopes call)).changes

variable {records : Records} {scopes : ScopeTable} {call : Call} {request : Execution}

theorem changes_of_ok {changes : List Change} {response : Response}
    (decided : request.verdict records scopes call = .ok (changes, response)) :
    request.changes records scopes call = changes := by
  rw [Execution.changes, decided]
  rfl

theorem changes_of_error {failure : Failure}
    (decided : request.verdict records scopes call = .error failure) :
    request.changes records scopes call = [] := by
  rw [Execution.changes, decided]
  rfl

theorem verdict_of_valid (valid : request.validate = .ok ()) :
    request.verdict records scopes call = request.decide records scopes call := by
  rw [verdict, valid]
  rfl

theorem verdict_of_invalid {cause : Error} (invalid : request.validate = .error cause) :
    request.verdict records scopes call = .error (.refused cause) := by
  rw [verdict, invalid]
  rfl

theorem outcome_eq (records : Records) (scopes : ScopeTable) (call : Call) (request : Execution) :
    request.outcome records scopes call = .atomic (request.decide records scopes call) := by
  cases request <;> rfl

theorem verdict_approve {approval : Approval} (named : approval.uuid ≠ "") (scopes : ScopeTable) :
    (approve approval).verdict records scopes call = approval.decide records call := by
  apply verdict_of_valid
  simpa [validate, checkFields_eq_ok_iff] using named

theorem validate_pay {payment : Payment} (named : payment.uuid ≠ "") :
    (pay payment).validate = .ok () := by
  simpa [validate, checkFields_eq_ok_iff] using named

theorem verdict_pay {payment : Payment} (named : payment.uuid ≠ "") (scopes : ScopeTable) :
    (pay payment).verdict records scopes call = payment.decide records call :=
  verdict_of_valid (validate_pay named)

end Execution

namespace Ledger

variable {store : Store} {scopes : ScopeTable} {call : Call} {request : Execution}

/-- An execution sees nothing of the storage but its records, and writes at its end. -/
theorem execute_eq (store : Store) (scopes : ScopeTable) (call : Call) (request : Execution) :
    execute store scopes call request =
      store.conclude (.atomic (request.verdict store.records scopes call)) := by
  rw [execute]
  cases validated : request.validate with
  | error cause =>
    rw [Execution.verdict_of_invalid validated]
    rfl
  | ok =>
    rw [Store.whenValid, Entry.carryOutExecution_eq, Execution.outcome_eq,
      Execution.verdict_of_valid validated]

theorem answer_execute (store : Store) (scopes : ScopeTable) (call : Call) (request : Execution) :
    (execute store scopes call request).answer =
      (request.verdict store.records scopes call).map Prod.snd := by
  rw [execute_eq]
  cases request.verdict store.records scopes call <;> rfl

theorem store_execute (store : Store) (scopes : ScopeTable) (call : Call) (request : Execution) :
    (execute store scopes call request).store =
      store.applyAll (request.changes store.records scopes call) := by
  rw [execute_eq]
  rfl

theorem execute_of_ok {changes : List Change} {response : Response}
    (decided : request.verdict store.records scopes call = .ok (changes, response)) :
    execute store scopes call request = ⟨.ok response, store.applyAll changes⟩ := by
  rw [execute_eq, decided]
  rfl

theorem execute_of_error {failure : Failure}
    (decided : request.verdict store.records scopes call = .error failure) :
    execute store scopes call request = ⟨.error failure, store⟩ := by
  rw [execute_eq, decided]
  rfl

end Ledger

namespace Store

theorem load?_congr {store other : Store} {key : Key} {α : Type} [Json.Coded α]
    (same : store.get? key = other.get? key) : store.load? key α = other.load? key α := by
  rw [load?, load?, same]

/-- What is read of the payables after one of them was written, whatever the storage held. -/
theorem payable?_apply_payable (store : Store) (payable : Payable) (uuid : String) :
    (store.apply (.payable payable)).records.payable? uuid =
      if payable.uuid = uuid then .ok (some payable) else store.records.payable? uuid := by
  by_cases own : payable.uuid = uuid
  · rw [if_pos own, ← own]
    simp only [records, load?, apply, save, get?_set_self, Payable.decode?_encode]
  · rw [if_neg own]
    apply load?_congr
    exact get?_set_of_ne store _ fun same => own (Key.payable_injective same)

theorem payable_apply_payable {store : Store} {payable : Payable} :
    (store.apply (.payable payable)).records.payable payable.uuid = .ok payable := by
  rw [Records.payable, payable?_apply_payable, if_pos rfl]
  rfl

theorem configuration_apply_payable (store : Store) (payable : Payable) :
    (store.apply (.payable payable)).records.configuration = store.records.configuration := by
  have same : (store.apply (.payable payable)).records.configuration? =
      store.records.configuration? := by
    apply load?_congr
    exact get?_set_of_ne store _ (Key.payable_ne_configuration payable.uuid)
  rw [Records.configuration, Records.configuration, same]

theorem apply_payable_apply_payable {store : Store} {first second : Payable}
    (same : second.uuid = first.uuid) :
    (store.apply (.payable first)).apply (.payable second) = store.apply (.payable second) := by
  simp only [apply, save, same]
  exact set_set store _ _ _

def Keyed (store : Store) : Prop :=
  ∀ uuid payable, store.records.payable uuid = .ok payable → payable.uuid = uuid

end Store

theorem Book.Keyed.found_own {book : Book} (keyed : book.Keyed) {uuid : String}
    {payable : Payable} (found : book.records.payable uuid = .ok payable) :
    book.payable? payable.uuid = some payable := by
  rw [payable_records_eq_ok_iff] at found
  rw [keyed uuid payable found, found]

theorem Ledger.keyed_after (entries : List Entry) : (after entries).Keyed := by
  intro uuid payable found
  exact Book.keyed_after entries uuid payable (payable_eq_ok_iff.1 found)

theorem Ledger.configuration_eq_ok_iff {entries : List Entry} {config : Configuration} :
    (after entries).records.configuration = .ok config ↔
      (Book.after entries).configuration? = some config := by
  rw [(holds_after entries).records, Book.configuration_records_eq_ok_iff]

theorem Ledger.sound_of_configured {entries : List Entry} {config : Configuration}
    (configured : (after entries).records.configuration = .ok config) : config.Sound :=
  (Book.sound_after entries).configuration config (configuration_eq_ok_iff.1 configured)

/-- Refusals are passed on in the order in which they come up. -/
instance : LawfulMonadLift (Except Error) (Except Failure) where
  monadLift_pure _ := rfl
  monadLift_bind first _ := by cases first <;> rfl

namespace Payment

/-- What a payment pays on and how much it pays. The settings have no say in this. -/
def assess (request : Payment) (records : Records) (call : Call) :
    Except Error (Payable × Amount) := do
  let payable ← records.payable request.uuid
  return (payable, ← amountOf payable call.funds)

/-- What a payment changes and answers once it is divided. -/
def settle (payable : Payable) (amount : Amount) (division : FeeSplit) (payer : String) :
    List Change × Response :=
  ([.payable (afterPayment payable amount)],
    ⟨messages (afterPayment payable amount) division,
      attributes (afterPayment payable amount) amount division payer⟩)

variable {request : Payment} {records : Records} {call : Call} {config : Configuration}

theorem assess_eq_ok_iff {payable : Payable} {amount : Amount} :
    request.assess records call = .ok (payable, amount) ↔
      records.payable request.uuid = .ok payable ∧ amountOf payable call.funds = .ok amount := by
  simp only [assess, bind_eq_ok_iff, pure_eq_ok_iff, Prod.mk.injEq]
  constructor
  · rintro ⟨_, found, _, counted, rfl, rfl⟩
    exact ⟨found, counted⟩
  · rintro ⟨found, counted⟩
    exact ⟨payable, found, amount, counted, rfl, rfl⟩

theorem decide_eq (configured : records.configuration = .ok config) :
    request.decide records call = (do
      let (payable, amount) ← request.assess records call
      let division ← config.splitFee amount
      return settle payable amount division call.sender) := by
  have read : records.configuration = pure config := configured
  simp only [decide, assess, read, settle, liftM_bind, liftM_pure, bind_assoc, pure_bind]

theorem decide_of_refused {cause : Error} (configured : records.configuration = .ok config)
    (assessed : request.assess records call = .error cause) :
    request.decide records call = .error (.refused cause) := by
  rw [decide_eq configured, assessed]
  rfl

theorem decide_of_assessed {payable : Payable} {amount : Amount} {division : FeeSplit}
    (configured : records.configuration = .ok config)
    (assessed : request.assess records call = .ok (payable, amount))
    (divided : config.splitFee amount = .ok division) :
    request.decide records call = .ok (settle payable amount division call.sender) := by
  obtain ⟨found, counted⟩ := assess_eq_ok_iff.1 assessed
  exact decide_eq_ok_iff.2
    ⟨config, configured, payable, found, amount, counted, division, divided, rfl, rfl⟩

end Payment

namespace Store

/-- What payments on a payable are decided on: it is found under its name, and the settings are
sound, so that whatever is paid can be divided. -/
structure Due (store : Store) (payable : Payable) : Prop where
  named : payable.uuid ≠ ""
  found : store.records.payable payable.uuid = .ok payable
  sound : ∃ config, store.records.configuration = .ok config ∧ config.Sound

variable {store : Store} {payable : Payable}

theorem Due.apply_payable (due : store.Due payable) {later : Payable}
    (same : later.uuid = payable.uuid) : (store.apply (.payable later)).Due later where
  named := same ▸ due.named
  found := payable_apply_payable
  sound := by
    rw [configuration_apply_payable]
    exact due.sound

/-- A payment that counts succeeds, whatever the settings make of it. -/
theorem Due.pay (due : store.Due payable) (scopes : ScopeTable) (call : Call) {amount : Amount}
    (counted : Payment.amountOf payable call.funds = .ok amount) :
    ∃ response, Ledger.execute store scopes call (.pay ⟨payable.uuid⟩) =
      ⟨.ok response, store.apply (.payable (Payment.afterPayment payable amount))⟩ := by
  obtain ⟨config, configured, sound⟩ := due.sound
  obtain ⟨division, divided⟩ := sound.splitFee amount
  have assessed : (⟨payable.uuid⟩ : Payment).assess store.records call = .ok (payable, amount) :=
    Payment.assess_eq_ok_iff.2 ⟨due.found, counted⟩
  have decided := Payment.decide_of_assessed configured assessed divided
  exact ⟨_, Ledger.execute_of_ok ((Execution.verdict_pay due.named scopes).trans decided)⟩

/-- A payment that does not count is refused for the reason why it does not. -/
theorem Due.refuse (due : store.Due payable) (scopes : ScopeTable) (call : Call) {cause : Error}
    (uncounted : Payment.amountOf payable call.funds = .error cause) :
    Ledger.execute store scopes call (.pay ⟨payable.uuid⟩) = ⟨.error (.refused cause), store⟩ := by
  obtain ⟨config, configured, _⟩ := due.sound
  have assessed : (⟨payable.uuid⟩ : Payment).assess store.records call = .error cause := by
    have read : store.records.payable payable.uuid = pure payable := due.found
    rw [Payment.assess, read, pure_bind, uncounted]
    rfl
  have decided := Payment.decide_of_refused configured assessed
  exact Ledger.execute_of_error ((Execution.verdict_pay due.named scopes).trans decided)

end Store

theorem Registration.attributes_eq (request : Registration) :
    request.attributes = [
      ⟨"payable_registered", request.uuid⟩,
      ⟨"payable_type", request.kind⟩,
      ⟨"payable_uuid", request.uuid⟩,
      ⟨"payable_oracle_address", request.oracle⟩,
      ⟨"payable_total_owed", request.total.toText⟩,
      ⟨"payable_denom", request.denom⟩,
      ⟨"payable_related_scope_id", request.scopeId⟩,
      ⟨"payable_status", PayableStatus.pending.name⟩] := rfl

theorem Approval.attributes_eq (payable : Payable) :
    attributes payable = [
      ⟨"payable_oracle_approved", payable.uuid⟩,
      ⟨"payable_type", payable.kind⟩,
      ⟨"payable_uuid", payable.uuid⟩,
      ⟨"payable_oracle_address", payable.oracle⟩,
      ⟨"payable_status", payable.status.name⟩] := rfl

theorem Payment.attributes_eq (payable : Payable) (amount : Amount) (division : FeeSplit)
    (payer : String) :
    attributes payable amount division payer = [
      ⟨"payable_payment_made", payable.uuid⟩,
      ⟨"payable_type", payable.kind⟩,
      ⟨"payable_uuid", payable.uuid⟩,
      ⟨"payable_oracle_address", payable.oracle⟩,
      ⟨"payable_amount_paid", amount.toText⟩,
      ⟨"payable_fee_amount", division.fee.toText⟩,
      ⟨"payable_net_amount", division.net.toText⟩,
      ⟨"payable_total_remaining", payable.remaining.toText⟩,
      ⟨"payable_status", payable.status.name⟩,
      ⟨"payable_payer", payer⟩,
      ⟨"payable_payee", payable.payee⟩] := rfl

end PayableLedger
