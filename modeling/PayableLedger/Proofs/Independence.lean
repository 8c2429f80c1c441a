import PayableLedger.Proofs.Balance
import PayableLedger.Proofs.Execution

set_option autoImplicit false

namespace PayableLedger

def Change.key : Change → Key
  | .configuration _ => Key.configuration
  | .stamp _ => Key.stamp
  | .payable written => Key.payable written.uuid
  | .indexed scopeId _ => Key.scopeIndex scopeId

def Change.text : Change → String
  | .configuration settings => Json.encode settings
  | .stamp left => Json.encode left
  | .payable written => Json.encode written
  | .indexed _ uuid => Json.encode uuid

namespace Store

variable {store : Store} {changes : List Change}

theorem apply_eq_set (store : Store) (change : Change) :
    store.apply change = store.set change.key change.text := by
  cases change <;> rfl

theorem get?_applyAll_of_ne {key : Key} (apart : ∀ change ∈ changes, change.key ≠ key) :
    (store.applyAll changes).get? key = store.get? key := by
  induction changes generalizing store with
  | nil => rfl
  | cons change rest ih =>
    rw [List.forall_mem_cons] at apart
    refine (ih apart.2).trans ?_
    rw [apply_eq_set]
    exact get?_set_of_ne store _ apart.1

theorem apply_applyAll_comm {change : Change} (apart : ∀ other ∈ changes, change.key ≠ other.key) :
    (store.apply change).applyAll changes = (store.applyAll changes).apply change := by
  induction changes generalizing store with
  | nil => rfl
  | cons other rest ih =>
    rw [List.forall_mem_cons] at apart
    have swapped : (store.apply change).apply other = (store.apply other).apply change := by
      simp only [apply_eq_set]
      exact set_comm store _ _ apart.1
    change ((store.apply change).apply other).applyAll rest = _
    rw [swapped]
    exact ih apart.2

theorem applyAll_comm {others : List Change}
    (apart : ∀ change ∈ changes, ∀ other ∈ others, change.key ≠ other.key) :
    (store.applyAll changes).applyAll others = (store.applyAll others).applyAll changes := by
  induction changes generalizing store with
  | nil => rfl
  | cons change rest ih =>
    rw [List.forall_mem_cons] at apart
    calc ((store.apply change).applyAll rest).applyAll others
      _ = ((store.apply change).applyAll others).applyAll rest := ih apart.2
      _ = ((store.applyAll others).apply change).applyAll rest := by
        rw [apply_applyAll_comm apart.1]

end Store

namespace Execution

def Owns (request : Execution) (key : Key) : Prop :=
  key = Key.payable request.uuid ∨
    ∃ scopeId, request.scopeId? = some scopeId ∧ key = Key.scopeIndex scopeId

/-- The requests are about different payables and, if both name a scope, about different scopes. -/
def Apart (first second : Execution) : Prop :=
  first.uuid ≠ second.uuid ∧
    ∀ scopeId, first.scopeId? = some scopeId → second.scopeId? ≠ some scopeId

theorem Apart.symm {first second : Execution} (apart : first.Apart second) :
    second.Apart first :=
  ⟨apart.1.symm, fun scopeId named other => apart.2 scopeId other named⟩

theorem Apart.ne {first second : Execution} (apart : first.Apart second) {key other : Key}
    (owned : first.Owns key) (otherOwned : second.Owns other) : key ≠ other := by
  obtain ⟨uuids, scopes⟩ := apart
  rcases owned with rfl | ⟨scopeId, named, rfl⟩
  · rcases otherOwned with rfl | ⟨otherId, _, rfl⟩
    · exact fun same => uuids (Key.payable_injective same)
    · exact Key.payable_ne_scopeIndex _ _
  · rcases otherOwned with rfl | ⟨otherId, otherNamed, rfl⟩
    · exact (Key.payable_ne_scopeIndex _ _).symm
    · intro same
      cases Key.scopeIndex_injective same
      exact scopes scopeId named otherNamed

theorem configuration_ne_of_owns {request : Execution} {key : Key} (owned : request.Owns key) :
    key ≠ Key.configuration := by
  rcases owned with rfl | ⟨scopeId, _, rfl⟩
  · exact Key.payable_ne_configuration _
  · exact Key.scopeIndex_ne_configuration _

variable {request : Execution} {store : Store} {scopes : ScopeTable} {call : Call}

/-- An execution reads the settings and what lies under its own keys. -/
theorem verdict_congr {other : Store}
    (configuration : store.get? Key.configuration = other.get? Key.configuration)
    (own : ∀ key, request.Owns key → store.get? key = other.get? key) :
    request.verdict store.records scopes call = request.verdict other.records scopes call := by
  have settings : store.records.configuration = other.records.configuration := by
    simp only [Records.configuration, Store.records, Store.load?_congr configuration]
  have payable? (uuid : String) (named : request.uuid = uuid) :
      store.records.payable? uuid = other.records.payable? uuid :=
    Store.load?_congr (own _ (.inl (congrArg Key.payable named.symm)))
  have payable (uuid : String) (named : request.uuid = uuid) :
      store.records.payable uuid = other.records.payable uuid := by
    simp only [Records.payable, payable? uuid named]
  have indexed (scopeId : String) (named : request.scopeId? = some scopeId) :
      store.records.indexed? scopeId = other.records.indexed? scopeId :=
    Store.load?_congr (own _ (.inr ⟨scopeId, named, rfl⟩))
  rw [verdict, verdict]
  cases request with
  | register registration =>
    simp only [decide, Registration.decide, Registration.accept, settings,
      payable? registration.uuid rfl, indexed registration.scopeId rfl]
  | approve approval => simp only [decide, Approval.decide, payable approval.uuid rfl]
  | pay payment => simp only [decide, Payment.decide, settings, payable payment.uuid rfl]

/-- An execution writes under its own keys. A payable that was found is written back under the
uuid in its record, which is the uuid of the request where payables are keyed. -/
theorem owns_of_mem_changes (keyed : store.Keyed) :
    ∀ change ∈ request.changes store.records scopes call, request.Owns change.key := by
  cases decided : request.verdict store.records scopes call with
  | error failure => simp [changes_of_error decided]
  | ok result =>
    obtain ⟨written, response⟩ := result
    rw [changes_of_ok decided]
    rw [verdict, bind_eq_ok_iff] at decided
    obtain ⟨_, _, decided⟩ := decided
    cases request with
    | register registration =>
      obtain ⟨fee, _, rfl, _⟩ := Registration.decide_eq_ok_iff.1 decided
      simp only [List.forall_mem_cons, List.not_mem_nil, false_implies, implies_true, and_true]
      exact ⟨.inl rfl, .inr ⟨_, rfl, rfl⟩⟩
    | approve approval =>
      obtain ⟨_, payable, found, _, approves, rfl, _⟩ := Approval.decide_eq_ok_iff.1 decided
      obtain ⟨_, _, rfl⟩ := Approval.approve_eq_ok_iff.1 approves
      have own : payable.uuid = approval.uuid := keyed _ _ found
      rw [List.forall_mem_singleton]
      exact .inl (congrArg Key.payable own)
    | pay payment =>
      obtain ⟨_, _, payable, found, _, _, _, _, rfl, _⟩ := Payment.decide_eq_ok_iff.1 decided
      have own : payable.uuid = payment.uuid := keyed _ _ found
      rw [List.forall_mem_singleton]
      exact .inl (congrArg Key.payable own)

end Execution

namespace Ledger

variable {store : Store} {first second : Execution} {firstScopes secondScopes : ScopeTable}
  {firstCall secondCall : Call}

theorem get?_execute (keyed : store.Keyed) (scopes : ScopeTable) (call : Call)
    {request : Execution} {key : Key} (foreign : ¬ request.Owns key) :
    (execute store scopes call request).store.get? key = store.get? key := by
  rw [store_execute]
  apply Store.get?_applyAll_of_ne
  rintro change written rfl
  exact foreign (Execution.owns_of_mem_changes keyed change written)

theorem verdict_execute (keyed : store.Keyed) (apart : first.Apart second) :
    second.verdict (execute store firstScopes firstCall first).store.records secondScopes
        secondCall =
      second.verdict store.records secondScopes secondCall := by
  apply Execution.verdict_congr
  · apply get?_execute keyed
    exact fun owned => Execution.configuration_ne_of_owns owned rfl
  · intro key named
    apply get?_execute keyed
    exact fun owned => apart.ne owned named rfl

theorem answer_execute_execute (keyed : store.Keyed) (apart : first.Apart second) :
    (execute (execute store firstScopes firstCall first).store secondScopes secondCall
        second).answer =
      (execute store secondScopes secondCall second).answer := by
  rw [answer_execute, answer_execute, verdict_execute keyed apart]

theorem store_execute_execute (keyed : store.Keyed) (apart : first.Apart second) :
    (execute (execute store firstScopes firstCall first).store secondScopes secondCall
        second).store =
      (store.applyAll (first.changes store.records firstScopes firstCall)).applyAll
        (second.changes store.records secondScopes secondCall) := by
  rw [store_execute, Execution.changes, verdict_execute keyed apart, store_execute]
  rfl

end Ledger

/-- In every state of every run, two executions of different payables, and of different scopes
where both are registrations, can change places: each gives the answer that it gives on its own,
whether it succeeds or fails, and the storage in the end is the same. -/
theorem independent_executions_commute (entries : List Entry)
    (firstScopes secondScopes : ScopeTable) (firstCall secondCall : Call)
    {first second : Execution} (apart : first.Apart second) :
    let start := Ledger.after entries
    let one := Ledger.execute start firstScopes firstCall first
    let other := Ledger.execute start secondScopes secondCall second
    (Ledger.execute one.store secondScopes secondCall second).answer = other.answer ∧
      (Ledger.execute other.store firstScopes firstCall first).answer = one.answer ∧
      (Ledger.execute one.store secondScopes secondCall second).store =
        (Ledger.execute other.store firstScopes firstCall first).store := by
  intro start one other
  have keyed : start.Keyed := Ledger.keyed_after entries
  refine ⟨?_, ?_, ?_⟩
  · exact Ledger.answer_execute_execute keyed apart
  · exact Ledger.answer_execute_execute keyed apart.symm
  · rw [Ledger.store_execute_execute keyed apart, Ledger.store_execute_execute keyed apart.symm]
    apply Store.applyAll_comm
    intro change written otherChange otherWritten
    exact apart.ne (Execution.owns_of_mem_changes keyed change written)
      (Execution.owns_of_mem_changes keyed otherChange otherWritten)

def otherRegistration : Registration := { partialRegistration with uuid := "q", scopeId := "t" }

/-- One payable is approved while another is registered. -/
theorem independent_executions_commute_partialRun :
    (Execution.approve ⟨"p"⟩).Apart (.register otherRegistration) ∧
      let start := Ledger.after (partialRun.take 2)
      let approved := Ledger.execute start [] ⟨"oracle", []⟩ (.approve ⟨"p"⟩)
      let registered := Ledger.execute start [] ⟨"payee", []⟩ (.register otherRegistration)
      (Ledger.execute approved.store [] ⟨"payee", []⟩ (.register otherRegistration)).answer =
          .ok (otherRegistration.response none) ∧
        (Ledger.execute registered.store [] ⟨"oracle", []⟩ (.approve ⟨"p"⟩)).answer =
          .ok ⟨[], Approval.attributes { partlyPaid with status := .approved }⟩ ∧
        (Ledger.execute approved.store [] ⟨"payee", []⟩ (.register otherRegistration)).store =
          (Ledger.execute registered.store [] ⟨"oracle", []⟩ (.approve ⟨"p"⟩)).store := by
  have apart : (Execution.approve ⟨"p"⟩).Apart (.register otherRegistration) :=
    ⟨by decide, by rintro _ ⟨⟩⟩
  obtain ⟨registers, approves, same⟩ :=
    independent_executions_commute (partialRun.take 2) [] [] ⟨"oracle", []⟩ ⟨"payee", []⟩ apart
  refine ⟨apart, registers.trans ?_, approves.trans ?_, same⟩
  · rw [Ledger.answer_execute, (Ledger.holds_after _).records]
    rfl
  · rw [Ledger.answer_execute, (Ledger.holds_after _).records]
    rfl

end PayableLedger
