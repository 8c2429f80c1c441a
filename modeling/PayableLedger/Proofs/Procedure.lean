import PayableLedger.Ledger
import PayableLedger.Proofs.Wire.RoundTrip

set_option autoImplicit false

namespace PayableLedger

namespace Store

/-- The answer of an outcome, and the storage that its changes leave. -/
def conclude (store : Store) (outcome : Outcome) : Result :=
  ⟨outcome.answer, store.applyAll outcome.changes⟩

variable {α : Type} {store : Store}

theorem conclude_pure (changes : List Change) (response : Response) :
    store.conclude (.atomic (pure (changes, response))) =
      ⟨.ok response, store.applyAll changes⟩ := rfl

theorem conclude_decision (decision : Except Failure α)
    (next : α → Except Failure (List Change × Response)) :
    store.conclude (.atomic (decision >>= next)) =
      match decision with
      | .ok a => store.conclude (.atomic (next a))
      | .error failure => ⟨.error failure, store⟩ := by
  cases decision <;> rfl

theorem conclude_check (check : Except Error α)
    (next : α → Except Failure (List Change × Response)) :
    store.conclude (.atomic ((liftM check : Except Failure α) >>= next)) =
      match check with
      | .ok a => store.conclude (.atomic (next a))
      | .error cause => ⟨.error (.refused cause), store⟩ := by
  cases check <;> rfl

theorem stamp_apply_stamp (store : Store) (stamp : Stamp) :
    (store.apply (.stamp stamp)).records.stamp = .ok stamp := by
  have stored : (store.apply (.stamp stamp)).records.stamp? = .ok (some stamp) := by
    simp only [apply, save, records, load?, get?_set_self, Stamp.decode?_encode]
  rw [Records.stamp, stored]
  rfl

end Store

open Procedure Store

/-- The stamp that is read back is the one just written, whatever was there before. -/
theorem Procedure.perform_stampRunning (store : Store) (next : Stamp → Procedure Response) :
    (stampRunning >>= next).perform store =
      (next .running).perform (store.apply (.stamp .running)) := by
  have readBack := store.stamp_apply_stamp .running
  simp only [stampRunning, bind_assoc, perform_write, perform_records, perform_check, readBack]

theorem Registration.perform_procedure (request : Registration) (scopes : ScopeTable) (call : Call)
    (store : Store) :
    (request.procedure scopes call).perform store =
      store.conclude (request.carryOut store.records scopes call) := by
  simp only [procedure, carryOut, decide, perform_records, perform_check, perform_write,
    perform_pure, conclude_check, conclude_pure]
  rfl

theorem Approval.perform_procedure (request : Approval) (call : Call) (store : Store) :
    (request.procedure call).perform store =
      store.conclude (request.carryOut store.records call) := by
  simp only [procedure, carryOut, decide]
  split
  · rfl
  · simp only [perform_records, perform_check, perform_write, perform_pure, conclude_check,
      conclude_pure]
    rfl

theorem Payment.perform_procedure (request : Payment) (call : Call) (store : Store) :
    (request.procedure call).perform store =
      store.conclude (request.carryOut store.records call) := by
  simp only [procedure, carryOut, decide, perform_records, perform_check, perform_decision,
    perform_write, perform_pure, conclude_check]
  -- The division of the fee is no check: it can abort.
  simp only [conclude_decision, conclude_pure]
  rfl

theorem Instantiation.perform_procedure (request : Instantiation) (address : String) (call : Call)
    (store : Store) :
    (request.procedure address call).perform store =
      store.conclude (request.carryOut address call) := by
  simp only [procedure, carryOut]
  split
  · rfl
  · simp only [perform_check, perform_write, perform_pure, perform_stampRunning]
    cases request.configuration with
    | error cause => rfl
    | ok config => cases bindName request.name address <;> rfl

theorem Migration.perform_procedure (request : Migration) (store : Store) :
    request.procedure.perform store = store.conclude (request.carryOut store.records) := by
  simp only [procedure, carryOut, decide, perform_records, perform_check, perform_write,
    perform_pure, perform_stampRunning, conclude_check, conclude_pure]
  rfl

end PayableLedger
