import PayableLedger.Chain
import PayableLedger.Store
import PayableLedger.Wire.Request

set_option autoImplicit false

namespace PayableLedger

/-- The readings of a ledger's records. A record may be absent, and one that is there may be
unreadable. -/
structure Records where
  configuration? : Except Error (Option Configuration)
  stamp? : Except Error (Option Stamp)
  payable? : String → Except Error (Option Payable)
  /-- The payable that a scope has, by its uuid. -/
  indexed? : String → Except Error (Option String)

/-- One record that a call writes. A payable is kept under its own uuid. -/
inductive Change
  | configuration (config : Configuration)
  | stamp (stamp : Stamp)
  | payable (payable : Payable)
  | indexed (scopeId uuid : String)
deriving DecidableEq

namespace Records

def configuration (records : Records) : Except Error Configuration := do
  match ← records.configuration? with
  | some config => return config
  | none => throw .configurationMissing

def stamp (records : Records) : Except Error Stamp := do
  match ← records.stamp? with
  | some stamp => return stamp
  | none => throw .stampMissing

def payable (records : Records) (uuid : String) : Except Error Payable := do
  match ← records.payable? uuid with
  | some payable => return payable
  | none => throw (.payableNotFound uuid)

end Records

/-- The changes that a call makes and what it answers. Changes are kept even if the answer is a
failure. -/
structure Outcome where
  changes : List Change
  answer : Except Failure Response

instance : MonadLift (Except Error) (Except Failure) where
  monadLift result := result.mapError .refused

/-- The outcome of a call that makes all its changes if it succeeds, and none if it fails. -/
def Outcome.atomic (decision : Except Failure (List Change × Response)) : Outcome :=
  match decision with
  | .ok (changes, response) => ⟨changes, .ok response⟩
  | .error failure => ⟨[], .error failure⟩

namespace Store

open Json (Coded)

def load? (store : Store) (key : Key) (α : Type) [Coded α] : Except Error (Option α) :=
  match store.get? key with
  | none => .ok none
  | some text =>
    match Json.decode? α text with
    | none => .error .unreadable
    | some record => .ok (some record)

def save {α : Type} [Coded α] (store : Store) (key : Key) (record : α) : Store :=
  store.set key (Json.encode record)

def records (store : Store) : Records where
  configuration? := store.load? Key.configuration Configuration
  stamp? := store.load? Key.stamp Stamp
  payable? uuid := store.load? (Key.payable uuid) Payable
  indexed? scopeId := store.load? (Key.scopeIndex scopeId) String

def apply (store : Store) : Change → Store
  | .configuration config => store.save Key.configuration config
  | .stamp stamp => store.save Key.stamp stamp
  | .payable payable => store.save (Key.payable payable.uuid) payable
  | .indexed scopeId uuid => store.save (Key.scopeIndex scopeId) uuid

def applyAll (store : Store) (changes : List Change) : Store := changes.foldl apply store

end Store

structure Result where
  answer : Except Failure Response
  store : Store

/-- Steps on the storage that end with a value or with a failure. What was written before a failure
stays written. -/
abbrev Procedure := ExceptT Failure (StateM Store)

namespace Procedure

def records : Procedure Records := Store.records <$> get

def write (change : Change) : Procedure Unit := modify fun store => store.apply change

/-- Writes the stamp of the running program, and reads what is stored then. -/
def stampRunning : Procedure Stamp := do
  write (.stamp .running)
  (← records).stamp

def perform (procedure : Procedure Response) (store : Store) : Result :=
  let (answer, left) := procedure.run.run store
  ⟨answer, left⟩

variable {α : Type} {store : Store}

theorem perform_pure (response : Response) :
    (pure response : Procedure Response).perform store = ⟨.ok response, store⟩ := rfl

theorem perform_records (next : Records → Procedure Response) :
    (records >>= next).perform store = (next store.records).perform store := rfl

theorem perform_write (change : Change) (next : Unit → Procedure Response) :
    (write change >>= next).perform store = (next ()).perform (store.apply change) := rfl

theorem perform_decision (decision : Except Failure α) (next : α → Procedure Response) :
    ((liftM decision : Procedure α) >>= next).perform store =
      match decision with
      | .ok a => (next a).perform store
      | .error failure => ⟨.error failure, store⟩ := by
  cases decision <;> rfl

theorem perform_check (check : Except Error α) (next : α → Procedure Response) :
    ((liftM check : Procedure α) >>= next).perform store =
      match check with
      | .ok a => (next a).perform store
      | .error cause => ⟨.error (.refused cause), store⟩ := by
  cases check <;> rfl

end Procedure

end PayableLedger
