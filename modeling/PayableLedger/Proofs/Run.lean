import Mathlib.Data.List.Induction
import PayableLedger.Proofs.Book
import PayableLedger.Proofs.Procedure

set_option autoImplicit false

namespace PayableLedger

/-- One call of an entry point, with all that comes along. The scopes are those that the call
finds; they may be others at every call. -/
inductive Entry
  | instantiate (address : String) (call : Call) (request : Instantiation)
  | execute (scopes : ScopeTable) (call : Call) (request : Execution)
  | migrate (request : Migration)
  | query (request : Query)

inductive Reply
  | response (response : Response)
  | text (json : String)
deriving DecidableEq

structure Turn where
  answer : Except Failure Reply
  store : Store

namespace Entry

def perform (store : Store) : Entry → Turn
  | .instantiate address call request =>
    let result := Ledger.instantiate store address call request
    ⟨result.answer.map .response, result.store⟩
  | .execute scopes call request =>
    let result := Ledger.execute store scopes call request
    ⟨result.answer.map .response, result.store⟩
  | .migrate request =>
    let result := Ledger.migrate store request
    ⟨result.answer.map .response, result.store⟩
  | .query request => ⟨((Ledger.query store request).map .text).mapError .refused, store⟩

end Entry

/-- A call as it took place: the storage that it found, and what was asked. -/
structure Event where
  before : Store
  entry : Entry

namespace Event

def answer (event : Event) : Except Failure Reply := (event.entry.perform event.before).answer

def after (event : Event) : Store := (event.entry.perform event.before).store

end Event

namespace Store

def afterAll (store : Store) (entries : List Entry) : Store :=
  entries.foldl (fun store entry => (entry.perform store).store) store

def events (store : Store) : List Entry → List Event
  | [] => []
  | entry :: rest => ⟨store, entry⟩ :: (entry.perform store).store.events rest

theorem afterAll_append (store : Store) (past future : List Entry) :
    store.afterAll (past ++ future) = (store.afterAll past).afterAll future :=
  List.foldl_append

theorem events_append (store : Store) (past future : List Entry) :
    store.events (past ++ future) = store.events past ++ (store.afterAll past).events future := by
  induction past generalizing store with
  | nil => rfl
  | cons entry past ih => exact congrArg (_ :: ·) (ih (entry.perform store).store)

/-- Before every event there is a part of the calls, and it leaves what the event finds. -/
theorem events_split {store : Store} {entries : List Entry} {earlier later : List Event}
    {event : Event} (split : store.events entries = earlier ++ event :: later) :
    ∃ past future, entries = past ++ event.entry :: future ∧ store.events past = earlier ∧
      store.afterAll past = event.before := by
  induction earlier generalizing store entries with
  | nil =>
    cases entries with
    | nil => cases split
    | cons entry rest =>
      obtain ⟨same, _⟩ := List.cons.inj split
      exact ⟨[], rest, by rw [← same]; rfl, rfl, by rw [← same]; rfl⟩
  | cons first earlier ih =>
    cases entries with
    | nil => cases split
    | cons entry rest =>
      obtain ⟨same, tail⟩ := List.cons.inj split
      obtain ⟨past, future, rfl, events, found⟩ := ih tail
      exact ⟨entry :: past, future, rfl, by rw [Store.events, events, same], found⟩

end Store

namespace Ledger

/-- The storage after a run, which begins with empty storage. -/
def after (entries : List Entry) : Store := Store.empty.afterAll entries

def history (entries : List Entry) : List Event := Store.empty.events entries

@[simp] theorem after_nil : after [] = .empty := rfl

@[simp] theorem history_nil : history [] = [] := rfl

@[simp] theorem after_concat (entries : List Entry) (entry : Entry) :
    after (entries ++ [entry]) = (entry.perform (after entries)).store :=
  Store.afterAll_append .empty entries [entry]

@[simp] theorem history_concat (entries : List Entry) (entry : Entry) :
    history (entries ++ [entry]) = history entries ++ [⟨after entries, entry⟩] :=
  Store.events_append .empty entries [entry]

theorem history_append (past future : List Entry) :
    history (past ++ future) = history past ++ (after past).events future :=
  Store.events_append .empty past future

theorem history_split {entries : List Entry} {earlier later : List Event} {event : Event}
    (split : history entries = earlier ++ event :: later) :
    ∃ past future, entries = past ++ event.entry :: future ∧ history past = earlier ∧
      after past = event.before :=
  Store.events_split split

theorem mem_history {entries : List Entry} {event : Event} (took : event ∈ history entries) :
    ∃ past future, entries = past ++ event.entry :: future ∧ after past = event.before := by
  obtain ⟨earlier, later, split⟩ := List.append_of_mem took
  obtain ⟨past, future, calls, _, found⟩ := history_split split
  exact ⟨past, future, calls, found⟩

end Ledger

structure Effect where
  changes : List Change
  answer : Except Failure Reply

namespace Effect

def ofOutcome (outcome : Outcome) : Effect := ⟨outcome.changes, outcome.answer.map .response⟩

def ofAnswer (answer : Except Error String) : Effect := ⟨[], (answer.map .text).mapError .refused⟩

def whenValid (validation : Except Error Unit) (effect : Effect) : Effect :=
  match validation with
  | .error cause => ⟨[], .error (.refused cause)⟩
  | .ok () => effect

end Effect

def Execution.outcome (records : Records) (scopes : ScopeTable) (call : Call) :
    Execution → Outcome
  | .register registration => registration.carryOut records scopes call
  | .approve approval => approval.carryOut records call
  | .pay payment => payment.carryOut records call

namespace Entry

/-- The effect of a call, from the records that it sees. -/
def effect (records : Records) : Entry → Effect
  | .instantiate address call request =>
    .whenValid request.validate (.ofOutcome (request.carryOut address call))
  | .execute scopes call request =>
    .whenValid request.validate (.ofOutcome (request.outcome records scopes call))
  | .migrate request => .whenValid request.validate (.ofOutcome (request.carryOut records))
  | .query request => .whenValid request.validate (.ofAnswer (request.answer records))

theorem carryOutExecution_eq (store : Store) (scopes : ScopeTable) (call : Call)
    (request : Execution) :
    Ledger.carryOutExecution store scopes call request =
      store.conclude (request.outcome store.records scopes call) := by
  cases request with
  | register registration => exact registration.perform_procedure scopes call store
  | approve approval => exact approval.perform_procedure call store
  | pay payment => exact payment.perform_procedure call store

/-- A call sees nothing of the storage but its records, and changes nothing else. -/
theorem perform_eq (store : Store) (entry : Entry) :
    entry.perform store =
      ⟨(entry.effect store.records).answer,
        store.applyAll (entry.effect store.records).changes⟩ := by
  cases entry with
  | instantiate address call request =>
    simp only [perform, effect, Ledger.instantiate, Store.whenValid, Effect.whenValid,
      Ledger.carryOutInstantiation, request.perform_procedure]
    cases request.validate <;> rfl
  | execute scopes call request =>
    simp only [perform, effect, Ledger.execute, Store.whenValid, Effect.whenValid,
      carryOutExecution_eq]
    cases request.validate <;> rfl
  | migrate request =>
    simp only [perform, effect, Ledger.migrate, Store.whenValid, Effect.whenValid,
      Ledger.carryOutMigration, request.perform_procedure]
    cases request.validate <;> rfl
  | query request =>
    simp only [perform, effect, Ledger.query, Effect.whenValid]
    cases request.validate <;> rfl

end Entry

namespace Book

def perform (book : Book) (entry : Entry) : Book :=
  book.applyAll (entry.effect book.records).changes

def afterAll (book : Book) (entries : List Entry) : Book := entries.foldl perform book

/-- The book after a run, which begins with an empty one. -/
def after (entries : List Entry) : Book := empty.afterAll entries

@[simp] theorem after_nil : after [] = .empty := rfl

@[simp] theorem after_concat (entries : List Entry) (entry : Entry) :
    after (entries ++ [entry]) = (after entries).perform entry :=
  List.foldl_append

end Book

namespace Store

theorem Holds.answer {store : Store} {book : Book} (holds : store.Holds book) (entry : Entry) :
    (entry.perform store).answer = (entry.effect book.records).answer := by
  rw [entry.perform_eq, holds.records]

theorem Holds.perform {store : Store} {book : Book} (holds : store.Holds book) (entry : Entry) :
    (entry.perform store).store.Holds (book.perform entry) := by
  rw [entry.perform_eq, holds.records]
  exact holds.applyAll _

theorem Holds.afterAll {store : Store} {book : Book} (holds : store.Holds book)
    (entries : List Entry) : (store.afterAll entries).Holds (book.afterAll entries) := by
  induction entries generalizing store book with
  | nil => exact holds
  | cons entry rest ih => exact ih (holds.perform entry)

end Store

theorem Ledger.holds_after (entries : List Entry) : (after entries).Holds (Book.after entries) :=
  Store.holds_empty.afterAll entries

theorem Ledger.payable_eq_ok_iff {entries : List Entry} {uuid : String} {payable : Payable} :
    (after entries).records.payable uuid = .ok payable ↔
      (Book.after entries).payable? uuid = some payable := by
  rw [(holds_after entries).records, Book.payable_records_eq_ok_iff]

end PayableLedger
