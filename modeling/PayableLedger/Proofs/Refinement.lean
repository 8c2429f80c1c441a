import Mathlib.Data.List.Forall2
import PayableLedger.Proofs.Run

set_option autoImplicit false

namespace PayableLedger

open Json (encode)

namespace Book

def answer (book : Book) (entry : Entry) : Except Failure Reply :=
  (entry.effect book.records).answer

/-- Calls on a book, one after the other: what each answers, and the book that it leaves. -/
def turns (book : Book) : List Entry → List (Except Failure Reply × Book)
  | [] => []
  | entry :: rest => (book.answer entry, book.perform entry) :: (book.perform entry).turns rest

/-- The texts that show a book, under the keys as they are in bytes. -/
inductive Shows (book : Book) : Key → String → Prop
  | configuration {config : Configuration} (configured : book.configuration? = some config) :
      Shows book (0 :: 9 :: Key.ofText "config_v2") (encode config)
  | stamp {stamp : Stamp} (stamped : book.stamp? = some stamp) :
      Shows book (Key.ofText "contract_info") (encode stamp)
  | payable {uuid : String} {payable : Payable} (found : book.payable? uuid = some payable) :
      Shows book (0 :: 7 :: (Key.ofText "payable" ++ Key.ofText uuid)) (encode payable)
  | indexed {scopeId uuid : String} (found : book.indexed? scopeId = some uuid) :
      Shows book (0 :: 19 :: (Key.ofText "scope_payable_index" ++ Key.ofText scopeId))
        (encode uuid)

end Book

namespace Store

/-- A storage that holds a book consists of the texts that show the book. -/
theorem Holds.get?_eq_some_iff {store : Store} {book : Book} (holds : store.Holds book)
    {key : Key} {text : String} : store.get? key = some text ↔ book.Shows key text := by
  constructor
  · intro stored
    -- The key tells which record it is, and under any other key there is nothing.
    by_cases isConfiguration : key = Key.configuration
    · rw [isConfiguration, holds.configuration, Option.map_eq_some_iff] at stored
      obtain ⟨config, configured, rfl⟩ := stored
      rw [isConfiguration, Key.configuration_eq]
      exact .configuration configured
    by_cases isStamp : key = Key.stamp
    · rw [isStamp, holds.stamp, Option.map_eq_some_iff] at stored
      obtain ⟨stamp, stamped, rfl⟩ := stored
      rw [isStamp]
      exact .stamp stamped
    by_cases isPayable : ∃ uuid, key = Key.payable uuid
    · obtain ⟨uuid, rfl⟩ := isPayable
      rw [holds.payable, Option.map_eq_some_iff] at stored
      obtain ⟨payable, found, rfl⟩ := stored
      rw [Key.payable_eq]
      exact .payable found
    by_cases isIndexed : ∃ scopeId, key = Key.scopeIndex scopeId
    · obtain ⟨scopeId, rfl⟩ := isIndexed
      rw [holds.indexed, Option.map_eq_some_iff] at stored
      obtain ⟨uuid, found, rfl⟩ := stored
      rw [Key.scopeIndex_eq]
      exact .indexed found
    · rw [holds.nothing_else key isConfiguration isStamp (not_exists.1 isPayable)
        (not_exists.1 isIndexed)] at stored
      cases stored
  · intro image
    cases image with
    | configuration configured =>
      have stored := holds.configuration
      rw [configured, Key.configuration_eq] at stored
      exact stored
    | stamp stamped =>
      have stored := holds.stamp
      rw [stamped] at stored
      exact stored
    | @payable uuid payable found =>
      have stored := holds.payable uuid
      rw [found, Key.payable_eq] at stored
      exact stored
    | @indexed scopeId uuid found =>
      have stored := holds.indexed scopeId
      rw [found, Key.scopeIndex_eq] at stored
      exact stored

/-- A storage and the book that it holds go through the same calls in lockstep. -/
theorem Holds.turns {store : Store} {book : Book} (holds : store.Holds book)
    (entries : List Entry) :
    List.Forall₂ (fun event turn => event.answer = turn.1 ∧ event.after.Holds turn.2)
      (store.events entries) (book.turns entries) := by
  induction entries generalizing store book with
  | nil => exact .nil
  | cons entry rest ih =>
    exact .cons ⟨holds.answer entry, holds.perform entry⟩ (ih (holds.perform entry))

end Store

/-- A run on storage refines the same run on a book. At every call, whatever was asked, the answer
is that of the ledger on the book, and the storage after it is exactly the image of the book after
it: the JSON text of each record under the key of that record, and nothing under any other key. -/
theorem storage_refines_book (entries : List Entry) :
    List.Forall₂
      (fun event turn => event.answer = turn.1 ∧
        ∀ key text, event.after.get? key = some text ↔ turn.2.Shows key text)
      (Ledger.history entries) (Book.empty.turns entries) := by
  refine (Store.holds_empty.turns entries).imp ?_
  rintro event ⟨answer, book⟩ ⟨same, holds⟩
  exact ⟨same, fun key text => holds.get?_eq_some_iff⟩

end PayableLedger
