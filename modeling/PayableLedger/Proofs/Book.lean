import PayableLedger.Procedure
import PayableLedger.Proofs.Wire.RoundTrip

set_option autoImplicit false

namespace PayableLedger

open Json (encode decode?)

/-- Settings and stamp if there are any, the payables by their uuid, and the uuids by scope. -/
structure Book where
  configuration? : Option Configuration
  stamp? : Option Stamp
  payables : Std.ExtTreeMap String Payable
  index : Std.ExtTreeMap String String

namespace Book

def empty : Book := ⟨none, none, ∅, ∅⟩

def payable? (book : Book) (uuid : String) : Option Payable := book.payables[uuid]?

def indexed? (book : Book) (scopeId : String) : Option String := book.index[scopeId]?

def records (book : Book) : Records where
  configuration? := .ok book.configuration?
  stamp? := .ok book.stamp?
  payable? uuid := .ok (book.payable? uuid)
  indexed? scopeId := .ok (book.indexed? scopeId)

def apply (book : Book) : Change → Book
  | .configuration config => { book with configuration? := some config }
  | .stamp stamp => { book with stamp? := some stamp }
  | .payable payable => { book with payables := book.payables.insert payable.uuid payable }
  | .indexed scopeId uuid => { book with index := book.index.insert scopeId uuid }

def applyAll (book : Book) (changes : List Change) : Book := changes.foldl apply book

@[simp] theorem payable?_empty (uuid : String) : empty.payable? uuid = none := by
  simp [payable?, empty]

@[simp] theorem indexed?_empty (scopeId : String) : empty.indexed? scopeId = none := by
  simp [indexed?, empty]

@[simp] theorem applyAll_nil (book : Book) : book.applyAll [] = book := rfl

@[simp] theorem applyAll_cons (book : Book) (change : Change) (rest : List Change) :
    book.applyAll (change :: rest) = (book.apply change).applyAll rest := rfl

section Readings

variable (book : Book) (uuid scopeId : String)

@[simp] theorem payable?_apply_configuration (config : Configuration) :
    (book.apply (.configuration config)).payable? uuid = book.payable? uuid := rfl

@[simp] theorem payable?_apply_stamp (stamp : Stamp) :
    (book.apply (.stamp stamp)).payable? uuid = book.payable? uuid := rfl

@[simp] theorem payable?_apply_indexed (other : String) :
    (book.apply (.indexed scopeId other)).payable? uuid = book.payable? uuid := rfl

theorem payable?_apply_payable (payable : Payable) :
    (book.apply (.payable payable)).payable? uuid =
      if payable.uuid = uuid then some payable else book.payable? uuid := by
  simp [payable?, apply, Std.ExtTreeMap.getElem?_insert]

@[simp] theorem indexed?_apply_configuration (config : Configuration) :
    (book.apply (.configuration config)).indexed? scopeId = book.indexed? scopeId := rfl

@[simp] theorem indexed?_apply_stamp (stamp : Stamp) :
    (book.apply (.stamp stamp)).indexed? scopeId = book.indexed? scopeId := rfl

@[simp] theorem indexed?_apply_payable (payable : Payable) :
    (book.apply (.payable payable)).indexed? scopeId = book.indexed? scopeId := rfl

theorem indexed?_apply_indexed (other : String) :
    (book.apply (.indexed other uuid)).indexed? scopeId =
      if other = scopeId then some uuid else book.indexed? scopeId := by
  simp [indexed?, apply, Std.ExtTreeMap.getElem?_insert]

@[simp] theorem payable?_records : book.records.payable? uuid = .ok (book.payable? uuid) := rfl

@[simp] theorem indexed?_records : book.records.indexed? scopeId = .ok (book.indexed? scopeId) :=
  rfl

end Readings

theorem payable_records_eq_ok_iff {book : Book} {uuid : String} {payable : Payable} :
    book.records.payable uuid = .ok payable ↔ book.payable? uuid = some payable := by
  simp only [Records.payable, payable?_records]
  cases book.payable? uuid with
  | none => simp [bind, Except.bind]
  | some found => simp [bind, Except.bind, pure, Except.pure]

theorem payable_records_of_none {book : Book} {uuid : String}
    (absent : book.payable? uuid = none) :
    book.records.payable uuid = .error (.payableNotFound uuid) := by
  simp only [Records.payable, payable?_records, absent]
  rfl

theorem configuration_records_eq_ok_iff {book : Book} {config : Configuration} :
    book.records.configuration = .ok config ↔ book.configuration? = some config := by
  simp only [Records.configuration, records]
  cases book.configuration? with
  | none => simp [bind, Except.bind]
  | some found => simp [bind, Except.bind, pure, Except.pure]

theorem stamp_records_eq_ok_iff {book : Book} {stamp : Stamp} :
    book.records.stamp = .ok stamp ↔ book.stamp? = some stamp := by
  simp only [Records.stamp, records]
  cases book.stamp? with
  | none => simp [bind, Except.bind]
  | some found => simp [bind, Except.bind, pure, Except.pure]

end Book

namespace Store

/-- The storage consists of the texts of a book's records, each under its key. -/
structure Holds (store : Store) (book : Book) : Prop where
  configuration : store.get? Key.configuration = book.configuration?.map encode
  stamp : store.get? Key.stamp = book.stamp?.map encode
  payable (uuid : String) : store.get? (Key.payable uuid) = (book.payable? uuid).map encode
  indexed (scopeId : String) :
    store.get? (Key.scopeIndex scopeId) = (book.indexed? scopeId).map encode
  nothing_else (key : Key) (configuration : key ≠ Key.configuration) (stamp : key ≠ Key.stamp)
    (payable : ∀ uuid, key ≠ Key.payable uuid) (indexed : ∀ scopeId, key ≠ Key.scopeIndex scopeId) :
    store.get? key = none

theorem holds_empty : empty.Holds .empty where
  configuration := get?_empty _
  stamp := get?_empty _
  payable uuid := by rw [get?_empty, Book.payable?_empty, Option.map_none]
  indexed scopeId := by rw [get?_empty, Book.indexed?_empty, Option.map_none]
  nothing_else key _ _ _ _ := get?_empty key

theorem load?_of_get? {α : Type} [Json.Coded α] {store : Store} {key : Key} {record? : Option α}
    (text : store.get? key = record?.map encode)
    (faithful : ∀ record : α, decode? α (encode record) = some record) :
    store.load? key α = .ok record? := by
  rw [load?, text]
  cases record? with
  | none => rfl
  | some record => simp only [Option.map_some, faithful]

theorem encode_injective {α : Type} [Json.Coded α]
    (faithful : ∀ record : α, decode? α (encode record) = some record) (first second : α)
    (same : encode first = encode second) : first = second := by
  have decoded := congrArg (decode? α) same
  rwa [faithful, faithful, Option.some.injEq] at decoded

theorem map_encode_eq_some_iff {α : Type} [Json.Coded α]
    (faithful : ∀ record : α, decode? α (encode record) = some record) {record? : Option α}
    {record : α} : record?.map encode = some (encode record) ↔ record? = some record := by
  change record?.map encode = (some record).map encode ↔ _
  exact Option.map_inj_right (encode_injective faithful)

theorem Holds.payable_eq_some_iff {store : Store} {book : Book} (holds : store.Holds book)
    {uuid : String} {payable : Payable} :
    store.get? (Key.payable uuid) = some (encode payable) ↔ book.payable? uuid = some payable := by
  rw [holds.payable, map_encode_eq_some_iff Payable.decode?_encode]

theorem Holds.indexed_eq_some_iff {store : Store} {book : Book} (holds : store.Holds book)
    {scopeId uuid : String} :
    store.get? (Key.scopeIndex scopeId) = some (encode uuid) ↔
      book.indexed? scopeId = some uuid := by
  rw [holds.indexed, map_encode_eq_some_iff decode?_encode_text]

theorem Holds.records {store : Store} {book : Book} (holds : store.Holds book) :
    store.records = book.records := by
  unfold Store.records Book.records
  congr 1
  · exact load?_of_get? holds.configuration Configuration.decode?_encode
  · exact load?_of_get? holds.stamp Stamp.decode?_encode
  · funext uuid
    exact load?_of_get? (holds.payable uuid) Payable.decode?_encode
  · funext scopeId
    exact load?_of_get? (holds.indexed scopeId) decode?_encode_text

theorem Holds.apply {store : Store} {book : Book} (holds : store.Holds book) (change : Change) :
    (store.apply change).Holds (book.apply change) := by
  -- What lies under any other key than the one written stays as it was.
  have kept {written key : Key} {text : String} {reading : Option String}
      (before : store.get? key = reading) (apart : written ≠ key) :
      (store.set written text).get? key = reading :=
    (get?_set_of_ne store text apart).trans before
  cases change with
  | configuration config =>
    constructor
    · exact get?_set_self _ _ _
    · exact kept holds.stamp Key.configuration_ne_stamp
    · intro uuid
      exact kept (holds.payable uuid) (Key.payable_ne_configuration uuid).symm
    · intro scopeId
      exact kept (holds.indexed scopeId) (Key.scopeIndex_ne_configuration scopeId).symm
    · intro key configuration stamp payable indexed
      exact kept (holds.nothing_else key configuration stamp payable indexed) configuration.symm
  | stamp newStamp =>
    constructor
    · exact kept holds.configuration Key.configuration_ne_stamp.symm
    · exact get?_set_self _ _ _
    · intro uuid
      exact kept (holds.payable uuid) (Key.payable_ne_stamp uuid).symm
    · intro scopeId
      exact kept (holds.indexed scopeId) (Key.scopeIndex_ne_stamp scopeId).symm
    · intro key configuration stamp payable indexed
      exact kept (holds.nothing_else key configuration stamp payable indexed) stamp.symm
  | payable written =>
    constructor
    · exact kept holds.configuration (Key.payable_ne_configuration written.uuid)
    · exact kept holds.stamp (Key.payable_ne_stamp written.uuid)
    · intro uuid
      rw [Book.payable?_apply_payable]
      by_cases same : written.uuid = uuid
      · rw [if_pos same, ← same]
        exact get?_set_self _ _ _
      · rw [if_neg same]
        exact kept (holds.payable uuid) fun equal => same (Key.payable_injective equal)
    · intro scopeId
      exact kept (holds.indexed scopeId) (Key.payable_ne_scopeIndex written.uuid scopeId)
    · intro key configuration stamp payable indexed
      exact kept (holds.nothing_else key configuration stamp payable indexed)
        (payable written.uuid).symm
  | indexed written newUuid =>
    constructor
    · exact kept holds.configuration (Key.scopeIndex_ne_configuration written)
    · exact kept holds.stamp (Key.scopeIndex_ne_stamp written)
    · intro uuid
      exact kept (holds.payable uuid) (Key.payable_ne_scopeIndex uuid written).symm
    · intro scopeId
      rw [Book.indexed?_apply_indexed]
      by_cases same : written = scopeId
      · rw [if_pos same, ← same]
        exact get?_set_self _ _ _
      · rw [if_neg same]
        exact kept (holds.indexed scopeId) fun equal => same (Key.scopeIndex_injective equal)
    · intro key configuration stamp payable indexed
      exact kept (holds.nothing_else key configuration stamp payable indexed)
        (indexed written).symm

theorem Holds.applyAll {store : Store} {book : Book} (holds : store.Holds book)
    (changes : List Change) : (store.applyAll changes).Holds (book.applyAll changes) := by
  induction changes generalizing store book with
  | nil => exact holds
  | cons change rest ih => exact ih (holds.apply change)

/-- In the bucket of the payables there is nothing but the payables of the book. -/
theorem Holds.bucket {store : Store} {book : Book} (holds : store.Holds book) {rest : Key}
    {text : String} (stored : store.get? (Key.inSpace Key.payableSpace rest) = some text) :
    ∃ uuid payable, rest = Key.ofText uuid ∧ book.payable? uuid = some payable ∧
      text = encode payable := by
  by_cases named : ∃ uuid, Key.inSpace Key.payableSpace rest = Key.payable uuid
  · obtain ⟨uuid, same⟩ := named
    rw [same, holds.payable uuid, Option.map_eq_some_iff] at stored
    obtain ⟨payable, found, rfl⟩ := stored
    have bytes : rest = Key.ofText uuid := by
      simpa only [Key.payable, Key.inSpace, List.cons.injEq, List.append_cancel_left_eq,
        true_and] using same
    exact ⟨uuid, payable, bytes, found, rfl⟩
  · -- Without a payable's name behind it, the key is no other record's either.
    have absent : store.get? (Key.inSpace Key.payableSpace rest) = none := by
      apply holds.nothing_else
      · rw [Key.inSpace_payableSpace, Key.configuration_eq]
        simp
      · rw [Key.inSpace_payableSpace, Key.stamp_eq]
        simp
      · exact fun uuid same => named ⟨uuid, same⟩
      · intro scopeId
        rw [Key.inSpace_payableSpace, Key.scopeIndex_eq]
        simp
    rw [absent] at stored
    cases stored

end Store

end PayableLedger
