import PayableLedger.Proofs.Deed

set_option autoImplicit false

namespace PayableLedger

open Json (encode)

def Entry.registration? : Entry → Except Failure Reply → Option Registration
  | .execute _ _ (.register registration), .ok _ => some registration
  | _, _ => none

theorem Entry.registration?_refused (entry : Entry) (failure : Failure) :
    entry.registration? (.error failure) = none := by
  cases entry with
  | execute scopes call request => cases request <;> rfl
  | _ => rfl

def Event.registration? (event : Event) : Option Registration :=
  event.entry.registration? event.answer

def Ledger.registrations (entries : List Entry) : List Registration :=
  (history entries).filterMap Event.registration?

namespace Book

def scope? (book : Book) (uuid : String) : Option String :=
  (book.payable? uuid).map Payable.scopeId

theorem scope?_eq_some_iff {book : Book} {uuid scopeId : String} :
    book.scope? uuid = some scopeId ↔
      ∃ payable, book.payable? uuid = some payable ∧ payable.scopeId = scopeId :=
  Option.map_eq_some_iff

theorem scope?_apply_payable (book : Book) (payable : Payable) (uuid : String) :
    (book.apply (.payable payable)).scope? uuid =
      if payable.uuid = uuid then some payable.scopeId else book.scope? uuid := by
  rw [scope?, payable?_apply_payable]
  split <;> rfl

theorem scope?_apply_same {book : Book} {old : Payable} (new : Payable)
    (found : book.payable? new.uuid = some old) (same : new.scopeId = old.scopeId)
    (uuid : String) : (book.apply (.payable new)).scope? uuid = book.scope? uuid := by
  rw [scope?_apply_payable]
  split
  · next own => rw [← own, scope?, found, same, Option.map_some]
  · rfl

/-- What a call does to scopes and payables that belong together: nothing, or it joins two that
belonged to none. -/
inductive Joins (before : Book) : Option Registration → Book → Prop
  | nothing {after : Book} (scopes : ∀ uuid, after.scope? uuid = before.scope? uuid)
      (index : ∀ scopeId, after.indexed? scopeId = before.indexed? scopeId) :
      Joins before none after
  | registered {registration : Registration} {after : Book}
      (named : registration.uuid ≠ "" ∧ registration.scopeId ≠ "")
      (newUuid : before.scope? registration.uuid = none)
      (newScope : before.indexed? registration.scopeId = none)
      (scopes : ∀ uuid, after.scope? uuid =
        if registration.uuid = uuid then some registration.scopeId else before.scope? uuid)
      (index : ∀ scopeId, after.indexed? scopeId =
        if registration.scopeId = scopeId then some registration.uuid
        else before.indexed? scopeId) :
      Joins before (some registration) after

theorem Joins.of_eq {before after : Book} (payables : after.payables = before.payables)
    (index : after.index = before.index) : before.Joins none after := by
  constructor
  · intro uuid
    rw [scope?, payable?, payables, scope?, payable?]
  · intro scopeId
    rw [indexed?, index, indexed?]

/-- The only call that joins a scope and a payable is a registration that succeeds. -/
theorem joins_perform {book : Book} (keyed : book.Keyed) (entry : Entry) :
    book.Joins (entry.registration? (entry.effect book.records).answer) (book.perform entry) := by
  have yields := entry.yields_effect book.records
  unfold perform
  generalize entry.effect book.records = effect at yields ⊢
  cases yields with
  | refused entry failure =>
    rw [Entry.registration?_refused]
    exact .of_eq rfl rfl
  | unbound valid free settings unbound => exact .of_eq rfl rfl
  | instantiated valid free settings binds => exact .of_eq rfl rfl
  | migrated valid stamped checked changes configured paired => exact .of_eq rfl rfl
  | answered valid answered => exact .of_eq rfl rfl
  | @registered scopes call registration fee valid accepted =>
    obtain ⟨_, absent, free, _⟩ := Registration.accept_eq_ok_iff.1 accepted
    rw [payable?_records, Except.ok.injEq] at absent
    rw [indexed?_records, Except.ok.injEq] at free
    -- Neither the uuid nor the scope was taken, so nothing is written over.
    refine .registered ?_ ?_ free ?_ ?_
    · obtain ⟨_, _, _, named⟩ := Execution.validate_register_eq_ok_iff.1 valid
      exact named
    · rw [scope?, absent, Option.map_none]
    · exact fun uuid => scope?_apply_payable book (registration.toPayable call.sender) uuid
    · exact fun scopeId => indexed?_apply_indexed _ registration.uuid scopeId registration.scopeId
  | @approved scopes call approval payable valid free found oracle pending =>
    rw [payable_records_eq_ok_iff] at found
    rw [← keyed approval.uuid payable found] at found
    exact .nothing (scope?_apply_same { payable with status := .approved } found rfl) fun _ => rfl
  | @paid scopes call payment config payable amount division valid configured found counted
      divided =>
    rw [payable_records_eq_ok_iff] at found
    rw [← keyed payment.uuid payable found] at found
    exact .nothing (scope?_apply_same (Payment.afterPayment payable amount) found rfl) fun _ => rfl

end Book

/-- A lookup finds, under the key of each registration of a list, what goes with it, and finds
nothing else. No two of the registrations share a key. -/
structure Tabulates (registrations : List Registration) (key value : Registration → String)
    (lookup : String → Option String) : Prop where
  lookup_iff (k v : String) :
    lookup k = some v ↔ ∃ registration ∈ registrations, key registration = k ∧
      value registration = v
  nodup : (registrations.map key).Nodup

namespace Tabulates

variable {registrations : List Registration} {key value : Registration → String}
  {lookup more : String → Option String}

theorem eq_none_iff (tabulates : Tabulates registrations key value lookup) {k : String} :
    lookup k = none ↔ ∀ registration ∈ registrations, key registration ≠ k := by
  constructor
  · intro absent registration member same
    have found := (tabulates.lookup_iff k (value registration)).2 ⟨registration, member, same, rfl⟩
    rw [absent] at found
    cases found
  · intro apart
    cases found : lookup k with
    | none => rfl
    | some v =>
      obtain ⟨registration, member, same, _⟩ := (tabulates.lookup_iff k v).1 found
      exact absurd same (apart registration member)

theorem concat (tabulates : Tabulates registrations key value lookup) {registration : Registration}
    (fresh : lookup (key registration) = none)
    (added : ∀ k, more k =
      if key registration = k then some (value registration) else lookup k) :
    Tabulates (registrations ++ [registration]) key value more where
  lookup_iff k v := by
    rw [added]
    by_cases same : key registration = k
    · rw [if_pos same, Option.some.injEq]
      constructor
      · exact fun found => ⟨registration, by simp, same, found⟩
      · rintro ⟨other, member, own, found⟩
        rw [List.mem_append, List.mem_singleton] at member
        rcases member with earlier | rfl
        · exact absurd (own.trans same.symm) (tabulates.eq_none_iff.1 fresh other earlier)
        · exact found
    · rw [if_neg same, tabulates.lookup_iff]
      constructor
      · rintro ⟨other, member, found⟩
        exact ⟨other, List.mem_append_left _ member, found⟩
      · rintro ⟨other, member, own, found⟩
        rw [List.mem_append, List.mem_singleton] at member
        rcases member with earlier | rfl
        · exact ⟨other, earlier, own, found⟩
        · exact absurd own same
  nodup := by
    rw [List.map_append, List.map_singleton, List.nodup_append]
    refine ⟨tabulates.nodup, by simp, ?_⟩
    intro earlier member last only same
    obtain ⟨other, before, rfl⟩ := List.mem_map.1 member
    rw [List.mem_singleton] at only
    exact tabulates.eq_none_iff.1 fresh other before (same.trans only)

end Tabulates

namespace Ledger

theorem registrations_concat (entries : List Entry) (entry : Entry) :
    registrations (entries ++ [entry]) =
      registrations entries ++
        (entry.registration? (entry.effect (Book.after entries).records).answer).toList := by
  have same : Event.registration? ⟨after entries, entry⟩ =
      entry.registration? (entry.effect (Book.after entries).records).answer :=
    congrArg entry.registration? ((holds_after entries).answer entry)
  rw [registrations, history_concat, List.filterMap_append, List.filterMap_cons, same]
  cases entry.registration? (entry.effect (Book.after entries).records).answer <;> rfl

theorem tabulates_after (entries : List Entry) :
    Tabulates (registrations entries) Registration.uuid Registration.scopeId
        (Book.after entries).scope? ∧
      Tabulates (registrations entries) Registration.scopeId Registration.uuid
        (Book.after entries).indexed? := by
  induction entries using List.reverseRecOn with
  | nil =>
    constructor
    · exact ⟨fun k v => by simp [Book.scope?, registrations], List.nodup_nil⟩
    · exact ⟨fun k v => by simp [registrations], List.nodup_nil⟩
  | append_singleton entries entry ih =>
    obtain ⟨scopes, index⟩ := ih
    have joins := Book.joins_perform (Book.keyed_after entries) entry
    rw [registrations_concat, Book.after_concat]
    generalize entry.registration? _ = registration?, (Book.after entries).perform entry = after
      at joins
    cases joins with
    | nothing sameScopes sameIndex =>
      rw [Option.toList_none, List.append_nil, funext sameScopes, funext sameIndex]
      exact ⟨scopes, index⟩
    | registered named newUuid newScope addedScope addedIndex =>
      exact ⟨scopes.concat newUuid addedScope, index.concat newScope addedIndex⟩

theorem named_of_registered {entries : List Entry} {registration : Registration}
    (registered : registration ∈ registrations entries) :
    registration.uuid ≠ "" ∧ registration.scopeId ≠ "" := by
  obtain ⟨⟨before, entry⟩, took, made⟩ := List.mem_filterMap.1 registered
  obtain ⟨past, future, rfl, rfl⟩ := mem_history took
  have joins := Book.joins_perform (Book.keyed_after past) entry
  rw [← (holds_after past).answer] at joins
  change Book.Joins _ (Event.registration? ⟨after past, entry⟩) _ at joins
  rw [made] at joins
  cases joins with
  | registered named newUuid newScope scopes index => exact named

theorem indexed?_eq_some_iff {entries : List Entry} {scopeId uuid : String} :
    (Book.after entries).indexed? scopeId = some uuid ↔
      ∃ payable, (Book.after entries).payable? uuid = some payable ∧
        payable.scopeId = scopeId := by
  obtain ⟨scopes, index⟩ := tabulates_after entries
  rw [← Book.scope?_eq_some_iff, scopes.lookup_iff, index.lookup_iff]
  simp only [and_comm]

theorem query_eq_answer {entries : List Entry} {request : Query}
    (valid : request.validate = .ok ()) :
    query (after entries) request = request.answer (Book.after entries).records := by
  rw [query, valid, carryOutQuery, (holds_after entries).records]
  rfl

theorem query_payable {entries : List Entry} {uuid : String} (named : uuid ≠ "") :
    query (after entries) (.payable uuid) =
      match (Book.after entries).payable? uuid with
      | some payable => .ok (encode payable)
      | none => .error (.payableNotFound uuid) := by
  rw [query_eq_answer (Query.validate_payable_eq_ok_iff.2 named), Query.answer]
  cases found : (Book.after entries).payable? uuid with
  | some payable => rw [Book.payable_records_eq_ok_iff.2 found]; rfl
  | none => rw [Book.payable_records_of_none found]; rfl

theorem query_payableOfScope {entries : List Entry} {scopeId : String} (named : scopeId ≠ "") :
    query (after entries) (.payableOfScope scopeId) =
      match (Book.after entries).indexed? scopeId with
      | some uuid => (Query.payable uuid).answer (Book.after entries).records
      | none => .error (.payableNotFound scopeId) := by
  rw [query_eq_answer (Query.validate_payableOfScope_eq_ok_iff.2 named), Query.answer,
    Query.payableOf, Book.indexed?_records]
  cases (Book.after entries).indexed? scopeId <;> rfl

/-- A payable is found by its uuid and by its scope, with the text that is stored. -/
theorem query_registered {entries : List Entry} {registration : Registration}
    (registered : registration ∈ registrations entries) :
    ∃ payable : Payable, payable.scopeId = registration.scopeId ∧
      (after entries).get? (Key.payable registration.uuid) = some (encode payable) ∧
      query (after entries) (.payableOfScope registration.scopeId) = .ok (encode payable) ∧
      query (after entries) (.payable registration.uuid) = .ok (encode payable) := by
  obtain ⟨namedUuid, namedScope⟩ := named_of_registered registered
  have indexed := (tabulates_after entries).2.lookup_iff registration.scopeId registration.uuid |>.2
    ⟨registration, registered, rfl, rfl⟩
  obtain ⟨payable, found, scope⟩ := indexed?_eq_some_iff.1 indexed
  have byUuid : query (after entries) (.payable registration.uuid) = .ok (encode payable) := by
    rw [query_payable namedUuid, found]
  refine ⟨payable, scope, (holds_after entries).payable_eq_some_iff.2 found, ?_, byUuid⟩
  · rw [query_payableOfScope namedScope, indexed]
    exact (query_eq_answer (Query.validate_payable_eq_ok_iff.2 namedUuid)).symm.trans byUuid

theorem query_payable_eq_error_iff {entries : List Entry} {uuid : String} (named : uuid ≠ "")
    {cause : Error} :
    query (after entries) (.payable uuid) = .error cause ↔
      cause = .payableNotFound uuid ∧
        ∀ registration ∈ registrations entries, registration.uuid ≠ uuid := by
  rw [← (tabulates_after entries).1.eq_none_iff, query_payable named, Book.scope?]
  cases (Book.after entries).payable? uuid with
  | some payable => simp
  | none => simp [eq_comm]

theorem query_payableOfScope_eq_error_iff {entries : List Entry} {scopeId : String}
    (named : scopeId ≠ "") {cause : Error} :
    query (after entries) (.payableOfScope scopeId) = .error cause ↔
      cause = .payableNotFound scopeId ∧
        ∀ registration ∈ registrations entries, registration.scopeId ≠ scopeId := by
  rw [← (tabulates_after entries).2.eq_none_iff]
  cases indexed : (Book.after entries).indexed? scopeId with
  | some uuid =>
    obtain ⟨registration, registered, rfl, _⟩ :=
      ((tabulates_after entries).2.lookup_iff scopeId uuid).1 indexed
    obtain ⟨payable, _, _, answered, _⟩ := query_registered registered
    simp [answered]
  | none =>
    rw [query_payableOfScope named, indexed]
    simp [eq_comm]

end Ledger

/-- Every entry of the index and every payable is readable, and the index has a uuid for a scope
exactly where the payable under that uuid is the scope's. -/
structure Store.Indexed (store : Store) : Prop where
  readable_index (scopeId text : String)
    (stored : store.get? (Key.scopeIndex scopeId) = some text) : ∃ uuid : String, text = encode uuid
  readable_payable (uuid text : String) (stored : store.get? (Key.payable uuid) = some text) :
    ∃ payable : Payable, text = encode payable
  indexed_iff (scopeId uuid : String) :
    store.get? (Key.scopeIndex scopeId) = some (encode uuid) ↔
      ∃ payable : Payable, store.get? (Key.payable uuid) = some (encode payable) ∧
        payable.scopeId = scopeId

theorem Store.Indexed.scope_unique {store : Store} (indexed : store.Indexed)
    {scopeId other text : String} (first : store.get? (Key.scopeIndex scopeId) = some text)
    (second : store.get? (Key.scopeIndex other) = some text) : scopeId = other := by
  obtain ⟨uuid, rfl⟩ := indexed.readable_index scopeId text first
  obtain ⟨payable, found, rfl⟩ := (indexed.indexed_iff _ uuid).1 first
  obtain ⟨same, again, rfl⟩ := (indexed.indexed_iff _ uuid).1 second
  have text := Option.some.inj (found.symm.trans again)
  exact congrArg Payable.scopeId (encode_injective Payable.decode?_encode payable same text)

theorem Ledger.indexed_after (entries : List Entry) : (after entries).Indexed where
  readable_index scopeId text stored := by
    rw [(holds_after entries).indexed, Option.map_eq_some_iff] at stored
    obtain ⟨uuid, _, same⟩ := stored
    exact ⟨uuid, same.symm⟩
  readable_payable uuid text stored := by
    rw [(holds_after entries).payable, Option.map_eq_some_iff] at stored
    obtain ⟨payable, _, same⟩ := stored
    exact ⟨payable, same.symm⟩
  indexed_iff scopeId uuid := by
    simp only [(holds_after entries).indexed_eq_some_iff, (holds_after entries).payable_eq_some_iff,
      indexed?_eq_some_iff]

/-- After every run the index of the scopes and the payables belong together one to one. No uuid
and no scope was registered twice. What was registered is found from either side, with the very
text that is stored, and nothing else is: a query for any other name reports that name. -/
theorem scope_index_bijective (entries : List Entry) :
    (Ledger.after entries).Indexed ∧
      (∀ scopeId other text, (Ledger.after entries).get? (Key.scopeIndex scopeId) = some text →
        (Ledger.after entries).get? (Key.scopeIndex other) = some text → scopeId = other) ∧
      ((Ledger.registrations entries).map Registration.uuid).Nodup ∧
      ((Ledger.registrations entries).map Registration.scopeId).Nodup ∧
      (∀ registration ∈ Ledger.registrations entries, ∃ payable : Payable,
        payable.scopeId = registration.scopeId ∧
          (Ledger.after entries).get? (Key.payable registration.uuid) = some (encode payable) ∧
          Ledger.query (Ledger.after entries) (.payableOfScope registration.scopeId) =
            .ok (encode payable) ∧
          Ledger.query (Ledger.after entries) (.payable registration.uuid) =
            .ok (encode payable)) ∧
      ∀ name, name ≠ "" → ∀ cause,
        (Ledger.query (Ledger.after entries) (.payableOfScope name) = .error cause ↔
          cause = .payableNotFound name ∧
            ∀ registration ∈ Ledger.registrations entries, registration.scopeId ≠ name) ∧
        (Ledger.query (Ledger.after entries) (.payable name) = .error cause ↔
          cause = .payableNotFound name ∧
            ∀ registration ∈ Ledger.registrations entries, registration.uuid ≠ name) := by
  have indexed := Ledger.indexed_after entries
  obtain ⟨scopes, index⟩ := Ledger.tabulates_after entries
  refine ⟨indexed, ?_, scopes.nodup, index.nodup, ?_, ?_⟩
  · intro scopeId other text first second
    exact indexed.scope_unique first second
  · intro registration registered
    exact Ledger.query_registered registered
  · intro name named cause
    exact ⟨Ledger.query_payableOfScope_eq_error_iff named, Ledger.query_payable_eq_error_iff named⟩

end PayableLedger
