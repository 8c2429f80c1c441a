import Mathlib.Data.List.Infix
import PayableLedger.Proofs.Execution
import PayableLedger.Proofs.Lifecycle
import PayableLedger.Proofs.ScopeIndex

set_option autoImplicit false

namespace PayableLedger

open Json (encode)

/-- The scope is there, and the address is among its owners, in whatever role. -/
def ScopeTable.Owns (table : ScopeTable) (address scopeId : String) : Prop :=
  ∃ scope, table.scope? scopeId = some scope ∧ ∃ owner ∈ scope.owners, owner.address = address

theorem Store.load?_eq_ok_none_iff {store : Store} {key : Key} {α : Type} [Json.Coded α] :
    store.load? key α = .ok none ↔ store.get? key = none := by
  unfold load?
  cases store.get? key with
  | none => simp
  | some text =>
    simp only [reduceCtorEq, iff_false]
    cases Json.decode? α text <;> simp

namespace Registration

def texts (request : Registration) : List (String × String) := [
  ("oracle_address", request.oracle),
  ("payable_denom", request.denom),
  ("payable_type", request.kind),
  ("payable_uuid", request.uuid),
  ("scope_id", request.scopeId)]

def emptyTexts (request : Registration) : List String :=
  (request.texts.filter fun field => field.2.isEmpty).map Prod.fst

/-- All texts are there, something is owed, and neither the uuid nor the scope is in use. -/
structure Fresh (request : Registration) (store : Store) : Prop where
  given : ∀ field ∈ request.texts, field.2 ≠ ""
  positive : request.total.units ≠ 0
  newUuid : store.get? (Key.payable request.uuid) = none
  newScope : store.get? (Key.scopeIndex request.scopeId) = none

/-- A local ledger asks for no scope. -/
def Entitled (request : Registration) (config : Configuration) (scopes : ScopeTable)
    (sender : String) : Prop :=
  config.isLocal = true ∨ Text.isBlank request.scopeId = false ∧ scopes.Owns sender request.scopeId

structure Admissible (request : Registration) (store : Store) (config : Configuration)
    (scopes : ScopeTable) (call : Call) : Prop extends Fresh request store where
  entitled : request.Entitled config scopes call.sender
  onboards : ∃ fee, config.onboard call = .ok fee

/-- The rules of a registration in their order, each broken while those before it are kept, with
the error that says so. -/
inductive Breaks (request : Registration) (store : Store) (config : Configuration)
    (scopes : ScopeTable) (call : Call) : Error → Prop
  | incomplete (missing : ∃ field ∈ request.texts, field.2 = "") :
      Breaks request store config scopes call (.invalidFields request.emptyTexts)
  | worthless (given : ∀ field ∈ request.texts, field.2 ≠ "") (zero : request.total.units = 0) :
      Breaks request store config scopes call (.zeroTotal request.uuid)
  | knownUuid (given : ∀ field ∈ request.texts, field.2 ≠ "") (positive : request.total.units ≠ 0)
      (taken : store.get? (Key.payable request.uuid) ≠ none) :
      Breaks request store config scopes call (.duplicatePayable request.uuid)
  | knownScope (given : ∀ field ∈ request.texts, field.2 ≠ "") (positive : request.total.units ≠ 0)
      (newUuid : store.get? (Key.payable request.uuid) = none)
      (taken : store.get? (Key.scopeIndex request.scopeId) ≠ none) :
      Breaks request store config scopes call (.duplicateRegistration request.scopeId)
  | blankScope (fresh : request.Fresh store) (asked : config.isLocal = false)
      (blank : Text.isBlank request.scopeId = true) :
      Breaks request store config scopes call .blankScopeId
  | unknownScope (fresh : request.Fresh store) (asked : config.isLocal = false)
      (solid : Text.isBlank request.scopeId = false)
      (unknown : scopes.scope? request.scopeId = none) :
      Breaks request store config scopes call .scopeNotFound
  | stranger (fresh : request.Fresh store) (asked : config.isLocal = false)
      (solid : Text.isBlank request.scopeId = false) {scope : Scope}
      (found : scopes.scope? request.scopeId = some scope)
      (foreign : ∀ owner ∈ scope.owners, owner.address ≠ call.sender) :
      Breaks request store config scopes call .unauthorized
  | charge (fresh : request.Fresh store) (entitled : request.Entitled config scopes call.sender)
      {cause : Error} (refuses : config.onboard call = .error cause) :
      Breaks request store config scopes call cause

variable {request : Registration} {store : Store} {book : Book} {records : Records}
  {config : Configuration} {scopes : ScopeTable} {call : Call} {cause : Error}

theorem validate_eq (request : Registration) :
    (Execution.register request).validate =
      match request.emptyTexts with
      | [] => .ok ()
      | fields => .error (.invalidFields fields) := by
  have faulty : faultyFields (request.texts.map fun field => (field.1, field.2.isEmpty)) =
      request.emptyTexts := by
    rw [faultyFields, List.filter_map, List.map_map]
    rfl
  rw [← faulty]
  rfl

theorem emptyTexts_eq_nil_iff :
    request.emptyTexts = [] ↔ ∀ field ∈ request.texts, field.2 ≠ "" := by
  simp [emptyTexts, String.isEmpty_iff]

theorem validate_of_missing (missing : ∃ field ∈ request.texts, field.2 = "") :
    (Execution.register request).validate = .error (.invalidFields request.emptyTexts) := by
  rw [validate_eq]
  split
  · next nothing =>
    obtain ⟨field, member, empty⟩ := missing
    exact absurd empty (emptyTexts_eq_nil_iff.1 nothing field member)
  · rfl

theorem validate_of_given (given : ∀ field ∈ request.texts, field.2 ≠ "") :
    (Execution.register request).validate = .ok () := by
  rw [validate_eq, emptyTexts_eq_nil_iff.2 given]

theorem isZero_total (positive : request.total.units ≠ 0) : request.total.isZero = false := by
  rw [← Bool.not_eq_true, Amount.isZero_iff]
  exact positive

theorem verdict_of_refused (given : ∀ field ∈ request.texts, field.2 ≠ "")
    (refused : request.accept records scopes call = .error cause) :
    (Execution.register request).verdict records scopes call = .error (.refused cause) := by
  rw [Execution.verdict_of_valid (validate_of_given given)]
  change request.decide records scopes call = _
  rw [decide, refused]
  rfl

namespace Fresh

variable (fresh : request.Fresh store) (configured : store.records.configuration = .ok config)
include fresh

theorem payable? : store.records.payable? request.uuid = .ok none :=
  Store.load?_eq_ok_none_iff.2 fresh.newUuid

theorem indexed? : store.records.indexed? request.scopeId = .ok none :=
  Store.load?_eq_ok_none_iff.2 fresh.newScope

include configured

/-- A registration that keeps the rules about itself and the records comes to its scope and its
charge. -/
theorem accept :
    request.accept store.records scopes call = (do
      if !config.isLocal then
        scopes.verifyOwner request.scopeId call.sender
      config.onboard call) := by
  rw [Registration.accept, isZero_total fresh.positive, fresh.payable?, fresh.indexed?, configured]
  rfl

theorem accept_of_entitled (entitled : request.Entitled config scopes call.sender) :
    request.accept store.records scopes call = config.onboard call := by
  rw [fresh.accept configured]
  rcases entitled with atHome | ⟨solid, owns⟩
  · rw [atHome]
    rfl
  · rw [ScopeTable.verifyOwner_eq_ok_iff.2 ⟨solid, owns⟩]
    cases config.isLocal <;> rfl

theorem verdict_of_asked (asked : config.isLocal = false)
    (refuses : scopes.verifyOwner request.scopeId call.sender = .error cause) :
    (Execution.register request).verdict store.records scopes call = .error (.refused cause) := by
  have refused : request.accept store.records scopes call = .error cause := by
    rw [fresh.accept configured, asked, refuses]
    rfl
  exact verdict_of_refused fresh.given refused

end Fresh

/-- What is taken can be read in a storage that holds a book. -/
theorem verdict_of_breaks (holds : store.Holds book)
    (configured : store.records.configuration = .ok config)
    (breaks : request.Breaks store config scopes call cause) :
    (Execution.register request).verdict store.records scopes call = .error (.refused cause) := by
  cases breaks with
  | incomplete missing => exact Execution.verdict_of_invalid (validate_of_missing missing)
  | worthless given zero =>
    apply verdict_of_refused given
    rw [accept, Amount.isZero_iff.2 zero]
    rfl
  | knownUuid given positive taken =>
    rw [holds.payable, ne_eq, Option.map_eq_none_iff] at taken
    obtain ⟨payable, found⟩ := Option.ne_none_iff_exists'.1 taken
    apply verdict_of_refused given
    rw [accept, isZero_total positive, holds.records, Book.payable?_records, found]
    rfl
  | knownScope given positive newUuid taken =>
    rw [holds.indexed, ne_eq, Option.map_eq_none_iff] at taken
    obtain ⟨uuid, found⟩ := Option.ne_none_iff_exists'.1 taken
    have absent : store.records.payable? request.uuid = .ok none :=
      Store.load?_eq_ok_none_iff.2 newUuid
    apply verdict_of_refused given
    rw [accept, isZero_total positive, absent, holds.records, Book.indexed?_records, found]
    rfl
  | blankScope fresh asked blank =>
    apply fresh.verdict_of_asked configured asked
    rw [ScopeTable.verifyOwner, if_pos blank]
  | unknownScope fresh asked solid unknown =>
    apply fresh.verdict_of_asked configured asked
    rw [ScopeTable.verifyOwner, solid, unknown]
    rfl
  | stranger fresh asked solid found foreign =>
    apply fresh.verdict_of_asked configured asked
    rw [ScopeTable.verifyOwner, solid, found]
    simpa using foreign
  | charge fresh entitled refuses =>
    apply verdict_of_refused fresh.given
    rw [fresh.accept_of_entitled configured entitled, refuses]

theorem Admissible.verdict (admissible : request.Admissible store config scopes call)
    (configured : store.records.configuration = .ok config) :
    ∃ response, (Execution.register request).verdict store.records scopes call =
      .ok ([.payable (request.toPayable call.sender), .indexed request.scopeId request.uuid],
        response) := by
  obtain ⟨fee, onboarded⟩ := admissible.onboards
  have fresh := admissible.toFresh
  have accepted : request.accept store.records scopes call = .ok fee :=
    (fresh.accept_of_entitled configured admissible.entitled).trans onboarded
  refine ⟨request.response fee, ?_⟩
  rw [Execution.verdict_of_valid (validate_of_given fresh.given)]
  exact decide_eq_ok_iff.2 ⟨fee, accepted, rfl, rfl⟩

/-- The rules leave no gap: what breaks none of them is admissible. -/
theorem admissible_or_breaks (request : Registration) (store : Store) (config : Configuration)
    (scopes : ScopeTable) (call : Call) :
    request.Admissible store config scopes call ∨
      ∃ cause, request.Breaks store config scopes call cause := by
  -- In the order of the rules, each with those before it kept.
  by_cases given : ∀ field ∈ request.texts, field.2 ≠ ""
  case neg =>
    simp only [not_forall, ne_eq, not_not, exists_prop] at given
    exact .inr ⟨_, .incomplete given⟩
  by_cases zero : request.total.units = 0
  case pos => exact .inr ⟨_, .worthless given zero⟩
  by_cases newUuid : store.get? (Key.payable request.uuid) = none
  case neg => exact .inr ⟨_, .knownUuid given zero newUuid⟩
  by_cases newScope : store.get? (Key.scopeIndex request.scopeId) = none
  case neg => exact .inr ⟨_, .knownScope given zero newUuid newScope⟩
  have fresh : request.Fresh store := ⟨given, zero, newUuid, newScope⟩
  by_cases entitled : request.Entitled config scopes call.sender
  case neg =>
    rw [Entitled, not_or, Bool.not_eq_true] at entitled
    obtain ⟨asked, unowned⟩ := entitled
    cases blank : Text.isBlank request.scopeId with
    | true => exact .inr ⟨_, .blankScope fresh asked blank⟩
    | false =>
      cases found : scopes.scope? request.scopeId with
      | none => exact .inr ⟨_, .unknownScope fresh asked blank found⟩
      | some scope =>
        refine .inr ⟨_, .stranger fresh asked blank found ?_⟩
        intro owner member same
        exact unowned ⟨blank, scope, found, owner, member, same⟩
  cases onboarded : config.onboard call with
  | error cause => exact .inr ⟨cause, .charge fresh entitled onboarded⟩
  | ok fee => exact .inl ⟨fresh, entitled, fee, onboarded⟩

/-- The storage with a registration in it: the payable, of which nothing is paid yet, and the entry
of its scope. -/
def enter (request : Registration) (payee : String) (store : Store) : Store :=
  (store.set (Key.payable request.uuid) (encode {
    uuid := request.uuid
    scopeId := request.scopeId
    oracle := request.oracle
    kind := request.kind
    denom := request.denom
    total := request.total
    remaining := request.total
    status := .pending
    payee := payee : Payable })).set (Key.scopeIndex request.scopeId) (encode request.uuid)

/-- The two keys are new, and no other is touched. -/
theorem Fresh.get?_enter_ne_iff (fresh : request.Fresh store) (payee : String) (key : Key) :
    (request.enter payee store).get? key ≠ store.get? key ↔
      key = Key.payable request.uuid ∨ key = Key.scopeIndex request.scopeId := by
  have apart := Key.payable_ne_scopeIndex request.uuid request.scopeId
  rw [enter, Store.get?_set, Store.get?_set]
  by_cases index : Key.scopeIndex request.scopeId = key
  · subst index
    simp [fresh.newScope]
  · by_cases own : Key.payable request.uuid = key
    · subst own
      simp [index, fresh.newUuid]
    · simp [index, own, Ne.symm index, Ne.symm own]

section
variable (holds : store.Holds book) (configured : store.records.configuration = .ok config)
include configured

theorem Admissible.execute (admissible : request.Admissible store config scopes call) :
    ∃ response, Ledger.execute store scopes call (.register request) =
      ⟨.ok response, request.enter call.sender store⟩ := by
  obtain ⟨response, decided⟩ := admissible.verdict configured
  exact ⟨response, Ledger.execute_of_ok decided⟩

include holds

theorem Breaks.execute (breaks : request.Breaks store config scopes call cause) :
    Ledger.execute store scopes call (.register request) = ⟨.error (.refused cause), store⟩ :=
  Ledger.execute_of_error (verdict_of_breaks holds configured breaks)

theorem succeeds_iff :
    (∃ response, (Ledger.execute store scopes call (.register request)).answer = .ok response) ↔
      request.Admissible store config scopes call := by
  constructor
  · rintro ⟨response, answered⟩
    rcases request.admissible_or_breaks store config scopes call with admissible | ⟨cause, breaks⟩
    · exact admissible
    · rw [breaks.execute holds configured] at answered
      cases answered
  · intro admissible
    obtain ⟨response, executed⟩ := admissible.execute configured
    exact ⟨response, by rw [executed]⟩

theorem fails_iff {failure : Failure} :
    (Ledger.execute store scopes call (.register request)).answer = .error failure ↔
      ∃ cause, failure = .refused cause ∧ request.Breaks store config scopes call cause := by
  constructor
  · intro answered
    rcases request.admissible_or_breaks store config scopes call with admissible | ⟨cause, breaks⟩
    · obtain ⟨response, executed⟩ := admissible.execute configured
      rw [executed] at answered
      cases answered
    · rw [breaks.execute holds configured] at answered
      cases answered
      exact ⟨cause, rfl, breaks⟩
  · rintro ⟨cause, rfl, breaks⟩
    rw [breaks.execute holds configured]

end

theorem exists_configuration {response : Response}
    (answered : (Ledger.execute store scopes call (.register request)).answer = .ok response) :
    ∃ config, store.records.configuration = .ok config := by
  rw [Ledger.answer_execute] at answered
  cases decided : (Execution.register request).verdict store.records scopes call with
  | error failure =>
    rw [decided] at answered
    cases answered
  | ok result =>
    rw [Execution.verdict, bind_eq_ok_iff] at decided
    obtain ⟨_, _, decided⟩ := decided
    obtain ⟨fee, accepted, _⟩ := decide_eq_ok_iff.1 decided
    obtain ⟨_, _, _, config, configured, _⟩ := accept_eq_ok_iff.1 accepted
    exact ⟨config, configured⟩

end Registration

def Ledger.NeverLocal (entries : List Entry) : Prop :=
  ∀ past config, past <+: entries → (after past).records.configuration = .ok config →
    config.isLocal = false

theorem Entry.registration?_eq_some_iff {entry : Entry} {answer : Except Failure Reply}
    {registration : Registration} :
    entry.registration? answer = some registration ↔
      ∃ scopes call reply, entry = .execute scopes call (.register registration) ∧
        answer = .ok reply := by
  constructor
  · intro made
    unfold registration? at made
    split at made
    · next scopes call _ reply =>
      cases made
      exact ⟨scopes, call, reply, rfl, rfl⟩
    · cases made
  · rintro ⟨scopes, call, reply, rfl, rfl⟩
    rfl

namespace Ledger

variable {entries : List Entry} {uuid : String} {payable : Payable}

/-- What is stored was registered in the run, by who is to be paid. -/
theorem registered_of_found (found : (Book.after entries).payable? uuid = some payable) :
    ∃ past future scopes call registration,
      entries = past ++ .execute scopes call (.register registration) :: future ∧
      (∃ response, (execute (after past) scopes call (.register registration)).answer =
        .ok response) ∧
      registration.uuid = uuid ∧ registration.scopeId = payable.scopeId ∧
      call.sender = payable.payee := by
  have scope : (Book.after entries).scope? uuid = some payable.scopeId :=
    Book.scope?_eq_some_iff.2 ⟨payable, found, rfl⟩
  obtain ⟨registration, member, own, scopeId⟩ :=
    ((tabulates_after entries).1.lookup_iff uuid payable.scopeId).1 scope
  obtain ⟨⟨before, entry⟩, took, made⟩ := List.mem_filterMap.1 member
  obtain ⟨past, future, rfl, rfl⟩ := mem_history took
  obtain ⟨scopes, call, reply, same, answered⟩ := Entry.registration?_eq_some_iff.1 made
  dsimp only at same
  subst same
  -- What was registered then has become what is found now, which says who is to be paid.
  have deed := deed_mem_deeds uuid past (.execute scopes call (.register registration)) future
  rw [Event.deed, answered, Entry.deed, if_pos own] at deed
  obtain ⟨later, reached, becomes⟩ := becomes_of_registered deed
  rw [found, Option.some.injEq] at reached
  subst reached
  refine ⟨past, future, scopes, call, registration, rfl, ?_, own, scopeId, becomes.payee.symm⟩
  change (execute (after past) scopes call (.register registration)).answer.map Reply.response = _
    at answered
  cases answer : (execute (after past) scopes call (.register registration)).answer with
  | ok response => exact ⟨response, rfl⟩
  | error failure =>
    rw [answer] at answered
    cases answered

/-- Without local settings, who is to be paid was an owner of the scope at the registration. -/
theorem owner_of_found (neverLocal : NeverLocal entries)
    (found : (Book.after entries).payable? uuid = some payable) :
    ∃ past future scopes call registration,
      entries = past ++ .execute scopes call (.register registration) :: future ∧
      (∃ response, (execute (after past) scopes call (.register registration)).answer =
        .ok response) ∧
      registration.uuid = uuid ∧ registration.scopeId = payable.scopeId ∧
      call.sender = payable.payee ∧ scopes.Owns payable.payee payable.scopeId := by
  obtain ⟨past, future, scopes, call, registration, rfl, ⟨response, answered⟩, own, scopeId,
    payee⟩ := registered_of_found found
  obtain ⟨config, configured⟩ := Registration.exists_configuration answered
  have asked : config.isLocal = false := neverLocal past config ⟨_, rfl⟩ configured
  have admissible := (Registration.succeeds_iff (holds_after past) configured).1 ⟨_, answered⟩
  have owns : scopes.Owns call.sender registration.scopeId := by
    rcases admissible.entitled with atHome | ⟨_, owns⟩
    · rw [asked] at atHome
      cases atHome
    · exact owns
  rw [payee, scopeId] at owns
  exact ⟨past, future, scopes, call, registration, rfl, ⟨response, answered⟩, own, scopeId, payee,
    owns⟩

end Ledger

/-- In every state of every run that has settings, a registration succeeds exactly if it is
admissible, and then the payable and the entry of its scope are written, under new keys, and nothing
else is. It fails exactly if it breaks a rule, the cause is the first rule that it breaks, and
nothing has changed. So in a run in which the settings were never local, whoever is to be paid for a
payable was an owner of its scope when it was registered. -/
theorem registration_admitted_exactly (entries : List Entry) :
    (∀ config, (Ledger.after entries).records.configuration = .ok config →
      ∀ scopes call (request : Registration),
        let start := Ledger.after entries
        let result := Ledger.execute start scopes call (.register request)
        ((∃ response, result.answer = .ok response) ↔
          request.Admissible start config scopes call) ∧
        (∀ failure, result.answer = .error failure ↔
          ∃ cause, failure = .refused cause ∧ request.Breaks start config scopes call cause) ∧
        (∀ failure, result.answer = .error failure → result.store = start) ∧
        (∀ response, result.answer = .ok response →
          result.store = request.enter call.sender start ∧
          ∀ key, result.store.get? key ≠ start.get? key ↔
            key = Key.payable request.uuid ∨ key = Key.scopeIndex request.scopeId)) ∧
    (Ledger.NeverLocal entries → ∀ uuid payable,
      (Ledger.after entries).records.payable uuid = .ok payable →
      ∃ past future scopes call request,
        entries = past ++ .execute scopes call (.register request) :: future ∧
        (∃ response, (Ledger.execute (Ledger.after past) scopes call (.register request)).answer =
          .ok response) ∧
        request.uuid = uuid ∧ request.scopeId = payable.scopeId ∧
        call.sender = payable.payee ∧ scopes.Owns payable.payee payable.scopeId) := by
  constructor
  · intro config configured scopes call request start result
    have holds : start.Holds (Book.after entries) := Ledger.holds_after entries
    have succeeds : _ ↔ request.Admissible start config scopes call :=
      Registration.succeeds_iff holds configured
    have fails (failure : Failure) : result.answer = .error failure ↔
        ∃ cause, failure = .refused cause ∧ request.Breaks start config scopes call cause :=
      Registration.fails_iff holds configured
    refine ⟨succeeds, fails, ?_, ?_⟩
    · intro failure answered
      obtain ⟨cause, _, breaks⟩ := (fails failure).1 answered
      exact congrArg Result.store (breaks.execute holds configured)
    · intro response answered
      have admissible := succeeds.1 ⟨response, answered⟩
      obtain ⟨_, executed⟩ := admissible.execute configured
      have left : result.store = request.enter call.sender start :=
        congrArg Result.store executed
      refine ⟨left, ?_⟩
      rw [left]
      exact admissible.toFresh.get?_enter_ne_iff call.sender
  · intro neverLocal uuid payable stored
    exact Ledger.owner_of_found neverLocal (Ledger.payable_eq_ok_iff.1 stored)

/-- A ledger that asks for scopes, and a registration by an owner of one. -/
def chainedRun : List Entry := [
  .instantiate "contract" ⟨"admin", []⟩ ⟨"registry", none, none, none, none, none⟩,
  .execute [⟨"s", [⟨"servicer", "servicer"⟩, ⟨"payee", "owner"⟩]⟩] ⟨"payee", []⟩
    (.register partialRegistration)]

/-- Behind `chainedRun` an owner of another scope is refused, and the payable that it has stored is
for an owner of its scope. -/
theorem registration_admitted_exactly_chainedRun :
    (Ledger.execute (Ledger.after chainedRun) [⟨"t", [⟨"payee", "owner"⟩]⟩] ⟨"stranger", []⟩
        (.register ⟨"invoice", "q", "t", "oracle", "usd", ⟨1, by decide⟩⟩)).answer =
      .error (.refused .unauthorized) ∧
    ∃ payable : Payable, (Ledger.after chainedRun).records.payable "p" = .ok payable ∧
      ∃ past future scopes call request,
        chainedRun = past ++ .execute scopes call (.register request) :: future ∧
          scopes.Owns payable.payee payable.scopeId := by
  obtain ⟨admission, owned⟩ := registration_admitted_exactly chainedRun
  constructor
  · have configured : (Ledger.after chainedRun).records.configuration =
        .ok ⟨"registry", none, none, false, none, none⟩ := Ledger.configuration_eq_ok_iff.2 rfl
    obtain ⟨_, fails, _⟩ := admission _ configured [⟨"t", [⟨"payee", "owner"⟩]⟩] ⟨"stranger", []⟩
      ⟨"invoice", "q", "t", "oracle", "usd", ⟨1, by decide⟩⟩
    have newUuid : (Book.after chainedRun).payable? "q" = none := by decide
    have newScope : (Book.after chainedRun).indexed? "t" = none := by decide
    refine (fails _).2 ⟨_, rfl, .stranger ⟨by decide, by decide, ?_, ?_⟩ rfl rfl rfl (by decide)⟩
    · rw [(Ledger.holds_after chainedRun).payable, newUuid, Option.map_none]
    · rw [(Ledger.holds_after chainedRun).indexed, newScope, Option.map_none]
  · have neverLocal : Ledger.NeverLocal chainedRun := by
      intro past config part configured
      have settings : ∀ past ∈ chainedRun.inits, ∀ config ∈ (Book.after past).configuration?,
          config.isLocal = false := by decide
      exact settings past ((List.mem_inits _ _).2 part) config
        (Ledger.configuration_eq_ok_iff.1 configured)
    obtain ⟨payable, found⟩ : ∃ payable, (Book.after chainedRun).payable? "p" = some payable :=
      ⟨_, rfl⟩
    have stored := Ledger.payable_eq_ok_iff.2 found
    obtain ⟨past, future, scopes, call, request, run, _, _, _, _, owns⟩ :=
      owned neverLocal "p" payable stored
    exact ⟨payable, stored, past, future, scopes, call, request, run, owns⟩

end PayableLedger
