import PayableLedger.Proofs.Effect

set_option autoImplicit false

namespace PayableLedger

/-- What a call did to the payable under a uuid. -/
inductive Deed
  | nothing
  | registered (registration : Registration) (call : Call)
  | approved (call : Call)
  | paid (call : Call) (response : Response)
deriving DecidableEq

/-- What a call that was answered did to the payable under a uuid. -/
def Entry.deed (uuid : String) : Entry → Except Failure Reply → Deed
  | .execute _ call (.register registration), .ok _ =>
    if registration.uuid = uuid then .registered registration call else .nothing
  | .execute _ call (.approve approval), .ok _ =>
    if approval.uuid = uuid then .approved call else .nothing
  | .execute _ call (.pay payment), .ok (.response response) =>
    if payment.uuid = uuid then .paid call response else .nothing
  | _, _ => .nothing

def Event.deed (uuid : String) (event : Event) : Deed := event.entry.deed uuid event.answer

def deeds (uuid : String) (events : List Event) : List Deed := events.map (Event.deed uuid)

/-- The changes of one payable, with the settings that they meet. -/
inductive Payable.Step (config? : Option Configuration) : Option Payable → Deed → Option Payable →
    Prop
  | nothing (payable? : Option Payable) : Step config? payable? .nothing payable?
  | registered {registration : Registration} {call : Call}
      (positive : registration.total.units ≠ 0) :
      Step config? none (.registered registration call)
        (some (registration.toPayable call.sender))
  | approved {payable : Payable} {call : Call} (free : call.funds = [])
      (oracle : call.sender = payable.oracle) (pending : payable.status = .pending) :
      Step config? (some payable) (.approved call) (some { payable with status := .approved })
  | paid {payable : Payable} {call : Call} {config : Configuration} {amount : Amount}
      {division : FeeSplit} (configured : config? = some config)
      (counted : Payment.amountOf payable call.funds = .ok amount)
      (divided : config.splitFee amount = .ok division) :
      Step config? (some payable)
        (.paid call ⟨Payment.messages (Payment.afterPayment payable amount) division,
          Payment.attributes (Payment.afterPayment payable amount) amount division call.sender⟩)
        (some (Payment.afterPayment payable amount))

namespace Payable.Step

variable {config? : Option Configuration} {before after : Option Payable} {call : Call}

theorem of_registered {registration : Registration}
    (step : Step config? before (.registered registration call) after) :
    before = none ∧ after = some (registration.toPayable call.sender) := by
  cases step with
  | registered positive => exact ⟨rfl, rfl⟩

theorem of_approved (step : Step config? before (.approved call) after) :
    ∃ payable, before = some payable ∧ call.funds = [] ∧ call.sender = payable.oracle := by
  cases step with
  | approved free oracle pending => exact ⟨_, rfl, free, oracle⟩

theorem of_paid {response : Response} (step : Step config? before (.paid call response) after) :
    ∃ payable config amount division, before = some payable ∧ config? = some config ∧
      Payment.amountOf payable call.funds = .ok amount ∧
      config.splitFee amount = .ok division ∧
      after = some (Payment.afterPayment payable amount) ∧
      response.messages = Payment.messages (Payment.afterPayment payable amount) division := by
  cases step with
  | paid configured counted divided =>
    exact ⟨_, _, _, _, rfl, configured, counted, divided, rfl, rfl⟩

theorem of_nothing (step : Step config? before .nothing after) : after = before := by
  cases step with
  | nothing => rfl

end Payable.Step

namespace Book

def Keyed (book : Book) : Prop :=
  ∀ uuid payable, book.payable? uuid = some payable → payable.uuid = uuid

theorem keyed_empty : empty.Keyed := by
  intro uuid payable found
  rw [payable?_empty] at found
  cases found

theorem Keyed.apply {book : Book} (keyed : book.Keyed) (change : Change) :
    (book.apply change).Keyed := by
  cases change with
  | configuration config => exact keyed
  | stamp stamp => exact keyed
  | indexed scopeId uuid => exact keyed
  | payable written =>
    intro uuid payable found
    rw [payable?_apply_payable] at found
    split at found
    · next same => cases found; exact same
    · exact keyed uuid payable found

theorem Keyed.applyAll {book : Book} (keyed : book.Keyed) (changes : List Change) :
    (book.applyAll changes).Keyed := by
  induction changes generalizing book with
  | nil => exact keyed
  | cons change rest ih => exact ih (keyed.apply change)

theorem keyed_after (entries : List Entry) : (after entries).Keyed := by
  induction entries using List.reverseRecOn with
  | nil => exact keyed_empty
  | append_singleton entries entry ih =>
    rw [after_concat]
    exact ih.applyAll _

end Book

theorem Entry.deed_refused (uuid : String) (entry : Entry) (failure : Failure) :
    entry.deed uuid (.error failure) = .nothing := by
  cases entry with
  | execute scopes call request => cases request <;> rfl
  | _ => rfl

theorem Book.step_perform {book : Book} (keyed : book.Keyed) (entry : Entry) (uuid : String) :
    Payable.Step book.configuration? (book.payable? uuid)
      (entry.deed uuid (entry.effect book.records).answer)
      ((book.perform entry).payable? uuid) := by
  have yields := entry.yields_effect book.records
  unfold perform
  generalize entry.effect book.records = effect at yields ⊢
  cases yields with
  | refused entry failure =>
    rw [Entry.deed_refused]
    exact .nothing _
  | unbound valid free settings unbound => exact .nothing _
  | instantiated valid free settings binds => exact .nothing _
  | migrated valid stamped checked changes configured paired => exact .nothing _
  | answered valid answered => exact .nothing _
  | @registered scopes call registration fee valid accepted =>
    obtain ⟨positive, absent, _⟩ := Registration.accept_eq_ok_iff.1 accepted
    -- The payable is written under its own uuid: this one, or one that makes no difference here.
    simp only [Entry.deed, applyAll_cons, applyAll_nil, payable?_apply_indexed,
      payable?_apply_payable, Registration.toPayable]
    by_cases same : registration.uuid = uuid
    · rw [payable?_records, Except.ok.injEq, same] at absent
      rw [if_pos same, if_pos same, absent]
      exact .registered positive
    · rw [if_neg same, if_neg same]
      exact .nothing _
  | @approved scopes call approval payable valid free found oracle pending =>
    rw [payable_records_eq_ok_iff] at found
    have own : payable.uuid = approval.uuid := keyed approval.uuid payable found
    simp only [Entry.deed, applyAll_cons, applyAll_nil, payable?_apply_payable]
    by_cases same : approval.uuid = uuid
    · rw [if_pos same, if_pos (own.trans same), ← same, found]
      exact .approved free oracle pending
    · rw [if_neg same, if_neg fun equal => same (own.symm.trans equal)]
      exact .nothing _
  | @paid scopes call payment config payable amount division valid configured found counted
      divided =>
    rw [payable_records_eq_ok_iff] at found
    rw [configuration_records_eq_ok_iff] at configured
    have own : (Payment.afterPayment payable amount).uuid = payment.uuid :=
      keyed payment.uuid payable found
    simp only [Entry.deed, applyAll_cons, applyAll_nil, payable?_apply_payable]
    by_cases same : payment.uuid = uuid
    · rw [if_pos same, if_pos (own.trans same), ← same, found]
      exact .paid configured counted divided
    · rw [if_neg same, if_neg fun equal => same (own.symm.trans equal)]
      exact .nothing _

namespace Ledger

/-- The deed of a call is found on the book, without the storage. -/
theorem deed_eq (uuid : String) (entries : List Entry) (entry : Entry) :
    Event.deed uuid ⟨after entries, entry⟩ =
      entry.deed uuid (entry.effect (Book.after entries).records).answer := by
  rw [Event.deed, Event.answer, (holds_after entries).answer]

/-- A run does to the payable under a uuid what the deeds of its history say, one after the other:
each call's deed is a step from what the run before it has left. -/
theorem step_after (entries : List Entry) (entry : Entry) (uuid : String) :
    Payable.Step (Book.after entries).configuration? ((Book.after entries).payable? uuid)
      (Event.deed uuid ⟨after entries, entry⟩)
      ((Book.after (entries ++ [entry])).payable? uuid) := by
  rw [Book.after_concat, deed_eq]
  exact Book.step_perform (Book.keyed_after entries) entry uuid

@[simp] theorem deeds_concat (uuid : String) (entries : List Entry) (entry : Entry) :
    deeds uuid (history (entries ++ [entry])) =
      deeds uuid (history entries) ++ [Event.deed uuid ⟨after entries, entry⟩] := by
  rw [history_concat, deeds, List.map_append]
  rfl

theorem deed_mem_deeds (uuid : String) (past : List Entry) (entry : Entry) (future : List Entry) :
    Event.deed uuid ⟨after past, entry⟩ ∈ deeds uuid (history (past ++ entry :: future)) := by
  rw [history_append, deeds, List.map_append]
  exact List.mem_append_right _ List.mem_cons_self

/-- Every deed of a history was done by a call that met what the run before it had left. -/
theorem mem_deeds {entries : List Entry} {uuid : String} {deed : Deed}
    (done : deed ∈ deeds uuid (history entries)) :
    ∃ past entry future, entries = past ++ entry :: future ∧
      Event.deed uuid ⟨after past, entry⟩ = deed := by
  obtain ⟨⟨before, entry⟩, took, deed⟩ := List.mem_map.1 done
  obtain ⟨past, future, calls, rfl⟩ := mem_history took
  exact ⟨past, entry, future, calls, deed⟩

end Ledger

end PayableLedger
