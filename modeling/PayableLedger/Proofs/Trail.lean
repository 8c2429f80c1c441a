import PayableLedger.Proofs.Execution
import PayableLedger.Proofs.Lifecycle

set_option autoImplicit false

namespace PayableLedger

def value? (attributes : List Attribute) (key : String) : Option String :=
  (attributes.find? fun shown => shown.key == key).map Attribute.value

def amount? (attributes : List Attribute) (key : String) : Option Amount := do
  (Amount.parse (← value? attributes key)).toOption

theorem amount?_of_shown {attributes : List Attribute} {key : String} {amount : Amount}
    (shown : value? attributes key = some amount.toText) :
    amount? attributes key = some amount := by
  simp [amount?, shown, Amount.parse_toText, Except.toOption]

def status? (attributes : List Attribute) : Option PayableStatus := do
  PayableStatus.ofName? (← value? attributes "payable_status")

/-- What attributes tell of a payable. -/
structure Report where
  kind : String
  oracle : String
  denom : String
  total : Amount
  scopeId : String
  remaining : Amount
  status : PayableStatus

def Payable.report (payable : Payable) : Report where
  kind := payable.kind
  oracle := payable.oracle
  denom := payable.denom
  total := payable.total
  scopeId := payable.scopeId
  remaining := payable.remaining
  status := payable.status

/-- What the attributes of one answer announce. -/
inductive Announcement
  | registered (uuid : String) (report : Report)
  | approved (uuid : String) (status : PayableStatus)
  | paid (uuid : String) (remaining : Amount) (status : PayableStatus)

namespace Announcement

variable (attributes : List Attribute)

/-- At first all of the total remains. -/
def registration? : Option Announcement := do
  let uuid ← value? attributes "payable_registered"
  let total ← amount? attributes "payable_total_owed"
  return .registered uuid {
    kind := ← value? attributes "payable_type"
    oracle := ← value? attributes "payable_oracle_address"
    denom := ← value? attributes "payable_denom"
    total := total
    scopeId := ← value? attributes "payable_related_scope_id"
    remaining := total
    status := ← status? attributes }

def approval? : Option Announcement :=
  return .approved (← value? attributes "payable_oracle_approved") (← status? attributes)

def payment? : Option Announcement :=
  return .paid (← value? attributes "payable_payment_made")
    (← amount? attributes "payable_total_remaining") (← status? attributes)

def read? : Option Announcement :=
  registration? attributes <|> approval? attributes <|> payment? attributes

end Announcement

abbrev Trail := Std.ExtTreeMap String Report

namespace Trail

/-- An approval or a payment adds to what is known already. -/
def take (trail : Trail) : Announcement → Trail
  | .registered uuid report => trail.insert uuid report
  | .approved uuid status => trail.modify uuid fun report => { report with status := status }
  | .paid uuid remaining status =>
    trail.modify uuid fun report => { report with remaining := remaining, status := status }

/-- Attributes that announce nothing are passed over. -/
def follow (trail : Trail) (attributes : List Attribute) : Trail :=
  match Announcement.read? attributes with
  | some announcement => trail.take announcement
  | none => trail

end Trail

/-- The attributes in the answer to a successful execution. -/
def Entry.attributes? : Entry → Except Failure Reply → Option (List Attribute)
  | .execute _ _ _, .ok (.response response) => some response.attributes
  | _, _ => none

def Event.attributes? (event : Event) : Option (List Attribute) :=
  event.entry.attributes? event.answer

def Ledger.trail (entries : List Entry) : Trail :=
  ((history entries).filterMap Event.attributes?).foldl Trail.follow ∅

namespace Announcement

theorem read?_approval (payable : Payable) :
    read? (Approval.attributes payable) = some (.approved payable.uuid payable.status) := by
  simp [read?, registration?, approval?, value?, status?, Approval.attributes_eq,
    PayableStatus.ofName?_name]

theorem read?_payment (payable : Payable) (amount : Amount) (division : FeeSplit)
    (payer : String) :
    read? (Payment.attributes payable amount division payer) =
      some (.paid payable.uuid payable.remaining payable.status) := by
  simp [read?, registration?, approval?, payment?, value?, amount?, status?,
    Payment.attributes_eq, PayableStatus.ofName?_name, Amount.parse_toText, Except.toOption]

theorem read?_registration (request : Registration) (payee : String) :
    read? request.attributes =
      some (.registered request.uuid (request.toPayable payee).report) := by
  simp [read?, registration?, value?, amount?, status?, Payable.report, Registration.toPayable,
    Registration.attributes_eq, PayableStatus.ofName?_name, Amount.parse_toText, Except.toOption]

/-- The notice about a charge, which stands before all else, announces nothing. -/
theorem read?_notice (config : Configuration) (sender : String) (charge : Coin)
    (attributes : List Attribute) :
    read? ((config.takeCharge sender charge).notice :: attributes) = read? attributes := by
  unfold Configuration.takeCharge
  cases config.feeCollector <;>
    simp [read?, registration?, approval?, payment?, value?, amount?, status?,
      Attribute.onboardingFeeCollected, Attribute.onboardingFeeRefunded]

theorem read?_response {config : Configuration} {call : Call} {fee : Option OnboardingFee}
    (request : Registration) (onboarded : config.onboard call = .ok fee) (payee : String) :
    read? (request.response fee).attributes =
      some (.registered request.uuid (request.toPayable payee).report) := by
  cases fee with
  | none => exact read?_registration request payee
  | some fee =>
    obtain ⟨charge, _, _, _, _, rfl⟩ := Configuration.onboard_eq_some_iff.1 onboarded
    exact (read?_notice config call.sender charge _).trans (read?_registration request payee)

end Announcement

/-- The attributes show a payment on a payable: the amount, how it was divided without a rest, and
who receives it. -/
structure ShowsPayment (attributes : List Attribute) (uuid payee : String) : Prop where
  uuid : value? attributes "payable_payment_made" = some uuid
  amounts : ∃ paid fee net, amount? attributes "payable_amount_paid" = some paid ∧
    amount? attributes "payable_fee_amount" = some fee ∧
    amount? attributes "payable_net_amount" = some net ∧ fee.units + net.units = paid.units
  payee : value? attributes "payable_payee" = some payee

theorem Payment.showsPayment_attributes {config : Configuration} {amount : Amount}
    {division : FeeSplit} (divided : config.splitFee amount = .ok division) (payable : Payable)
    (payer : String) :
    ShowsPayment (attributes payable amount division payer) payable.uuid payable.payee := by
  refine ⟨rfl, ⟨amount, division.fee, division.net, ?_, ?_, ?_, ?_⟩, ?_⟩
  · exact amount?_of_shown (by simp [value?, attributes_eq])
  · exact amount?_of_shown (by simp [value?, attributes_eq])
  · exact amount?_of_shown (by simp [value?, attributes_eq])
  · exact Configuration.fee_add_net divided
  · simp [value?, attributes_eq]

namespace Trail

theorem follow_of_read? {trail : Trail} {attributes : List Attribute}
    {announcement : Announcement} (read : Announcement.read? attributes = some announcement) :
    trail.follow attributes = trail.take announcement := by
  rw [follow, read]

/-- Each payable of the book is known as it is, and no other is. -/
def Knows (trail : Trail) (book : Book) : Prop :=
  ∀ uuid : String, trail[uuid]? = (book.payable? uuid).map Payable.report

variable {trail : Trail} {book : Book}

theorem knows_empty : Knows ∅ .empty := by
  intro uuid
  simp

theorem Knows.insert (knows : trail.Knows book) (payable : Payable) :
    Knows (trail.insert payable.uuid payable.report) (book.apply (.payable payable)) := by
  intro uuid
  rw [Book.payable?_apply_payable]
  by_cases own : payable.uuid = uuid
  · simp [own]
  · simp [Std.ExtTreeMap.getElem?_insert, own, knows uuid]

/-- What was known of a payable is brought up to date when the payable is written back. -/
theorem Knows.modify (knows : trail.Knows book) {old new : Payable} {update : Report → Report}
    (found : book.payable? new.uuid = some old) (updated : update old.report = new.report) :
    Knows (trail.modify new.uuid update) (book.apply (.payable new)) := by
  intro uuid
  rw [Book.payable?_apply_payable]
  by_cases own : new.uuid = uuid
  · subst own
    simp [knows new.uuid, found, updated]
  · simp [Std.ExtTreeMap.getElem?_modify, own, knows uuid]

end Trail

theorem Entry.attributes?_refused (entry : Entry) (failure : Failure) :
    entry.attributes? (.error failure) = none := by
  cases entry <;> rfl

/-- Whatever a call does to the payables, its attributes tell. -/
theorem Trail.Knows.perform {trail : Trail} {book : Book} (knows : trail.Knows book)
    (keyed : book.Keyed) (entry : Entry) :
    Knows ((entry.attributes? (entry.effect book.records).answer).toList.foldl follow trail)
      (book.perform entry) := by
  have yields := entry.yields_effect book.records
  unfold Book.perform
  generalize entry.effect book.records = effect at yields ⊢
  cases yields with
  | refused entry failure =>
    rw [Entry.attributes?_refused]
    exact knows
  | unbound => exact knows
  | instantiated => exact knows
  | migrated => exact knows
  | answered => exact knows
  | @registered scopes call registration fee valid accepted =>
    obtain ⟨_, _, _, config, _, _, onboarded⟩ := Registration.accept_eq_ok_iff.1 accepted
    -- A notice about the charge may come first, and is passed over.
    have read := Announcement.read?_response registration onboarded call.sender
    change Knows (trail.follow (registration.response fee).attributes) _
    rw [follow_of_read? read]
    exact knows.insert (registration.toPayable call.sender)
  | @approved scopes call approval payable valid free found oracle pending =>
    change Knows (trail.follow (Approval.attributes { payable with status := .approved })) _
    have own := keyed.found_own found
    rw [follow_of_read? (Announcement.read?_approval _)]
    exact knows.modify own rfl
  | @paid scopes call payment config payable amount division valid configured found counted
      divided =>
    change Knows (trail.follow (Payment.attributes (Payment.afterPayment payable amount) amount
      division call.sender)) _
    have own := keyed.found_own found
    rw [follow_of_read? (Announcement.read?_payment _ _ _ _)]
    exact knows.modify own rfl

namespace Ledger

theorem trail_concat (entries : List Entry) (entry : Entry) :
    trail (entries ++ [entry]) =
      (entry.attributes? (entry.effect (Book.after entries).records).answer).toList.foldl
        Trail.follow (trail entries) := by
  have same : Event.attributes? ⟨after entries, entry⟩ =
      entry.attributes? (entry.effect (Book.after entries).records).answer :=
    congrArg entry.attributes? ((holds_after entries).answer entry)
  rw [trail, history_concat, List.filterMap_append, List.foldl_append, List.filterMap_cons, same]
  cases entry.attributes? (entry.effect (Book.after entries).records).answer <;> rfl

theorem knows_trail (entries : List Entry) : (trail entries).Knows (Book.after entries) := by
  induction entries using List.reverseRecOn with
  | nil => exact Trail.knows_empty
  | append_singleton entries entry ih =>
    rw [trail_concat, Book.after_concat]
    exact ih.perform (Book.keyed_after entries) entry

/-- What a payment shows fits the payable as it is found much later. -/
theorem showsPayment_of_paid {past future : List Entry} {entry : Entry} {uuid : String}
    {call : Call} {response : Response}
    (paid : Event.deed uuid ⟨after past, entry⟩ = .paid call response) :
    ∃ payable, (Book.after (past ++ entry :: future)).payable? uuid = some payable ∧
      ShowsPayment response.attributes uuid payable.payee := by
  have step := step_after past entry uuid
  have keyed := Book.keyed_after (past ++ [entry]) uuid
  rw [paid] at step
  generalize (Book.after past).payable? uuid = met,
    reached : (Book.after (past ++ [entry])).payable? uuid = left at step
  cases step with
  | @paid payable _ config amount division configured counted divided =>
    have own := keyed _ reached
    obtain ⟨later, found, becomes⟩ := becomes_append reached future
    rw [← List.append_cons] at found
    refine ⟨later, found, ?_⟩
    rw [becomes.payee, ← own]
    exact Payment.showsPayment_attributes divided _ call.sender

end Ledger

/-- In every run, whoever starts an entry for each registration that is announced, and brings it up
to date by what the approvals and payments announce, has the kind, oracle, denomination, total,
scope, rest and status of every payable as it is stored, and no entry for anything else. The fee and
the net amount that a payment shows add up to the amount that it shows, and its payee is the one of
the stored payable. -/
theorem event_trail_faithful (entries : List Entry) :
    (∀ uuid, ∃ payable?, (Ledger.after entries).records.payable? uuid = .ok payable? ∧
        (Ledger.trail entries)[uuid]? = payable?.map Payable.report) ∧
      ∀ event ∈ Ledger.history entries, ∀ uuid call response,
        event.deed uuid = .paid call response →
        ∃ payable, (Ledger.after entries).records.payable uuid = .ok payable ∧
          ShowsPayment response.attributes uuid payable.payee := by
  constructor
  · intro uuid
    refine ⟨(Book.after entries).payable? uuid, ?_, Ledger.knows_trail entries uuid⟩
    rw [(Ledger.holds_after entries).records, Book.payable?_records]
  · rintro ⟨before, entry⟩ took uuid call response paid
    obtain ⟨past, future, rfl, rfl⟩ := Ledger.mem_history took
    obtain ⟨payable, found, shows⟩ := Ledger.showsPayment_of_paid paid
    exact ⟨payable, Ledger.payable_eq_ok_iff.2 found, shows⟩

/-- The trail of `partialRun`, and its last call, which is a payment. -/
theorem event_trail_faithful_partialRun :
    (Ledger.trail partialRun)["p"]? = some partlyPaid.report ∧
      ∃ event ∈ Ledger.history partialRun, ∃ call response,
        event.deed "p" = .paid call response ∧
          ShowsPayment response.attributes "p" "payee" := by
  obtain ⟨knows, shows⟩ := event_trail_faithful partialRun
  constructor
  · obtain ⟨payable?, found, known⟩ := knows "p"
    rw [(Ledger.holds_after partialRun).records, Book.payable?_records, payable?_partialRun,
      Except.ok.injEq] at found
    rw [known, ← found, Option.map_some]
  · have took := Ledger.deed_mem_deeds "p" (partialRun.take 3)
      (.execute [] ⟨"payer", [⟨"usd", ⟨400, by decide⟩⟩]⟩ (.pay ⟨"p"⟩)) []
    rw [Ledger.deed_eq] at took
    obtain ⟨event, took, deed⟩ := List.mem_map.1 took
    have paid : ∃ call response, event.deed "p" = .paid call response := ⟨_, _, deed⟩
    obtain ⟨call, response, paid⟩ := paid
    obtain ⟨payable, found, shown⟩ := shows event took "p" call response paid
    rw [Ledger.payable_eq_ok_iff, payable?_partialRun, Option.some.injEq] at found
    subst found
    exact ⟨event, took, call, response, paid, shown⟩

end PayableLedger
