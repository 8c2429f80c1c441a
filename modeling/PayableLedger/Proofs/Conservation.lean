import PayableLedger.Proofs.Lifecycle

set_option autoImplicit false

namespace PayableLedger

def Message.units : Message → Nat
  | .send _ coin => coin.amount.units
  | .bindName _ _ => 0

/-- The message sends something in the denomination of the payable, to its payee or to the
collector. -/
def Message.Passes (payable : Payable) (collector : Option String) : Message → Prop
  | .send recipient coin =>
    coin.denom = payable.denom ∧ coin.amount.units ≠ 0 ∧
      (recipient = payable.payee ∨ collector = some recipient)
  | .bindName _ _ => False

namespace Deed

def received : Deed → Nat
  | .paid call _ => unitsOf call.funds
  | _ => 0

def sent : Deed → Nat
  | .paid _ response => (response.messages.map Message.units).sum
  | _ => 0

end Deed

namespace Payment

variable {payable : Payable} {config : Configuration} {amount : Amount} {division : FeeSplit}

theorem units_sendNonzero (recipient denom : String) (amount : Amount) :
    ((sendNonzero recipient denom amount).map Message.units).sum = amount.units := by
  rw [sendNonzero]
  split
  · next zero => exact (Amount.isZero_iff.1 zero).symm
  · exact List.sum_singleton

theorem units_messages (divided : config.splitFee amount = .ok division) :
    ((messages payable division).map Message.units).sum = amount.units := by
  rw [← Configuration.fee_add_net divided, messages, List.map_append, List.sum_append,
    units_sendNonzero]
  rcases Configuration.collector_of_splitFee divided with ⟨collector, collects, _⟩ | ⟨free, zero⟩
  · rw [collects, units_sendNonzero, Nat.add_comm]
  · rw [free, zero]
    exact (Nat.zero_add _).symm

theorem passes_sendNonzero {collector : Option String} {recipient : String}
    (named : recipient = payable.payee ∨ collector = some recipient) :
    ∀ message ∈ sendNonzero recipient payable.denom amount, message.Passes payable collector := by
  intro message sends
  rw [sendNonzero] at sends
  split at sends
  · cases sends
  · next positive =>
    rw [List.mem_singleton] at sends
    subst sends
    exact ⟨rfl, mt Amount.isZero_iff.2 positive, named⟩

theorem passes_messages (divided : config.splitFee amount = .ok division) :
    ∀ message ∈ messages payable division, message.Passes payable config.feeCollector := by
  intro message sends
  rw [messages, List.mem_append] at sends
  rcases sends with sends | sends
  · exact passes_sendNonzero (.inl rfl) message sends
  · rcases Configuration.collector_of_splitFee divided with
      ⟨collector, collects, configured⟩ | ⟨free, _⟩
    · rw [collects] at sends
      exact passes_sendNonzero (.inr configured) message sends
    · rw [free] at sends
      cases sends

end Payment

namespace Payable

def paidOff : Option Payable → Nat
  | none => 0
  | some payable => payable.total.units - payable.remaining.units

variable {config? : Option Configuration} {before after : Option Payable} {deed : Deed}

theorem Step.sent_eq_received (step : Step config? before deed after) :
    deed.sent = deed.received := by
  cases step with
  | paid configured counted divided =>
    obtain ⟨_, _, summed, _⟩ := Payment.amountOf_eq_ok_iff.1 counted
    exact (Payment.units_messages divided).trans summed
  | _ => rfl

theorem Step.paidOff (step : Step config? before deed after)
    (balanced : ∀ payable, before = some payable → payable.Balanced) :
    paidOff after = paidOff before + deed.received := by
  cases step with
  | nothing => rfl
  | registered positive => exact Nat.sub_self _
  | approved free oracle pending => rfl
  | @paid payable call config amount division configured counted divided =>
    obtain ⟨_, _, summed, _, within⟩ := Payment.amountOf_eq_ok_iff.1 counted
    have le := (balanced payable rfl).remaining_le
    have left : (Payment.afterPayment payable amount).remaining.units =
        payable.remaining.units - amount.units := rfl
    have total : (Payment.afterPayment payable amount).total = payable.total := rfl
    simp only [Payable.paidOff, Deed.received, left, total]
    omega

theorem Becomes.passes {payable later : Payable} {collector : Option String} {message : Message}
    (becomes : payable.Becomes later) (passes : message.Passes payable collector) :
    message.Passes later collector := by
  cases message with
  | bindName name address => exact passes
  | send recipient coin =>
    obtain ⟨denom, positive, named⟩ := passes
    exact ⟨denom.trans becomes.denom.symm, positive, becomes.payee ▸ named⟩

end Payable

namespace Ledger

theorem received_history (entries : List Entry) (uuid : String) :
    weight Deed.received uuid (history entries) =
      Payable.paidOff ((Book.after entries).payable? uuid) :=
  weight_history _ _ rfl Payable.Step.paidOff entries uuid

theorem sent_history (entries : List Entry) (uuid : String) :
    weight Deed.sent uuid (history entries) =
      Payable.paidOff ((Book.after entries).payable? uuid) :=
  weight_history _ _ rfl (fun step balanced => step.sent_eq_received ▸ step.paidOff balanced)
    entries uuid

/-- What a payment sends on fits the payable as it is found much later, and the settings that the
payment met. -/
theorem passes_of_paid {past future : List Entry} {entry : Entry} {uuid : String}
    {payable : Payable} {call : Call} {response : Response}
    (found : (Book.after (past ++ entry :: future)).payable? uuid = some payable)
    (paid : Event.deed uuid ⟨after past, entry⟩ = .paid call response) :
    ∃ config, (after past).records.configuration = .ok config ∧
      ∀ message ∈ response.messages, message.Passes payable config.feeCollector := by
  have step := step_after past entry uuid
  rw [paid] at step
  obtain ⟨_, config, amount, division, _, configured, _, divided, reached, messages⟩ := step.of_paid
  rw [List.append_cons] at found
  have becomes := becomes_of_append reached found
  refine ⟨config, ?_, ?_⟩
  · rw [(holds_after past).records, Book.configuration_records_eq_ok_iff, configured]
  · intro message sends
    rw [messages] at sends
    exact becomes.passes (Payment.passes_messages divided message sends)

end Ledger

/-- What was paid off a registered payable is what all its payments brought in, added up, and what
all their messages sent. Each message sent something in the payable's denomination, to its payee or
to the fee collector that was configured when the payment was made. -/
theorem payments_conserved (entries : List Entry) {uuid : String} {registration : Registration}
    {call : Call}
    (registered : .registered registration call ∈ deeds uuid (Ledger.history entries)) :
    ∃ payable, (Ledger.after entries).records.payable uuid = .ok payable ∧
      payable.remaining.units ≤ payable.total.units ∧
      payable.total.units - payable.remaining.units =
        weight Deed.received uuid (Ledger.history entries) ∧
      payable.total.units - payable.remaining.units =
        weight Deed.sent uuid (Ledger.history entries) ∧
      ∀ event ∈ Ledger.history entries, ∀ payer response,
        event.deed uuid = .paid payer response →
        ∃ config, event.before.records.configuration = .ok config ∧
          ∀ message ∈ response.messages, message.Passes payable config.feeCollector := by
  obtain ⟨payable, found, _⟩ := Ledger.becomes_of_registered registered
  have received := Ledger.received_history entries uuid
  have sent := Ledger.sent_history entries uuid
  rw [found] at received sent
  refine ⟨payable, Ledger.payable_eq_ok_iff.2 found,
    (Book.balanced_after entries uuid payable found).remaining_le, received.symm, sent.symm, ?_⟩
  rintro ⟨before, entry⟩ took payer response paid
  obtain ⟨past, future, rfl, rfl⟩ := Ledger.mem_history took
  exact Ledger.passes_of_paid found paid

theorem payments_conserved_partialRun :
    .registered partialRegistration ⟨"payee", []⟩ ∈ deeds "p" (Ledger.history partialRun) ∧
      weight Deed.received "p" (Ledger.history partialRun) = 400 ∧
      weight Deed.sent "p" (Ledger.history partialRun) = 400 := by
  obtain ⟨payable, found, _, received, sent, _⟩ :=
    payments_conserved partialRun registered_partialRun
  rw [Ledger.payable_eq_ok_iff, payable?_partialRun, Option.some.injEq] at found
  subst found
  exact ⟨registered_partialRun, received.symm, sent.symm⟩

end PayableLedger
