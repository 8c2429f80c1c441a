import Mathlib.Logic.Relation
import PayableLedger.Proofs.Balance

set_option autoImplicit false

namespace PayableLedger

open Relation (ReflTransGen)

/-- The moves that one call can make a payable's status do. -/
inductive PayableStatus.Next : PayableStatus → PayableStatus → Prop
  | approve : Next .pending .approved
  | payPart : Next .approved .partiallyPaid
  | payWhole : Next .approved .paid
  | payMore : Next .partiallyPaid .partiallyPaid
  | payRest : Next .partiallyPaid .paid

theorem PayableStatus.not_next_pending (status : PayableStatus) : ¬ status.Next .pending := nofun

theorem PayableStatus.not_paid_next (status : PayableStatus) : ¬ paid.Next status := nofun

namespace Payable

/-- What a payable can become: the terms stay, and what changes does so in one direction. -/
structure Becomes (payable later : Payable) : Prop where
  uuid : later.uuid = payable.uuid
  scopeId : later.scopeId = payable.scopeId
  oracle : later.oracle = payable.oracle
  kind : later.kind = payable.kind
  denom : later.denom = payable.denom
  total : later.total = payable.total
  payee : later.payee = payable.payee
  remaining_le : later.remaining.units ≤ payable.remaining.units
  forward : ReflTransGen PayableStatus.Next payable.status later.status
  final : payable.status = .paid → later = payable

variable {payable middle later : Payable} {config? : Option Configuration} {deed : Deed}
  {after : Option Payable}

theorem Becomes.refl (payable : Payable) : payable.Becomes payable :=
  ⟨rfl, rfl, rfl, rfl, rfl, rfl, rfl, Nat.le_refl _, .refl, fun _ => rfl⟩

theorem Becomes.trans (first : payable.Becomes middle) (second : middle.Becomes later) :
    payable.Becomes later where
  uuid := second.uuid.trans first.uuid
  scopeId := second.scopeId.trans first.scopeId
  oracle := second.oracle.trans first.oracle
  kind := second.kind.trans first.kind
  denom := second.denom.trans first.denom
  total := second.total.trans first.total
  payee := second.payee.trans first.payee
  remaining_le := Nat.le_trans second.remaining_le first.remaining_le
  forward := first.forward.trans second.forward
  final paid := by
    have kept := first.final paid
    subst kept
    exact second.final paid

theorem status_afterPayment (amount : Amount)
    (begun : payable.status = .approved ∨ payable.status = .partiallyPaid) :
    payable.status.Next (Payment.afterPayment payable amount).status := by
  simp only [Payment.afterPayment]
  rcases begun with approved | partly
  · rw [approved]
    split
    · exact .payWhole
    · exact .payPart
  · rw [partly]
    split
    · exact .payRest
    · exact .payMore

theorem Becomes.of_next {remaining : Amount} {status : PayableStatus}
    (moved : payable.status.Next status) (le : remaining.units ≤ payable.remaining.units) :
    payable.Becomes { payable with remaining := remaining, status := status } where
  uuid := rfl
  scopeId := rfl
  oracle := rfl
  kind := rfl
  denom := rfl
  total := rfl
  payee := rfl
  remaining_le := le
  forward := .single moved
  final paid := by
    rw [paid] at moved
    exact absurd moved (PayableStatus.not_paid_next status)

theorem Step.becomes (step : Step config? (some payable) deed after) :
    ∃ next, after = some next ∧ (next = payable ∨ payable.status.Next next.status) ∧
      payable.Becomes next := by
  cases step with
  | nothing => exact ⟨payable, rfl, .inl rfl, .refl payable⟩
  | approved free oracle pending =>
    have moved : payable.status.Next .approved := pending ▸ .approve
    exact ⟨_, rfl, .inr moved, .of_next moved (Nat.le_refl _)⟩
  | @paid _ call config amount division configured counted divided =>
    obtain ⟨begun, _⟩ := Payment.amountOf_eq_ok_iff.1 counted
    have moved := status_afterPayment amount begun
    exact ⟨_, rfl, .inr moved, .of_next moved (Nat.sub_le _ _)⟩

theorem ne_pending_of_counted {funds : List Coin} {amount : Amount}
    (counted : Payment.amountOf payable funds = .ok amount) : payable.status ≠ .pending := by
  obtain ⟨begun, _⟩ := Payment.amountOf_eq_ok_iff.1 counted
  rcases begun with approved | partly
  · simp [approved]
  · simp [partly]

def approvals : Option Payable → Nat
  | none => 0
  | some payable => if payable.status = .pending then 0 else 1

theorem Step.approvals {before : Option Payable} (step : Step config? before deed after) :
    approvals after = approvals before + deed.approvals := by
  cases step with
  | nothing => rfl
  | registered positive => rfl
  | approved free oracle pending => simp [Payable.approvals, Deed.approvals, pending]
  | @paid payable call config amount division configured counted divided =>
    obtain ⟨begun, _⟩ := Payment.amountOf_eq_ok_iff.1 counted
    have settled : (Payment.afterPayment payable amount).status ≠ .pending := by
      intro pending
      exact PayableStatus.not_next_pending _ (pending ▸ status_afterPayment amount begun)
    simp only [Payable.approvals, if_neg settled, if_neg (ne_pending_of_counted counted),
      Deed.approvals]

end Payable

def Entry.target? : Entry → Option String
  | .execute _ _ (.register registration) => some registration.uuid
  | .execute _ _ (.approve approval) => some approval.uuid
  | .execute _ _ (.pay payment) => some payment.uuid
  | _ => none

theorem Entry.deed_of_target_ne {entry : Entry} {uuid : String}
    (elsewhere : entry.target? ≠ some uuid) (answer : Except Failure Reply) :
    entry.deed uuid answer = .nothing := by
  have apart : ∀ named, entry.target? = some named → named ≠ uuid := by
    intro named target same
    rw [target, same] at elsewhere
    exact elsewhere rfl
  cases answer with
  | error failure => exact entry.deed_refused uuid failure
  | ok reply =>
    cases entry with
    | execute scopes call request =>
      cases request with
      | register registration => exact if_neg (apart registration.uuid rfl)
      | approve approval => exact if_neg (apart approval.uuid rfl)
      | pay payment =>
        cases reply with
        | response response => exact if_neg (apart payment.uuid rfl)
        | text json => rfl
    | _ => rfl

namespace Ledger

variable {past : List Entry} {uuid : String} {payable : Payable}

theorem becomes_append (found : (Book.after past).payable? uuid = some payable)
    (future : List Entry) :
    ∃ later, (Book.after (past ++ future)).payable? uuid = some later ∧
      payable.Becomes later := by
  induction future using List.reverseRecOn with
  | nil => exact ⟨payable, by rw [List.append_nil, found], .refl payable⟩
  | append_singleton future entry ih =>
    obtain ⟨middle, reached, first⟩ := ih
    have step := step_after (past ++ future) entry uuid
    rw [reached, List.append_assoc] at step
    obtain ⟨later, left, _, second⟩ := step.becomes
    exact ⟨later, left, first.trans second⟩

/-- What is found after a run has become of all that was found on the way. -/
theorem becomes_of_append {future : List Entry} {earlier : Payable}
    (met : (Book.after past).payable? uuid = some earlier)
    (found : (Book.after (past ++ future)).payable? uuid = some payable) :
    earlier.Becomes payable := by
  obtain ⟨later, left, becomes⟩ := becomes_append met future
  rw [found, Option.some.injEq] at left
  exact left ▸ becomes

theorem becomes_of_registered {entries : List Entry} {registration : Registration} {call : Call}
    (done : .registered registration call ∈ deeds uuid (history entries)) :
    ∃ payable, (Book.after entries).payable? uuid = some payable ∧
      (registration.toPayable call.sender).Becomes payable := by
  obtain ⟨past, entry, future, rfl, deed⟩ := mem_deeds done
  have step := step_after past entry uuid
  rw [deed] at step
  rw [List.append_cons]
  exact becomes_append step.of_registered.2 future

theorem approvals_history (entries : List Entry) (uuid : String) :
    weight Deed.approvals uuid (history entries) =
      Payable.approvals ((Book.after entries).payable? uuid) :=
  weight_history _ _ rfl (fun step _ => step.approvals) entries uuid

theorem approved_by_oracle {entries : List Entry} {call : Call}
    (found : (Book.after entries).payable? uuid = some payable)
    (done : .approved call ∈ deeds uuid (history entries)) :
    call.sender = payable.oracle ∧ call.funds = [] := by
  obtain ⟨past, entry, future, rfl, deed⟩ := mem_deeds done
  have step := step_after past entry uuid
  rw [deed] at step
  obtain ⟨earlier, met, free, oracle⟩ := step.of_approved
  have kept := (becomes_of_append met found).oracle
  exact ⟨oracle.trans kept.symm, free⟩

theorem approved_of_paid {entry : Entry} {call : Call} {response : Response}
    (paid : Event.deed uuid ⟨after past, entry⟩ = .paid call response) :
    ∃ approval, .approved approval ∈ deeds uuid (history past) := by
  have step := step_after past entry uuid
  rw [paid] at step
  obtain ⟨payable, _, _, _, met, _, counted, _⟩ := step.of_paid
  have once := approvals_history past uuid
  rw [met, Payable.approvals, if_neg (Payable.ne_pending_of_counted counted)] at once
  have positive : weight Deed.approvals uuid (history past) ≠ 0 := by omega
  obtain ⟨deed, done, one⟩ := weight_ne_zero_iff.1 positive
  cases deed with
  | approved approval => exact ⟨approval, done⟩
  | _ => exact absurd rfl one

/-- A call about another payable, or about none, leaves what is stored under a uuid. -/
theorem get?_after_of_target_ne {entry : Entry} (elsewhere : entry.target? ≠ some uuid) :
    (after (past ++ [entry])).get? (Key.payable uuid) = (after past).get? (Key.payable uuid) := by
  have step := step_after past entry uuid
  rw [Event.deed, Entry.deed_of_target_ne elsewhere] at step
  rw [(holds_after _).payable, (holds_after _).payable, step.of_nothing]

end Ledger

/-- Once a payable was registered, it is there after every further call. It has become of what was
registered, and goes on to become; each call leaves it or moves its status by one, and a call about
another payable or about none does not touch its record. It has at most one approval, by the oracle
that it names and without funds, and before each of its payments there was one. -/
theorem registered_payable_lifecycle (past : List Entry) {uuid : String}
    {registration : Registration} {call : Call}
    (registered : .registered registration call ∈ deeds uuid (Ledger.history past)) :
    ∃ payable, (Ledger.after past).records.payable uuid = .ok payable ∧
      (registration.toPayable call.sender).Becomes payable ∧
      (∀ future, ∃ later, (Ledger.after (past ++ future)).records.payable uuid = .ok later ∧
        payable.Becomes later) ∧
      (∀ entry, ∃ next, (Ledger.after (past ++ [entry])).records.payable uuid = .ok next ∧
        (next = payable ∨ payable.status.Next next.status)) ∧
      (∀ entry, entry.target? ≠ some uuid →
        (Ledger.after (past ++ [entry])).get? (Key.payable uuid) =
          (Ledger.after past).get? (Key.payable uuid)) ∧
      weight Deed.approvals uuid (Ledger.history past) ≤ 1 ∧
      (∀ approval, .approved approval ∈ deeds uuid (Ledger.history past) →
        approval.sender = payable.oracle ∧ approval.funds = []) ∧
      ∀ earlier event later payer response, Ledger.history past = earlier ++ event :: later →
        event.deed uuid = .paid payer response →
        ∃ approval, .approved approval ∈ deeds uuid earlier := by
  obtain ⟨payable, found, origin⟩ := Ledger.becomes_of_registered registered
  refine ⟨payable, Ledger.payable_eq_ok_iff.2 found, origin, ?_, ?_, ?_, ?_, ?_, ?_⟩
  · intro future
    obtain ⟨later, reached, becomes⟩ := Ledger.becomes_append found future
    exact ⟨later, Ledger.payable_eq_ok_iff.2 reached, becomes⟩
  · intro entry
    have step := Ledger.step_after past entry uuid
    rw [found] at step
    obtain ⟨next, reached, moved, _⟩ := step.becomes
    exact ⟨next, Ledger.payable_eq_ok_iff.2 reached, moved⟩
  · intro entry elsewhere
    exact Ledger.get?_after_of_target_ne elsewhere
  · rw [Ledger.approvals_history, found, Payable.approvals]
    split <;> omega
  · intro approval done
    exact Ledger.approved_by_oracle found done
  · intro earlier event later payer response split paid
    obtain ⟨begun, rest, _, rfl, met⟩ := Ledger.history_split split
    obtain ⟨before, entry⟩ := event
    cases met
    exact Ledger.approved_of_paid paid

theorem registered_payable_lifecycle_partialRun :
    .registered partialRegistration ⟨"payee", []⟩ ∈ deeds "p" (Ledger.history partialRun) ∧
      (∀ future, ∃ later,
        (Ledger.after (partialRun ++ future)).records.payable "p" = .ok later ∧
          partlyPaid.Becomes later) ∧
      weight Deed.approvals "p" (Ledger.history partialRun) ≤ 1 := by
  obtain ⟨payable, found, _, stays, _, _, once, _⟩ :=
    registered_payable_lifecycle partialRun registered_partialRun
  rw [Ledger.payable_eq_ok_iff, payable?_partialRun, Option.some.injEq] at found
  subst found
  exact ⟨registered_partialRun, stays, once⟩

end PayableLedger
