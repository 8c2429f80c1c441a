import PayableLedger.Proofs.Deed

set_option autoImplicit false

namespace PayableLedger

open Json (decode? encode)

/-- The amounts of a payable and its status agree. -/
structure Payable.Balanced (payable : Payable) : Prop where
  total_ne_zero : payable.total.units ≠ 0
  remaining_le : payable.remaining.units ≤ payable.total.units
  unpaid_iff : payable.status = .pending ∨ payable.status = .approved ↔
    payable.remaining.units = payable.total.units
  partiallyPaid_iff : payable.status = .partiallyPaid ↔
    0 < payable.remaining.units ∧ payable.remaining.units < payable.total.units
  paid_iff : payable.status = .paid ↔ payable.remaining.units = 0
  not_rejected : payable.status ≠ .rejected

namespace Payable

theorem balanced_toPayable {registration : Registration}
    (positive : registration.total.units ≠ 0) (payee : String) :
    (registration.toPayable payee).Balanced := by
  constructor <;> simp [Registration.toPayable, positive]

theorem Balanced.approved {payable : Payable} (balanced : payable.Balanced)
    (pending : payable.status = .pending) :
    ({ payable with status := .approved } : Payable).Balanced := by
  have untouched := balanced.unpaid_iff.1 (.inl pending)
  have positive := balanced.total_ne_zero
  constructor <;> simp [untouched, positive]

theorem Balanced.afterPayment {payable : Payable} (balanced : payable.Balanced) {amount : Amount}
    (positive : amount.units ≠ 0) (within : amount.units ≤ payable.remaining.units) :
    (Payment.afterPayment payable amount).Balanced := by
  have le := balanced.remaining_le
  have left : (payable.remaining.minus amount).units = payable.remaining.units - amount.units :=
    rfl
  by_cases nothing : (payable.remaining.minus amount).isZero = true
  · have zero := Amount.isZero_iff.1 nothing
    constructor <;> simp [Payment.afterPayment, nothing] <;> omega
  · have more := mt Amount.isZero_iff.2 nothing
    constructor <;> simp [Payment.afterPayment, nothing] <;> omega

theorem Step.balanced {config? : Option Configuration} {before after : Option Payable}
    {deed : Deed} (step : Step config? before deed after)
    (balanced : ∀ payable, before = some payable → payable.Balanced) :
    ∀ payable, after = some payable → payable.Balanced := by
  rintro _ rfl
  cases step with
  | nothing => exact balanced _ rfl
  | registered positive => exact balanced_toPayable positive _
  | approved free oracle pending => exact (balanced _ rfl).approved pending
  | paid configured counted divided =>
    obtain ⟨_, _, _, positive, within⟩ := Payment.amountOf_eq_ok_iff.1 counted
    exact (balanced _ rfl).afterPayment positive within

end Payable

theorem Book.balanced_after (entries : List Entry) (uuid : String) :
    ∀ payable, (after entries).payable? uuid = some payable → payable.Balanced := by
  induction entries using List.reverseRecOn with
  | nil => intro payable found; cases payable?_empty uuid ▸ found
  | append_singleton entries entry ih => exact (Ledger.step_after entries entry uuid).balanced ih

def partialRegistration : Registration :=
  ⟨"invoice", "p", "s", "oracle", "usd", ⟨1000, by decide⟩⟩

/-- A run through all that can happen to a payable before its last payment. -/
def partialRun : List Entry := [
  .instantiate "contract" ⟨"admin", []⟩
    ⟨"registry", some "collector", some ⟨50000000000000000, by decide⟩, none, none, some true⟩,
  .execute [] ⟨"payee", []⟩ (.register partialRegistration),
  .execute [] ⟨"oracle", []⟩ (.approve ⟨"p"⟩),
  .execute [] ⟨"payer", [⟨"usd", ⟨400, by decide⟩⟩]⟩ (.pay ⟨"p"⟩)]

def partlyPaid : Payable :=
  ⟨"p", "s", "oracle", "invoice", "usd", ⟨1000, by decide⟩, ⟨600, by decide⟩, .partiallyPaid,
    "payee"⟩

theorem payable?_partialRun : (Book.after partialRun).payable? "p" = some partlyPaid := by decide

theorem registered_partialRun :
    .registered partialRegistration ⟨"payee", []⟩ ∈ deeds "p" (Ledger.history partialRun) := by
  have deed := Ledger.deed_mem_deeds "p" (partialRun.take 1)
    (.execute [] ⟨"payee", []⟩ (.register partialRegistration)) (partialRun.drop 2)
  rw [Ledger.deed_eq] at deed
  exact deed

/-- Whatever lies in the bucket of the payables after a run is the text of a payable, under the
uuid of that payable, with amounts that agree with its status. -/
theorem stored_payable_balanced (entries : List Entry) (rest : Key) (text : String)
    (stored : (Ledger.after entries).get? (Key.inSpace Key.payableSpace rest) = some text) :
    ∃ uuid payable, rest = Key.ofText uuid ∧ decode? Payable text = some payable ∧
      payable.uuid = uuid ∧ payable.Balanced := by
  obtain ⟨uuid, payable, rfl, found, rfl⟩ := (Ledger.holds_after entries).bucket stored
  exact ⟨uuid, payable, rfl, payable.decode?_encode, Book.keyed_after entries uuid payable found,
    Book.balanced_after entries uuid payable found⟩

theorem stored_payable_balanced_partialRun :
    (Ledger.after partialRun).get? (Key.payable "p") = some (encode partlyPaid) ∧
      ∃ uuid payable, Key.ofText "p" = Key.ofText uuid ∧
        decode? Payable (encode partlyPaid) = some payable ∧ payable.uuid = uuid ∧
        payable.Balanced := by
  have stored : (Ledger.after partialRun).get? (Key.payable "p") = some (encode partlyPaid) := by
    rw [(Ledger.holds_after partialRun).payable, payable?_partialRun, Option.map_some]
  exact ⟨stored, stored_payable_balanced partialRun (Key.ofText "p") _ stored⟩

namespace Deed

def approvals : Deed → Nat
  | .approved _ => 1
  | _ => 0

end Deed

/-- What the deeds of some events on a payable weigh together. -/
def weight (weigh : Deed → Nat) (uuid : String) (events : List Event) : Nat :=
  ((deeds uuid events).map weigh).sum

namespace Ledger

@[simp] theorem weight_concat (weigh : Deed → Nat) (uuid : String) (entries : List Entry)
    (entry : Entry) :
    weight weigh uuid (history (entries ++ [entry])) =
      weight weigh uuid (history entries) + weigh (Event.deed uuid ⟨after entries, entry⟩) := by
  rw [weight, deeds_concat, List.map_append, List.sum_append]
  rfl

theorem weight_ne_zero_iff {weigh : Deed → Nat} {uuid : String} {events : List Event} :
    weight weigh uuid events ≠ 0 ↔ ∃ deed ∈ deeds uuid events, weigh deed ≠ 0 := by
  rw [weight, Ne, List.sum_eq_zero_iff_forall_eq_nat]
  simp

/-- A number that each step raises by the weight of its deed is the weight of all deeds so far.
The steps may rely on the balance of the payable that they meet. -/
theorem weight_history (weigh : Deed → Nat) (measure : Option Payable → Nat)
    (absent : measure none = 0)
    (step : ∀ {config? before deed after}, Payable.Step config? before deed after →
      (∀ payable, before = some payable → payable.Balanced) →
      measure after = measure before + weigh deed)
    (entries : List Entry) (uuid : String) :
    weight weigh uuid (history entries) = measure ((Book.after entries).payable? uuid) := by
  induction entries using List.reverseRecOn with
  | nil =>
    rw [Book.after_nil, Book.payable?_empty, absent]
    rfl
  | append_singleton entries entry ih =>
    rw [weight_concat, ih]
    exact (step (step_after entries entry uuid) (Book.balanced_after entries uuid)).symm

end Ledger

end PayableLedger
