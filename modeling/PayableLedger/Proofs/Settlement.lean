import PayableLedger.Proofs.Balance
import PayableLedger.Proofs.Execution

set_option autoImplicit false

namespace PayableLedger

namespace Book

/-- Wherever there is a payable, it has a name and there are settings. -/
def Founded (book : Book) : Prop :=
  ∀ uuid payable, book.payable? uuid = some payable →
    uuid ≠ "" ∧ ∃ config, book.configuration? = some config

theorem founded_empty : empty.Founded := by
  intro uuid payable found
  rw [payable?_empty] at found
  cases found

variable {book : Book}

theorem Founded.apply_configuration (founded : book.Founded) (config : Configuration) :
    (book.apply (.configuration config)).Founded := by
  intro uuid payable found
  exact ⟨(founded uuid payable found).1, config, rfl⟩

theorem Founded.apply_payable (founded : book.Founded) {written : Payable}
    (named : written.uuid ≠ "") (configured : ∃ config, book.configuration? = some config) :
    (book.apply (.payable written)).Founded := by
  intro uuid payable found
  rw [payable?_apply_payable] at found
  split at found
  · next own => exact ⟨own ▸ named, configured⟩
  · exact founded uuid payable found

theorem Founded.apply_found (founded : book.Founded) {old new : Payable}
    (found : book.payable? old.uuid = some old) (same : new.uuid = old.uuid) :
    (book.apply (.payable new)).Founded := by
  obtain ⟨named, configured⟩ := founded old.uuid old found
  exact founded.apply_payable (same ▸ named) configured

/-- A registration asks for settings, and no call takes them away again. -/
theorem Founded.perform (founded : book.Founded) (keyed : book.Keyed) (entry : Entry) :
    (book.perform entry).Founded := by
  have yields := entry.yields_effect book.records
  unfold Book.perform
  generalize entry.effect book.records = effect at yields ⊢
  cases yields with
  | refused => exact founded
  | unbound => exact founded.apply_configuration _
  | instantiated => exact founded.apply_configuration _
  | migrated => exact founded.apply_configuration _
  | answered => exact founded
  | registered valid accepted =>
    obtain ⟨_, _, _, named, _⟩ := Execution.validate_register_eq_ok_iff.1 valid
    obtain ⟨_, _, _, config, configured, _⟩ := Registration.accept_eq_ok_iff.1 accepted
    exact founded.apply_payable named ⟨config, configuration_records_eq_ok_iff.1 configured⟩
  | approved valid free found oracle pending =>
    exact founded.apply_found (keyed.found_own found) rfl
  | paid valid configured found counted divided =>
    exact founded.apply_found (keyed.found_own found) rfl

theorem founded_after (entries : List Entry) : (after entries).Founded := by
  induction entries using List.reverseRecOn with
  | nil => exact founded_empty
  | append_singleton entries entry ih =>
    rw [after_concat]
    exact ih.perform (keyed_after entries) entry

end Book

namespace Payment

variable {payable : Payable}

theorem amountOf_remaining (begun : payable.status = .approved ∨ payable.status = .partiallyPaid)
    (owed : payable.remaining.units ≠ 0) :
    amountOf payable [⟨payable.denom, payable.remaining⟩] = .ok payable.remaining := by
  apply amountOf_eq_ok_iff.2
  refine ⟨begun, ?_, ?_, owed, Nat.le_refl _⟩
  · simp
  · exact List.sum_singleton.symm

/-- Whatever the status was, the payable is paid when the whole rest is. -/
theorem afterPayment_remaining (payable : Payable) :
    afterPayment payable payable.remaining =
      { payable with remaining := .zero, status := .paid } := by
  have nothing : payable.remaining.minus payable.remaining = .zero := by
    apply Amount.ext
    exact Nat.sub_self _
  rw [afterPayment, nothing]
  rfl

end Payment

/-- One payment of all that remains, in one coin and by whomever, pays the payable. -/
def Store.PaysOff (store : Store) (uuid : String) (payable : Payable) : Prop :=
  ∀ scopes payer, ∃ response left,
    Ledger.execute store scopes ⟨payer, [⟨payable.denom, payable.remaining⟩]⟩ (.pay ⟨uuid⟩) =
        ⟨.ok response, left⟩ ∧
      left.records.payable uuid = .ok { payable with remaining := .zero, status := .paid }

namespace Ledger

variable {entries : List Entry} {uuid : String} {payable : Payable}

theorem founded (found : (after entries).records.payable uuid = .ok payable) :
    uuid ≠ "" ∧ ∃ config, (after entries).records.configuration = .ok config := by
  obtain ⟨named, config, configured⟩ :=
    Book.founded_after entries uuid payable (payable_eq_ok_iff.1 found)
  exact ⟨named, config, configuration_eq_ok_iff.2 configured⟩

theorem balanced (found : (after entries).records.payable uuid = .ok payable) :
    payable.Balanced :=
  Book.balanced_after entries uuid payable (payable_eq_ok_iff.1 found)

/-- After a run, payments on a payable are decided on the payable alone. -/
theorem due (found : (after entries).records.payable uuid = .ok payable) :
    payable.uuid = uuid ∧ (after entries).Due payable := by
  obtain ⟨named, config, configured⟩ := founded found
  have own : payable.uuid = uuid := keyed_after entries uuid payable found
  subst own
  exact ⟨rfl, named, found, config, configured, sound_of_configured configured⟩

/-- The settings are there, and their percentage cannot make the fee fail. -/
theorem paysOff (found : (after entries).records.payable uuid = .ok payable)
    (begun : payable.status = .approved ∨ payable.status = .partiallyPaid) :
    (after entries).PaysOff uuid payable := by
  intro scopes payer
  obtain ⟨rfl, due⟩ := Ledger.due found
  have owed : payable.remaining.units ≠ 0 := by
    intro nothing
    have paid := (balanced found).paid_iff.2 nothing
    rw [paid] at begun
    simp at begun
  have counted := Payment.amountOf_remaining begun owed
  obtain ⟨response, pays⟩ :=
    due.pay scopes ⟨payer, [⟨payable.denom, payable.remaining⟩]⟩ counted
  rw [Payment.afterPayment_remaining] at pays
  exact ⟨response, _, pays, Store.payable_apply_payable⟩

theorem approve (found : (after entries).records.payable uuid = .ok payable)
    (pending : payable.status = .pending) (scopes : ScopeTable) :
    ∃ response left,
      execute (after entries) scopes ⟨payable.oracle, []⟩ (.approve ⟨uuid⟩) =
          ⟨.ok response, left⟩ ∧
        left.records.payable uuid = .ok { payable with status := .approved } := by
  obtain ⟨named, _⟩ := founded found
  have own : payable.uuid = uuid := keyed_after entries uuid payable found
  have approves := Approval.approve_eq_ok_iff.2 ⟨rfl, pending, rfl⟩
  have decided : (⟨uuid⟩ : Approval).decide (after entries).records ⟨payable.oracle, []⟩ = .ok _ :=
    Approval.decide_eq_ok_iff.2 ⟨rfl, payable, found, _, approves, rfl, rfl⟩
  refine ⟨_, _, execute_of_ok ((Execution.verdict_approve named scopes).trans decided), ?_⟩
  subst own
  exact Store.payable_apply_payable

end Ledger

/-- In every state of every run, a payable that is not yet paid is waiting for its oracle, whose
approval then goes through and leaves a payable that one payment pays off, or it is approved
already, and one payment pays it off at once. The payment is one coin over all that remains, from
whomever, and its fee cannot fail. -/
theorem payable_never_stuck (entries : List Entry) {uuid : String} {payable : Payable}
    (found : (Ledger.after entries).records.payable uuid = .ok payable)
    (unpaid : payable.status ≠ .paid) :
    (payable.status = .pending ∧ ∀ scopes, ∃ response left,
        Ledger.execute (Ledger.after entries) scopes ⟨payable.oracle, []⟩ (.approve ⟨uuid⟩) =
            ⟨.ok response, left⟩ ∧
          left.PaysOff uuid payable) ∨
      (payable.status = .approved ∨ payable.status = .partiallyPaid) ∧
        (Ledger.after entries).PaysOff uuid payable := by
  cases status : payable.status with
  | pending =>
    left
    refine ⟨rfl, fun scopes => ?_⟩
    obtain ⟨response, left, approves, approved⟩ := Ledger.approve found status scopes
    have reached : left = Ledger.after
        (entries ++ [.execute scopes ⟨payable.oracle, []⟩ (.approve ⟨uuid⟩)]) := by
      rw [Ledger.after_concat]
      exact (congrArg Result.store approves).symm
    rw [reached] at approved
    have paysOff := Ledger.paysOff approved (.inl rfl)
    exact ⟨response, left, approves, reached ▸ paysOff⟩
  | approved => exact .inr ⟨.inl rfl, Ledger.paysOff found (.inl status)⟩
  | partiallyPaid => exact .inr ⟨.inr rfl, Ledger.paysOff found (.inr status)⟩
  | rejected => exact absurd status (Ledger.balanced found).not_rejected
  | paid => exact absurd status unpaid

/-- After the registration of `partialRun`. -/
theorem payable_never_stuck_partialRun :
    (partialRegistration.toPayable "payee").status ≠ .paid ∧
      ∃ response left,
        Ledger.execute (Ledger.after (partialRun.take 2)) [] ⟨"oracle", []⟩ (.approve ⟨"p"⟩) =
            ⟨.ok response, left⟩ ∧
          left.PaysOff "p" (partialRegistration.toPayable "payee") := by
  have found : (Ledger.after (partialRun.take 2)).records.payable "p" =
      .ok (partialRegistration.toPayable "payee") :=
    Ledger.payable_eq_ok_iff.2 (by decide)
  have unpaid : (partialRegistration.toPayable "payee").status ≠ .paid := by decide
  refine ⟨unpaid, ?_⟩
  rcases payable_never_stuck (partialRun.take 2) found unpaid with ⟨_, approves⟩ | ⟨begun, _⟩
  · exact approves []
  · exact absurd begun (by decide)

end PayableLedger
