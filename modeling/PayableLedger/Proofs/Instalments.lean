import PayableLedger.Proofs.Settlement

set_option autoImplicit false

namespace PayableLedger

/-- One of several payments on a payable, and the scopes at that time. -/
structure Instalment where
  scopes : ScopeTable
  call : Call

namespace Instalment

def entry (uuid : String) (part : Instalment) : Entry :=
  .execute part.scopes part.call (.pay ⟨uuid⟩)

def units (part : Instalment) : Nat := unitsOf part.call.funds

structure Proper (denom : String) (part : Instalment) : Prop where
  denom : ∀ coin ∈ part.call.funds, coin.denom = denom
  units_ne_zero : part.units ≠ 0

end Instalment

/-- Calls that together bring some amounts: each of them brings something in the denomination, and
the coins that are not worth nothing are one for each amount. So the amounts may come in one call
each, in any order and from whomever, or all in one call, or in any number of calls between. -/
structure Packages (denom : String) (amounts : List Amount) (parts : List Instalment) : Prop where
  proper : ∀ part ∈ parts, part.Proper denom
  amounts : (((parts.flatMap fun part => part.call.funds).map Coin.amount).filter
    fun amount => !amount.isZero).Perm amounts

/-- The payable when only a rest of it is left, or nothing. -/
def Payable.owing (payable : Payable) (rest : Amount) : Payable :=
  { payable with
    remaining := rest
    status := if rest.isZero then .paid else .partiallyPaid }

theorem Payable.status_owing {payable : Payable} {rest : Amount} (more : rest.units ≠ 0) :
    (payable.owing rest).status = .partiallyPaid := by
  have remains : rest.isZero = false := by
    rw [← Bool.not_eq_true, Amount.isZero_iff]
    exact more
  simp only [owing, remains, Bool.false_eq_true, if_false]

namespace Store

variable {store : Store} {payable : Payable} {part : Instalment}

theorem Due.owing (due : store.Due payable) (rest : Amount) :
    (store.apply (.payable (payable.owing rest))).Due (payable.owing rest) :=
  due.apply_payable rfl

/-- A payment that succeeds pays some of what remains, and leaves the rest. -/
theorem Due.rest_of_perform (due : store.Due payable) {reply : Reply}
    (succeeds : ((part.entry payable.uuid).perform store).answer = .ok reply) :
    ∃ rest : Amount, rest.units + part.units = payable.remaining.units ∧
      ((part.entry payable.uuid).perform store).store =
        store.apply (.payable (payable.owing rest)) := by
  cases counted : Payment.amountOf payable part.call.funds with
  | error cause =>
    simp only [Instalment.entry, Entry.perform, due.refuse part.scopes part.call counted]
      at succeeds
    cases succeeds
  | ok amount =>
    obtain ⟨response, pays⟩ := due.pay part.scopes part.call counted
    obtain ⟨_, _, units, _, within⟩ := Payment.amountOf_eq_ok_iff.1 counted
    refine ⟨payable.remaining.minus amount, ?_, ?_⟩
    · simp only [Amount.minus, Instalment.units]
      omega
    · simp only [Instalment.entry, Entry.perform, pays]
      rfl

theorem Due.perform_of_le (due : store.Due payable)
    (begun : payable.status = .approved ∨ payable.status = .partiallyPaid)
    (proper : part.Proper payable.denom) (within : part.units ≤ payable.remaining.units) :
    ∃ reply, ((part.entry payable.uuid).perform store).answer = .ok reply := by
  have inRange : part.units < Amount.bound := Nat.lt_of_le_of_lt within payable.remaining.units_lt
  have counted : Payment.amountOf payable part.call.funds = .ok ⟨part.units, inRange⟩ :=
    Payment.amountOf_eq_ok_iff.2 ⟨begun, proper.denom, rfl, proper.units_ne_zero, within⟩
  obtain ⟨response, pays⟩ := due.pay part.scopes part.call counted
  refine ⟨.response response, ?_⟩
  simp only [Instalment.entry, Entry.perform, pays]
  rfl

/-- Payments that all succeed leave what one payment of their sum would leave. -/
theorem Due.rest_of_succeed (due : store.Due payable) {first : Instalment}
    {others : List Instalment}
    (succeed : ∀ event ∈ store.events ((first :: others).map (Instalment.entry payable.uuid)),
      ∃ reply, event.answer = .ok reply) :
    ∃ rest : Amount,
      rest.units + ((first :: others).map Instalment.units).sum = payable.remaining.units ∧
        store.afterAll ((first :: others).map (Instalment.entry payable.uuid)) =
          store.apply (.payable (payable.owing rest)) := by
  -- Each payment after the first finds a payable that owes less by what came before.
  induction others generalizing store payable first with
  | nil =>
    rw [List.map_singleton, Store.events, List.forall_mem_cons] at succeed
    obtain ⟨⟨reply, answered⟩, _⟩ := succeed
    rw [List.map_singleton, List.map_singleton, List.sum_singleton]
    exact due.rest_of_perform answered
  | cons second others ih =>
    rw [List.map_cons, Store.events, List.forall_mem_cons] at succeed
    obtain ⟨⟨reply, answered⟩, later⟩ := succeed
    obtain ⟨left, units, next⟩ := due.rest_of_perform answered
    rw [next] at later
    obtain ⟨rest, sum, ends⟩ := ih (due.owing left) later
    refine ⟨rest, ?_, ?_⟩
    · have owed : (payable.owing left).remaining = left := rfl
      rw [owed] at sum
      rw [List.map_cons, List.sum_cons]
      omega
    · calc store.afterAll ((first :: second :: others).map (Instalment.entry payable.uuid))
        _ = ((first.entry payable.uuid).perform store).store.afterAll
              ((second :: others).map (Instalment.entry payable.uuid)) := rfl
        _ = (store.apply (.payable (payable.owing left))).apply
              (.payable ((payable.owing left).owing rest)) := by rw [next]; exact ends
        _ = store.apply (.payable (payable.owing rest)) := apply_payable_apply_payable rfl

theorem Due.succeed_of_le (due : store.Due payable) {parts : List Instalment}
    (begun : parts ≠ [] → payable.status = .approved ∨ payable.status = .partiallyPaid)
    (proper : ∀ part ∈ parts, part.Proper payable.denom)
    (within : (parts.map Instalment.units).sum ≤ payable.remaining.units) :
    ∀ event ∈ store.events (parts.map (Instalment.entry payable.uuid)),
      ∃ reply, event.answer = .ok reply := by
  induction parts generalizing store payable with
  | nil => exact nofun
  | cons part others ih =>
    rw [List.forall_mem_cons] at proper
    rw [List.map_cons, List.sum_cons] at within
    obtain ⟨reply, answered⟩ := due.perform_of_le (begun nofun) proper.1 (by omega)
    obtain ⟨left, units, next⟩ := due.rest_of_perform answered
    -- As long as another payment comes something remains, and the payable takes it.
    have goesOn : others ≠ [] → (payable.owing left).status = .approved ∨
        (payable.owing left).status = .partiallyPaid := by
      intro more
      obtain ⟨second, later, rfl⟩ := List.exists_cons_of_ne_nil more
      have positive := (proper.2 second (by simp)).units_ne_zero
      rw [List.map_cons, List.sum_cons] at within
      exact .inr (Payable.status_owing (by omega))
    have enough : (others.map Instalment.units).sum ≤ (payable.owing left).remaining.units := by
      have owed : (payable.owing left).remaining = left := rfl
      rw [owed]
      omega
    have later := ih (due.owing left) goesOn proper.2 enough
    rw [List.map_cons, Store.events, List.forall_mem_cons, next]
    exact ⟨⟨reply, answered⟩, later⟩

end Store

theorem Instalment.sum_units (parts : List Instalment) :
    (parts.map Instalment.units).sum = unitsOf (parts.flatMap fun part => part.call.funds) := by
  induction parts with
  | nil => rfl
  | cons part others ih =>
    rw [List.map_cons, List.sum_cons, ih, List.flatMap_cons, unitsOf_append]
    rfl

theorem sum_units_filter (amounts : List Amount) :
    ((amounts.filter fun amount => !amount.isZero).map Amount.units).sum =
      (amounts.map Amount.units).sum := by
  induction amounts with
  | nil => rfl
  | cons amount others ih =>
    rw [List.map_cons, List.sum_cons, ← ih]
    by_cases nothing : amount.isZero = true
    · rw [List.filter_cons_of_neg (by simp [nothing]), Amount.isZero_iff.1 nothing, Nat.zero_add]
    · rw [List.filter_cons_of_pos (by simp [nothing]), List.map_cons, List.sum_cons]

namespace Packages

variable {denom : String} {amounts : List Amount} {parts : List Instalment}

theorem sum_units (packages : Packages denom amounts parts) :
    (parts.map Instalment.units).sum = (amounts.map Amount.units).sum := by
  have same := (packages.amounts.map Amount.units).sum_nat
  rw [sum_units_filter, List.map_map] at same
  rw [Instalment.sum_units]
  exact same

theorem exists_cons (packages : Packages denom amounts parts) (given : amounts ≠ []) :
    ∃ first others, parts = first :: others := by
  apply List.exists_cons_of_ne_nil
  rintro rfl
  exact given packages.amounts.symm.eq_nil

/-- Each amount may come in a call of its own, as a single coin. -/
theorem apart (single : ∀ part ∈ parts, ∃ amount, part.call.funds = [⟨denom, amount⟩])
    (same : ((parts.flatMap fun part => part.call.funds).map Coin.amount).Perm amounts)
    (positive : ∀ amount ∈ amounts, amount.units ≠ 0) : Packages denom amounts parts := by
  have worth : ∀ coin ∈ parts.flatMap fun part => part.call.funds, coin.amount.units ≠ 0 :=
    fun coin member => positive coin.amount (same.subset (List.mem_map_of_mem member))
  constructor
  · intro part member
    obtain ⟨amount, funds⟩ := single part member
    have coin : (⟨denom, amount⟩ : Coin) ∈ parts.flatMap fun part => part.call.funds :=
      List.mem_flatMap.2 ⟨part, member, by rw [funds]; exact List.mem_singleton_self _⟩
    have units : part.units = amount.units := by
      rw [Instalment.units, funds]
      exact List.sum_singleton
    refine ⟨by simp [funds], ?_⟩
    rw [units]
    exact worth _ coin
  · have whole : (((parts.flatMap fun part => part.call.funds).map Coin.amount).filter
        fun amount => !amount.isZero) =
        (parts.flatMap fun part => part.call.funds).map Coin.amount := by
      rw [List.filter_eq_self]
      intro amount member
      have nonzero := positive amount (same.subset member)
      simpa [Amount.isZero] using nonzero
    rw [whole]
    exact same

/-- All amounts may come in one call, one coin for each, in any order and perhaps with coins of the
same denomination that are worth nothing. -/
theorem together {part : Instalment} (only : ∀ coin ∈ part.call.funds, coin.denom = denom)
    (same : ((part.call.funds.map Coin.amount).filter fun amount => !amount.isZero).Perm amounts)
    (given : amounts ≠ []) (positive : ∀ amount ∈ amounts, amount.units ≠ 0) :
    Packages denom amounts [part] := by
  have units : part.units = (amounts.map Amount.units).sum := by
    have sums := (same.map Amount.units).sum_nat
    rw [sum_units_filter, List.map_map] at sums
    exact sums
  obtain ⟨first, others, rfl⟩ := List.exists_cons_of_ne_nil given
  have worth := positive first (by simp)
  rw [List.map_cons, List.sum_cons] at units
  constructor
  · intro other member
    obtain rfl := List.mem_singleton.1 member
    exact ⟨only, by omega⟩
  · rw [List.flatMap_singleton]
    exact same

end Packages

/-- In every state of every run, for a payable that takes payments and amounts to be paid on it: if
they come to no more than what remains, it makes no difference in which order they are paid, by
whom, and whether each comes in a call of its own, all come in one, or some come together. Every
call succeeds, and the storage ends up the same, with the payable owing so much less; it is paid
when nothing remains. If the amounts come to more, some call fails however they are packaged. -/
theorem payments_add_up (entries : List Entry) {uuid : String} {payable : Payable}
    (found : (Ledger.after entries).records.payable uuid = .ok payable)
    (begun : payable.status = .approved ∨ payable.status = .partiallyPaid)
    {amounts : List Amount} (given : amounts ≠ []) :
    let start := Ledger.after entries
    let sum := (amounts.map Amount.units).sum
    (sum ≤ payable.remaining.units →
      ∃ left rest, rest.units = payable.remaining.units - sum ∧
        left.records.payable uuid = .ok (payable.owing rest) ∧
        ∀ parts, Packages payable.denom amounts parts →
          (∀ event ∈ start.events (parts.map (Instalment.entry uuid)),
            ∃ reply, event.answer = .ok reply) ∧
          start.afterAll (parts.map (Instalment.entry uuid)) = left) ∧
    (payable.remaining.units < sum →
      ∀ parts, Packages payable.denom amounts parts →
        ∃ event ∈ start.events (parts.map (Instalment.entry uuid)),
          ∃ failure, event.answer = .error failure) := by
  intro start sum
  obtain ⟨rfl, due⟩ := Ledger.due found
  constructor
  · intro within
    have inRange : payable.remaining.units - sum < Amount.bound :=
      Nat.lt_of_le_of_lt (Nat.sub_le _ _) payable.remaining.units_lt
    refine ⟨start.apply (.payable (payable.owing ⟨_, inRange⟩)), ⟨_, inRange⟩, rfl,
      Store.payable_apply_payable, ?_⟩
    intro parts packages
    obtain ⟨first, others, rfl⟩ := packages.exists_cons given
    have units := packages.sum_units
    have succeed := due.succeed_of_le (fun _ => begun) packages.proper (units ▸ within)
    obtain ⟨rest, owed, ends⟩ := due.rest_of_succeed succeed
    have same : rest = ⟨payable.remaining.units - sum, inRange⟩ := by
      apply Amount.ext
      change rest.units = payable.remaining.units - sum
      omega
    exact ⟨succeed, same ▸ ends⟩
  · intro more parts packages
    obtain ⟨first, others, rfl⟩ := packages.exists_cons given
    by_contra nothing
    have succeed : ∀ event ∈ start.events ((first :: others).map (Instalment.entry payable.uuid)),
        ∃ reply, event.answer = .ok reply := by
      intro event member
      cases answered : event.answer with
      | ok reply => exact ⟨reply, rfl⟩
      | error failure => exact absurd ⟨event, member, failure, answered⟩ nothing
    obtain ⟨rest, owed, _⟩ := due.rest_of_succeed succeed
    have units := packages.sum_units
    omega

/-- Two of the amounts that can be paid on the payable of `partialRun`. -/
def partialAmounts : List Amount := [⟨250, by decide⟩, ⟨350, by decide⟩]

/-- Paid one by one, the last first, or together in one call with a coin that is worth nothing, the
amounts pay off what `partialRun` leaves. -/
theorem payments_add_up_partialRun :
    ∃ left, left.records.payable "p" =
        .ok { partlyPaid with remaining := .zero, status := .paid } ∧
      (Ledger.after partialRun).afterAll [
        .execute [] ⟨"one", [⟨"usd", ⟨350, by decide⟩⟩]⟩ (.pay ⟨"p"⟩),
        .execute [] ⟨"other", [⟨"usd", ⟨250, by decide⟩⟩]⟩ (.pay ⟨"p"⟩)] = left ∧
      (Ledger.after partialRun).afterAll [
        .execute [] ⟨"one", [⟨"usd", ⟨250, by decide⟩⟩, ⟨"usd", .zero⟩, ⟨"usd", ⟨350, by decide⟩⟩]⟩
          (.pay ⟨"p"⟩)] = left := by
  have found : (Ledger.after partialRun).records.payable "p" = .ok partlyPaid :=
    Ledger.payable_eq_ok_iff.2 payable?_partialRun
  have positive : ∀ amount ∈ partialAmounts, amount.units ≠ 0 := by decide
  have given : partialAmounts ≠ [] := nofun
  obtain ⟨within, _⟩ := payments_add_up partialRun found (.inr rfl) given
  obtain ⟨left, rest, units, reads, alike⟩ := within (by decide)
  obtain rfl : rest = .zero := Amount.ext units
  have singly : Packages partlyPaid.denom partialAmounts
      [⟨[], ⟨"one", [⟨"usd", ⟨350, by decide⟩⟩]⟩⟩, ⟨[], ⟨"other", [⟨"usd", ⟨250, by decide⟩⟩]⟩⟩] :=
    .apart (by simp [partlyPaid]) (.swap _ _ _) positive
  have together : Packages partlyPaid.denom partialAmounts
      [⟨[], ⟨"one", [⟨"usd", ⟨250, by decide⟩⟩, ⟨"usd", .zero⟩, ⟨"usd", ⟨350, by decide⟩⟩]⟩⟩] :=
    .together (by decide) (.refl _) given positive
  exact ⟨left, reads, (alike _ singly).2, (alike _ together).2⟩

end PayableLedger
