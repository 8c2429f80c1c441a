import PayableLedger.Proofs.Fragments

set_option autoImplicit false

namespace PayableLedger

namespace Configuration

variable {config : Configuration} {amount : Amount}

theorem splitFee_of_unset (unset : config.feeCollector = none ∨ config.feePercent = none)
    (amount : Amount) : config.splitFee amount = .ok ⟨.zero, amount, none⟩ := by
  rcases unset with collects | takes
  · rw [splitFee, collects]
  · rw [splitFee, takes]
    cases config.feeCollector <;> rfl

/-- A fee of nothing, too, is for the collector. -/
theorem collector_of_set {collector : String} {percent : Decimal}
    (collects : config.feeCollector = some collector) (takes : config.feePercent = some percent)
    {division : FeeSplit} (divided : config.splitFee amount = .ok division) :
    division.collector = some collector := by
  unfold splitFee at divided
  simp only [collects, takes] at divided
  split at divided
  · cases divided
  · split at divided
    · cases divided
    · cases divided
      rfl

/-- A fee within the payment is an amount, and so is what it leaves. -/
theorem splitFee_of_feeOn_le (within : config.feeOn amount.units ≤ amount.units) :
    ∃ division, config.splitFee amount = .ok division := by
  unfold feeOn at within
  unfold splitFee
  cases collects : config.feeCollector with
  | none => exact ⟨_, rfl⟩
  | some collector =>
    cases takes : config.feePercent with
    | none => exact ⟨_, rfl⟩
    | some percent =>
      simp only [collects, takes] at within
      have inRange := Nat.lt_of_le_of_lt within amount.units_lt
      have product : percent.times? amount = some ⟨_, inRange⟩ := Amount.ofNat?_eq_some_iff.2 rfl
      simp only [product, Amount.sub?, if_pos within]
      exact ⟨_, rfl⟩

theorem eq_aborted_of_splitFee {failure : Failure}
    (fails : config.splitFee amount = .error failure) : failure = .aborted := by
  unfold splitFee at fails
  split at fails
  · split at fails
    · cases fails
      rfl
    · split at fails
      · cases fails
        rfl
      · cases fails
  · cases fails

/-- A fee above the payment aborts, whether or not it is an amount itself. -/
theorem splitFee_eq_aborted_iff :
    config.splitFee amount = .error .aborted ↔ amount.units < config.feeOn amount.units := by
  cases divided : config.splitFee amount with
  | ok division =>
    have whole := fee_add_net divided
    have fee := units_fee divided
    simp only [reduceCtorEq, false_iff]
    omega
  | error failure =>
    obtain rfl := eq_aborted_of_splitFee divided
    simp only [true_iff]
    by_contra within
    obtain ⟨division, success⟩ := splitFee_of_feeOn_le (Nat.not_lt.1 within)
    rw [divided] at success
    cases success

theorem feeOn_mono (config : Configuration) {fewer units : Nat} (le : fewer ≤ units) :
    config.feeOn fewer ≤ config.feeOn units := by
  obtain ⟨more, rfl⟩ := Nat.exists_eq_add_of_le le
  obtain ⟨lower, _⟩ := config.feeOn_add fewer more
  omega

/-- With a fee of no more than the whole, a payment that is greater by some units has a fee that is
greater by no more than these units. -/
theorem Moderate.feeOn_add_le (moderate : config.Moderate) (units more : Nat) :
    config.feeOn (units + more) ≤ config.feeOn units + more := by
  unfold feeOn
  split
  · next percent collects takes =>
    have le := moderate _ percent collects takes
    calc (units + more) * percent.atomics / Decimal.unit
      _ = (units * percent.atomics + more * percent.atomics) / Decimal.unit := by
        rw [Nat.add_mul]
      _ ≤ (units * percent.atomics + more * Decimal.unit) / Decimal.unit :=
        Nat.div_le_div_right (Nat.add_le_add_left (Nat.mul_le_mul_left more le) _)
      _ = units * percent.atomics / Decimal.unit + more :=
        Nat.add_mul_div_right _ _ Decimal.unit_pos
  · omega

theorem Moderate.splitFee_mono (moderate : config.Moderate) {smaller greater : Amount}
    (le : smaller.units ≤ greater.units) :
    ∃ part whole, config.splitFee smaller = .ok part ∧ config.splitFee greater = .ok whole ∧
      part.fee.units ≤ whole.fee.units ∧ part.net.units ≤ whole.net.units := by
  obtain ⟨part, divided⟩ := moderate.splitFee smaller
  obtain ⟨whole, dividedWhole⟩ := moderate.splitFee greater
  obtain ⟨more, sum⟩ := Nat.exists_eq_add_of_le le
  have fees := config.feeOn_mono le
  have nets := moderate.feeOn_add_le smaller.units more
  rw [← sum, ← units_fee divided, ← units_fee dividedWhole] at nets
  rw [← units_fee divided, ← units_fee dividedWhole] at fees
  have partSum := fee_add_net divided
  have wholeSum := fee_add_net dividedWhole
  exact ⟨part, whole, divided, dividedWhole, fees, by omega⟩

end Configuration

/-- Without a collector or a percentage nothing is taken. With both, the fee is rounded down; the
division aborts exactly if this fee is above the payment, and otherwise gives the fee to the
collector and the rest to the payee. Where no fee is above the whole, every payment is divided, and
of a greater one neither part is smaller. -/
theorem fee_division_exact (config : Configuration) :
    (config.feeCollector = none ∨ config.feePercent = none →
      ∀ amount, config.splitFee amount = .ok ⟨.zero, amount, none⟩) ∧
    (∀ collector percent, config.feeCollector = some collector →
      config.feePercent = some percent → ∀ amount : Amount,
        let fee := amount.units * percent.atomics / Decimal.unit
        (config.splitFee amount = .error .aborted ↔ amount.units < fee) ∧
        (fee ≤ amount.units → ∃ division, config.splitFee amount = .ok division ∧
          division.fee.units = fee ∧ division.net.units = amount.units - fee ∧
          division.fee.units + division.net.units = amount.units ∧
          division.collector = some collector)) ∧
    (config.Moderate → ∀ smaller greater : Amount, smaller.units ≤ greater.units →
      ∃ part whole, config.splitFee smaller = .ok part ∧ config.splitFee greater = .ok whole ∧
        part.fee.units ≤ whole.fee.units ∧ part.net.units ≤ whole.net.units) := by
  refine ⟨Configuration.splitFee_of_unset, ?_, fun moderate _ _ => moderate.splitFee_mono⟩
  intro collector percent collects takes amount
  have feeOn_eq : config.feeOn amount.units = amount.units * percent.atomics / Decimal.unit := by
    rw [Configuration.feeOn, collects, takes]
  dsimp only
  rw [← feeOn_eq]
  refine ⟨Configuration.splitFee_eq_aborted_iff, ?_⟩
  intro within
  obtain ⟨division, divided⟩ := Configuration.splitFee_of_feeOn_le within
  have fee := Configuration.units_fee divided
  have whole := Configuration.fee_add_net divided
  exact ⟨division, divided, fee, by omega, whole,
    Configuration.collector_of_set collects takes divided⟩

/-- A fee of one and a half times what it is taken from. -/
def excessiveConfiguration : Configuration :=
  ⟨"registry", some "collector", some ⟨1500000000000000000, by decide⟩, false, none, none⟩

/-- The excessive fee on one unit is one unit, and on two it is three. -/
theorem fee_division_exact_excessive :
    (∃ division, excessiveConfiguration.splitFee ⟨1, by decide⟩ = .ok division ∧
      division.fee.units = 1 ∧ division.net.units = 0) ∧
    excessiveConfiguration.splitFee ⟨2, by decide⟩ = .error .aborted := by
  obtain ⟨-, divides, -⟩ := fee_division_exact excessiveConfiguration
  constructor
  · obtain ⟨-, division⟩ := divides _ _ rfl rfl ⟨1, by decide⟩
    obtain ⟨division, divided, fee, net, -⟩ := division (by decide)
    exact ⟨division, divided, fee, net⟩
  · obtain ⟨aborts, -⟩ := divides _ _ rfl rfl ⟨2, by decide⟩
    exact aborts.2 (by decide)

end PayableLedger
