import PayableLedger.Proofs.Settings

set_option autoImplicit false

namespace PayableLedger

namespace Configuration

variable {config : Configuration}

/-- The fee on a sum is the fees on both parts, or one more: what rounding drops from the parts is
less than one from each. -/
theorem feeOn_add (config : Configuration) (first second : Nat) :
    config.feeOn first + config.feeOn second ≤ config.feeOn (first + second) ∧
      config.feeOn (first + second) ≤ config.feeOn first + config.feeOn second + 1 := by
  unfold feeOn
  split
  · next percent _ _ =>
    rw [Nat.add_mul]
    generalize first * percent.atomics = one, second * percent.atomics = other
    unfold Decimal.unit
    omega
  · omega

theorem sum_feeOn_le (config : Configuration) (units : List Nat) :
    (units.map config.feeOn).sum ≤ config.feeOn units.sum := by
  induction units with
  | nil => exact Nat.zero_le _
  | cons first others ih =>
    obtain ⟨lower, _⟩ := config.feeOn_add first others.sum
    rw [List.map_cons, List.sum_cons, List.sum_cons]
    omega

theorem feeOn_sum_le (config : Configuration) (first : Nat) (others : List Nat) :
    config.feeOn (first :: others).sum ≤
      ((first :: others).map config.feeOn).sum + others.length := by
  -- A single part loses nothing, and each that joins it adds one unit to what may be lost.
  induction others generalizing first with
  | nil => simp
  | cons second others ih =>
    obtain ⟨_, upper⟩ := config.feeOn_add first (second :: others).sum
    have fewer := ih second
    calc config.feeOn (first :: second :: others).sum
      _ = config.feeOn (first + (second :: others).sum) := by rw [List.sum_cons]
      _ ≤ config.feeOn first + ((second :: others).map config.feeOn).sum +
            (others.length + 1) := by omega
      _ = ((first :: second :: others).map config.feeOn).sum + (second :: others).length := by
        simp only [List.map_cons, List.sum_cons, List.length_cons]

/-- Every part can be divided, with its own fee, and nothing is lost between fees and nets. -/
theorem Moderate.mapM_splitFee (moderate : config.Moderate) (amounts : List Amount) :
    ∃ parts, amounts.mapM config.splitFee = .ok parts ∧
      (parts.map fun part => part.fee.units) = (amounts.map Amount.units).map config.feeOn ∧
      (parts.map fun part => part.fee.units).sum + (parts.map fun part => part.net.units).sum =
        (amounts.map Amount.units).sum := by
  induction amounts with
  | nil => exact ⟨[], rfl, rfl, rfl⟩
  | cons amount rest ih =>
    obtain ⟨division, divided⟩ := moderate.splitFee amount
    obtain ⟨parts, each, fees, sum⟩ := ih
    refine ⟨division :: parts, ?_, ?_, ?_⟩
    · rw [List.mapM_cons, divided, each]
      rfl
    · rw [List.map_cons, fees, units_fee divided]
      rfl
    · have whole := fee_add_net divided
      simp only [List.map_cons, List.sum_cons]
      omega

end Configuration

/-- Settings with a fee of no more than the whole, or with none, divide an amount and any parts
that add up to it. The fees on the parts come to no more than the fee on the amount, and to less by
one unit at most for each part but the first. What the payee loses or gains is the reverse. -/
theorem fragments_lower_fee {config : Configuration} (moderate : config.Moderate)
    {amounts : List Amount} (given : amounts ≠ []) {total : Amount}
    (sum : total.units = (amounts.map Amount.units).sum) :
    ∃ whole parts, config.splitFee total = .ok whole ∧
      amounts.mapM config.splitFee = .ok parts ∧
      (parts.map fun part => part.fee.units).sum ≤ whole.fee.units ∧
      whole.fee.units ≤ (parts.map fun part => part.fee.units).sum + (amounts.length - 1) ∧
      whole.net.units ≤ (parts.map fun part => part.net.units).sum ∧
      (parts.map fun part => part.net.units).sum ≤ whole.net.units + (amounts.length - 1) := by
  obtain ⟨whole, divided⟩ := moderate.splitFee total
  obtain ⟨parts, each, fees, nets⟩ := moderate.mapM_splitFee amounts
  have net := Configuration.fee_add_net divided
  have fee := Configuration.units_fee divided
  have lower := config.sum_feeOn_le (amounts.map Amount.units)
  have upper : config.feeOn (amounts.map Amount.units).sum ≤
      ((amounts.map Amount.units).map config.feeOn).sum + (amounts.length - 1) := by
    obtain ⟨first, others, rfl⟩ := List.exists_cons_of_ne_nil given
    simpa using config.feeOn_sum_le first.units (others.map Amount.units)
  rw [← fees, ← sum, ← fee] at lower upper
  refine ⟨whole, parts, divided, each, lower, ?_, ?_, ?_⟩ <;> omega

def tenth : Configuration :=
  ⟨"registry", some "collector", some ⟨100000000000000000, by decide⟩, false, none, none⟩

/-- Twice 15 is 30: the fees are 1 and 1, and on the sum 3. -/
theorem fragments_lower_fee_tenth :
    ∃ whole parts, tenth.splitFee ⟨30, by decide⟩ = .ok whole ∧
      [(⟨15, by decide⟩ : Amount), ⟨15, by decide⟩].mapM tenth.splitFee = .ok parts ∧
      whole.fee.units = 3 ∧ (parts.map fun part => part.fee.units).sum = 2 ∧
      3 ≤ (parts.map fun part => part.fee.units).sum + 1 := by
  have moderate : tenth.Moderate := by
    rintro _ _ - ⟨⟩
    decide
  have given : [(⟨15, by decide⟩ : Amount), ⟨15, by decide⟩] ≠ [] := List.cons_ne_nil _ _
  have sum : (⟨30, by decide⟩ : Amount).units =
      ([(⟨15, by decide⟩ : Amount), ⟨15, by decide⟩].map Amount.units).sum := rfl
  obtain ⟨whole, parts, divided, each, _, close, _⟩ := fragments_lower_fee moderate given sum
  have fee : whole.fee.units = 3 := by
    cases divided
    rfl
  have fees : (parts.map fun part => part.fee.units).sum = 2 := by
    cases each
    rfl
  exact ⟨whole, parts, divided, each, fee, fees, fee ▸ close⟩

end PayableLedger
