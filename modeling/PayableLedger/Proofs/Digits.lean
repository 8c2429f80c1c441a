set_option autoImplicit false

namespace PayableLedger

/-- A run of ASCII digits. A zero stands in front only where it is the whole run. -/
structure IsNumeral (digits : List Char) : Prop where
  given : digits ≠ []
  digit (c : Char) (member : c ∈ digits) : c.isDigit = true
  canonical : digits.head? = some '0' → digits = ['0']

theorem digitValue_lt {c : Char} (digit : c.isDigit = true) : c.toNat - '0'.toNat < 10 := by
  have range := Char.isDigit_iff_toNat.1 digit
  have zero : '0'.toNat = 48 := rfl
  have nine : '9'.toNat = 57 := rfl
  omega

theorem digitChar_digitValue {c : Char} (digit : c.isDigit = true) :
    Nat.digitChar (c.toNat - '0'.toNat) = c := by
  have range := Char.isDigit_iff_toNat.1 digit
  have zero : '0'.toNat = 48 := rfl
  apply Char.toNat_inj.1
  rw [Nat.toNat_digitChar_of_lt_ten (digitValue_lt digit)]
  omega

theorem digitValue_pos {c : Char} (digit : c.isDigit = true) (other : c ≠ '0') :
    0 < c.toNat - '0'.toNat := by
  have range := Char.isDigit_iff_toNat.1 digit
  have apart : c.toNat ≠ '0'.toNat := fun same => other (Char.toNat_inj.1 same)
  omega

/-- Each further digit is written behind those that are there, once a number is not zero. -/
theorem toDigits_ofDigitChars {digits : List Char} {n : Nat} (positive : 0 < n)
    (digit : ∀ c ∈ digits, c.isDigit = true) :
    Nat.toDigits 10 (Nat.ofDigitChars 10 digits n) = Nat.toDigits 10 n ++ digits := by
  induction digits generalizing n with
  | nil => rw [Nat.ofDigitChars_nil, List.append_nil]
  | cons c rest ih =>
    rw [List.forall_mem_cons] at digit
    have below := digitValue_lt digit.1
    have written : Nat.toDigits 10 (10 * n + (c.toNat - '0'.toNat)) = Nat.toDigits 10 n ++ [c] := by
      rw [← Nat.toDigits_append_toDigits (by decide) positive below,
        Nat.toDigits_of_lt_base below, digitChar_digitValue digit.1]
    rw [Nat.ofDigitChars_cons, ih (by omega) digit.2, written, List.append_assoc,
      List.singleton_append]

theorem head?_toDigits_ne {n : Nat} (positive : 0 < n) : (Nat.toDigits 10 n).head? ≠ some '0' := by
  induction n using Nat.strongRecOn with
  | ind n ih =>
    by_cases single : n < 10
    · rw [Nat.toDigits_of_lt_base single, List.head?_cons, ne_eq, Option.some.injEq,
        Nat.digitChar_eq_zero]
      omega
    · have nonzero := ih (n / 10) (by omega) (by omega)
      obtain ⟨first, rest, front⟩ :=
        List.exists_cons_of_ne_nil (Nat.toDigits_ne_nil (n := n / 10) (b := 10))
      rw [front] at nonzero
      rw [Nat.toDigits_of_base_le (by decide) (by omega), front]
      exact nonzero

theorem isNumeral_cons_iff {c : Char} {rest : List Char} (first : c.isDigit = true)
    (others : ∀ d ∈ rest, d.isDigit = true) :
    IsNumeral (c :: rest) ↔ (c.toNat - '0'.toNat = 0 → rest = []) := by
  constructor
  · intro numeral nothing
    by_cases zero : c = '0'
    · subst zero
      exact (List.cons.inj (numeral.canonical rfl)).2
    · exact absurd nothing (Nat.ne_of_gt (digitValue_pos first zero))
  · intro alone
    refine ⟨List.cons_ne_nil c rest, List.forall_mem_cons.2 ⟨first, others⟩, ?_⟩
    intro zero
    obtain rfl : c = '0' := Option.some.inj zero
    rw [alone rfl]

theorem IsNumeral.toDigits_eq {digits : List Char} (numeral : IsNumeral digits) :
    Nat.toDigits 10 (Nat.ofDigitChars 10 digits 0) = digits := by
  obtain ⟨first, rest, rfl⟩ := List.exists_cons_of_ne_nil numeral.given
  have digit := List.forall_mem_cons.1 numeral.digit
  by_cases zero : first = '0'
  · subst zero
    obtain rfl : rest = [] := by simpa using numeral.canonical rfl
    rfl
  · rw [Nat.ofDigitChars_cons, Nat.mul_zero, Nat.zero_add,
      toDigits_ofDigitChars (digitValue_pos digit.1 zero) digit.2,
      Nat.toDigits_of_lt_base (digitValue_lt digit.1), digitChar_digitValue digit.1,
      List.singleton_append]

theorem isNumeral_toDigits (n : Nat) : IsNumeral (Nat.toDigits 10 n) where
  given := Nat.toDigits_ne_nil
  digit c member := Nat.isDigit_of_mem_toDigits (by decide) (by decide) member
  canonical zero := by
    cases n with
    | zero => rfl
    | succ n => exact absurd zero (head?_toDigits_ne n.succ_pos)

/-- The digits without the zeros in front. A zero stays where nothing else is left. -/
def significant (digits : List Char) : List Char :=
  match digits.dropWhile (· == '0') with
  | [] => ['0']
  | first :: rest => first :: rest

/-- The zeros in front of a number are all that its decimal text leaves out. -/
theorem toDigits_eq_significant {digits : List Char} (digit : ∀ c ∈ digits, c.isDigit = true) :
    Nat.toDigits 10 (Nat.ofDigitChars 10 digits 0) = significant digits := by
  induction digits with
  | nil => rfl
  | cons c rest ih =>
    by_cases zero : c = '0'
    · subst zero
      exact ih (List.forall_mem_cons.1 digit).2
    · have numeral : IsNumeral (c :: rest) :=
        ⟨List.cons_ne_nil c rest, digit, fun first => absurd (Option.some.inj first) zero⟩
      have kept : (c :: rest).dropWhile (· == '0') = c :: rest := by
        rw [List.dropWhile_cons, if_neg (by simpa using zero)]
      rw [numeral.toDigits_eq, significant, kept]

end PayableLedger
