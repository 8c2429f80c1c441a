import PayableLedger.Amount
import PayableLedger.Proofs.Digits

set_option autoImplicit false

namespace PayableLedger.Amount

/-- The text without the plus sign in front of it, if there is one. -/
def unsigned : List Char → List Char
  | '+' :: rest => rest
  | text => text

/-- The text is a run of digits that denotes the number, behind a plus sign if there is one. -/
structure Denotes (text : List Char) (n : Nat) : Prop where
  given : unsigned text ≠ []
  digit (c : Char) (member : c ∈ unsigned text) : c.isDigit = true
  value : Nat.ofDigitChars 10 (unsigned text) 0 = n

/-- The text begins with a number that is no amount, whatever comes behind it. -/
def Exceeds (text : List Char) : Prop :=
  ∃ front n, front <+: text ∧ Denotes front n ∧ bound ≤ n

theorem unsigned_of_ne {text : List Char} (plain : text.head? ≠ some '+') :
    unsigned text = text := by
  unfold unsigned
  split
  · exact absurd rfl plain
  · rfl

/-- A plus sign is either in both texts or, if the shorter one is not empty, in neither. -/
theorem unsigned_prefix {front text : List Char} (isFront : front <+: text) :
    unsigned front <+: unsigned text := by
  cases front with
  | nil => exact List.nil_prefix
  | cons c front =>
    obtain ⟨rest, rfl⟩ := isFront
    by_cases plus : c = '+'
    · subst plus
      exact List.prefix_append front rest
    · have plain (others : List Char) : unsigned (c :: others) = c :: others :=
        unsigned_of_ne fun same => plus (Option.some.inj same)
      rw [List.cons_append, plain, plain]
      exact List.prefix_append (c :: front) rest

theorem Denotes.exists_iff {text : List Char} {a : Amount} (denotes : Denotes text a.units)
    {p : Amount → Prop} : (∃ b : Amount, Denotes text b.units ∧ p b) ↔ p a := by
  constructor
  · rintro ⟨b, others, holds⟩
    rwa [ext (denotes.value.symm.trans others.value)]
  · exact fun holds => ⟨a, denotes, holds⟩

theorem Denotes.plain {text : List Char} {n : Nat} (denotes : Denotes text n) :
    ∀ c ∈ text, c = '+' ∨ c.isDigit = true := by
  intro c member
  have digit := denotes.digit
  unfold unsigned at digit
  split at digit
  · exact (List.mem_cons.1 member).imp_right (digit c)
  · exact .inr (digit c member)

theorem readUnits_eq (text : List Char) :
    readUnits text = if text = [] then .error .empty else readNumber (unsigned text) := by
  unfold readUnits
  split
  · rfl
  · rfl
  · next given plain =>
    have plain : text.head? ≠ some '+' := by
      intro plus
      obtain ⟨rest, rfl⟩ := List.head?_eq_some_iff.1 plus
      exact plain rest rfl
    rw [if_neg given, unsigned_of_ne plain]

theorem readNumber_eq (digits : List Char) :
    readNumber digits = if digits = [] then .error .invalidDigit else readDigits 0 digits := by
  cases digits <;> rfl

theorem readUnits_eq_ok_iff {text : List Char} {n : Nat} :
    readUnits text = .ok n ↔ Denotes text n ∧ n < bound := by
  rw [readUnits_eq, readNumber_eq]
  split
  · next nothing =>
    subst nothing
    simp only [reduceCtorEq, false_iff, not_and]
    exact fun denotes => absurd rfl denotes.given
  · split
    · next nothing =>
      simp only [reduceCtorEq, false_iff, not_and]
      exact fun denotes => absurd nothing denotes.given
    · next given =>
      rw [readDigits_eq_ok_iff (by decide)]
      constructor
      · rintro ⟨digit, value, inRange⟩
        exact ⟨⟨given, digit, value⟩, inRange⟩
      · rintro ⟨denotes, inRange⟩
        exact ⟨denotes.digit, denotes.value, inRange⟩

theorem readUnits_cases (text : List Char) :
    (∃ a : Amount, readUnits text = .ok a.units ∧ Denotes text a.units) ∨
      ∃ cause, readUnits text = .error cause ∧ ∀ a : Amount, ¬ Denotes text a.units := by
  cases read : readUnits text with
  | ok n =>
    obtain ⟨denotes, inRange⟩ := readUnits_eq_ok_iff.1 read
    exact .inl ⟨⟨n, inRange⟩, rfl, denotes⟩
  | error cause =>
    refine .inr ⟨cause, rfl, fun a denotes => ?_⟩
    rw [readUnits_eq_ok_iff.2 ⟨denotes, a.units_lt⟩] at read
    cases read

theorem readDigits_ne_empty (acc : Nat) (digits : List Char) :
    readDigits acc digits ≠ .error .empty := by
  fun_induction readDigits acc digits with
  | case1 => rintro ⟨⟩
  | case2 acc c rest digit next fits ih => exact ih
  | case3 => rintro ⟨⟩
  | case4 => rintro ⟨⟩

theorem readUnits_eq_empty_iff {text : List Char} : readUnits text = .error .empty ↔ text = [] := by
  rw [readUnits_eq, readNumber_eq]
  split
  · next nothing => simp [nothing]
  · next given =>
    split
    · simp [given]
    · simp [given, readDigits_ne_empty]

theorem readDigits_eq_tooLarge_iff {acc : Nat} {digits : List Char} (inRange : acc < bound) :
    readDigits acc digits = .error .tooLarge ↔
      ∃ front, front <+: digits ∧ (∀ c ∈ front, c.isDigit = true) ∧
        bound ≤ Nat.ofDigitChars 10 front acc := by
  -- The digit that carries the number out of range ends the first digits that are too many.
  induction digits generalizing acc with
  | nil =>
    simp only [readDigits, reduceCtorEq, false_iff, List.prefix_nil]
    rintro ⟨front, rfl, _, outside⟩
    rw [Nat.ofDigitChars_nil] at outside
    omega
  | cons c rest ih =>
    -- What begins with `c` is too much only with `c` itself.
    have behind : (∃ front, front <+: c :: rest ∧ (∀ d ∈ front, d.isDigit = true) ∧
          bound ≤ Nat.ofDigitChars 10 front acc) ↔
        c.isDigit = true ∧ ∃ front, front <+: rest ∧ (∀ d ∈ front, d.isDigit = true) ∧
          bound ≤ Nat.ofDigitChars 10 front (10 * acc + (c.toNat - '0'.toNat)) := by
      constructor
      · rintro ⟨front, isFront, digit, outside⟩
        rcases List.prefix_cons_iff.1 isFront with rfl | ⟨front, rfl, behind⟩
        · rw [Nat.ofDigitChars_nil] at outside
          omega
        · rw [List.forall_mem_cons] at digit
          rw [Nat.ofDigitChars_cons] at outside
          exact ⟨digit.1, front, behind, digit.2, outside⟩
      · rintro ⟨first, front, isFront, digit, outside⟩
        refine ⟨c :: front, List.prefix_cons_iff.2 (.inr ⟨front, rfl, isFront⟩),
          List.forall_mem_cons.2 ⟨first, digit⟩, ?_⟩
        rwa [Nat.ofDigitChars_cons]
    rw [behind, readDigits]
    split
    · next digit =>
      dsimp only
      split
      · next fits => rw [ih fits, and_iff_right digit]
      · next outside =>
        simp only [digit, true_and, true_iff]
        exact ⟨[], List.nil_prefix, List.forall_mem_nil _, Nat.le_of_not_lt outside⟩
    · next other => simp [other]

theorem exists_unsigned_eq {text digits : List Char} (isFront : digits <+: unsigned text)
    (digit : ∀ c ∈ digits, c.isDigit = true) :
    ∃ front, front <+: text ∧ unsigned front = digits := by
  unfold unsigned at isFront
  split at isFront
  · next rest => exact ⟨'+' :: digits, (List.prefix_cons_inj '+').2 isFront, rfl⟩
  · refine ⟨digits, isFront, unsigned_of_ne ?_⟩
    intro plus
    exact absurd (digit '+' (List.mem_of_head? plus)) (by decide)

theorem exceeds_iff {text : List Char} :
    Exceeds text ↔ ∃ digits, digits <+: unsigned text ∧ (∀ c ∈ digits, c.isDigit = true) ∧
      bound ≤ Nat.ofDigitChars 10 digits 0 := by
  constructor
  · rintro ⟨front, n, isFront, denotes, outside⟩
    refine ⟨unsigned front, unsigned_prefix isFront, denotes.digit, ?_⟩
    rwa [denotes.value]
  · rintro ⟨digits, isFront, digit, outside⟩
    obtain ⟨front, here, rfl⟩ := exists_unsigned_eq isFront digit
    refine ⟨front, _, here, ⟨?_, digit, rfl⟩, outside⟩
    intro nothing
    rw [nothing] at outside
    exact absurd outside (by decide)

theorem readUnits_eq_tooLarge_iff {text : List Char} :
    readUnits text = .error .tooLarge ↔ Exceeds text := by
  rw [exceeds_iff, ← readDigits_eq_tooLarge_iff (by decide), readUnits_eq, readNumber_eq]
  split
  · next nothing => simp [nothing, unsigned, readDigits]
  · split
    · next nothing => simp [nothing, readDigits]
    · rfl

theorem ofChars_eq_error_iff {text : List Char} {e : ParseError} :
    ofChars text = .error e ↔ readUnits text = .error e := by
  unfold ofChars
  split
  · next n success => simp [success]
  · next cause failed => simp [failed]

theorem parse_eq_ok_iff {text : String} {a : Amount} :
    parse text = .ok a ↔ Denotes text.toList a.units := by
  rw [parse, ofChars_eq_ok_iff, readUnits_eq_ok_iff, and_iff_left a.units_lt]

/-- What is refused for any other reason is refused for a character that is no digit. -/
theorem parse_eq_invalidDigit_iff {text : String} :
    parse text = .error .invalidDigit ↔
      (∀ a, parse text ≠ .ok a) ∧ parse text ≠ .error .empty ∧ parse text ≠ .error .tooLarge := by
  cases parse text with
  | ok a => simp
  | error cause => cases cause <;> simp

theorem toText_eq_toString (a : Amount) : a.toText = toString a.units :=
  Nat.toString_eq_ofList_toDigits.symm

theorem Denotes.digits_eq {text : List Char} {a : Amount} (denotes : Denotes text a.units) :
    a.digits = significant (unsigned text) := by
  rw [digits, ← denotes.value, toDigits_eq_significant denotes.digit]

/-- A text is read as an amount exactly if it is digits, behind a plus sign if there is one, that
denote the amount. The decimal digits of an amount are such a text, and what any other text is read
as is written in its own digits, without the plus sign and the zeros in front. Of the texts that are
no amount, the empty one is reported as empty, one that begins with a number out of range as too
large, and each of the others for a character that is no digit. -/
theorem amount_text_exact (text : String) :
    (∀ a, parse text = .ok a ↔ Denotes text.toList a.units) ∧
      (∀ a : Amount, a.toText = toString a.units ∧ parse a.toText = .ok a) ∧
      (∀ a, parse text = .ok a → a.toText.toList = significant (unsigned text.toList)) ∧
      (parse text = .error .empty ↔ text = "") ∧
      (parse text = .error .tooLarge ↔ Exceeds text.toList) ∧
      (parse text = .error .invalidDigit ↔
        (∀ a : Amount, ¬ Denotes text.toList a.units) ∧ text ≠ "" ∧ ¬ Exceeds text.toList) := by
  have empty : parse text = .error .empty ↔ text = "" := by
    rw [parse, ofChars_eq_error_iff, readUnits_eq_empty_iff, String.toList_eq_nil_iff]
  have tooLarge : parse text = .error .tooLarge ↔ Exceeds text.toList := by
    rw [parse, ofChars_eq_error_iff, readUnits_eq_tooLarge_iff]
  refine ⟨fun a => parse_eq_ok_iff, fun a => ⟨toText_eq_toString a, parse_toText a⟩, ?_, empty,
    tooLarge, ?_⟩
  · intro a reads
    rw [toText, String.toList_ofList]
    exact (parse_eq_ok_iff.1 reads).digits_eq
  · rw [parse_eq_invalidDigit_iff, ne_eq, ne_eq, empty, tooLarge]
    simp only [ne_eq, parse_eq_ok_iff]

/-- The character that comes first decides: the digit that is too much, or the one that is none. -/
example : parse "+0340282366920938463463374607431768211456-" = .error .tooLarge ∧
    parse "34028236692093846346337460743176821145-6" = .error .invalidDigit := ⟨rfl, rfl⟩

end PayableLedger.Amount
