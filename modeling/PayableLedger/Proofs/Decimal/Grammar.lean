import PayableLedger.Proofs.Amount.Grammar
import PayableLedger.Proofs.Success

set_option autoImplicit false

namespace PayableLedger.Decimal

/-- The text denotes the count of 10^-18. It is an amount, or one on each side of a point. The one
behind the point has as many places as bytes, a plus sign included, and no more than 18. -/
inductive Denotes : String → Nat → Prop
  | whole {text : String} {ones : Amount} (onesText : Amount.Denotes text.toList ones.units) :
      Denotes text (unit * ones.units)
  | pointed {front behind : String} {ones parts : Amount}
      (onesText : Amount.Denotes front.toList ones.units)
      (partsText : Amount.Denotes behind.toList parts.units)
      (short : behind.utf8ByteSize ≤ places) :
      Denotes (front ++ "." ++ behind)
        (unit * ones.units + Nat.pow 10 (places - behind.utf8ByteSize) * parts.units)

/-- Where there is a point, the text ends neither in it nor in a zero. -/
def IsTrimmed (text : String) : Prop :=
  '.' ∈ text.toList → text.toList.getLast? ≠ some '.' ∧ text.toList.getLast? ≠ some '0'

theorem point_not_mem_of_denotes {text : List Char} {n : Nat} (denotes : Amount.Denotes text n) :
    '.' ∉ text := by
  intro point
  rcases denotes.plain '.' point with plus | digit
  · exact absurd plus (by decide)
  · exact absurd digit (by decide)

theorem utf8ByteSize_ofList {text : List Char} (single : ∀ c ∈ text, c.utf8Size = 1) :
    (String.ofList text).utf8ByteSize = text.length := by
  induction text with
  | nil => rfl
  | cons c rest ih =>
    rw [List.forall_mem_cons] at single
    rw [String.ofList_cons, String.utf8ByteSize_append, String.utf8ByteSize_singleton, single.1,
      ih single.2, List.length_cons, Nat.add_comm]

/-- The characters of an amount's text are one byte each. -/
theorem utf8ByteSize_of_denotes {text : List Char} {n : Nat} (denotes : Amount.Denotes text n) :
    (String.ofList text).utf8ByteSize = text.length := by
  apply utf8ByteSize_ofList
  intro c member
  rw [Char.utf8Size_eq_one_iff, UInt32.le_iff_toNat_le]
  rcases denotes.plain c member with rfl | digit
  · decide
  · have range := (Char.isDigit_iff_toNat.1 digit).2
    exact Nat.le_trans range (by decide)

theorem ofAtomics?_eq_some_iff {n : Nat} {d : Decimal} : ofAtomics? n = some d ↔ d.atomics = n := by
  constructor
  · unfold ofAtomics?
    split
    · rintro ⟨⟩
      rfl
    · exact nofun
  · rintro rfl
    exact ofAtomics?_atomics d

theorem readWhole_eq_ok_iff {text : List Char} {d : Decimal} :
    readWhole text = .ok d ↔
      ∃ ones : Amount, Amount.Denotes text ones.units ∧ d.atomics = unit * ones.units := by
  unfold readWhole
  rcases Amount.readUnits_cases text with ⟨ones, read, denotes⟩ | ⟨cause, refused, nothing⟩
  · rw [denotes.exists_iff, ← ofAtomics?_eq_some_iff]
    simp only [read]
    cases ofAtomics? (unit * ones.units) <;> simp
  · simp only [refused, nothing, reduceCtorEq, false_and, exists_false]

theorem addFraction_eq_ok_iff {whole d : Decimal} {text : List Char} :
    addFraction whole text = .ok d ↔
      ∃ parts : Amount, Amount.Denotes text parts.units ∧ text.length ≤ places ∧
        d.atomics = whole.atomics + Nat.pow 10 (places - text.length) * parts.units := by
  unfold addFraction
  rcases Amount.readUnits_cases text with ⟨parts, read, denotes⟩ | ⟨cause, refused, nothing⟩
  · rw [denotes.exists_iff, ← ofAtomics?_eq_some_iff]
    simp only [read, refuse_eq_ok_iff, Nat.not_lt]
    refine and_congr_right fun _ => ?_
    cases ofAtomics? (whole.atomics + Nat.pow 10 (places - text.length) * parts.units) <;> simp
  · simp only [refused, nothing, reduceCtorEq, false_and, exists_false]

theorem addFraction_readWhole_eq_ok_iff {front behind : List Char} {d : Decimal} :
    (readWhole front >>= fun whole => addFraction whole behind) = .ok d ↔
      ∃ ones parts : Amount, Amount.Denotes front ones.units ∧ Amount.Denotes behind parts.units ∧
        behind.length ≤ places ∧
        d.atomics = unit * ones.units + Nat.pow 10 (places - behind.length) * parts.units := by
  simp only [bind_eq_ok_iff, readWhole_eq_ok_iff, addFraction_eq_ok_iff]
  constructor
  · rintro ⟨whole, ⟨ones, onesText, multiple⟩, parts, partsText, short, atomics⟩
    rw [multiple] at atomics
    exact ⟨ones, parts, onesText, partsText, short, atomics⟩
  · rintro ⟨ones, parts, onesText, partsText, short, atomics⟩
    have inRange : unit * ones.units < Amount.bound :=
      Nat.lt_of_le_of_lt (atomics ▸ Nat.le_add_right _ _) d.atomics_lt
    exact ⟨⟨_, inRange⟩, ⟨ones, onesText, rfl⟩, parts, partsText, short, atomics⟩

/-- A second point is too many, whatever the parts are. -/
theorem ofParts_ne_ok (front behind third : List Char) (others : List (List Char)) (d : Decimal) :
    ofParts (front :: behind :: third :: others) ≠ .ok d := by
  intro read
  obtain ⟨_, _, refused⟩ := bind_eq_ok_iff.1 read
  obtain ⟨_, _, refused⟩ := bind_eq_ok_iff.1 refused
  cases refused

theorem denotes_iff {text : String} {n : Nat} :
    Denotes text n ↔
      (∃ ones : Amount, Amount.Denotes text.toList ones.units ∧ n = unit * ones.units) ∨
        ∃ front behind : List Char, text.toList = front ++ '.' :: behind ∧
          ∃ ones parts : Amount, Amount.Denotes front ones.units ∧
            Amount.Denotes behind parts.units ∧ behind.length ≤ places ∧
            n = unit * ones.units + Nat.pow 10 (places - behind.length) * parts.units := by
  constructor
  · rintro (⟨onesText⟩ | ⟨onesText, partsText, short⟩)
    · exact .inl ⟨_, onesText, rfl⟩
    · have bytes := utf8ByteSize_of_denotes partsText
      rw [String.ofList_toList] at bytes
      rw [bytes] at short ⊢
      refine .inr ⟨_, _, ?_, _, _, onesText, partsText, short, rfl⟩
      simp
  · rintro (⟨ones, onesText, rfl⟩ |
      ⟨front, behind, joined, ones, parts, onesText, partsText, short, rfl⟩)
    · exact .whole onesText
    · have same : text = String.ofList front ++ "." ++ String.ofList behind := by
        rw [← String.toList_inj, joined]
        simp
      rw [same, ← utf8ByteSize_of_denotes partsText]
      rw [← utf8ByteSize_of_denotes partsText] at short
      apply Denotes.pointed
      · rwa [String.toList_ofList]
      · rwa [String.toList_ofList]
      · exact short

theorem parse_eq_ok_iff {text : String} {d : Decimal} :
    parse text = .ok d ↔ Denotes text d.atomics := by
  rw [denotes_iff, parse, ofChars]
  constructor
  · intro read
    have joined : ['.'].intercalate (text.toList.splitOn '.') = text.toList :=
      List.intercalate_splitOn '.'
    rcases split : text.toList.splitOn '.' with
      _ | ⟨front, _ | ⟨behind, _ | ⟨third, others⟩⟩⟩
    · exact absurd split (List.splitOn_ne_nil _ _)
    · rw [split] at joined read
      obtain rfl : front = text.toList := by simpa using joined
      exact .inl (readWhole_eq_ok_iff.1 read)
    · rw [split] at joined read
      have joined : text.toList = front ++ '.' :: behind := by simpa using joined.symm
      exact .inr ⟨front, behind, joined, addFraction_readWhole_eq_ok_iff.1 read⟩
    · rw [split] at read
      exact absurd read (ofParts_ne_ok front behind third others d)
  · rintro (⟨ones, onesText, atomics⟩ |
      ⟨front, behind, joined, ones, parts, onesText, partsText, sum⟩)
    · rw [List.splitOn_eq_singleton (point_not_mem_of_denotes onesText)]
      exact readWhole_eq_ok_iff.2 ⟨ones, onesText, atomics⟩
    · rw [joined, List.splitOn_append_cons_self_of_not_mem (point_not_mem_of_denotes onesText),
        List.splitOn_eq_singleton (point_not_mem_of_denotes partsText)]
      exact addFraction_readWhole_eq_ok_iff.2 ⟨ones, parts, onesText, partsText, sum⟩

theorem getLast?_trimZeros (digits : List Char) : (trimZeros digits).getLast? ≠ some '0' := by
  rw [trimZeros, List.getLast?_reverse]
  have stops := List.head?_dropWhile_not (· == '0') digits.reverse
  intro zero
  rw [zero] at stops
  cases stops

theorem trimZeros_ne_nil {fraction : Nat} (present : fraction ≠ 0) :
    trimZeros (paddedDigits fraction) ≠ [] := by
  obtain ⟨zeros, whole⟩ := exists_trimZeros_append (paddedDigits fraction)
  intro nothing
  have value := ofDigitChars_paddedDigits fraction
  rw [whole, nothing, List.nil_append, Nat.ofDigitChars_replicate_zero, Nat.mul_zero] at value
  exact present value.symm

/-- A text with a fraction that is not zero ends in a digit of it, and in no zero. -/
theorem getLast?_fraction (whole : List Char) {fraction : Nat} (present : fraction ≠ 0) :
    ∃ c, (whole ++ '.' :: trimZeros (paddedDigits fraction)).getLast? = some c ∧
      c.isDigit = true ∧ c ≠ '0' := by
  obtain ⟨c, last⟩ := Option.isSome_iff_exists.1 (List.getLast?_isSome.2 (trimZeros_ne_nil present))
  refine ⟨c, ?_, isDigit_of_mem_trimZeros (List.mem_of_getLast? last), ?_⟩
  · rw [List.getLast?_append, List.getLast?_cons, last, Option.getD_some, Option.some_or]
  · rintro rfl
    exact getLast?_trimZeros _ last

theorem mem_toChars {d : Decimal} {c : Char} (member : c ∈ d.toChars) :
    c = '.' ∨ c.isDigit = true := by
  have whole_digit : c ∈ Nat.toDigits 10 (d.atomics / unit) → c.isDigit = true :=
    Nat.isDigit_of_mem_toDigits (by decide) (by decide)
  unfold toChars at member
  dsimp only at member
  split at member
  · exact .inr (whole_digit member)
  · rcases List.mem_append.1 member with front | behind
    · exact .inr (whole_digit front)
    · exact (List.mem_cons.1 behind).imp_right isDigit_of_mem_trimZeros

theorem toText_trimmed (d : Decimal) : IsTrimmed d.toText := by
  intro pointed
  rw [toText, String.toList_ofList] at pointed ⊢
  unfold toChars at pointed ⊢
  dsimp only at pointed ⊢
  split at pointed
  · exact absurd (Nat.isDigit_of_mem_toDigits (by decide) (by decide) pointed) (by decide)
  · next present =>
    obtain ⟨c, last, digit, nonzero⟩ :=
      getLast?_fraction (Nat.toDigits 10 (d.atomics / unit)) present
    rw [if_neg present, last]
    refine ⟨?_, fun zero => nonzero (Option.some.inj zero)⟩
    rintro ⟨⟩
    exact absurd digit (by decide)

end PayableLedger.Decimal
