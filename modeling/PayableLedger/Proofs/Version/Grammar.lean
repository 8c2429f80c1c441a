import PayableLedger.Proofs.Digits
import PayableLedger.Proofs.Success

set_option autoImplicit false

namespace PayableLedger.Version

/-- What stands between two dots of an identifier. A number in a pre-release has no superfluous
zero. -/
structure IsSegment (part : Part) (segment : List Char) : Prop where
  given : segment ≠ []
  plain (c : Char) (member : c ∈ segment) : c.isAlphanum = true ∨ c = '-'
  canonical : part = .preRelease → (∀ c ∈ segment, c.isDigit = true) →
    segment.head? = some '0' → segment = ['0']

inductive IsIdentifier (part : Part) : List Char → Prop
  | single {segment : List Char} (only : IsSegment part segment) : IsIdentifier part segment
  | dotted {segment others : List Char} (first : IsSegment part segment)
      (rest : IsIdentifier part others) : IsIdentifier part (segment ++ '.' :: others)

/-- An identifier behind the mark that announces it, or nothing. -/
inductive IsSuffix (mark : Char) (part : Part) : List Char → Prop
  | absent : IsSuffix mark part []
  | present {identifier : List Char} (proper : IsIdentifier part identifier) :
      IsSuffix mark part (mark :: identifier)

structure IsNumber (digits : List Char) : Prop extends IsNumeral digits where
  below : Nat.ofDigitChars 10 digits 0 < 0x10000000000000000

/-- The form of the texts: three numbers, a pre-release if there is one, and build metadata if
there are any. -/
inductive IsText : List Char → Prop
  | joined {major minor patch preRelease build : List Char} (majorNumber : IsNumber major)
      (minorNumber : IsNumber minor) (patchNumber : IsNumber patch)
      (preReleaseSuffix : IsSuffix '-' .preRelease preRelease)
      (buildSuffix : IsSuffix '+' .build build) :
      IsText (major ++ '.' :: (minor ++ '.' :: (patch ++ (preRelease ++ build))))

/-- An identifier behind its mark. There is no mark where there is no identifier. -/
def suffix (mark : Char) : List Char → List Char
  | [] => []
  | c :: rest => mark :: c :: rest

def toChars (v : Version) : List Char :=
  Nat.toDigits 10 v.major ++ '.' :: (Nat.toDigits 10 v.minor ++ '.' ::
    (Nat.toDigits 10 v.patch ++
      (suffix '-' v.preRelease.toList ++ suffix '+' v.build.toList)))

def toText (v : Version) : String := String.ofList v.toChars

structure IsProper (v : Version) : Prop where
  major : v.major < 0x10000000000000000
  minor : v.minor < 0x10000000000000000
  patch : v.patch < 0x10000000000000000
  preRelease : v.preRelease.toList ≠ [] → IsIdentifier .preRelease v.preRelease.toList
  build : v.build.toList ≠ [] → IsIdentifier .build v.build.toList

/-- The text does not begin with a character of the kind. -/
def Stops (inside : Char → Bool) (text : List Char) : Prop := ∀ c ∈ text.head?, inside c = false

@[simp] theorem stops_nil (inside : Char → Bool) : Stops inside [] := by
  intro c mem
  cases mem

@[simp] theorem stops_cons {inside : Char → Bool} {c : Char} {rest : List Char} :
    Stops inside (c :: rest) ↔ inside c = false := by
  simp [Stops]

/-- The longest run of characters of a kind is the one behind which the text stops. -/
theorem takeWhile_eq_iff {inside : Char → Bool} {text run rest : List Char} :
    text.takeWhile inside = run ∧ text.dropWhile inside = rest ↔
      text = run ++ rest ∧ (∀ c ∈ run, inside c = true) ∧ Stops inside rest := by
  constructor
  · rintro ⟨rfl, rfl⟩
    refine ⟨List.takeWhile_append_dropWhile.symm, List.all_eq_true.1 List.all_takeWhile, ?_⟩
    have stops := List.head?_dropWhile_not inside text
    intro c mem
    rw [Option.mem_def] at mem
    rwa [mem] at stops
  · rintro ⟨rfl, run, stops⟩
    have nothing : rest.takeWhile inside = [] ∧ rest.dropWhile inside = rest := by
      cases rest with
      | nil => exact ⟨rfl, rfl⟩
      | cons c rest => simp [stops_cons.1 stops]
    rw [List.takeWhile_append_of_pos run, List.dropWhile_append_of_pos run, nothing.1, nothing.2,
      List.append_nil]
    exact ⟨rfl, rfl⟩

/-- All digits are read, unless they go on behind a zero or the number becomes too large. -/
theorem readDigits_eq_ok_iff {part : Part} {value n : Nat} {text rest : List Char}
    (below : value < 0x10000000000000000) :
    readDigits part value text = .ok (n, rest) ↔
      (value = 0 → text.takeWhile Char.isDigit = []) ∧
        Nat.ofDigitChars 10 (text.takeWhile Char.isDigit) value = n ∧ n < 0x10000000000000000 ∧
        text.dropWhile Char.isDigit = rest := by
  induction text generalizing value with
  | nil =>
    simp only [readDigits, Except.ok.injEq, Prod.mk.injEq, List.takeWhile_nil,
      List.dropWhile_nil, Nat.ofDigitChars_nil, implies_true, true_and]
    constructor
    · intro read
      exact ⟨read.1, read.1 ▸ below, read.2⟩
    · intro spec
      exact ⟨spec.1, spec.2.2⟩
  | cons c text ih =>
    rw [readDigits]
    cases digit : c.isDigit with
    | false =>
      have none_taken : (c :: text).takeWhile Char.isDigit = [] := by
        rw [List.takeWhile_cons, digit]
        rfl
      have all_left : (c :: text).dropWhile Char.isDigit = c :: text := by
        rw [List.dropWhile_cons, digit]
        rfl
      simp only [Bool.false_eq_true, if_false, none_taken, all_left, Nat.ofDigitChars_nil,
        Except.ok.injEq, Prod.mk.injEq, implies_true, true_and]
      constructor
      · intro read
        exact ⟨read.1, read.1 ▸ below, read.2⟩
      · intro spec
        exact ⟨spec.1, spec.2.2⟩
    | true =>
      have taken : (c :: text).takeWhile Char.isDigit = c :: text.takeWhile Char.isDigit := by
        rw [List.takeWhile_cons, digit]
        rfl
      have left : (c :: text).dropWhile Char.isDigit = text.dropWhile Char.isDigit := by
        rw [List.dropWhile_cons, digit]
        rfl
      rw [taken, left, Nat.ofDigitChars_cons]
      by_cases zero : value = 0
      · simp [zero]
      · by_cases fits : 10 * value + (c.toNat - '0'.toNat) < 0x10000000000000000
        · have nonzero : 10 * value + (c.toNat - '0'.toNat) ≠ 0 := by omega
          simp only [if_true, zero, if_false, fits, ih fits, nonzero, false_implies, true_and]
        · -- No further digit makes the number smaller again.
          have larger := Amount.le_ofDigitChars (text.takeWhile Char.isDigit)
            (10 * value + (c.toNat - '0'.toNat))
          simp only [if_true, zero, if_false, fits, reduceCtorEq, false_implies, true_and,
            false_iff, not_and]
          intro denoted below
          omega

/-- One number is read: the text of a number below 2^64, to the end of the digits. -/
theorem readNumber_eq_ok_iff {part : Part} {n : Nat} {text rest : List Char} :
    readNumber part text = .ok (n, rest) ↔
      n < 0x10000000000000000 ∧ text = Nat.toDigits 10 n ++ rest ∧ Stops Char.isDigit rest := by
  have numeral_iff : readNumber part text = .ok (n, rest) ↔
      IsNumeral (text.takeWhile Char.isDigit) ∧
        Nat.ofDigitChars 10 (text.takeWhile Char.isDigit) 0 = n ∧ n < 0x10000000000000000 ∧
        text.dropWhile Char.isDigit = rest := by
    cases text with
    | nil =>
      have nothing : ¬ IsNumeral [] := fun numeral => numeral.given rfl
      simp only [readNumber, List.takeWhile_nil, nothing, reduceCtorEq, false_and]
    | cons c text =>
      rw [readNumber, List.takeWhile_cons, List.dropWhile_cons]
      cases digit : c.isDigit with
      | false =>
        have nothing : ¬ IsNumeral [] := fun numeral => numeral.given rfl
        simp only [Bool.false_eq_true, if_false, nothing, reduceCtorEq, false_and]
      | true =>
        have below : c.toNat - '0'.toNat < 0x10000000000000000 :=
          Nat.lt_trans (digitValue_lt digit) (by decide)
        have others : ∀ d ∈ text.takeWhile Char.isDigit, d.isDigit = true :=
          List.all_eq_true.1 List.all_takeWhile
        simp only [if_true, readDigits_eq_ok_iff below, isNumeral_cons_iff digit others,
          Nat.ofDigitChars_cons, Nat.mul_zero, Nat.zero_add]
  rw [numeral_iff]
  constructor
  · rintro ⟨numeral, rfl, below, rfl⟩
    obtain ⟨whole, _, stops⟩ := takeWhile_eq_iff.1 ⟨rfl, rfl⟩
    rw [numeral.toDigits_eq]
    exact ⟨below, whole, stops⟩
  · rintro ⟨below, whole, stops⟩
    have digits := (isNumeral_toDigits n).digit
    obtain ⟨taken, left⟩ := takeWhile_eq_iff.2 ⟨whole, digits, stops⟩
    rw [taken, left, Nat.ofDigitChars_ten_toDigits]
    exact ⟨isNumeral_toDigits n, rfl, below, rfl⟩

theorem readNumber_toDigits (part : Part) {n : Nat} {rest : List Char}
    (below : n < 0x10000000000000000) (stops : Stops Char.isDigit rest) :
    readNumber part (Nat.toDigits 10 n ++ rest) = .ok (n, rest) :=
  readNumber_eq_ok_iff.2 ⟨below, rfl, stops⟩

theorem readDot_eq_ok_iff {part : Part} {text rest : List Char} :
    readDot part text = .ok rest ↔ text = '.' :: rest := by
  cases text with
  | nil => simp [readDot]
  | cons c text =>
    by_cases dot : c = '.'
    · simp [readDot, dot]
    · simp [readDot, dot]

/-- The characters of identifiers: those of segments, and the dots between them. -/
def isIdentifierChar (c : Char) : Bool := isSegmentChar c || c == '.'

theorem isSegmentChar_iff {c : Char} :
    isSegmentChar c = true ↔ c.isAlphanum = true ∨ c = '-' := by
  simp [isSegmentChar]

theorem IsSegment.no_dot {part : Part} {segment : List Char} (proper : IsSegment part segment) :
    '.' ∉ segment := by
  intro dot
  have plain := proper.plain '.' dot
  revert plain
  decide

/-- What counts as a superfluous zero is one in front of a segment of several digits. -/
theorem hasLeadingZero_eq_false_iff {segment : List Char} :
    hasLeadingZero segment = false ↔
      ((∀ c ∈ segment, c.isDigit = true) → segment.head? = some '0' → segment = ['0']) := by
  match segment with
  | [] => simp [hasLeadingZero]
  | [c] => simp [hasLeadingZero]
  | c :: d :: rest => simp [hasLeadingZero, isNumeric]

theorem checkSegment_eq_ok_iff {part : Part} {segment : List Char}
    (plain : ∀ c ∈ segment, isSegmentChar c = true) :
    checkSegment part segment = .ok () ↔ IsSegment part segment := by
  have canonical_iff : ¬ (decide (part = .preRelease) && hasLeadingZero segment) = true ↔
      (part = .preRelease → (∀ c ∈ segment, c.isDigit = true) →
        segment.head? = some '0' → segment = ['0']) := by
    rw [Bool.and_eq_true, decide_eq_true_eq, not_and, Bool.not_eq_true,
      hasLeadingZero_eq_false_iff]
  rw [checkSegment, refuse_eq_ok_iff, refuse_eq_ok_iff, canonical_iff]
  constructor
  · rintro ⟨given, canonical, -⟩
    exact ⟨given, fun c member => isSegmentChar_iff.1 (plain c member), canonical⟩
  · intro proper
    exact ⟨proper.given, proper.canonical, rfl⟩

theorem checkSegments_cons_eq_ok_iff {part : Part} {segment : List Char}
    {others : List (List Char)} (plain : ∀ c ∈ segment, isSegmentChar c = true) :
    checkSegments part (segment :: others) = .ok () ↔
      IsSegment part segment ∧ checkSegments part others = .ok () := by
  rw [checkSegments, bind_eq_ok_iff, exists_unit_iff, checkSegment_eq_ok_iff plain]

theorem IsSegment.segmentChar {part : Part} {segment : List Char}
    (proper : IsSegment part segment) : ∀ c ∈ segment, isSegmentChar c = true :=
  fun c member => isSegmentChar_iff.2 (proper.plain c member)

theorem segmentChar_of_undotted {segment : List Char}
    (inside : ∀ c ∈ segment, isIdentifierChar c = true) (undotted : '.' ∉ segment) :
    ∀ c ∈ segment, isSegmentChar c = true := by
  intro c member
  have other : c ≠ '.' := fun dot => undotted (dot ▸ member)
  have either := inside c member
  rw [isIdentifierChar, Bool.or_eq_true, beq_iff_eq] at either
  exact either.resolve_right other

theorem IsIdentifier.ne_nil {part : Part} {identifier : List Char}
    (proper : IsIdentifier part identifier) : identifier ≠ [] := by
  cases proper with
  | single only => exact only.given
  | dotted first rest => exact List.append_ne_nil_of_right_ne_nil _ (List.cons_ne_nil _ _)

theorem IsIdentifier.inside {part : Part} {identifier : List Char}
    (proper : IsIdentifier part identifier) : ∀ c ∈ identifier, isIdentifierChar c = true := by
  induction proper with
  | single only =>
    intro c member
    rw [isIdentifierChar, only.segmentChar c member, Bool.true_or]
  | dotted first rest ih =>
    intro c member
    rcases List.mem_append.1 member with front | back
    · rw [isIdentifierChar, first.segmentChar c front, Bool.true_or]
    · rcases List.mem_cons.1 back with rfl | behind
      · rfl
      · exact ih c behind

theorem IsIdentifier.checkSegments {part : Part} {identifier : List Char}
    (proper : IsIdentifier part identifier) :
    checkSegments part (identifier.splitOn '.') = .ok () := by
  induction proper with
  | single only =>
    rw [List.splitOn_eq_singleton only.no_dot, checkSegments_cons_eq_ok_iff only.segmentChar]
    exact ⟨only, rfl⟩
  | dotted first rest ih =>
    rw [List.splitOn_append_cons_self_of_not_mem first.no_dot,
      checkSegments_cons_eq_ok_iff first.segmentChar]
    exact ⟨first, ih⟩

theorem isIdentifier_of_checkSegments {part : Part} {identifier : List Char}
    (inside : ∀ c ∈ identifier, isIdentifierChar c = true)
    (checked : Version.checkSegments part (identifier.splitOn '.') = .ok ()) :
    IsIdentifier part identifier := by
  -- One segment after the other is taken off the front, up to the first dot.
  induction length : identifier.length using Nat.strongRecOn generalizing identifier with
  | ind bound ih =>
    by_cases dotted : '.' ∈ identifier
    · obtain ⟨segment, others, rfl, undotted⟩ := List.eq_append_cons_of_mem dotted
      have front : ∀ c ∈ segment, isIdentifierChar c = true :=
        fun c member => inside c (List.mem_append_left _ member)
      have back : ∀ c ∈ others, isIdentifierChar c = true :=
        fun c member => inside c (List.mem_append_right _ (List.mem_cons_of_mem _ member))
      rw [List.splitOn_append_cons_self_of_not_mem undotted,
        checkSegments_cons_eq_ok_iff (segmentChar_of_undotted front undotted)] at checked
      have shorter : others.length < bound := by
        rw [← length, List.length_append, List.length_cons]
        omega
      exact .dotted checked.1 (ih others.length shorter back checked.2 rfl)
    · rw [List.splitOn_eq_singleton dotted,
        checkSegments_cons_eq_ok_iff (segmentChar_of_undotted inside dotted)] at checked
      exact .single checked.1

theorem readIdentifier_eq_ok_iff {part : Part} {text identifier rest : List Char} :
    readIdentifier part text = .ok (identifier, rest) ↔
      text = identifier ++ rest ∧ IsIdentifier part identifier ∧ Stops isIdentifierChar rest := by
  have taken_iff : readIdentifier part text = .ok (identifier, rest) ↔
      checkSegments part (identifier.splitOn '.') = .ok () ∧
        text.takeWhile isIdentifierChar = identifier ∧
        text.dropWhile isIdentifierChar = rest := by
    have steps : readIdentifier part text = (do
        checkSegments part ((text.takeWhile isIdentifierChar).splitOn '.')
        return (text.takeWhile isIdentifierChar, text.dropWhile isIdentifierChar)) := rfl
    rw [steps, bind_eq_ok_iff, exists_unit_iff, pure_eq_ok_iff, Prod.mk.injEq]
    constructor
    · rintro ⟨checked, rfl, rfl⟩
      exact ⟨checked, rfl, rfl⟩
    · rintro ⟨checked, rfl, rfl⟩
      exact ⟨checked, rfl, rfl⟩
  rw [taken_iff, takeWhile_eq_iff]
  constructor
  · rintro ⟨checked, whole, inside, stops⟩
    exact ⟨whole, isIdentifier_of_checkSegments inside checked, stops⟩
  · rintro ⟨whole, proper, stops⟩
    exact ⟨proper.checkSegments, whole, proper.inside, stops⟩

theorem suffix_of_ne_nil {mark : Char} {identifier : List Char} (given : identifier ≠ []) :
    suffix mark identifier = mark :: identifier := by
  obtain ⟨c, rest, rfl⟩ := List.exists_cons_of_ne_nil given
  rfl

theorem readMarked_of_stops {mark : Char} {part last : Part} {text : List Char}
    (stops : Stops (· == mark) text) : readMarked mark part last text = .ok ([], text, last) := by
  cases text with
  | nil => rfl
  | cons c text =>
    have other : c ≠ mark := by simpa using stops
    rw [readMarked, if_neg other]

theorem readMarked_mark {mark : Char} {part last reached : Part}
    {text identifier rest : List Char} :
    readMarked mark part last (mark :: text) = .ok (identifier, rest, reached) ↔
      readIdentifier part text = .ok (identifier, rest) ∧ reached = part := by
  rw [readMarked, if_pos rfl]
  cases readIdentifier part text with
  | error cause => simp [bind, Except.bind]
  | ok read => simp [bind, Except.bind, pure, Except.pure, Prod.ext_iff, and_assoc, eq_comm]

/-- Either nothing is read, since the text does not go on with the mark, or the identifier behind
it. -/
theorem readMarked_eq_ok_iff {mark : Char} {part last : Part} {text identifier rest : List Char} :
    (∃ reached, readMarked mark part last text = .ok (identifier, rest, reached)) ↔
      text = suffix mark identifier ++ rest ∧
        (identifier = [] → Stops (· == mark) rest) ∧
        (identifier ≠ [] → IsIdentifier part identifier ∧ Stops isIdentifierChar rest) := by
  by_cases marked : ∃ behind, text = mark :: behind
  · obtain ⟨behind, rfl⟩ := marked
    simp only [readMarked_mark, exists_eq_right, readIdentifier_eq_ok_iff]
    constructor
    · rintro ⟨rfl, proper, stops⟩
      rw [suffix_of_ne_nil proper.ne_nil]
      exact ⟨rfl, fun nothing => absurd nothing proper.ne_nil, fun _ => ⟨proper, stops⟩⟩
    · rintro ⟨whole, absent, present⟩
      by_cases given : identifier = []
      · have stops := absent given
        subst given
        obtain rfl : mark :: behind = rest := whole
        simp at stops
      · rw [suffix_of_ne_nil given, List.cons_append, List.cons.injEq] at whole
        exact ⟨whole.2, present given⟩
  · have stops : Stops (· == mark) text := by
      cases text with
      | nil => exact stops_nil _
      | cons c text =>
        have other : c ≠ mark := fun same => marked ⟨text, by rw [same]⟩
        simpa using other
    simp only [readMarked_of_stops stops, Except.ok.injEq, Prod.mk.injEq, exists_and_left,
      exists_eq', and_true]
    constructor
    · rintro ⟨rfl, rfl⟩
      exact ⟨rfl, fun _ => stops, fun given => absurd rfl given⟩
    · rintro ⟨whole, absent, present⟩
      by_cases given : identifier = []
      · subst given
        exact ⟨rfl, whole⟩
      · rw [suffix_of_ne_nil given] at whole
        exact absurd ⟨_, whole⟩ marked

theorem stops_suffix {inside : Char → Bool} {mark : Char} (outside : inside mark = false)
    (identifier : List Char) : Stops inside (suffix mark identifier) := by
  cases identifier with
  | nil => exact stops_nil _
  | cons c rest => exact stops_cons.2 outside

/-- Each part is read up to where the next one begins. -/
theorem IsProper.ofChars_toChars {v : Version} (proper : v.IsProper) :
    ofChars v.toChars = .ok v := by
  have given : v.toChars ≠ [] := List.append_ne_nil_of_left_ne_nil Nat.toDigits_ne_nil _
  have behindPatch : Stops Char.isDigit
      (suffix '-' v.preRelease.toList ++ suffix '+' v.build.toList) := by
    cases v.preRelease.toList with
    | nil => exact stops_suffix rfl _
    | cons c rest => exact stops_cons.2 rfl
  have behindPreRelease : Stops isIdentifierChar (suffix '+' v.build.toList) := stops_suffix rfl _
  obtain ⟨last, readsPreRelease⟩ : ∃ last, readMarked '-' .preRelease .patch
      (suffix '-' v.preRelease.toList ++ suffix '+' v.build.toList) =
      .ok (v.preRelease.toList, suffix '+' v.build.toList, last) :=
    readMarked_eq_ok_iff.2 ⟨rfl, fun _ => stops_suffix rfl _,
      fun given => ⟨proper.preRelease given, behindPreRelease⟩⟩
  obtain ⟨reached, readsBuild⟩ : ∃ reached, readMarked '+' .build last
      (suffix '+' v.build.toList) = .ok (v.build.toList, [], reached) :=
    readMarked_eq_ok_iff.2 ⟨(List.append_nil _).symm, fun _ => stops_nil _,
      fun given => ⟨proper.build given, stops_nil _⟩⟩
  have behindDot (rest : List Char) : Stops Char.isDigit ('.' :: rest) := stops_cons.2 rfl
  rw [ofChars, if_neg given, toChars, readNumber_toDigits .major proper.major (behindDot _)]
  change (readNumber .minor _ >>= _) = _
  rw [readNumber_toDigits .minor proper.minor (behindDot _)]
  change (readNumber .patch _ >>= _) = _
  rw [readNumber_toDigits .patch proper.patch behindPatch]
  change (readMarked '-' .preRelease .patch _ >>= _) = _
  rw [readsPreRelease]
  change (readMarked '+' .build last _ >>= _) = _
  rw [readsBuild]
  change Except.ok (⟨_, _, _, String.ofList _, String.ofList _⟩ : Version) = _
  rw [String.ofList_toList, String.ofList_toList]

/-- What was read is a version, and nothing of the text was passed over. -/
theorem isProper_of_ofChars {text : List Char} {v : Version} (read : ofChars text = .ok v) :
    v.IsProper ∧ v.toChars = text := by
  simp only [ofChars, refuse_eq_ok_iff, bind_eq_ok_iff, Prod.exists, readNumber_eq_ok_iff,
    readDot_eq_ok_iff] at read
  obtain ⟨-, major, _, ⟨majorBelow, rfl, -⟩, _, rfl, read⟩ := read
  obtain ⟨minor, _, ⟨minorBelow, rfl, -⟩, _, rfl, read⟩ := read
  obtain ⟨patch, _, ⟨patchBelow, rfl, -⟩, read⟩ := read
  obtain ⟨preRelease, behind, last, readsPreRelease, read⟩ := read
  obtain ⟨build, rest, reached, readsBuild, ends⟩ := read
  obtain ⟨rfl, -, preReleaseProper⟩ := readMarked_eq_ok_iff.1 ⟨last, readsPreRelease⟩
  obtain ⟨rfl, -, buildProper⟩ := readMarked_eq_ok_iff.1 ⟨reached, readsBuild⟩
  cases rest with
  | cons c more => cases ends
  | nil =>
    obtain rfl := pure_eq_ok_iff.1 ends
    constructor
    · constructor
      · exact majorBelow
      · exact minorBelow
      · exact patchBelow
      · rw [String.toList_ofList]
        exact fun given => (preReleaseProper given).1
      · rw [String.toList_ofList]
        exact fun given => (buildProper given).1
    · simp only [toChars, String.toList_ofList, List.append_nil]

theorem ofChars_eq_ok_iff {text : List Char} {v : Version} :
    ofChars text = .ok v ↔ v.IsProper ∧ v.toChars = text := by
  constructor
  · exact isProper_of_ofChars
  · rintro ⟨proper, rfl⟩
    exact proper.ofChars_toChars

theorem parse_eq_ok_iff {text : String} {v : Version} :
    parse text = .ok v ↔ v.IsProper ∧ v.toText = text := by
  rw [parse, ofChars_eq_ok_iff, toText, ← String.toList_inj, String.toList_ofList]

theorem isNumber_iff {digits : List Char} :
    IsNumber digits ↔ ∃ n < 0x10000000000000000, digits = Nat.toDigits 10 n := by
  constructor
  · intro number
    exact ⟨_, number.below, number.toIsNumeral.toDigits_eq.symm⟩
  · rintro ⟨n, below, rfl⟩
    refine ⟨isNumeral_toDigits n, ?_⟩
    rwa [Nat.ofDigitChars_ten_toDigits]

theorem isSuffix_iff {mark : Char} {part : Part} {text : List Char} :
    IsSuffix mark part text ↔ ∃ identifier, text = suffix mark identifier ∧
      (identifier ≠ [] → IsIdentifier part identifier) := by
  constructor
  · intro proper
    cases proper with
    | absent => exact ⟨[], rfl, fun given => absurd rfl given⟩
    | @present identifier proper =>
      exact ⟨identifier, (suffix_of_ne_nil proper.ne_nil).symm, fun _ => proper⟩
  · rintro ⟨identifier, rfl, proper⟩
    cases identifier with
    | nil => exact .absent
    | cons c rest => exact .present (proper (List.cons_ne_nil c rest))

theorem isText_iff {text : List Char} :
    IsText text ↔ ∃ v : Version, v.IsProper ∧ v.toChars = text := by
  constructor
  · rintro ⟨majorNumber, minorNumber, patchNumber, preReleaseSuffix, buildSuffix⟩
    obtain ⟨major, majorBelow, rfl⟩ := isNumber_iff.1 majorNumber
    obtain ⟨minor, minorBelow, rfl⟩ := isNumber_iff.1 minorNumber
    obtain ⟨patch, patchBelow, rfl⟩ := isNumber_iff.1 patchNumber
    obtain ⟨preRelease, rfl, preReleaseProper⟩ := isSuffix_iff.1 preReleaseSuffix
    obtain ⟨build, rfl, buildProper⟩ := isSuffix_iff.1 buildSuffix
    refine ⟨⟨major, minor, patch, String.ofList preRelease, String.ofList build⟩, ?_, ?_⟩
    · constructor
      · exact majorBelow
      · exact minorBelow
      · exact patchBelow
      · rwa [String.toList_ofList]
      · rwa [String.toList_ofList]
    · simp only [toChars, String.toList_ofList]
  · rintro ⟨v, proper, rfl⟩
    exact .joined (isNumber_iff.2 ⟨v.major, proper.major, rfl⟩)
      (isNumber_iff.2 ⟨v.minor, proper.minor, rfl⟩) (isNumber_iff.2 ⟨v.patch, proper.patch, rfl⟩)
      (isSuffix_iff.2 ⟨_, rfl, proper.preRelease⟩) (isSuffix_iff.2 ⟨_, rfl, proper.build⟩)

/-- Of the texts, those of the form are read, and none of their characters is lost: the parts joined
again are the text, so two texts are never read as one version. A text of any other form is refused,
and so is a migration of a ledger whose stamp has it for its version. -/
theorem parse_exact (text : String) :
    ((∃ v, parse text = .ok v) ↔ IsText text.toList) ∧
    (∀ v, parse text = .ok v → v.toText = text) ∧
    (∀ other v w, parse text = .ok v → parse other = .ok w → text ≠ other → v ≠ w) ∧
    (¬ IsText text.toList → ∃ cause, parse text = .error cause ∧
      Stamp.checkMigration ⟨Stamp.running.contract, text⟩ = .error (.badVersion cause)) := by
  have read_iff : (∃ v, parse text = .ok v) ↔ IsText text.toList := by
    simp only [parse, ofChars_eq_ok_iff, isText_iff]
  refine ⟨read_iff, fun v read => (parse_eq_ok_iff.1 read).2, ?_, ?_⟩
  · intro other v w read readOther distinct same
    have joined : v.toText = text := (parse_eq_ok_iff.1 read).2
    have otherJoined : w.toText = other := (parse_eq_ok_iff.1 readOther).2
    rw [← joined, ← otherJoined, same] at distinct
    exact distinct rfl
  · intro formless
    cases reads : parse text with
    | ok v => exact absurd (read_iff.1 ⟨v, reads⟩) formless
    | error cause =>
      refine ⟨cause, rfl, ?_⟩
      rw [Stamp.checkMigration, if_neg (not_not_intro rfl)]
      simp only [reads]

example : (parse "1.20.3-rc.0-a+007").map toText = .ok "1.20.3-rc.0-a+007" := by decide +kernel

end PayableLedger.Version
