import PayableLedger.Amount

set_option autoImplicit false

namespace PayableLedger

/-- A multiple of 10^-18; the count is bounded like an amount. -/
structure Decimal where
  atomics : Nat
  atomics_lt : atomics < Amount.bound

inductive Decimal.ParseError
  | whole
  | tooLarge
  | fraction
  | tooPrecise
  | secondPoint
deriving DecidableEq

def Decimal.ParseError.message : Decimal.ParseError → String
  | .whole => "Error parsing whole"
  | .tooLarge => "Value too big"
  | .fraction => "Error parsing fractional"
  | .tooPrecise => "Cannot parse more than 18 fractional digits"
  | .secondPoint => "Unexpected number of dots"

namespace Decimal

@[ext] theorem ext {a b : Decimal} (same : a.atomics = b.atomics) : a = b := by
  cases a; cases b; cases same; rfl

instance : DecidableEq Decimal := fun a b =>
  decidable_of_iff (a.atomics = b.atomics) ⟨ext, congrArg atomics⟩

def places : Nat := 18

/-- The count that stands for one. -/
def unit : Nat := 1000000000000000000

def one : Decimal := ⟨unit, by decide⟩

def ofAtomics? (n : Nat) : Option Decimal :=
  if inRange : n < Amount.bound then some ⟨n, inRange⟩ else none

/-- The product with an amount, rounded down; absent when it is no amount. -/
def times? (d : Decimal) (a : Amount) : Option Amount :=
  Amount.ofNat? (a.units * d.atomics / unit)

/-- The decimal as a percentage, rounded down to a whole number. -/
def percentText (d : Decimal) : String := String.ofList (Nat.toDigits 10 (100 * d.atomics / unit))

/-- Reads the part of a text before its point. -/
def readWhole (text : List Char) : Except ParseError Decimal :=
  match Amount.readUnits text with
  | .error _ => .error .whole
  | .ok n => match ofAtomics? (unit * n) with
    | none => .error .tooLarge
    | some d => .ok d

/-- Adds the part of a text behind its point. -/
def addFraction (whole : Decimal) (text : List Char) : Except ParseError Decimal :=
  match Amount.readUnits text with
  | .error _ => .error .fraction
  | .ok n =>
    if places < text.length then .error .tooPrecise
    else match ofAtomics? (whole.atomics + Nat.pow 10 (places - text.length) * n) with
      | none => .error .tooLarge
      | some d => .ok d

/-- Reads the parts of a text between its points. -/
def ofParts : List (List Char) → Except ParseError Decimal
  | [] => .error .whole
  | [whole] => readWhole whole
  | [whole, fraction] => do addFraction (← readWhole whole) fraction
  | whole :: fraction :: _ => do
    let _ ← addFraction (← readWhole whole) fraction
    .error .secondPoint

def ofChars (text : List Char) : Except ParseError Decimal := ofParts (text.splitOn '.')

def parse (text : String) : Except ParseError Decimal := ofChars text.toList

def trimZeros (digits : List Char) : List Char :=
  (digits.reverse.dropWhile (· == '0')).reverse

/-- A number below 10^18 as exactly 18 digits. -/
def paddedDigits (n : Nat) : List Char :=
  List.leftpad places '0' (Nat.toDigits 10 n)

/-- The whole part, and behind a point the fractional digits up to the last that is not zero. -/
def toChars (d : Decimal) : List Char :=
  let whole := Nat.toDigits 10 (d.atomics / unit)
  let fraction := d.atomics % unit
  if fraction = 0 then whole else whole ++ '.' :: trimZeros (paddedDigits fraction)

def toText (d : Decimal) : String := String.ofList d.toChars

theorem ofAtomics?_atomics (d : Decimal) : ofAtomics? d.atomics = some d := by
  rw [ofAtomics?, dif_pos d.atomics_lt]

theorem unit_pos : 0 < unit := by decide

theorem ofDigitChars_paddedDigits (n : Nat) : Nat.ofDigitChars 10 (paddedDigits n) 0 = n := by
  simp [paddedDigits, List.leftpad, Nat.ofDigitChars_append]

theorem isDigit_of_mem_paddedDigits {n : Nat} {c : Char} (mem : c ∈ paddedDigits n) :
    c.isDigit = true := by
  rw [paddedDigits, List.leftpad, List.mem_append, List.mem_replicate] at mem
  rcases mem with ⟨_, rfl⟩ | digit
  · rfl
  · exact Nat.isDigit_of_mem_toDigits (by decide) (by decide) digit

theorem length_paddedDigits {n : Nat} (small : n < unit) : (paddedDigits n).length = places := by
  have fits : (Nat.toDigits 10 n).length ≤ places :=
    (Nat.length_toDigits_le_iff (by decide) (by decide)).2 small
  simp only [paddedDigits, List.leftpad, List.length_append, List.length_replicate]
  omega

theorem exists_trimZeros_append (digits : List Char) :
    ∃ zeros, digits = trimZeros digits ++ List.replicate zeros '0' := by
  refine ⟨(digits.reverse.takeWhile (· == '0')).length, ?_⟩
  have all_zero : digits.reverse.takeWhile (· == '0') =
      List.replicate (digits.reverse.takeWhile (· == '0')).length '0' :=
    List.eq_replicate_iff.2 ⟨rfl, fun c mem =>
      eq_of_beq (List.all_eq_true.1 List.all_takeWhile c mem)⟩
  rw [trimZeros, ← List.reverse_replicate, ← all_zero, ← List.reverse_append,
    List.takeWhile_append_dropWhile, List.reverse_reverse]

theorem isDigit_of_mem_trimZeros {fraction : Nat} {c : Char}
    (member : c ∈ trimZeros (paddedDigits fraction)) : c.isDigit = true := by
  obtain ⟨zeros, whole⟩ := exists_trimZeros_append (paddedDigits fraction)
  apply isDigit_of_mem_paddedDigits (n := fraction)
  rw [whole]
  exact List.mem_append_left _ member

theorem addFraction_trimZeros {whole : Decimal} {fraction : Nat} (present : fraction ≠ 0)
    (small : fraction < unit) {d : Decimal} (sum : d.atomics = whole.atomics + fraction) :
    addFraction whole (trimZeros (paddedDigits fraction)) = .ok d := by
  obtain ⟨zeros, parts⟩ := exists_trimZeros_append (paddedDigits fraction)
  have all_digits : ∀ c ∈ trimZeros (paddedDigits fraction), c.isDigit = true :=
    fun c => isDigit_of_mem_trimZeros
  generalize trimZeros (paddedDigits fraction) = trimmed at *
  have length : trimmed.length + zeros = places := by
    have := length_paddedDigits small
    rw [parts] at this
    simpa using this
  have value : Nat.pow 10 zeros * Nat.ofDigitChars 10 trimmed 0 = fraction := by
    have := ofDigitChars_paddedDigits fraction
    rw [parts, Nat.ofDigitChars_append, Nat.ofDigitChars_replicate_zero] at this
    exact this
  have below : Nat.ofDigitChars 10 trimmed 0 < Amount.bound := by
    have : Nat.ofDigitChars 10 trimmed 0 ≤ fraction :=
      value ▸ Nat.le_mul_of_pos_left _ (Nat.pow_pos (by decide))
    simp only [unit] at small
    simp only [Amount.bound]
    omega
  cases trimmed with
  | nil => simp_all
  | cons c rest =>
    have read : Amount.readUnits (c :: rest) = .ok (Nat.ofDigitChars 10 (c :: rest) 0) := by
      rw [Amount.readUnits_of_digit (all_digits c (by simp)),
        Amount.readDigits_eq_ok_iff (by decide)]
      exact ⟨all_digits, rfl, below⟩
    have gap : places - (c :: rest).length = zeros := by omega
    have total :
        whole.atomics + Nat.pow 10 zeros * Nat.ofDigitChars 10 (c :: rest) 0 = d.atomics := by
      rw [sum, value]
    simp only [addFraction, read, gap, total, ofAtomics?_atomics]
    rw [if_neg (by omega)]

theorem readWhole_toDigits {n : Nat} {d : Decimal} (whole : d.atomics = unit * n) :
    readWhole (Nat.toDigits 10 n) = .ok d := by
  have small : n < Amount.bound :=
    Nat.lt_of_le_of_lt (whole ▸ Nat.le_mul_of_pos_left n unit_pos) d.atomics_lt
  rw [readWhole, Amount.readUnits_toDigits small]
  simp only [← whole, ofAtomics?_atomics]

theorem point_not_mem {digits : List Char} (all_digits : ∀ c ∈ digits, c.isDigit = true) :
    '.' ∉ digits := fun mem => absurd (all_digits '.' mem) (by decide)

theorem ofChars_toChars (d : Decimal) : ofChars d.toChars = .ok d := by
  have below := d.atomics_lt
  have whole_digits : ∀ c ∈ Nat.toDigits 10 (d.atomics / unit), c.isDigit = true := fun c mem =>
    Nat.isDigit_of_mem_toDigits (by decide) (by decide) mem
  have small : d.atomics % unit < unit := Nat.mod_lt _ unit_pos
  obtain ⟨whole, multiple⟩ : ∃ whole : Decimal, whole.atomics = unit * (d.atomics / unit) :=
    ⟨⟨_, Nat.lt_of_le_of_lt (Nat.mul_div_le _ _) below⟩, rfl⟩
  have parts : d.atomics = whole.atomics + d.atomics % unit := by
    rw [multiple, Nat.div_add_mod]
  have read : readWhole (Nat.toDigits 10 (d.atomics / unit)) = .ok whole :=
    readWhole_toDigits multiple
  unfold toChars
  dsimp only
  split
  · next nothing =>
    have same : whole = d := ext (by rw [parts, nothing, Nat.add_zero])
    rw [ofChars, List.splitOn_eq_singleton (point_not_mem whole_digits), ofParts, read, same]
  · next present =>
    have fraction_digits :
        ∀ c ∈ trimZeros (paddedDigits (d.atomics % unit)), c.isDigit = true :=
      fun c => isDigit_of_mem_trimZeros
    rw [ofChars, List.splitOn_append_cons_self_of_not_mem (point_not_mem whole_digits),
      List.splitOn_eq_singleton (point_not_mem fraction_digits), ofParts, read]
    exact addFraction_trimZeros present small parts

theorem parse_toText (d : Decimal) : parse d.toText = .ok d := by
  rw [parse, toText, String.toList_ofList, ofChars_toChars]

end Decimal

end PayableLedger
