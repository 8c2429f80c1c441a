set_option autoImplicit false

namespace PayableLedger

/-- Amounts are the numbers below 2^128. -/
abbrev Amount.bound : Nat := 0x100000000000000000000000000000000

/-- An amount of tokens in its smallest unit. -/
structure Amount where
  units : Nat
  units_lt : units < Amount.bound
deriving DecidableEq

inductive Amount.ParseError
  | empty
  | invalidDigit
  | tooLarge
deriving DecidableEq

def Amount.ParseError.message : Amount.ParseError → String
  | .empty => "cannot parse integer from empty string"
  | .invalidDigit => "invalid digit found in string"
  | .tooLarge => "number too large to fit in target type"

namespace Amount

@[ext] theorem ext {a b : Amount} (same : a.units = b.units) : a = b := by
  cases a; cases b; cases same; rfl

def zero : Amount := ⟨0, by decide⟩

@[simp] theorem units_zero : zero.units = 0 := rfl

def max : Amount := ⟨bound - 1, by decide⟩

def ofNat? (n : Nat) : Option Amount :=
  if inRange : n < bound then some ⟨n, inRange⟩ else none

def isZero (a : Amount) : Bool := a.units == 0

def add? (a b : Amount) : Option Amount := ofNat? (a.units + b.units)

/-- A sum that is out of range becomes the greatest amount. -/
def addSaturating (a b : Amount) : Amount := (a.add? b).getD max

/-- A difference that would be negative becomes zero. -/
def minus (a b : Amount) : Amount :=
  ⟨a.units - b.units, Nat.lt_of_le_of_lt (Nat.sub_le _ _) a.units_lt⟩

def sub? (a b : Amount) : Option Amount :=
  if b.units ≤ a.units then some (a.minus b) else none

theorem ofNat?_eq_some_iff {n : Nat} {a : Amount} : ofNat? n = some a ↔ a.units = n := by
  unfold ofNat?
  split
  · next inRange =>
    rw [Option.some.injEq]
    exact ⟨fun same => same ▸ rfl, fun same => ext same.symm⟩
  · next outside =>
    have below := a.units_lt
    simp only [reduceCtorEq, false_iff]
    omega

theorem add?_eq_some_iff {a b c : Amount} :
    a.add? b = some c ↔ c.units = a.units + b.units := ofNat?_eq_some_iff

theorem add?_eq_none_iff {a b : Amount} :
    a.add? b = none ↔ bound ≤ a.units + b.units := by
  simp [add?, ofNat?]

theorem sub?_eq_some_iff {a b c : Amount} :
    a.sub? b = some c ↔ c.units + b.units = a.units := by
  unfold sub?
  split
  · rw [Option.some.injEq]
    constructor
    · rintro rfl
      simp only [minus]
      omega
    · intro sum
      apply ext
      simp only [minus]
      omega
  · simp only [reduceCtorEq, false_iff]
    omega

theorem units_addSaturating (a b : Amount) :
    (a.addSaturating b).units = min (a.units + b.units) (bound - 1) := by
  unfold addSaturating
  cases sum : a.add? b with
  | some c =>
    have := add?_eq_some_iff.1 sum
    have := c.units_lt
    simp only [Option.getD_some]
    omega
  | none =>
    have := add?_eq_none_iff.1 sum
    simp only [Option.getD_none, max]
    omega

theorem isZero_iff {a : Amount} : a.isZero = true ↔ a.units = 0 := by
  simp [isZero]

/-- Reads digits behind those that denote `acc`; the first character that is no digit, or that
carries the number out of range, decides. -/
def readDigits (acc : Nat) : List Char → Except ParseError Nat
  | [] => .ok acc
  | c :: rest =>
    if c.isDigit then
      let next := 10 * acc + (c.toNat - '0'.toNat)
      if next < bound then readDigits next rest else .error .tooLarge
    else .error .invalidDigit

def readNumber : List Char → Except ParseError Nat
  | [] => .error .invalidDigit
  | digits => readDigits 0 digits

/-- The number that a text denotes: digits, behind a plus sign if there is one. -/
def readUnits : List Char → Except ParseError Nat
  | [] => .error .empty
  | '+' :: digits => readNumber digits
  | digits => readNumber digits

theorem le_ofDigitChars (digits : List Char) (acc : Nat) :
    acc ≤ Nat.ofDigitChars 10 digits acc := by
  induction digits generalizing acc with
  | nil => simp
  | cons c rest ih =>
    rw [Nat.ofDigitChars_cons]
    exact Nat.le_trans (by omega) (ih _)

theorem readDigits_lt {acc n : Nat} {digits : List Char} (inRange : acc < bound)
    (success : readDigits acc digits = .ok n) : n < bound := by
  fun_induction readDigits acc digits with
  | case1 => cases success; exact inRange
  | case2 acc c rest digit next fits ih => exact ih fits success
  | case3 => cases success
  | case4 => cases success

theorem readNumber_lt {n : Nat} {digits : List Char} (success : readNumber digits = .ok n) :
    n < bound := by
  unfold readNumber at success
  split at success
  · cases success
  · exact readDigits_lt (by decide) success

theorem readUnits_lt {n : Nat} {text : List Char} (success : readUnits text = .ok n) :
    n < bound := by
  unfold readUnits at success
  split at success
  · cases success
  · exact readNumber_lt success
  · exact readNumber_lt success

def ofChars (text : List Char) : Except ParseError Amount :=
  match success : readUnits text with
  | .ok n => .ok ⟨n, readUnits_lt success⟩
  | .error e => .error e

def parse (text : String) : Except ParseError Amount := ofChars text.toList

def digits (a : Amount) : List Char := Nat.toDigits 10 a.units

def toText (a : Amount) : String := String.ofList a.digits

theorem readDigits_eq_ok_iff {acc n : Nat} {digits : List Char} (inRange : acc < bound) :
    readDigits acc digits = .ok n ↔
      (∀ c ∈ digits, c.isDigit = true) ∧ Nat.ofDigitChars 10 digits acc = n ∧ n < bound := by
  induction digits generalizing acc with
  | nil =>
    simp only [readDigits, Except.ok.injEq, Nat.ofDigitChars_nil, List.not_mem_nil,
      false_implies, implies_true, true_and]
    omega
  | cons c rest ih =>
    rw [readDigits, Nat.ofDigitChars_cons]
    split
    · next digit =>
      dsimp only
      split
      · next fits => rw [ih fits]; simp [digit]
      · next tooLarge =>
        simp only [reduceCtorEq, false_iff, not_and]
        intro _ value below
        have := Nat.le_trans (Nat.le_of_not_lt tooLarge) (le_ofDigitChars rest _)
        omega
    · next other => simp [other]

theorem readUnits_of_digit {c : Char} {rest : List Char} (digit : c.isDigit = true) :
    readUnits (c :: rest) = readDigits 0 (c :: rest) := by
  unfold readUnits
  split
  · next nothing => cases nothing
  · next plus => cases plus; exact absurd digit (by decide)
  · rfl

theorem ofChars_eq_ok_iff {text : List Char} {a : Amount} :
    ofChars text = .ok a ↔ readUnits text = .ok a.units := by
  unfold ofChars
  split
  · next n success =>
    simp only [success, Except.ok.injEq]
    exact ⟨fun same => same ▸ rfl, fun same => ext same⟩
  · next e failed => simp [failed]

theorem readUnits_toDigits {n : Nat} (inRange : n < bound) :
    readUnits (Nat.toDigits 10 n) = .ok n := by
  have all_digits : ∀ c ∈ Nat.toDigits 10 n, c.isDigit = true := fun c is_digit =>
    Nat.isDigit_of_mem_toDigits (by decide) (by decide) is_digit
  have value := Nat.ofDigitChars_ten_toDigits (n := n)
  cases split : Nat.toDigits 10 n with
  | nil => exact absurd split Nat.toDigits_ne_nil
  | cons c rest =>
    rw [split] at all_digits value
    rw [readUnits_of_digit (all_digits c (by simp)), readDigits_eq_ok_iff (by decide)]
    exact ⟨all_digits, value, inRange⟩

theorem ofChars_digits (a : Amount) : ofChars a.digits = .ok a :=
  ofChars_eq_ok_iff.2 (readUnits_toDigits a.units_lt)

theorem parse_toText (a : Amount) : parse a.toText = .ok a := by
  rw [parse, toText, String.toList_ofList, ofChars_digits]

end Amount

end PayableLedger
