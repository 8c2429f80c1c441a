set_option autoImplicit false

namespace PayableLedger.Json

def hexDigit (d : Nat) : Char := (Nat.digitChar d).toUpper

/-- A control character by its code, four hexadecimal digits. -/
def codeEscape (c : Char) : List Char :=
  ['\\', 'u', '0', '0', hexDigit (c.toNat / 16), hexDigit (c.toNat % 16)]

/-- The quote, the backslash and the control characters are escaped. -/
def escapeChar (c : Char) : List Char :=
  if c = '"' then ['\\', '"']
  else if c = '\\' then ['\\', '\\']
  else if c = '\x08' then ['\\', 'b']
  else if c = '\t' then ['\\', 't']
  else if c = '\n' then ['\\', 'n']
  else if c = '\x0c' then ['\\', 'f']
  else if c = '\r' then ['\\', 'r']
  else if c.toNat < 0x20 then codeEscape c
  else [c]

def escape (text : List Char) : List Char := text.flatMap escapeChar

/-- The characters up to the quote that closes a text, and those behind it. A quote behind a
backslash does not close. -/
def closeQuote? : List Char → Option (List Char × List Char)
  | [] => none
  | ['\\'] => none
  | '\\' :: c :: rest => (closeQuote? rest).map fun (inside, rest) => ('\\' :: c :: inside, rest)
  | c :: rest =>
    if c = '"' then some ([], rest)
    else (closeQuote? rest).map fun (inside, rest) => (c :: inside, rest)

def hexDigit? (c : Char) : Option Nat :=
  if c.isDigit then some (c.toNat - '0'.toNat)
  else if 'a' ≤ c && c ≤ 'f' then some (c.toNat - 'a'.toNat + 10)
  else if 'A' ≤ c && c ≤ 'F' then some (c.toNat - 'A'.toNat + 10)
  else none

/-- The 16-bit unit that four hexadecimal digits denote. -/
def unit? (a b c d : Char) : Option Nat := do
  return (((← hexDigit? a) * 16 + (← hexDigit? b)) * 16 + (← hexDigit? c)) * 16 + (← hexDigit? d)

def isHighSurrogate (unit : Nat) : Bool := 0xd800 ≤ unit && unit < 0xdc00

def isLowSurrogate (unit : Nat) : Bool := 0xdc00 ≤ unit && unit < 0xe000

/-- The character beyond the 16-bit range that a pair of surrogates denotes. -/
def ofSurrogates (high low : Nat) : Char :=
  Char.ofNat (0x10000 + (high - 0xd800) * 0x400 + (low - 0xdc00))

def letterEscape? (c : Char) : Option Char :=
  if c = '"' then some '"'
  else if c = '\\' then some '\\'
  else if c = '/' then some '/'
  else if c = 'b' then some '\x08'
  else if c = 'f' then some '\x0c'
  else if c = 'n' then some '\n'
  else if c = 'r' then some '\r'
  else if c = 't' then some '\t'
  else none

/-- The text that escaped characters denote, behind a high surrogate that still lacks its low one,
if there is one. Until the low one comes, nothing but escapes of other characters may stand, and
those come first in the text. A low surrogate stands nowhere else, nor does a control character. -/
def unescape? : Option Nat → List Char → Option (List Char)
  | waiting, [] => if waiting.isSome then none else some []
  | waiting, '\\' :: 'u' :: a :: b :: c :: d :: rest => do
    let unit ← unit? a b c d
    if isHighSurrogate unit then
      if waiting.isSome then none else unescape? (some unit) rest
    else if isLowSurrogate unit then
      match waiting with
      | some high => return ofSurrogates high unit :: (← unescape? none rest)
      | none => none
    else return Char.ofNat unit :: (← unescape? waiting rest)
  | waiting, '\\' :: c :: rest => do return (← letterEscape? c) :: (← unescape? waiting rest)
  | waiting, c :: rest =>
    if c = '\\' || c.toNat < 0x20 || waiting.isSome then none
    else do return c :: (← unescape? none rest)

/-- The text that the characters between two quotes denote. Those without an escape among them
denote themselves, control characters too. -/
def unquote? (inside : List Char) : Option (List Char) :=
  if inside.contains '\\' then unescape? none inside else some inside

theorem escape_cons (c : Char) (text : List Char) :
    escape (c :: text) = escapeChar c ++ escape text := rfl

theorem escapeChar_cases (c : Char) :
    (c ≠ '"' ∧ c ≠ '\\' ∧ 0x20 ≤ c.toNat ∧ escapeChar c = [c]) ∨
    (∃ letter, letter ≠ 'u' ∧ letterEscape? letter = some c ∧ escapeChar c = ['\\', letter]) ∨
    (c.toNat < 0x20 ∧ escapeChar c = codeEscape c) := by
  unfold escapeChar
  split
  · next h => subst h; exact .inr (.inl ⟨'"', by decide, rfl, rfl⟩)
  split
  · next h => subst h; exact .inr (.inl ⟨'\\', by decide, rfl, rfl⟩)
  split
  · next h => subst h; exact .inr (.inl ⟨'b', by decide, rfl, rfl⟩)
  split
  · next h => subst h; exact .inr (.inl ⟨'t', by decide, rfl, rfl⟩)
  split
  · next h => subst h; exact .inr (.inl ⟨'n', by decide, rfl, rfl⟩)
  split
  · next h => subst h; exact .inr (.inl ⟨'f', by decide, rfl, rfl⟩)
  split
  · next h => subst h; exact .inr (.inl ⟨'r', by decide, rfl, rfl⟩)
  split
  · next h => exact .inr (.inr ⟨h, rfl⟩)
  · next quote backslash _ _ _ _ _ high =>
    exact .inl ⟨quote, backslash, Nat.le_of_not_lt high, rfl⟩

theorem closeQuote?_cons {c : Char} (quote : c ≠ '"') (backslash : c ≠ '\\') (text : List Char) :
    closeQuote? (c :: text) =
      (closeQuote? text).map fun (inside, rest) => (c :: inside, rest) := by
  simp [closeQuote?, quote, backslash]

theorem hexDigit?_hexDigit : ∀ d < 16, hexDigit? (hexDigit d) = some d := by decide

theorem hexDigit_plain : ∀ d < 16, hexDigit d ≠ '"' ∧ hexDigit d ≠ '\\' := by decide

theorem closeQuote?_escapeChar (c : Char) (text : List Char) :
    closeQuote? (escapeChar c ++ text) =
      (closeQuote? text).map fun (inside, rest) => (escapeChar c ++ inside, rest) := by
  rcases escapeChar_cases c with ⟨quote, backslash, _, form⟩ | ⟨letter, _, _, form⟩ |
    ⟨low, form⟩
  · rw [form]
    exact closeQuote?_cons quote backslash text
  · rw [form]
    simp [closeQuote?]
  · obtain ⟨quote, backslash⟩ := hexDigit_plain (c.toNat / 16) (by omega)
    obtain ⟨quote', backslash'⟩ := hexDigit_plain (c.toNat % 16) (by omega)
    rw [form]
    simp only [codeEscape, List.cons_append, List.nil_append, closeQuote?]
    simp [closeQuote?_cons, quote, backslash, quote', backslash', Option.map_map,
      Function.comp_def]

/-- What is written between quotes is found again, whatever follows. -/
theorem closeQuote?_escape (text rest : List Char) :
    closeQuote? (escape text ++ '"' :: rest) = some (escape text, rest) := by
  induction text with
  | nil => simp [escape, closeQuote?]
  | cons c text ih =>
    rw [escape_cons, List.append_assoc, closeQuote?_escapeChar, ih]
    rfl

theorem unit?_codeEscape {n : Nat} (low : n < 0x20) :
    unit? '0' '0' (hexDigit (n / 16)) (hexDigit (n % 16)) = some n := by
  have high := hexDigit?_hexDigit (n / 16) (by omega)
  have rest := hexDigit?_hexDigit (n % 16) (by omega)
  have zero : hexDigit? '0' = some 0 := rfl
  simp only [unit?, zero, high, rest, Option.bind_eq_bind, Option.bind_some, Option.pure_def,
    Option.some.injEq]
  omega

theorem unescape?_escapeChar (c : Char) (text : List Char) :
    unescape? none (escapeChar c ++ text) = (unescape? none text).map (c :: ·) := by
  rcases escapeChar_cases c with ⟨_, backslash, high, form⟩ | ⟨letter, letter_u, denotes, form⟩ |
    ⟨low, form⟩
  · have low : ¬ c.toNat < 0x20 := Nat.not_lt.2 high
    rw [form]
    simp only [List.cons_append, List.nil_append]
    rw [unescape?.eq_def]
    split
    · next nothing => cases nothing
    · next code => simp_all
    · next single => simp_all
    · next same =>
      obtain ⟨rfl, rfl⟩ := List.cons.inj same
      cases unescape? none text <;> simp [backslash, low]
  · rw [form]
    simp only [List.cons_append, List.nil_append]
    rw [unescape?.eq_def]
    split
    · next nothing => cases nothing
    · next code => simp_all
    · next single =>
      obtain ⟨rfl, rfl⟩ := List.cons.inj (List.cons.inj single).2
      cases unescape? none text <;> simp [denotes]
    · next other same =>
      obtain ⟨rfl, rfl⟩ := List.cons.inj same
      exact absurd rfl (other _ _ rfl)
  · rw [form]
    simp only [codeEscape, List.cons_append, List.nil_append, unescape?, unit?_codeEscape low]
    have high : isHighSurrogate c.toNat = false := by simp [isHighSurrogate]; omega
    have low' : isLowSurrogate c.toNat = false := by simp [isLowSurrogate]; omega
    cases unescape? none text <;> simp [high, low']

theorem unescape?_escape (text : List Char) : unescape? none (escape text) = some text := by
  induction text with
  | nil => rfl
  | cons c text ih => rw [escape_cons, unescape?_escapeChar, ih]; rfl

/-- A character is either itself when escaped, or has a backslash in its escape. -/
theorem escapeChar_plain {c : Char} (plain : '\\' ∉ escapeChar c) : escapeChar c = [c] := by
  rcases escapeChar_cases c with ⟨_, _, _, form⟩ | ⟨_, _, _, form⟩ | ⟨_, form⟩
  · exact form
  · simp [form] at plain
  · simp [form, codeEscape] at plain

theorem escape_plain {text : List Char} (plain : '\\' ∉ escape text) : escape text = text := by
  induction text with
  | nil => rfl
  | cons c text ih =>
    rw [escape_cons, List.mem_append, not_or] at plain
    rw [escape_cons, escapeChar_plain plain.1, ih plain.2]
    rfl

/-- What is written between quotes denotes the text it was written for. -/
theorem unquote?_escape (text : List Char) : unquote? (escape text) = some text := by
  unfold unquote?
  split
  · exact unescape?_escape text
  · next plain => rw [escape_plain (by simpa using plain)]

end PayableLedger.Json
