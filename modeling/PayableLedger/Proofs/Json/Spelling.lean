import PayableLedger.Json.Value

set_option autoImplicit false

namespace PayableLedger.Json

def Blanks (text : List Char) : Prop := ∀ c ∈ text, isBlank c = true

/-- What may follow a bare run: a delimiter, perhaps behind blanks. -/
def Delimited (text : List Char) : Prop :=
  ∃ blanks c rest, text = blanks ++ c :: rest ∧ Blanks blanks ∧ isDelimiter c = true

/-- The first character of a value or a member: neither a blank nor a delimiter. -/
def Starts (text : List Char) : Prop :=
  ∃ c rest, text = c :: rest ∧ isBlank c = false ∧ isDelimiter c = false

/-- A bare run as it is read: no delimiter in it, no blank at its ends, and nothing in front that
would open a text, an array or an object. -/
structure IsRun (run : List Char) : Prop where
  solid : ∀ c ∈ run, isDelimiter c = false
  trimmed : trimBlanksRight run = run
  opens : ∃ c rest, run = c :: rest ∧ isBlank c = false ∧ c ≠ '"' ∧ c ≠ '[' ∧ c ≠ '\x7b'

/-- Quotes around characters that denote the text. -/
def SpellsText (chars : String) (text : List Char) : Prop :=
  ∃ inside, text = '"' :: (inside ++ ['"']) ∧
    (∀ rest, closeQuote? (inside ++ '"' :: rest) = some (inside, rest)) ∧
    unquote? inside = some chars.toList

/-- Further items of a sequence, each behind a comma. -/
inductive Continued {α : Type} (spells : α → List Char → Prop) : List α → List Char → Prop
  | nil {blanks : List Char} (blank : Blanks blanks) : Continued spells [] blanks
  | cons {item : α} {items : List α} {before after text rest : List Char}
      (blank : Blanks before) (blank' : Blanks after) (spelled : spells item text)
      (continued : Continued spells items rest) :
      Continued spells (item :: items) (before ++ ',' :: (after ++ (text ++ rest)))

inductive Listed {α : Type} (spells : α → List Char → Prop) : List α → List Char → Prop
  | nil {blanks : List Char} (blank : Blanks blanks) : Listed spells [] blanks
  | cons {item : α} {items : List α} {before text rest : List Char}
      (blank : Blanks before) (spelled : spells item text)
      (continued : Continued spells items rest) :
      Listed spells (item :: items) (before ++ (text ++ rest))

def SpellsMember (spells : Value → List Char → Prop) (member : String × Value)
    (text : List Char) : Prop :=
  ∃ name before after value, text = name ++ (before ++ ':' :: (after ++ value)) ∧
    SpellsText member.1 name ∧ Blanks before ∧ Blanks after ∧ spells member.2 value

/-- The texts that spell a value which nests at most the given number of levels. -/
def Spells : Nat → Value → List Char → Prop
  | _, .bare run, text => text = run.toList ∧ IsRun text
  | _, .text chars, text => SpellsText chars text
  | 0, .array _, _ => False
  | 0, .object _, _ => False
  | levels + 1, .array items, text =>
    ∃ inside, text = '[' :: (inside ++ [']']) ∧ Listed (Spells levels) items inside
  | levels + 1, .object members, text =>
    ∃ inside, text = '\x7b' :: (inside ++ ['\x7d']) ∧
      Listed (SpellsMember (Spells levels)) members inside

/-- A value that is read without regard to what follows it. -/
def Value.IsClosed : Value → Prop
  | .bare _ => False
  | _ => True

theorem Blanks.nil : Blanks [] := by
  intro c mem
  cases mem

theorem skipBlanks_append {blanks : List Char} (blank : Blanks blanks) (text : List Char) :
    skipBlanks (blanks ++ text) = skipBlanks text := by
  induction blanks with
  | nil => rfl
  | cons c blanks ih =>
    have first : isBlank c = true := blank c (by simp)
    have others : Blanks blanks := fun d mem => blank d (by simp [mem])
    rw [List.cons_append, skipBlanks, List.dropWhile_cons, if_pos first]
    exact ih others

theorem skipBlanks_cons {c : Char} (solid : isBlank c = false) (text : List Char) :
    skipBlanks (c :: text) = c :: text := by
  rw [skipBlanks, List.dropWhile_cons, if_neg (by simp [solid])]

theorem Starts.skipBlanks {text : List Char} (starts : Starts text) (rest : List Char) :
    skipBlanks (text ++ rest) = text ++ rest := by
  obtain ⟨c, more, rfl, solid, _⟩ := starts
  exact skipBlanks_cons solid (more ++ rest)

theorem isBlank_of_isDelimiter {c : Char} (delimiter : isDelimiter c = true) :
    isBlank c = false := by
  simp only [isDelimiter, Bool.or_eq_true, beq_iff_eq] at delimiter
  rcases delimiter with (rfl | rfl) | rfl <;> rfl

theorem isDelimiter_of_isBlank {c : Char} (blank : isBlank c = true) : isDelimiter c = false := by
  cases delimiter : isDelimiter c with
  | false => rfl
  | true => rw [isBlank_of_isDelimiter delimiter] at blank; cases blank

theorem Continued.delimited {α : Type} {spells : α → List Char → Prop} {items : List α}
    {text : List Char} (continued : Continued spells items text) {close : Char}
    (closes : isDelimiter close = true) (rest : List Char) : Delimited (text ++ close :: rest) := by
  cases continued with
  | nil blank => exact ⟨_, close, rest, rfl, blank, closes⟩
  | @cons _ _ before after item more blank blank' spelled continued =>
    exact ⟨before, ',', after ++ (item ++ more) ++ close :: rest,
      by simp only [List.append_assoc, List.cons_append], blank, rfl⟩

theorem trimBlanksRight_append {blanks : List Char} (blank : Blanks blanks) (run : List Char) :
    trimBlanksRight (run ++ blanks) = trimBlanksRight run := by
  have reversed : Blanks blanks.reverse := fun c mem => blank c (List.mem_reverse.1 mem)
  rw [trimBlanksRight, List.reverse_append, skipBlanks_append reversed, trimBlanksRight]

/-- A bare run ends at the first delimiter, and there has to be one. -/
theorem readBare_append {run rest : List Char} (solid : ∀ d ∈ run, isDelimiter d = false)
    {c : Char} (delimiter : isDelimiter c = true) :
    readBare (run ++ c :: rest) =
      if run.isEmpty then none
      else some (.bare (String.ofList (trimBlanksRight run)), c :: rest) := by
  have plain : ∀ d ∈ run, (!isDelimiter d) = true := fun d mem => by simp [solid d mem]
  have taken : (run ++ c :: rest).takeWhile (!isDelimiter ·) = run := by
    rw [List.takeWhile_append_of_pos plain, List.takeWhile_cons, if_neg (by simp [delimiter]),
      List.append_nil]
  have left : (run ++ c :: rest).dropWhile (!isDelimiter ·) = c :: rest := by
    rw [List.dropWhile_append_of_pos plain, List.dropWhile_cons, if_neg (by simp [delimiter])]
  simp only [readBare, taken, left, List.isEmpty_cons, Bool.or_false]

/-- The blanks between a bare run and the delimiter behind it are trimmed off. -/
theorem readBare_run {run : List Char} (isRun : IsRun run) {blanks rest : List Char}
    (blank : Blanks blanks) {c : Char} (delimiter : isDelimiter c = true) :
    readBare (run ++ (blanks ++ c :: rest)) = some (.bare (String.ofList run), c :: rest) := by
  have solid : ∀ d ∈ run ++ blanks, isDelimiter d = false := by
    intro d mem
    rcases List.mem_append.1 mem with inRun | inBlanks
    · exact isRun.solid d inRun
    · exact isDelimiter_of_isBlank (blank d inBlanks)
  have given : (run ++ blanks).isEmpty = false := by
    obtain ⟨d, more, rfl, _⟩ := isRun.opens
    rfl
  rw [← List.append_assoc, readBare_append solid delimiter, given,
    trimBlanksRight_append blank, isRun.trimmed]
  rfl

theorem readScalar_run {run : List Char} (isRun : IsRun run) (rest : List Char) :
    readScalar (run ++ rest) = readBare (run ++ rest) := by
  obtain ⟨c, more, rfl, _, quote, bracket, brace⟩ := isRun.opens
  rw [List.cons_append, readScalar, if_neg quote, if_neg (by simp [bracket, brace])]

theorem readQuoted_inside {chars : String} {inside : List Char}
    (closed : ∀ rest, closeQuote? (inside ++ '"' :: rest) = some (inside, rest))
    (denotes : unquote? inside = some chars.toList) (rest : List Char) :
    readQuoted (inside ++ '"' :: rest) = some (chars, rest) := by
  simp only [readQuoted, closed, denotes, Option.bind_eq_bind, Option.bind_some, Option.pure_def,
    String.ofList_toList]

theorem readScalar_text {chars : String} {text : List Char} (spelled : SpellsText chars text)
    (rest : List Char) : readScalar (text ++ rest) = some (.text chars, rest) := by
  obtain ⟨inside, rfl, closed, denotes⟩ := spelled
  have read := readQuoted_inside closed denotes rest
  simp only [List.cons_append, List.append_assoc, List.nil_append, readScalar, if_true, read,
    Option.map_some]

/-- A reader that nests levels hands over to the scalar reader where nothing is opened. -/
theorem readValue_eq_readScalar (levels : Nat) {c : Char} (bracket : c ≠ '[') (brace : c ≠ '\x7b')
    (text : List Char) : readValue levels (c :: text) = readScalar (c :: text) := by
  cases levels with
  | zero => rfl
  | succ levels => simp only [readValue, bracket, brace, if_false]

/-- A reader takes a spelled item off a text in which a delimiter follows. It may take the blanks
in front of the delimiter as well. -/
def Takes {α : Type} (read : Reader α) (item : α) (text : List Char) : Prop :=
  ∀ rest, Delimited rest →
    ∃ left, read (text ++ rest) = some (item, left) ∧ skipBlanks left = skipBlanks rest

theorem Takes.of_exact {α : Type} {read : Reader α} {item : α} {text : List Char}
    (read_eq : ∀ rest, read (text ++ rest) = some (item, rest)) : Takes read item text :=
  fun rest _ => ⟨rest, read_eq rest, rfl⟩

section Sequence

variable {α : Type} {read : Reader α} {spells : α → List Char → Prop}

theorem readItems_congr (close : Char) (commaLeads alone : Bool) (bound : Nat)
    {text other : List Char} (same : skipBlanks text = skipBlanks other) :
    readItems close commaLeads read alone bound text =
      readItems close commaLeads read alone bound other := by
  cases bound with
  | zero => rfl
  | succ bound => simp only [readItems, same]

theorem readItems_close {close : Char} (closes : isDelimiter close = true)
    (commaLeads alone : Bool) (bound : Nat) {blanks : List Char} (blank : Blanks blanks)
    (rest : List Char) :
    readItems close commaLeads read alone (bound + 1) (blanks ++ close :: rest) =
      some ([], rest) := by
  simp only [readItems, skipBlanks_append blank, skipBlanks_cons (isBlank_of_isDelimiter closes),
    if_true]

theorem readItems_continued {close : Char} (closes : isDelimiter close = true)
    (bracket : close ≠ ',') (commaLeads : Bool)
    (takes : ∀ item text, spells item text → Takes read item text)
    (starts : ∀ item text, spells item text → Starts text)
    {items : List α} {text : List Char} (continued : Continued spells items text)
    (rest : List Char) (bound : Nat) (enough : text.length < bound) :
    readItems close commaLeads read false bound (text ++ close :: rest) = some (items, rest) := by
  induction continued generalizing bound with
  | nil blank =>
    obtain ⟨bound, rfl⟩ : ∃ less, bound = less + 1 := ⟨bound - 1, by omega⟩
    exact readItems_close closes commaLeads false bound blank rest
  | @cons item items before after text more blank blank' spelled continued ih =>
    obtain ⟨bound, rfl⟩ : ∃ less, bound = less + 1 := ⟨bound - 1, by omega⟩
    have shorter : more.length < bound := by
      simp only [List.length_append, List.length_cons] at enough
      omega
    obtain ⟨left, taken, same⟩ :=
      takes item text spelled (more ++ close :: rest) (continued.delimited closes rest)
    -- What the reader leaves of the blanks in front of a comma makes no difference to the rest.
    have others : readItems close commaLeads read false bound left = some (items, rest) := by
      rw [readItems_congr close commaLeads false bound same]
      exact ih bound shorter
    have behind : skipBlanks (after ++ (text ++ (more ++ close :: rest))) =
        text ++ (more ++ close :: rest) := by
      rw [skipBlanks_append blank', (starts item text spelled).skipBlanks]
    have comma : isBlank ',' = false := rfl
    simp only [List.append_assoc, List.cons_append, readItems, skipBlanks_append blank,
      skipBlanks_cons comma, Ne.symm bracket, if_false, decide_true, Bool.not_false, Bool.or_true,
      Bool.and_self, if_true, behind, taken, others, Option.bind_eq_bind, Option.bind_some,
      Option.pure_def]

theorem readSequence_listed (close : Char) (closes : isDelimiter close = true)
    (bracket : close ≠ ',') (commaLeads : Bool)
    (takes : ∀ item text, spells item text → Takes read item text)
    (starts : ∀ item text, spells item text → Starts text)
    {items : List α} {inside : List Char} (listed : Listed spells items inside)
    (rest : List Char) :
    readSequence close commaLeads read (inside ++ close :: rest) = some (items, rest) := by
  rw [readSequence, List.length_append, List.length_cons, ← Nat.add_assoc]
  cases listed with
  | nil blank => exact readItems_close closes commaLeads true _ blank rest
  | @cons item items before text more blank spelled continued =>
    obtain ⟨c, tail, rfl, solid, free⟩ := starts item text spelled
    obtain ⟨left, taken, same⟩ :=
      takes item _ spelled (more ++ close :: rest) (continued.delimited closes rest)
    generalize size : (before ++ (c :: tail ++ more)).length + rest.length = bound
    have shorter : more.length < bound := by
      simp only [List.length_append, List.length_cons] at size
      omega
    have others : readItems close commaLeads read false bound left = some (items, rest) := by
      rw [readItems_congr close commaLeads false bound same]
      exact readItems_continued closes bracket commaLeads takes starts continued rest bound shorter
    have noClose : c ≠ close := by
      rintro rfl
      rw [closes] at free
      cases free
    have noComma : c ≠ ',' := by
      rintro rfl
      cases free
    rw [List.cons_append] at taken
    simp only [List.append_assoc, List.cons_append, readItems, skipBlanks_append blank,
      skipBlanks_cons solid, noClose, noComma, if_false, decide_false, Bool.false_and,
      Bool.false_eq_true, if_true, taken, others, Option.bind_eq_bind, Option.bind_some,
      Option.pure_def]

end Sequence

theorem SpellsText.starts {chars : String} {text : List Char} (spelled : SpellsText chars text) :
    Starts text := by
  obtain ⟨inside, rfl, _⟩ := spelled
  exact ⟨'"', inside ++ ['"'], rfl, rfl, rfl⟩

theorem Spells.starts {levels : Nat} {value : Value} {text : List Char}
    (spelled : Spells levels value text) : Starts text := by
  cases value with
  | bare run =>
    obtain ⟨_, isRun⟩ : text = run.toList ∧ IsRun text := by
      cases levels <;> exact spelled
    obtain ⟨c, more, rfl, solid, _⟩ := isRun.opens
    exact ⟨c, more, rfl, solid, isRun.solid c (by simp)⟩
  | text chars =>
    have quoted : SpellsText chars text := by cases levels <;> exact spelled
    exact quoted.starts
  | array items =>
    cases levels with
    | zero => exact spelled.elim
    | succ levels =>
      obtain ⟨inside, rfl, _⟩ := spelled
      exact ⟨'[', inside ++ [']'], rfl, rfl, rfl⟩
  | object members =>
    cases levels with
    | zero => exact spelled.elim
    | succ levels =>
      obtain ⟨inside, rfl, _⟩ := spelled
      exact ⟨'\x7b', inside ++ ['\x7d'], rfl, rfl, rfl⟩

theorem SpellsMember.starts {spells : Value → List Char → Prop} {member : String × Value}
    {text : List Char} (spelled : SpellsMember spells member text) : Starts text := by
  obtain ⟨name, before, after, value, rfl, ⟨inside, rfl, _⟩, _⟩ := spelled
  exact ⟨'"', _, rfl, rfl, rfl⟩

theorem readMember_spells {read : Reader Value} {spells : Value → List Char → Prop}
    (takes : ∀ value text, spells value text → Takes read value text)
    (starts : ∀ value text, spells value text → Starts text)
    {member : String × Value} {text : List Char} (spelled : SpellsMember spells member text) :
    Takes (readMember read) member text := by
  obtain ⟨name, before, after, value, rfl, ⟨inside, rfl, closed, denotes⟩, blank, blank', here⟩ :=
    spelled
  intro rest delimited
  obtain ⟨left, taken, same⟩ := takes _ _ here rest delimited
  refine ⟨left, ?_, same⟩
  have colon : isBlank ':' = false := rfl
  have named := readQuoted_inside closed denotes (before ++ ':' :: (after ++ (value ++ rest)))
  simp only [List.cons_append, List.append_assoc, List.nil_append, readMember, if_true, named,
    Option.bind_eq_bind, Option.bind_some, skipBlanks_append blank, skipBlanks_cons colon,
    skipBlanks_append blank', (starts _ _ here).skipBlanks, taken, Option.map_some]

theorem readValue_text (levels : Nat) {chars : String} {text : List Char}
    (spelled : SpellsText chars text) (rest : List Char) :
    readValue levels (text ++ rest) = some (.text chars, rest) := by
  obtain ⟨inside, rfl, closed, denotes⟩ := spelled
  rw [List.cons_append, readValue_eq_readScalar levels (by decide) (by decide), ← List.cons_append]
  exact readScalar_text ⟨inside, rfl, closed, denotes⟩ rest

theorem readValue_run (levels : Nat) {run : List Char} (isRun : IsRun run) :
    Takes (readValue levels) (.bare (String.ofList run)) run := by
  rintro rest ⟨blanks, d, more, rfl, blank, delimiter⟩
  refine ⟨d :: more, ?_, ?_⟩
  · have scalar : readValue levels (run ++ (blanks ++ d :: more)) =
        readScalar (run ++ (blanks ++ d :: more)) := by
      obtain ⟨c, tail, rfl, _, _, bracket, brace⟩ := isRun.opens
      exact readValue_eq_readScalar levels bracket brace _
    rw [scalar, readScalar_run isRun, readBare_run isRun blank delimiter]
  · rw [skipBlanks_append blank]

theorem readValue_array {levels : Nat}
    (takes : ∀ value text, Spells levels value text → Takes (readValue levels) value text)
    {items : List Value} {text : List Char} (spelled : Spells (levels + 1) (.array items) text)
    (rest : List Char) : readValue (levels + 1) (text ++ rest) = some (.array items, rest) := by
  obtain ⟨inside, rfl, listed⟩ := spelled
  have read := readSequence_listed ']' (by decide) (by decide) true takes
    (fun _ _ here => here.starts) listed rest
  simp only [List.cons_append, List.append_assoc, List.nil_append, readValue, if_true, read,
    Option.map_some]

theorem readValue_object {levels : Nat}
    (takes : ∀ value text, Spells levels value text → Takes (readValue levels) value text)
    {members : List (String × Value)} {text : List Char}
    (spelled : Spells (levels + 1) (.object members) text) (rest : List Char) :
    readValue (levels + 1) (text ++ rest) = some (.object members, rest) := by
  obtain ⟨inside, rfl, listed⟩ := spelled
  have read := readSequence_listed '\x7d' (by decide) (by decide) false
    (fun _ _ here => readMember_spells takes (fun _ _ => Spells.starts) here)
    (fun _ _ here => SpellsMember.starts here) listed rest
  simp only [List.cons_append, List.append_assoc, List.nil_append, readValue, Char.reduceEq,
    if_false, if_true, read, Option.map_some]

theorem takes_readValue (levels : Nat) {value : Value} {text : List Char}
    (spelled : Spells levels value text) : Takes (readValue levels) value text := by
  induction levels generalizing value text with
  | zero =>
    cases value with
    | bare run =>
      obtain ⟨rfl, isRun⟩ := spelled
      simpa only [String.ofList_toList] using readValue_run 0 isRun
    | text chars => exact .of_exact (readValue_text 0 spelled)
    | array items => exact spelled.elim
    | object members => exact spelled.elim
  | succ levels ih =>
    cases value with
    | bare run =>
      obtain ⟨rfl, isRun⟩ := spelled
      simpa only [String.ofList_toList] using readValue_run (levels + 1) isRun
    | text chars => exact .of_exact (readValue_text (levels + 1) spelled)
    | array items => exact .of_exact (readValue_array (fun _ _ => ih) spelled)
    | object members => exact .of_exact (readValue_object (fun _ _ => ih) spelled)

theorem readValue_closed {levels : Nat} {value : Value} {text : List Char}
    (spelled : Spells levels value text) (closed : value.IsClosed) (rest : List Char) :
    readValue levels (text ++ rest) = some (value, rest) := by
  cases value with
  | bare run => exact closed.elim
  | text chars =>
    have quoted : SpellsText chars text := by cases levels <;> exact spelled
    exact readValue_text levels quoted rest
  | array items =>
    cases levels with
    | zero => exact spelled.elim
    | succ levels => exact readValue_array (fun _ _ => takes_readValue levels) spelled rest
  | object members =>
    cases levels with
    | zero => exact spelled.elim
    | succ levels => exact readValue_object (fun _ _ => takes_readValue levels) spelled rest

/-- A whole text may have blanks around the value. -/
theorem readText?_spells {value : Value} {before text after : List Char}
    (spelled : Spells maxLevels value text) (closed : value.IsClosed) (blank : Blanks before)
    (blank' : Blanks after) : readText? (before ++ (text ++ after)) = some value := by
  have nothing : after.all isBlank = true := List.all_eq_true.2 blank'
  rw [readText?, skipBlanks_append blank, spelled.starts.skipBlanks]
  simp only [readValue_closed spelled closed, Option.bind_eq_bind, Option.bind_some, nothing,
    if_true, Option.pure_def]

end PayableLedger.Json
