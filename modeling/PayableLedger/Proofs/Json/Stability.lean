import PayableLedger.Proofs.Json.Spelling

set_option autoImplicit false

namespace PayableLedger.Json

/-- Where one reader takes an item off a text, the other takes the same off every text that begins
like it, and leaves so much more. -/
def Extends {α : Type} (other read : Reader α) : Prop :=
  ∀ ⦃text item rest⦄, read text = some (item, rest) →
    ∀ more, other (text ++ more) = some (item, rest ++ more)

theorem skipBlanks_append_of_cons {text rest : List Char} {c : Char}
    (found : skipBlanks text = c :: rest) (more : List Char) :
    skipBlanks (text ++ more) = c :: (rest ++ more) := by
  rw [skipBlanks] at found
  rw [skipBlanks, List.dropWhile_append, found]
  rfl

/-- Blanks in front may be skipped, as long as a reader does not live on blanks alone. -/
theorem Extends.behindBlanks {α : Type} {other read : Reader α} (wider : Extends other read)
    (nothing : read [] = none) :
    Extends (fun text => other (skipBlanks text)) (fun text => read (skipBlanks text)) := by
  intro text item rest taken more
  cases found : skipBlanks text with
  | nil =>
    simp only [found, nothing] at taken
    cases taken
  | cons c tail =>
    simp only [found] at taken
    simp only [skipBlanks_append_of_cons found]
    exact wider taken more

theorem closeQuote?_append {text inside rest : List Char}
    (closes : closeQuote? text = some (inside, rest)) (more : List Char) :
    closeQuote? (text ++ more) = some (inside, rest ++ more) := by
  fun_induction closeQuote? text generalizing inside with
  | case1 => cases closes
  | case2 => cases closes
  | case3 c tail ih =>
    obtain ⟨⟨inside, left⟩, closes, same⟩ := Option.map_eq_some_iff.1 closes
    cases same
    simp only [List.cons_append, closeQuote?, ih closes, Option.map_some]
  | case4 tail =>
    cases closes
    rfl
  | case5 c tail single escaped solid ih =>
    obtain ⟨⟨inside, left⟩, closes, same⟩ := Option.map_eq_some_iff.1 closes
    cases same
    have plain : c ≠ '\\' := by
      rintro rfl
      cases tail with
      | nil => exact single rfl rfl
      | cons d tail => exact escaped d tail rfl rfl
    rw [List.cons_append, closeQuote?_cons solid plain, ih closes]
    rfl

theorem extends_readQuoted : Extends readQuoted readQuoted := by
  intro text chars rest taken more
  simp only [readQuoted, Option.bind_eq_bind, Option.bind_eq_some_iff, Option.pure_def,
    Option.some.injEq, Prod.mk.injEq] at taken ⊢
  obtain ⟨⟨inside, left⟩, closes, denoted, denotes, rfl, rfl⟩ := taken
  exact ⟨_, closeQuote?_append closes more, denoted, denotes, rfl, rfl⟩

/-- A bare run is read only where a delimiter follows, so it does not go on in a longer text. -/
theorem extends_readBare : Extends readBare readBare := by
  intro text value rest taken more
  cases behind : text.dropWhile (!isDelimiter ·) with
  | nil => simp [readBare, behind] at taken
  | cons c tail =>
    have delimiter : isDelimiter c = true := by
      have stops := List.head?_dropWhile_not (!isDelimiter ·) text
      simpa [behind] using stops
    have solid : ∀ d ∈ text.takeWhile (!isDelimiter ·), isDelimiter d = false := by
      intro d mem
      simpa using List.all_eq_true.1 List.all_takeWhile d mem
    obtain ⟨run, parts⟩ : ∃ run, run = text.takeWhile (!isDelimiter ·) := ⟨_, rfl⟩
    have split : text = run ++ c :: tail := by
      rw [parts, ← behind, List.takeWhile_append_dropWhile]
    rw [← parts] at solid
    rw [split, readBare_append solid delimiter] at taken
    rw [split, List.append_assoc, List.cons_append, readBare_append solid delimiter]
    cases run with
    | nil => cases taken
    | cons d run =>
      cases taken
      rfl

theorem extends_readScalar : Extends readScalar readScalar := by
  intro text value rest taken more
  cases text with
  | nil => cases taken
  | cons c tail =>
    simp only [readScalar, List.cons_append] at taken ⊢
    split at taken
    · next quote =>
      obtain ⟨⟨chars, left⟩, quoted, same⟩ := Option.map_eq_some_iff.1 taken
      cases same
      rw [if_pos quote, extends_readQuoted quoted more]
      rfl
    · next solid =>
      rw [if_neg solid]
      split at taken
      · cases taken
      · next plain =>
        rw [if_neg plain]
        exact extends_readBare taken more

section Sequence

variable {α : Type} {other read : Reader α}

theorem Extends.readItems (wider : Extends other read) (nothing : read [] = none) (close : Char)
    (commaLeads alone : Bool) {bound greater : Nat} (le : bound ≤ greater) :
    Extends (readItems close commaLeads other alone greater)
      (readItems close commaLeads read alone bound) := by
  -- The bound is the length of the text, so that a longer text has a greater one.
  induction bound generalizing alone greater with
  | zero =>
    intro text items rest taken
    cases taken
  | succ bound ih =>
    obtain ⟨greater, rfl⟩ : ∃ less, greater = less + 1 := ⟨greater - 1, by omega⟩
    have fewer : bound ≤ greater := by omega
    intro text items rest taken more
    cases found : skipBlanks text with
    | nil =>
      simp only [Json.readItems, found] at taken
      cases taken
    | cons c tail =>
      simp only [Json.readItems, found, skipBlanks_append_of_cons found] at taken ⊢
      split at taken
      · next closes =>
        cases taken
        rw [if_pos closes]
      · next goesOn =>
        rw [if_neg goesOn]
        split at taken
        · next comma =>
          rw [if_pos comma]
          simp only [Option.bind_eq_bind, Option.bind_eq_some_iff, Option.pure_def,
            Option.some.injEq, Prod.mk.injEq] at taken ⊢
          obtain ⟨⟨item, left⟩, first, ⟨others, last⟩, later, rfl, rfl⟩ := taken
          exact ⟨_, wider.behindBlanks nothing first more, _, ih alone fewer later more, rfl, rfl⟩
        · next noComma =>
          rw [if_neg noComma]
          split at taken
          · next stands =>
            rw [if_pos stands]
            simp only [Option.bind_eq_bind, Option.bind_eq_some_iff, Option.pure_def,
              Option.some.injEq, Prod.mk.injEq] at taken ⊢
            obtain ⟨⟨item, left⟩, first, ⟨others, last⟩, later, rfl, rfl⟩ := taken
            exact ⟨_, wider first more, _, ih false fewer later more, rfl, rfl⟩
          · cases taken

theorem Extends.readSequence (wider : Extends other read) (nothing : read [] = none) (close : Char)
    (commaLeads : Bool) :
    Extends (readSequence close commaLeads other) (readSequence close commaLeads read) := by
  intro text items rest taken more
  have longer : text.length ≤ (text ++ more).length := by simp
  exact wider.readItems nothing close commaLeads true longer taken more

end Sequence

theorem Extends.readMember {other read : Reader Value} (wider : Extends other read)
    (nothing : read [] = none) : Extends (readMember other) (readMember read) := by
  intro text member rest taken more
  cases text with
  | nil => cases taken
  | cons c tail =>
    simp only [Json.readMember, List.cons_append] at taken ⊢
    split at taken
    · next quote =>
      rw [if_pos quote]
      simp only [Option.bind_eq_bind, Option.bind_eq_some_iff] at taken ⊢
      obtain ⟨⟨name, behind⟩, quoted, taken⟩ := taken
      refine ⟨_, extends_readQuoted quoted more, ?_⟩
      cases found : skipBlanks behind with
      | nil =>
        simp only [found] at taken
        cases taken
      | cons d behind =>
        simp only [found, skipBlanks_append_of_cons found] at taken ⊢
        split at taken
        · next colon =>
          obtain ⟨⟨value, left⟩, here, same⟩ := Option.map_eq_some_iff.1 taken
          cases same
          have value : other (skipBlanks (behind ++ more)) = some (value, left ++ more) :=
            wider.behindBlanks nothing here more
          rw [if_pos colon, value]
          rfl
        · cases taken
    · cases taken

theorem readValue_of_readScalar (levels : Nat) {text rest : List Char} {value : Value}
    (taken : readScalar text = some (value, rest)) :
    readValue levels text = some (value, rest) := by
  cases text with
  | nil => cases taken
  | cons c tail =>
    have bracket : c ≠ '[' := by
      rintro rfl
      cases taken
    have brace : c ≠ '\x7b' := by
      rintro rfl
      cases taken
    rw [readValue_eq_readScalar levels bracket brace, taken]

theorem readValue_nil (levels : Nat) : readValue levels [] = none := by
  cases levels <;> rfl

/-- More levels and a longer text make no difference to what is read. -/
theorem extends_readValue {levels greater : Nat} (le : levels ≤ greater) :
    Extends (readValue greater) (readValue levels) := by
  induction levels generalizing greater with
  | zero =>
    intro text value rest taken more
    exact readValue_of_readScalar greater (extends_readScalar taken more)
  | succ levels ih =>
    obtain ⟨greater, rfl⟩ : ∃ less, greater = less + 1 := ⟨greater - 1, by omega⟩
    have wider : Extends (readValue greater) (readValue levels) := ih (by omega)
    intro text value rest taken more
    cases text with
    | nil => cases taken
    | cons c tail =>
      simp only [readValue, List.cons_append] at taken ⊢
      split at taken
      · next bracket =>
        obtain ⟨⟨items, left⟩, inside, same⟩ := Option.map_eq_some_iff.1 taken
        cases same
        rw [if_pos bracket, wider.readSequence (readValue_nil levels) ']' true inside more]
        rfl
      · next noBracket =>
        rw [if_neg noBracket]
        split at taken
        · next brace =>
          obtain ⟨⟨members, left⟩, inside, same⟩ := Option.map_eq_some_iff.1 taken
          cases same
          have named := wider.readMember (readValue_nil levels)
          rw [if_pos brace, named.readSequence rfl '\x7d' false inside more]
          rfl
        · next noBrace =>
          rw [if_neg noBrace]
          exact extends_readScalar taken more

theorem readText?_eq_some_iff {text : List Char} {value : Value} :
    readText? text = some value ↔
      ∃ rest, readValue maxLevels (skipBlanks text) = some (value, rest) ∧ Blanks rest := by
  simp only [readText?, Option.bind_eq_bind, Option.bind_eq_some_iff, Option.pure_def,
    Option.ite_none_right_eq_some, Option.some.injEq, List.all_eq_true, Prod.exists, Blanks]
  constructor
  · rintro ⟨_, rest, taken, blank, rfl⟩
    exact ⟨rest, taken, blank⟩
  · rintro ⟨rest, taken, blank⟩
    exact ⟨value, rest, taken, blank, rfl⟩

theorem readText?_append_eq_none {text more : List Char} {value : Value}
    (read : readText? text = some value) (solid : ¬ Blanks more) :
    readText? (text ++ more) = none := by
  obtain ⟨rest, taken, _⟩ := readText?_eq_some_iff.1 read
  have stable := (extends_readValue (Nat.le_refl maxLevels)).behindBlanks (readValue_nil maxLevels)
  have longer : readValue maxLevels (skipBlanks (text ++ more)) = some (value, rest ++ more) :=
    stable taken more
  rw [Option.eq_none_iff_forall_ne_some]
  intro other again
  obtain ⟨left, taken, blank⟩ := readText?_eq_some_iff.1 again
  rw [longer, Option.some.injEq, Prod.mk.injEq] at taken
  obtain ⟨_, rfl⟩ := taken
  exact solid fun c mem => blank c (List.mem_append_right rest mem)

/-- A whole text spells one value, with nothing but blanks around it. -/
def SpellsWhole (levels : Nat) (value : Value) (text : String) : Prop :=
  ∃ before inside after, text.toList = before ++ (inside ++ after) ∧ Blanks before ∧
    Spells levels value inside ∧ Blanks after

section Whole

variable {levels : Nat} {value : Value} {text : String}

/-- However many levels the value nests, nothing else is read from a text that spells it. -/
theorem SpellsWhole.eq_of_readText? (spelled : SpellsWhole levels value text)
    (closed : value.IsClosed) {other : Value} (read : readText? text.toList = some other) :
    other = value := by
  obtain ⟨before, inside, after, parts, blank, spells, _⟩ := spelled
  obtain ⟨rest, taken, _⟩ := readText?_eq_some_iff.1 read
  rw [parts, skipBlanks_append blank, spells.starts.skipBlanks] at taken
  have wider := extends_readValue (Nat.le_max_left maxLevels levels) taken []
  have spelt := extends_readValue (Nat.le_max_right maxLevels levels)
    (readValue_closed spells closed after) []
  rw [wider, Option.some.injEq, Prod.mk.injEq] at spelt
  exact spelt.1

variable {α : Type} [Coded α] {record : α}

theorem SpellsWhole.decode? (spelled : SpellsWhole maxLevels value text) (closed : value.IsClosed)
    (back : ofJson? value = some record) : decode? α text = some record := by
  obtain ⟨before, inside, after, parts, blank, spells, blank'⟩ := spelled
  rw [Json.decode?, parts, readText?_spells spells closed blank blank', Option.bind_some, back]

theorem SpellsWhole.decode?_eq_none (spelled : SpellsWhole levels value text)
    (closed : value.IsClosed) (refused : (ofJson? value : Option α) = none) :
    Json.decode? α text = none := by
  rw [Json.decode?, Option.bind_eq_none_iff]
  intro other read
  rw [spelled.eq_of_readText? closed read, refused]

theorem SpellsWhole.decode?_eq_ofJson? (spelled : SpellsWhole maxLevels value text)
    (closed : value.IsClosed) : Json.decode? α text = ofJson? value := by
  cases back : (ofJson? value : Option α) with
  | none => exact spelled.decode?_eq_none closed back
  | some record => exact spelled.decode? closed back

theorem decode?_append_eq_none {more : String} (decoded : Json.decode? α text = some record)
    (solid : ¬ Blanks more.toList) : Json.decode? α (text ++ more) = none := by
  obtain ⟨value, read, _⟩ := Option.bind_eq_some_iff.1 decoded
  rw [Json.decode?, String.toList_append, readText?_append_eq_none read solid, Option.bind_none]

end Whole

end PayableLedger.Json
