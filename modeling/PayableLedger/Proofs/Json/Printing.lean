import PayableLedger.Proofs.Json.Spelling

set_option autoImplicit false

namespace PayableLedger.Json

/-- The values whose text is read back: all that nest few enough levels and whose bare runs are
read as they stand. -/
def Value.Writable : Nat → Value → Prop
  | _, .bare run => IsRun run.toList
  | _, .text _ => True
  | 0, .array _ => False
  | 0, .object _ => False
  | levels + 1, .array items => ∀ item ∈ items, item.Writable levels
  | levels + 1, .object members => ∀ member ∈ members, member.2.Writable levels

theorem spellsText_print (chars : String) : SpellsText chars (printText chars) :=
  ⟨escape chars.toList, rfl, closeQuote?_escape chars.toList, unquote?_escape chars.toList⟩

def printMember (member : String × Value) : List Char :=
  printText member.1 ++ ':' :: member.2.print

theorem printItems_cons (item : Value) (items : List Value) :
    printItems (item :: items) = item.print ++ items.flatMap (fun item => ',' :: item.print) := by
  induction items generalizing item with
  | nil => simp [printItems]
  | cons next items ih =>
    simp only [printItems, ih next, List.flatMap_cons, List.cons_append]

theorem printMembers_cons (member : String × Value) (members : List (String × Value)) :
    printMembers (member :: members) =
      printMember member ++ members.flatMap (fun member => ',' :: printMember member) := by
  induction members generalizing member with
  | nil => simp [printMembers, printMember]
  | cons next members ih =>
    simp only [printMembers, ih next, printMember, List.flatMap_cons, List.append_assoc,
      List.cons_append]

theorem continued_print {α : Type} {spells : α → List Char → Prop} {print : α → List Char}
    {items : List α} (each : ∀ item ∈ items, spells item (print item)) :
    Continued spells items (items.flatMap fun item => ',' :: print item) := by
  induction items with
  | nil => exact .nil .nil
  | cons item items ih =>
    exact .cons .nil .nil (each item (by simp)) (ih fun other mem => each other (by simp [mem]))

theorem listed_print {α : Type} {spells : α → List Char → Prop} {print : α → List Char}
    {item : α} {items : List α} (each : ∀ other ∈ item :: items, spells other (print other)) :
    Listed spells (item :: items) (print item ++ items.flatMap fun item => ',' :: print item) :=
  .cons .nil (each item (by simp)) (continued_print fun other mem => each other (by simp [mem]))

theorem spellsMember_print {spells : Value → List Char → Prop} {member : String × Value}
    (value : spells member.2 member.2.print) : SpellsMember spells member (printMember member) :=
  ⟨printText member.1, [], [], member.2.print, rfl, spellsText_print member.1, .nil, .nil, value⟩

theorem spells_print (levels : Nat) {value : Value} (writable : value.Writable levels) :
    Spells levels value value.print := by
  induction levels generalizing value with
  | zero =>
    cases value with
    | bare run => exact ⟨rfl, writable⟩
    | text chars => exact spellsText_print chars
    | array items => exact writable.elim
    | object members => exact writable.elim
  | succ levels ih =>
    cases value with
    | bare run => exact ⟨rfl, writable⟩
    | text chars => exact spellsText_print chars
    | array items =>
      refine ⟨printItems items, rfl, ?_⟩
      cases items with
      | nil => exact .nil .nil
      | cons item items =>
        rw [printItems_cons]
        exact listed_print fun other mem => ih (writable other mem)
    | object members =>
      refine ⟨printMembers members, rfl, ?_⟩
      cases members with
      | nil => exact .nil .nil
      | cons member members =>
        rw [printMembers_cons]
        exact listed_print fun other mem => spellsMember_print (ih (writable other mem))

theorem decode?_encode {α : Type} [Coded α] {record : α}
    (writable : (toJson record).Writable maxLevels) (closed : (toJson record).IsClosed)
    (back : ofJson? (toJson record) = some record) : decode? α (encode record) = some record := by
  have read := readText?_spells (spells_print maxLevels writable) closed .nil .nil
  rw [List.nil_append, List.append_nil] at read
  rw [decode?, encode, String.toList_ofList, read, Option.bind_some, back]

theorem decode?_encode_object {α : Type} [Coded α] {record : α} {members : Members}
    (read : Members → Option α) (written : toJson record = .object members)
    (isRead : ∀ members, (ofJson? (.object members) : Option α) = read members)
    (writable : ∀ levels, (Value.object members).Writable (levels + 1))
    (back : read members = some record) : decode? α (encode record) = some record := by
  apply decode?_encode
  · rw [written]
    exact writable 126
  · rw [written]
    trivial
  · rw [written, isRead, back]

/-- A record that stands in an object with a single member, which names its kind. -/
theorem decode?_encode_kind {α : Type} [Coded α] {record : α} {kind : String} {members : Members}
    (read : String → Members → Option α)
    (written : toJson record = .object [(kind, .object members)])
    (isRead : ∀ kind members, (ofJson? (.object [(kind, .object members)]) : Option α) =
      read kind members)
    (writable : ∀ levels, (Value.object members).Writable (levels + 1))
    (back : read kind members = some record) : decode? α (encode record) = some record := by
  apply decode?_encode
  · rw [written]
    exact List.forall_mem_singleton.2 (writable 125)
  · rw [written]
    trivial
  · rw [written, isRead, back]

/-- A type whose JSON form nests nothing, is never null and is read back. -/
class LawfulScalar (α : Type) [Coded α] : Prop where
  writable (a : α) (levels : Nat) : (toJson a).Writable levels
  ne_null (a : α) : toJson a ≠ .null
  ofJson?_toJson (a : α) : ofJson? (toJson a) = some a

export LawfulScalar (ofJson?_toJson)

attribute [simp] LawfulScalar.writable

@[simp] theorem writable_text (chars : String) (levels : Nat) :
    (Value.text chars).Writable levels := by
  cases levels <;> trivial

@[simp] theorem writable_object_nil (levels : Nat) : (Value.object []).Writable (levels + 1) := by
  intro member mem
  cases mem

@[simp] theorem writable_object_cons {name : String} {value : Value} {members : Members}
    {levels : Nat} :
    (Value.object ((name, value) :: members)).Writable (levels + 1) ↔
      value.Writable levels ∧ (Value.object members).Writable (levels + 1) :=
  List.forall_mem_cons

theorem writable_bare {run : String} (isRun : IsRun run.toList) (levels : Nat) :
    (Value.bare run).Writable levels := by
  cases levels <;> exact isRun

theorem isRun_null : IsRun "null".toList where
  solid := by simp [isDelimiter]
  trimmed := by decide
  opens := ⟨'n', "ull".toList, rfl, rfl, by decide, by decide, by decide⟩

theorem isRun_ofBool (b : Bool) : IsRun (if b then "true" else "false").toList := by
  cases b with
  | false =>
    exact ⟨by simp [isDelimiter], by decide,
      ⟨'f', "alse".toList, rfl, rfl, by decide, by decide, by decide⟩⟩
  | true =>
    exact ⟨by simp [isDelimiter], by decide,
      ⟨'t', "rue".toList, rfl, rfl, by decide, by decide, by decide⟩⟩

@[simp] theorem writable_ofBool (b : Bool) (levels : Nat) : (Value.ofBool b).Writable levels :=
  writable_bare (isRun_ofBool b) levels

instance : LawfulScalar String where
  writable chars levels := writable_text chars levels
  ne_null _ := by rintro ⟨⟩
  ofJson?_toJson _ := rfl

instance : LawfulScalar Bool where
  writable b levels := writable_ofBool b levels
  ne_null b := by cases b <;> simp [toJson, Value.ofBool, Value.null]
  ofJson?_toJson b := by cases b <;> rfl

section Members

variable {α : Type} [Coded α] [LawfulScalar α]

@[simp] theorem writable_ofOption (o : Option α) (levels : Nat) : (ofOption o).Writable levels := by
  cases o with
  | none => exact writable_bare isRun_null levels
  | some a => exact LawfulScalar.writable a levels

theorem Members.required_of_named {members : Members} {name : String} {a : α}
    (here : members.named name = [toJson a]) : members.required name α = some a := by
  rw [Members.required, here]
  exact ofJson?_toJson a

theorem Members.optional_of_named {members : Members} {name : String} {o : Option α}
    (here : members.named name = [ofOption o]) : members.optional name α = some o := by
  rw [Members.optional, here]
  cases o with
  | none => rfl
  | some a =>
    have given : toJson a ≠ .bare "null" := LawfulScalar.ne_null a
    simp only [ofOption, ofJson?_toJson, Option.map_some]

end Members

end PayableLedger.Json
