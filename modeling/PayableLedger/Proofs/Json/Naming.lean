import PayableLedger.Proofs.Json.Printing
import PayableLedger.Proofs.Json.Stability

set_option autoImplicit false

namespace PayableLedger.Json

/-- A type that is read from no bare run but a truth value: from no null and no number. -/
class StrictScalar (α : Type) [Coded α] : Prop where
  ofJson?_bare {run : String} {a : α} (read : ofJson? (.bare run) = some a) :
    run = "true" ∨ run = "false"

instance : StrictScalar String where
  ofJson?_bare read := by cases read

instance : StrictScalar Bool where
  ofJson?_bare {run a} read := by
    change (match Value.bare run with
      | .bare "true" => some true
      | .bare "false" => some false
      | _ => none) = some a at read
    split at read
    · next same => cases same; exact .inl rfl
    · next same => cases same; exact .inr rfl
    · cases read

/-- A member that records of a type have under some name. An optional one may be absent. -/
inductive RecordField (α : Type) : Type 1
  | required {β : Type} [Coded β] [StrictScalar β] (name : String) (get : α → β)
  | optional {β : Type} [Coded β] [StrictScalar β] (name : String) (get : α → Option β)

namespace RecordField

variable {α : Type}

def name : RecordField α → String
  | required name _ => name
  | optional name _ => name

def isOptional : RecordField α → Bool
  | required _ _ => false
  | optional _ _ => true

/-- The values that may stand under the name of a field for a record: one that is read as what the
record has there, and for what is absent a null or none at all. -/
def Holds (a : α) (values : List Value) : RecordField α → Prop
  | required _ get => ∃ value, values = [value] ∧ ofJson? value = some (get a)
  | optional _ get => match get a with
    | none => values = [] ∨ values = [.null]
    | some b => ∃ value, values = [value] ∧ ofJson? value = some b

end RecordField

/-- A bare run that is none of the three words, such as a number. -/
def Value.IsNumber : Value → Prop
  | .bare run => run ∉ ["null", "true", "false"]
  | _ => False

theorem StrictScalar.proper {β : Type} [Coded β] [StrictScalar β] {value : Value} {b : β}
    (read : ofJson? value = some b) : value ≠ .null ∧ ¬ value.IsNumber := by
  cases value with
  | bare run =>
    rcases StrictScalar.ofJson?_bare read with rfl | rfl <;> simp [Value.null, Value.IsNumber]
  | text chars => exact ⟨nofun, id⟩
  | array items => exact ⟨nofun, id⟩
  | object members => exact ⟨nofun, id⟩

namespace RecordField

variable {α : Type} {a : α} {values : List Value} {field : RecordField α}

/-- Under the name of a field there is one value at most, and it is no number. It is missing or null
for an optional field only. -/
theorem Holds.cases (holds : field.Holds a values) :
    (field.isOptional = true ∧ (values = [] ∨ values = [.null])) ∨
      ∃ value, values = [value] ∧ value ≠ .null ∧ ¬ value.IsNumber := by
  cases field with
  | required name get =>
    obtain ⟨value, rfl, read⟩ := holds
    exact .inr ⟨value, rfl, StrictScalar.proper read⟩
  | optional name get =>
    unfold Holds at holds
    dsimp only at holds
    split at holds
    · exact .inl ⟨rfl, holds⟩
    · obtain ⟨value, rfl, read⟩ := holds
      exact .inr ⟨value, rfl, StrictScalar.proper read⟩

theorem Holds.eq_of_perm (holds : field.Holds a values) {others : List Value}
    (perm : others.Perm values) : others = values := by
  rcases holds.cases with ⟨_, rfl | rfl⟩ | ⟨value, rfl, _⟩
  · exact List.perm_nil.1 perm
  · exact List.perm_singleton.1 perm
  · exact List.perm_singleton.1 perm

end RecordField

namespace Members

variable {members : Members} {name : String} {α β : Type} [Coded β] [StrictScalar β] {a : α}

theorem required_eq_some_iff {get : α → β} :
    members.required name β = some (get a) ↔
      (RecordField.required name get).Holds a (members.named name) := by
  unfold required RecordField.Holds
  split
  · next value here => simp [here]
  · next other =>
    simp only [reduceCtorEq, false_iff, not_exists, not_and]
    exact fun value here => absurd here (other value)

theorem optional_eq_some_iff {get : α → Option β} :
    members.optional name β = some (get a) ↔
      (RecordField.optional name get).Holds a (members.named name) := by
  unfold optional RecordField.Holds
  dsimp only
  split
  · next here => cases get a <;> simp [here]
  · next here =>
    have nothing (b : β) : ofJson? (.bare "null") ≠ some b := fun read =>
      (StrictScalar.proper read).1 rfl
    cases get a <;> simp [here, Value.null, nothing]
  · next value notNull here =>
    cases get a with
    | none => simpa [here, Value.null] using notNull
    | some b => simp [here]
  · next given notNull single =>
    simp only [reduceCtorEq, false_iff]
    intro holds
    split at holds
    · rcases holds with here | here
      · exact given here
      · exact notNull here
    · obtain ⟨value, here, _⟩ := holds
      exact single value here

end Members

/-- The members that a record may be written with, in the order of its fields. Where it holds
nothing, there may be a null or no member at all. -/
inductive Written {α : Type} (a : α) : List (RecordField α) → Members → Prop
  | nil : Written a [] []
  | cons {field : RecordField α} {fields : List (RecordField α)} {values : List Value}
      {members : Members} (holds : field.Holds a values) (rest : Written a fields members) :
      Written a (field :: fields) (values.map (field.name, ·) ++ members)

/-- The members of a record in any order, and with members of other names between them. -/
def Lists {α : Type} (fields : List (RecordField α)) (a : α) (members : Members) : Prop :=
  ∃ written others, Written a fields written ∧ members.Perm (written ++ others) ∧
    ∀ member ∈ others, ∀ field ∈ fields, member.1 ≠ field.name

theorem Members.named_append (members more : Members) (name : String) :
    (members ++ more : Members).named name = members.named name ++ more.named name := by
  rw [named, List.filter_append, List.map_append]
  rfl

theorem Members.named_eq_nil {members : Members} {name : String}
    (strange : ∀ member ∈ members, member.1 ≠ name) : members.named name = [] := by
  rw [named, List.map_eq_nil_iff, List.filter_eq_nil_iff]
  intro member mem same
  exact strange member mem (eq_of_beq same)

theorem Members.named_insert_of_ne {front back : Members} {inserted name : String} {value : Value}
    (other : inserted ≠ name) :
    Members.named (front ++ (inserted, value) :: back) name =
      Members.named (front ++ back) name := by
  rw [named, named, List.filter_append, List.filter_append, List.filter_cons_of_neg (by simpa)]

theorem Members.named_insert {front back : Members} {name : String} {value : Value}
    (fresh : ∀ member ∈ front ++ back, member.1 ≠ name) :
    Members.named (front ++ (name, value) :: back) name = [value] := by
  have nothing := named_eq_nil fresh
  rw [named, List.filter_append, List.map_append, List.append_eq_nil_iff] at nothing
  rw [named, List.filter_append, List.filter_cons_of_pos (by simp), List.map_append, nothing.1,
    List.map_cons, nothing.2]
  rfl

theorem Members.named_map (values : List Value) (name : String) :
    Members.named (values.map (name, ·)) name = values := by
  simp [named, List.filter_map, Function.comp_def]

section Lists

variable {α : Type} {a : α} {fields : List (RecordField α)} {members : Members}

theorem Written.name_mem (written : Written a fields members) :
    ∀ member ∈ members, ∃ field ∈ fields, member.1 = field.name := by
  induction written with
  | nil => exact nofun
  | cons holds rest ih =>
    intro member mem
    rcases List.mem_append.1 mem with here | later
    · obtain ⟨value, _, rfl⟩ := List.mem_map.1 here
      exact ⟨_, List.mem_cons_self, rfl⟩
    · obtain ⟨field, inFields, same⟩ := ih member later
      exact ⟨field, List.mem_cons_of_mem _ inFields, same⟩

/-- Each field is found under its own name, since no two fields share one. -/
theorem Written.holds (written : Written a fields members)
    (distinct : (fields.map RecordField.name).Nodup) :
    ∀ field ∈ fields, field.Holds a (members.named field.name) := by
  induction written with
  | nil => exact nofun
  | @cons first fields values members holds rest ih =>
    rw [List.map_cons, List.nodup_cons] at distinct
    obtain ⟨fresh, distinct⟩ := distinct
    rw [List.forall_mem_cons]
    constructor
    · have nothing : members.named first.name = [] := by
        apply Members.named_eq_nil
        intro member mem same
        obtain ⟨field, inFields, name⟩ := rest.name_mem member mem
        exact fresh (List.mem_map.2 ⟨field, inFields, name.symm.trans same⟩)
      rw [Members.named_append, Members.named_map, nothing, List.append_nil]
      exact holds
    · intro field inFields
      have nothing : Members.named (values.map (first.name, ·)) field.name = [] := by
        apply Members.named_eq_nil
        intro member mem same
        obtain ⟨value, _, rfl⟩ := List.mem_map.1 mem
        exact fresh (List.mem_map.2 ⟨field, inFields, same.symm⟩)
      rw [Members.named_append, nothing, List.nil_append]
      exact ih distinct field inFields

/-- Under the name of a field the order of the members does not show, nor do other members. -/
theorem Lists.holds (lists : Lists fields a members)
    (distinct : (fields.map RecordField.name).Nodup) :
    ∀ field ∈ fields, field.Holds a (members.named field.name) := by
  obtain ⟨written, others, inOrder, perm, strange⟩ := lists
  intro field inFields
  have holds := inOrder.holds distinct field inFields
  have nothing : Members.named others field.name = [] :=
    Members.named_eq_nil fun member mem => strange member mem field inFields
  have same : (members.named field.name).Perm (Members.named written field.name) := by
    have perm := (perm.filter fun member => member.1 == field.name).map Prod.snd
    change (members.named field.name).Perm (Members.named (written ++ others) field.name) at perm
    rwa [Members.named_append, nothing, List.append_nil] at perm
  rw [holds.eq_of_perm same]
  exact holds

end Lists

/-- What spoils an object, whatever else is in it: a member that has to be there is missing or null,
or one stands there twice or holds a number. -/
inductive Faulty {α : Type} (fields : List (RecordField α)) (members : Members) : Prop
  | missing {field : RecordField α} (known : field ∈ fields) (required : field.isOptional = false)
      (absent : ∀ member ∈ members, member.1 ≠ field.name)
  | null {field : RecordField α} (known : field ∈ fields) (required : field.isOptional = false)
      (written : (field.name, .null) ∈ members)
  | repeated {field : RecordField α} (known : field ∈ fields)
      (twice : 2 ≤ (members.named field.name).length)
  | number {field : RecordField α} {value : Value} (known : field ∈ fields)
      (number : value.IsNumber) (written : (field.name, value) ∈ members)

theorem Members.mem_named {members : Members} {name : String} {value : Value}
    (mem : (name, value) ∈ members) : value ∈ members.named name := by
  rw [named, List.mem_map]
  exact ⟨(name, value), List.mem_filter.2 ⟨mem, beq_self_eq_true name⟩, rfl⟩

theorem Faulty.not_holds {α : Type} {fields : List (RecordField α)} {members : Members}
    (faulty : Faulty fields members) (a : α) :
    ¬ ∀ field ∈ fields, field.Holds a (members.named field.name) := by
  intro holds
  -- A field is held by one value or by none, whatever the record is.
  cases faulty with
  | missing known required absent =>
    have holds := (holds _ known).cases
    rw [Members.named_eq_nil absent] at holds
    simp [required] at holds
  | @null field known required written =>
    have here := Members.mem_named written
    rcases (holds _ known).cases with ⟨optional, _⟩ | ⟨value, only, notNull, _⟩
    · rw [required] at optional
      cases optional
    · rw [only, List.mem_singleton] at here
      exact notNull here.symm
  | @repeated field known twice =>
    rcases (holds _ known).cases with ⟨_, only | only⟩ | ⟨value, only, _⟩ <;>
      simp [only] at twice
  | @number field value known number written =>
    have here := Members.mem_named written
    rcases (holds _ known).cases with ⟨_, only | only⟩ | ⟨other, only, _, notNumber⟩
    · rw [only] at here
      cases here
    · rw [only, List.mem_singleton] at here
      subst here
      exact number (by simp)
    · rw [only, List.mem_singleton] at here
      subst here
      exact notNumber number

/-- How a record stands in JSON. Its encoding is one of the texts that list its members, and all
these texts are read as the record. A text is refused where a member is faulty, an array stands for
the object, or anything but blanks follows. -/
structure ReadByName (α : Type) [Coded α] (fields : List (RecordField α)) : Prop where
  encoded (a : α) : ∃ members, toJson a = .object members ∧ Written a fields members
  reads {a : α} {members : Members} {text : String} (lists : Lists fields a members)
    (spelled : SpellsWhole maxLevels (.object members) text) : decode? α text = some a
  refusesFault {levels : Nat} {members : Members} {text : String} (faulty : Faulty fields members)
    (spelled : SpellsWhole levels (.object members) text) : decode? α text = none
  refusesArray {levels : Nat} {items : List Value} {text : String}
    (spelled : SpellsWhole levels (.array items) text) : decode? α text = none
  refusesMore {a : α} {text more : String} (decoded : decode? α text = some a)
    (solid : ¬ Blanks more.toList) : decode? α (text ++ more) = none

/-- One of several kinds of requests: its name, and the members of what it is made from. -/
structure Kind (α : Type) : Type 1 where
  name : String
  {β : Type}
  make : β → α
  fields : List (RecordField β)

/-- How a request of one of several kinds stands in JSON: in an object whose only member is named
for the kind and holds the members of the request. -/
structure ReadByKind (α : Type) [Coded α] (kinds : List (Kind α)) : Prop where
  encoded (a : α) : ∃ kind ∈ kinds, ∃ b members, a = kind.make b ∧
    toJson a = .object [(kind.name, .object members)] ∧ Written b kind.fields members
  reads {kind : Kind α} {b : kind.β} {members : Members} {text : String} (known : kind ∈ kinds)
    (lists : Lists kind.fields b members)
    (spelled : SpellsWhole maxLevels (.object [(kind.name, .object members)]) text) :
    decode? α text = some (kind.make b)
  refusesFault {kind : Kind α} {levels : Nat} {members : Members} {text : String}
    (known : kind ∈ kinds) (faulty : Faulty kind.fields members)
    (spelled : SpellsWhole levels (.object [(kind.name, .object members)]) text) :
    decode? α text = none
  refusesArray {levels : Nat} {items : List Value} {text : String}
    (spelled : SpellsWhole levels (.array items) text) : decode? α text = none
  refusesInnerArray {levels : Nat} {name : String} {items : List Value} {text : String}
    (spelled : SpellsWhole levels (.object [(name, .array items)]) text) : decode? α text = none
  refusesSecond {levels : Nat} {first second : String × Value} {others : Members} {text : String}
    (spelled : SpellsWhole levels (.object (first :: second :: others)) text) :
    decode? α text = none
  refusesMore {a : α} {text more : String} (decoded : decode? α text = some a)
    (solid : ¬ Blanks more.toList) : decode? α (text ++ more) = none

theorem ReadByName.of_iff {α : Type} [Coded α] {fields : List (RecordField α)}
    (distinct : (fields.map RecordField.name).Nodup)
    (encoded : ∀ a : α, ∃ members, toJson a = .object members ∧ Written a fields members)
    (array : ∀ items, (ofJson? (.array items) : Option α) = none)
    (exactly : ∀ (members : Members) (a : α), ofJson? (.object members) = some a ↔
      ∀ field ∈ fields, field.Holds a (members.named field.name)) : ReadByName α fields where
  encoded := encoded
  reads lists spelled := spelled.decode? trivial ((exactly _ _).2 (lists.holds distinct))
  refusesFault faulty spelled := by
    apply spelled.decode?_eq_none trivial
    rw [Option.eq_none_iff_forall_ne_some]
    intro a read
    exact faulty.not_holds a ((exactly _ a).1 read)
  refusesArray spelled := spelled.decode?_eq_none trivial (array _)
  refusesMore := decode?_append_eq_none

theorem ReadByKind.of_iff {α : Type} [Coded α] {kinds : List (Kind α)}
    (read : String → Members → Option α)
    (distinct : ∀ kind ∈ kinds, (kind.fields.map RecordField.name).Nodup)
    (encoded : ∀ a : α, ∃ kind ∈ kinds, ∃ b members, a = kind.make b ∧
      toJson a = .object [(kind.name, .object members)] ∧ Written b kind.fields members)
    (single : ∀ value : Value, ofJson? value = match value with
      | .object [(kind, .object members)] => read kind members
      | _ => none)
    (exactly : ∀ kind ∈ kinds, ∀ (members : Members) (a : α),
      read kind.name members = some a ↔
        ∃ b, a = kind.make b ∧ ∀ field ∈ kind.fields, field.Holds b (members.named field.name)) :
    ReadByKind α kinds where
  encoded := encoded
  reads {kind b members text} known lists spelled := by
    apply spelled.decode? trivial
    rw [single]
    exact (exactly kind known members _).2 ⟨b, rfl, lists.holds (distinct kind known)⟩
  refusesFault {kind levels members text} known faulty spelled := by
    apply spelled.decode?_eq_none trivial
    rw [single, Option.eq_none_iff_forall_ne_some]
    intro a read
    obtain ⟨b, _, holds⟩ := (exactly kind known members a).1 read
    exact faulty.not_holds b holds
  refusesArray spelled := spelled.decode?_eq_none trivial (single _)
  refusesInnerArray spelled := spelled.decode?_eq_none trivial (single _)
  refusesSecond spelled := by
    apply spelled.decode?_eq_none trivial
    rw [single]
    split
    · next same => cases same
    · rfl
  refusesMore := decode?_append_eq_none

theorem map_make_eq_some_iff {α β : Type} {make : β → α} {fields : List (RecordField β)}
    {read : Members → Option β}
    (exactly : ∀ members b, read members = some b ↔
      ∀ field ∈ fields, field.Holds b (members.named field.name))
    (members : Members) (a : α) :
    (read members).map make = some a ↔
      ∃ b, a = make b ∧ ∀ field ∈ fields, field.Holds b (members.named field.name) := by
  simp only [Option.map_eq_some_iff, exactly, and_comm, @eq_comm _ a]

section Encodings

variable {α β : Type} {a : α} [Coded β] [StrictScalar β] [LawfulScalar β]

theorem Written.member {field : RecordField α} {fields : List (RecordField α)} {value : Value}
    {members : Members} (holds : field.Holds a [value]) (rest : Written a fields members) :
    Written a (field :: fields) ((field.name, value) :: members) :=
  .cons holds rest

theorem RecordField.holds_required (name : String) (get : α → β) :
    (required name get).Holds a [toJson (get a)] :=
  ⟨_, rfl, ofJson?_toJson (get a)⟩

theorem RecordField.holds_optional (name : String) (get : α → Option β) :
    (optional name get).Holds a [ofOption (get a)] := by
  unfold Holds
  dsimp only
  cases get a with
  | none => exact .inr rfl
  | some b => exact ⟨_, rfl, ofJson?_toJson b⟩

end Encodings

end PayableLedger.Json
