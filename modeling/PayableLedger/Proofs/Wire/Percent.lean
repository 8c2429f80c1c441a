import PayableLedger.Proofs.Decimal.Grammar
import PayableLedger.Proofs.Overlay
import PayableLedger.Proofs.Wire.ByName

set_option autoImplicit false

namespace PayableLedger

open Json (Coded Members RecordField Value SpellsWhole maxLevels decode? ofJson? toJson)

/-- A record takes its percentage from the text under `fee_percent`, at whatever place that stands
among its other members and however the object is spelled. It is read exactly where the text denotes
a decimal, and has just that one. -/
def TakesPercent (α : Type) [Coded α] (withPercent : α → Decimal → α) : Prop :=
  ∀ (front back : Members) (text json : String) (record : α),
    (∀ member ∈ front ++ back, member.1 ≠ "fee_percent") →
    ofJson? (.object (front ++ back)) = some record →
    SpellsWhole maxLevels (.object (front ++ ("fee_percent", .text text) :: back)) json →
    ∀ result, decode? α json = some result ↔
      ∃ percent : Decimal, Decimal.Denotes text percent.atomics ∧
        result = withPercent record percent

/-- An answer is an object that has the percentage once, as the text of the decimal in quotes. -/
structure ShowsPercent (answer : String) (percent : Decimal) : Prop where
  member : ∃ members : Members, SpellsWhole maxLevels (.object members) answer ∧
    members.named "fee_percent" = [.text percent.toText]
  verbatim : ∃ front back,
    answer = front ++ "\"fee_percent\":\"" ++ percent.toText ++ "\"" ++ back

section Reading

variable {front back : Members} {text : String}

theorem optional_percent_eq_some_iff {percent? : Option Decimal}
    (fresh : ∀ member ∈ front ++ back, member.1 ≠ "fee_percent") :
    Members.optional (front ++ ("fee_percent", .text text) :: back) "fee_percent" Decimal =
        some percent? ↔
      ∃ percent : Decimal, Decimal.Denotes text percent.atomics ∧ percent? = some percent := by
  have read :
      Members.optional (front ++ ("fee_percent", .text text) :: back) "fee_percent" Decimal =
        (Decimal.parse text).toOption.map some := by
    rw [Members.optional, Members.named_insert fresh]
    rfl
  rw [read]
  simp only [← Decimal.parse_eq_ok_iff]
  cases Decimal.parse text with
  | error cause => simp [Except.toOption]
  | ok percent => simp [Except.toOption, eq_comm]

/-- A record that is read field by field, one of which is the percentage, takes it. No other field
looks at it. -/
theorem TakesPercent.of_fields {α : Type} [Coded α] {fields : List (RecordField α)}
    {feePercent : α → Option Decimal} {withPercent : α → Decimal → α}
    (before after : List (RecordField α))
    (readFields : ∀ (members : Members) (record : α), ofJson? (.object members) = some record ↔
      ∀ field ∈ fields, field.Holds record (members.named field.name))
    (split : fields = before ++ .optional "fee_percent" feePercent :: after)
    (set : ∀ record percent, feePercent (withPercent record percent) = some percent)
    (others : ∀ field ∈ before ++ after, "fee_percent" ≠ field.name ∧
      ∀ record percent values,
        field.Holds (withPercent record percent) values ↔ field.Holds record values) :
    TakesPercent α withPercent := by
  have readApart (members : Members) (record : α) : ofJson? (.object members) = some record ↔
      (RecordField.optional "fee_percent" feePercent).Holds record (members.named "fee_percent") ∧
        ∀ field ∈ before ++ after, field.Holds record (members.named field.name) := by
    rw [readFields, split, List.forall_mem_append, List.forall_mem_cons, and_left_comm,
      ← List.forall_mem_append, RecordField.name]
  intro front back text json record fresh reads spelled result
  have taken {percent : Decimal} (denotes : Decimal.Denotes text percent.atomics) :
      ofJson? (.object (front ++ ("fee_percent", .text text) :: back)) =
        some (withPercent record percent) := by
    rw [readApart]
    constructor
    · apply Members.optional_eq_some_iff.1
      exact (optional_percent_eq_some_iff fresh).2 ⟨percent, denotes, set record percent⟩
    · intro field member
      obtain ⟨other, blind⟩ := others field member
      rw [Members.named_insert_of_ne other, blind]
      exact ((readApart _ _).1 reads).2 field member
  rw [spelled.decode?_eq_ofJson? trivial]
  constructor
  · intro decoded
    have holds := ((readApart _ _).1 decoded).1
    obtain ⟨percent, denotes, _⟩ :=
      (optional_percent_eq_some_iff fresh).1 (Members.optional_eq_some_iff.2 holds)
    exact ⟨percent, denotes, Option.some.inj (decoded.symm.trans (taken denotes))⟩
  · rintro ⟨percent, denotes, rfl⟩
    exact taken denotes

end Reading

theorem Instantiation.takesPercent :
    TakesPercent Instantiation fun request percent =>
      { request with feePercent := some percent } := by
  apply TakesPercent.of_fields (fields.take 2) (fields.drop 3) ofMembers?_eq_some_iff_holds rfl
    (fun _ _ => rfl)
  simp [fields, RecordField.name, RecordField.Holds]

theorem Migration.takesPercent :
    TakesPercent Migration fun request percent =>
      { request with feePercent := some percent } := by
  apply TakesPercent.of_fields (fields.take 1) (fields.drop 2) ofMembers?_eq_some_iff_holds rfl
    (fun _ _ => rfl)
  simp [fields, RecordField.name, RecordField.Holds]

theorem Configuration.takesPercent :
    TakesPercent Configuration fun config percent =>
      { config with feePercent := some percent } := by
  apply TakesPercent.of_fields (fields.take 2) (fields.drop 3) ofMembers?_eq_some_iff_holds rfl
    (fun _ _ => rfl)
  simp [fields, RecordField.name, RecordField.Holds]

theorem escapeChar_digitChar : ∀ d < 10, Json.escapeChar (Nat.digitChar d) = [Nat.digitChar d] := by
  decide

theorem escape_toChars (percent : Decimal) : Json.escape percent.toChars = percent.toChars := by
  have plain : ∀ c ∈ percent.toChars, Json.escapeChar c = [c] := by
    intro c member
    rcases Decimal.mem_toChars member with rfl | digit
    · rfl
    · rw [← digitChar_digitValue digit]
      exact escapeChar_digitChar _ (digitValue_lt digit)
  rw [Json.escape, List.flatMap_congr plain, List.flatMap_singleton']

theorem printMember_percent (percent : Decimal) :
    Json.printMember ("fee_percent", .text percent.toText) =
      "\"fee_percent\":\"".toList ++ (percent.toText.toList ++ "\"".toList) := by
  have written : Json.printText percent.toText = '"' :: percent.toText.toList ++ ['"'] := by
    rw [Json.printText, Decimal.toText, String.toList_ofList, escape_toChars]
  change Json.printText "fee_percent" ++ ':' :: Json.printText percent.toText = _
  rw [written]
  rfl

theorem exists_printMembers (front back : Members) (member : String × Value) :
    ∃ before after, Json.printMembers (front ++ member :: back) =
      before ++ (Json.printMember member ++ after) := by
  cases front with
  | nil => exact ⟨[], _, Json.printMembers_cons member back⟩
  | cons first front =>
    rw [List.cons_append, Json.printMembers_cons, List.flatMap_append, List.flatMap_cons]
    exact ⟨Json.printMember first ++ front.flatMap (fun other => ',' :: Json.printMember other) ++
      [','], back.flatMap fun other => ',' :: Json.printMember other, by simp⟩

theorem ShowsPercent.of_written {α : Type} [Coded α] {record : α} {front back : Members}
    {percent : Decimal}
    (written : toJson record = .object (front ++ ("fee_percent", .text percent.toText) :: back))
    (writable : ∀ levels, (toJson record).Writable (levels + 1))
    (fresh : ∀ member ∈ front ++ back, member.1 ≠ "fee_percent") :
    ShowsPercent (Json.encode record) percent where
  member := by
    have spells := Json.spells_print maxLevels (writable 126)
    rw [written] at spells
    refine ⟨_, ⟨[], _, [], ?_, .nil, spells, .nil⟩, Members.named_insert fresh⟩
    rw [Json.encode, String.toList_ofList, written, List.append_nil, List.nil_append]
  verbatim := by
    obtain ⟨before, after, printed⟩ :=
      exists_printMembers front back ("fee_percent", .text percent.toText)
    refine ⟨String.ofList ('\x7b' :: before), String.ofList (after ++ ['\x7d']), ?_⟩
    rw [Json.encode, written, Value.print, printed, printMember_percent, ← String.toList_inj]
    simp only [String.toList_append, String.toList_ofList, List.append_assoc, List.cons_append]

theorem Configuration.showsPercent {config : Configuration} {percent : Decimal}
    (takes : config.feePercent = some percent) : ShowsPercent (Json.encode config) percent := by
  have written : toJson config = .object (
      [("contract_name", toJson config.name),
        ("fee_collection_address", Json.ofOption config.feeCollector)] ++
      ("fee_percent", .text percent.toText) ::
      [("is_local", toJson config.isLocal),
        ("onboarding_cost", Json.ofOption config.onboardingCost),
        ("onboarding_denom", Json.ofOption config.onboardingDenom)]) := by
    change Value.object [_, _, ("fee_percent", Json.ofOption config.feePercent), _, _, _] = _
    rw [takes]
    rfl
  apply ShowsPercent.of_written written
  · intro levels
    rw [written]
    simp
  · simp

theorem Ledger.query_state_of_configured {store : Store} {config : Configuration}
    (configured : store.records.configuration = .ok config) :
    query store .state = .ok (Json.encode config) := by
  simp only [query, carryOutQuery, Query.answer, configured]
  rfl

theorem Attribute.mk_append_eq_iff {front field other value shown : String} :
    (⟨front ++ field, value⟩ : Attribute) = ⟨front ++ other, shown⟩ ↔
      field = other ∧ value = shown := by
  rw [Attribute.mk.injEq, String.append_right_inj]

theorem Attribute.changed_eq_iff {field other value shown : String} :
    changed field value = changed other shown ↔ field = other ∧ value = shown := mk_append_eq_iff

/-- Of the attributes of a migration, the one for the percentage is there if it is changed. -/
theorem Migration.mem_attributes_iff {stamp : Stamp} {change : Overlay} {value : String} :
    .changed "fee_percent" value ∈ (response stamp change).attributes ↔
      ∃ percent, change.feePercent = some percent ∧ percent.toText = value := by
  have nameKey : "payable_migration_state_field_" ++ "fee_percent" ≠
    "payable_migration_contract_name" := by decide
  have versionKey : "payable_migration_state_field_" ++ "fee_percent" ≠
    "payable_migration_contract_version" := by decide
  have named : Attribute.changed "fee_percent" value ≠ .contractName stamp.contract :=
    fun same => nameKey (congrArg Attribute.key same)
  have numbered : Attribute.changed "fee_percent" value ≠ .contractVersion stamp.version :=
    fun same => versionKey (congrArg Attribute.key same)
  simp only [response, Overlay.attributes, List.mem_filterMap, id_eq, exists_eq_right,
    List.mem_cons, List.not_mem_nil, or_false, @eq_comm _ (some _), Option.map_eq_some_iff,
    Attribute.changed_eq_iff, String.reduceEq, false_and, and_false, exists_false, true_and,
    false_or, named, numbered]

/-- A migration that succeeds tells the percentage that it brings, and leaves it to be shown. -/
theorem Ledger.percent_of_migrate {store left : Store} {request : Migration} {response : Response}
    (migrates : migrate store request = ⟨.ok response, left⟩) :
    (∀ value, ⟨"payable_migration_state_field_fee_percent", value⟩ ∈ response.attributes ↔
        ∃ percent, request.feePercent = some percent ∧ percent.toText = value) ∧
      ∀ percent, request.feePercent = some percent →
        ∃ answer, query left .state = .ok answer ∧ ShowsPercent answer percent := by
  obtain ⟨config, change, applies, rfl, rfl⟩ := migrate_eq_ok_iff.1 migrates
  obtain ⟨cost?, reads, same⟩ := Migration.toOverlay_eq_ok_iff.1 applies.changes
  have brought : change.feePercent = request.feePercent := by rw [same]
  constructor
  · intro value
    rw [← brought]
    exact Migration.mem_attributes_iff
  · intro percent given
    have taken : (config.overlay change).feePercent = some percent := by
      simp only [Configuration.overlay, brought, given]
      rfl
    exact ⟨_, query_state_of_configured (store.configuration_install _),
      Configuration.showsPercent taken⟩

/-- Of all texts, those are read as a percentage that are an amount, or one on each side of a point,
and come to a count of 10^-18 in range; the percentage is just that count, and nothing is rounded.
Requests and settings take it from their JSON text in this way. A percentage is written so that it
is read again as it was, and ends neither in a point nor in a zero behind one. In this text it is
shown in the settings that are asked for, and by a migration that brings it, and by no other. -/
theorem percent_text_lossless :
    (∀ (text : String) (percent : Decimal),
        Decimal.parse text = .ok percent ↔ Decimal.Denotes text percent.atomics) ∧
      ((TakesPercent Instantiation fun request percent =>
          { request with feePercent := some percent }) ∧
        (TakesPercent Migration fun request percent =>
          { request with feePercent := some percent }) ∧
        TakesPercent Configuration fun config percent =>
          { config with feePercent := some percent }) ∧
      (∀ percent : Decimal,
        Decimal.parse percent.toText = .ok percent ∧ Decimal.IsTrimmed percent.toText) ∧
      (∀ (store : Store) (config : Configuration) (percent : Decimal),
        store.records.configuration = .ok config → config.feePercent = some percent →
        ∃ answer, Ledger.query store .state = .ok answer ∧ ShowsPercent answer percent) ∧
      ∀ (store left : Store) (request : Migration) (response : Response),
        Ledger.migrate store request = ⟨.ok response, left⟩ →
        (∀ value, ⟨"payable_migration_state_field_fee_percent", value⟩ ∈ response.attributes ↔
          ∃ percent, request.feePercent = some percent ∧ percent.toText = value) ∧
        ∀ percent, request.feePercent = some percent →
          ∃ answer, Ledger.query left .state = .ok answer ∧ ShowsPercent answer percent := by
  refine ⟨fun text percent => Decimal.parse_eq_ok_iff,
    ⟨Instantiation.takesPercent, Migration.takesPercent, Configuration.takesPercent⟩,
    fun percent => ⟨percent.parse_toText, percent.toText_trimmed⟩, ?_, ?_⟩
  · intro store config percent configured takes
    exact ⟨_, Ledger.query_state_of_configured configured, Configuration.showsPercent takes⟩
  · intro store left request response migrates
    exact Ledger.percent_of_migrate migrates

def fortieth : Decimal := ⟨25000000000000000, by decide⟩

def fortiethMigration : Migration := ⟨none, some fortieth, none, none, none⟩

/-- The plus sign of a fraction takes a place, and is not shown. -/
theorem percent_text_lossless_fortieth :
    let start := Store.empty.install freeConfiguration
    Decimal.parse "0.+25" = .ok fortieth ∧
      ∃ response left, Ledger.migrate start fortiethMigration = ⟨.ok response, left⟩ ∧
        ⟨"payable_migration_state_field_fee_percent", "0.025"⟩ ∈ response.attributes := by
  intro start
  have ones : Amount.Denotes "0".toList Amount.zero.units :=
    ⟨by decide, List.all_eq_true.1 rfl, by decide⟩
  have parts : Amount.Denotes "+25".toList (⟨25, by decide⟩ : Amount).units :=
    ⟨by decide, List.all_eq_true.1 rfl, by decide⟩
  have denotes : Decimal.Denotes "0.+25" fortieth.atomics :=
    Decimal.Denotes.pointed ones parts (by decide)
  have applies : fortiethMigration.Applies start freeConfiguration
      ⟨none, some fortieth, none, none, none⟩ :=
    ⟨by decide, ⟨_, Store.stamp_install _ _, rfl⟩, rfl, Store.configuration_install _ _, rfl⟩
  have migrates : Ledger.migrate start fortiethMigration = ⟨.ok _, _⟩ :=
    Ledger.migrate_eq_ok_iff.2 ⟨_, _, applies, rfl, rfl⟩
  obtain ⟨reads, -, -, -, tells⟩ := percent_text_lossless
  refine ⟨(reads _ _).2 denotes, _, _, migrates, ?_⟩
  exact ((tells _ _ _ _ migrates).1 _).2 ⟨fortieth, rfl, by decide +kernel⟩

end PayableLedger
