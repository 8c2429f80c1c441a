import Mathlib.Data.List.Perm.Basic
import PayableLedger.Proofs.Amount.Grammar
import PayableLedger.Proofs.Success
import PayableLedger.Proofs.Wire.ByName

set_option autoImplicit false

namespace PayableLedger

/-- What stands in a text field of a request: a text that has to be there, one that may be left out,
or the text of a cost, which may be left out as well. -/
inductive Content
  | required (text : String)
  | optional (text? : Option String)
  | cost (text? : Option String)

/-- A cost and its text: both are there or none, and the text denotes the cost. -/
abbrev CostDenotes : Option String → Option Amount → Prop :=
  Option.Rel fun text amount => Amount.Denotes text.toList amount.units

/-- A text is in order if it is not empty, and that of a cost if it denotes an amount. -/
inductive Content.InOrder : Content → Prop
  | required {text : String} (given : text ≠ "") : InOrder (.required text)
  | optional {text? : Option String} (absentOrGiven : text? ≠ some "") : InOrder (.optional text?)
  | cost {text? : Option String} {cost? : Option Amount} (denotes : CostDenotes text? cost?) :
      InOrder (.cost text?)

structure Form where
  /-- The names of all its fields, in the order of their declaration. -/
  declared : List String
  texts : List (String × Content)
  percent? : Option Decimal
  /-- A cost without the denomination that has to come with it. -/
  unpaired? : Option String
  distinct : declared.Nodup
  inDeclared : (texts.map Prod.fst).Sublist declared

namespace Form

/-- The names of the text fields that are out of order: each once, and in the order in which the
request declares them. -/
structure Faults (form : Form) (names : List String) : Prop where
  ordered : names.Sublist form.declared
  once : names.Nodup
  exactly (name : String) :
    name ∈ names ↔ ∃ content, (name, content) ∈ form.texts ∧ ¬ content.InOrder

def TextsInOrder (form : Form) : Prop := ∀ field ∈ form.texts, field.2.InOrder

/-- The fee takes no more than the whole of a payment. -/
def Moderate (form : Form) : Prop :=
  ∀ percent, form.percent? = some percent → percent.atomics ≤ Decimal.unit

/-- What is answered to a request of this form. A percentage is looked at only if all texts are in
order, and the denomination of a cost only if the percentage is moderate. -/
inductive Verdict (form : Form) : Except Error Unit → Prop
  | faulty {names : List String} (nonempty : names ≠ []) (faults : form.Faults names) :
      Verdict form (.error (.invalidFields names))
  | excessive {percent : Decimal} (inOrder : form.TextsInOrder)
      (given : form.percent? = some percent) (above : Decimal.unit < percent.atomics) :
      Verdict form (.error (.invalidFeePercent percent))
  | unpaired {cost : String} (inOrder : form.TextsInOrder) (moderate : form.Moderate)
      (alone : form.unpaired? = some cost) : Verdict form (.error (.missingOnboardingDenom cost))
  | passed (inOrder : form.TextsInOrder) (moderate : form.Moderate)
      (paired : form.unpaired? = none) : Verdict form (.ok ())

end Form

def Form.single (name text : String) : Form where
  declared := [name]
  texts := [(name, .required text)]
  percent? := none
  unpaired? := none
  distinct := by simp
  inDeclared := List.Sublist.refl [name]

def Registration.form (request : Registration) : Form where
  declared := fields.map Json.RecordField.name
  texts := [
    ("oracle_address", .required request.oracle),
    ("payable_denom", .required request.denom),
    ("payable_type", .required request.kind),
    ("payable_uuid", .required request.uuid),
    ("scope_id", .required request.scopeId)]
  percent? := none
  unpaired? := none
  distinct := by decide
  inDeclared := by
    change ["oracle_address", "payable_denom", "payable_type", "payable_uuid", "scope_id"].Sublist _
    decide

def Execution.form : Execution → Form
  | .register registration => registration.form
  | .approve approval => .single "payable_uuid" approval.uuid
  | .pay payment => .single "payable_uuid" payment.uuid

def Query.form : Query → Form
  | .state => ⟨[], [], none, none, .nil, .slnil⟩
  | .payableOfScope scopeId => .single "scope_id" scopeId
  | .payable uuid => .single "payable_uuid" uuid

def Migration.form (request : Migration) : Form where
  declared := fields.map Json.RecordField.name
  texts := [
    ("fee_collection_address", .optional request.feeCollector),
    ("onboarding_cost", .cost request.onboardingCost),
    ("onboarding_denom", .optional request.onboardingDenom)]
  percent? := request.feePercent
  unpaired? := none
  distinct := by decide
  inDeclared := by
    change ["fee_collection_address", "onboarding_cost", "onboarding_denom"].Sublist _
    decide

/-- Only here a cost has to come with its denomination: to a migration it may be stored already. -/
def Instantiation.form (request : Instantiation) : Form where
  declared := fields.map Json.RecordField.name
  texts := [
    ("contract_name", .required request.name),
    ("fee_collection_address", .optional request.feeCollector),
    ("onboarding_cost", .cost request.onboardingCost),
    ("onboarding_denom", .optional request.onboardingDenom)]
  percent? := request.feePercent
  unpaired? := if request.onboardingDenom.isSome then none else request.onboardingCost
  distinct := by decide
  inDeclared := by
    change ["contract_name", "fee_collection_address", "onboarding_cost",
      "onboarding_denom"].Sublist _
    decide

theorem readCost_eq_ok_iff {text? : Option String} {cost? : Option Amount} :
    readCost text? = .ok cost? ↔ CostDenotes text? cost? := by
  cases text? with
  | none =>
    constructor
    · rintro ⟨⟩
      exact .none
    · rintro ⟨⟩
      rfl
  | some text =>
    rw [readCost_some_eq_ok_iff]
    constructor
    · rintro ⟨cost, parsed, rfl⟩
      exact .some (Amount.parse_eq_ok_iff.1 parsed)
    · rintro ⟨denotes⟩
      exact ⟨_, Amount.parse_eq_ok_iff.2 denotes, rfl⟩

def Content.isFaulty : Content → Bool
  | .required text => text.isEmpty
  | .optional text? => text? == some ""
  | .cost text? => isUnreadableCost text?

theorem Content.isFaulty_iff {content : Content} : content.isFaulty = true ↔ ¬ content.InOrder := by
  rw [← Bool.not_eq_false, not_iff_not]
  cases content with
  | required text =>
    rw [isFaulty, String.isEmpty_eq_false_iff]
    exact ⟨.required, fun | .required given => given⟩
  | optional text? =>
    rw [isFaulty, beq_eq_false_iff_ne]
    exact ⟨.optional, fun | .optional absentOrGiven => absentOrGiven⟩
  | cost text? =>
    rw [isFaulty, isUnreadableCost_eq_false_iff]
    simp only [readCost_eq_ok_iff]
    exact ⟨fun ⟨_, denotes⟩ => .cost denotes, fun | .cost denotes => ⟨_, denotes⟩⟩

namespace Form

def checks (form : Form) : List (String × Bool) :=
  form.texts.map fun (name, content) => (name, content.isFaulty)

/-- The checks of a form in the order in which they are made. -/
def check (form : Form) : Except Error Unit := do
  checkFields form.checks
  checkFeePercent form.percent?
  match form.unpaired? with
  | some cost => .error (.missingOnboardingDenom cost)
  | none => .ok ()

theorem check_of_paired (form : Form) (paired : form.unpaired? = none) :
    form.check = checkFields form.checks >>= fun _ => checkFeePercent form.percent? := by
  rw [check, paired]
  refine congrArg _ (funext fun _ => ?_)
  exact bind_pure_unit

theorem check_of_texts (form : Form) (unpriced : form.percent? = none)
    (paired : form.unpaired? = none) : form.check = checkFields form.checks := by
  rw [check_of_paired form paired, unpriced]
  exact bind_pure_unit

end Form

theorem Execution.validate_eq (request : Execution) : request.validate = request.form.check := by
  cases request with
  | register registration => exact (Form.check_of_texts registration.form rfl rfl).symm
  | approve approval => exact (Form.check_of_texts (.single _ approval.uuid) rfl rfl).symm
  | pay payment => exact (Form.check_of_texts (.single _ payment.uuid) rfl rfl).symm

theorem Query.validate_eq (request : Query) : request.validate = request.form.check := by
  cases request with
  | state => rfl
  | payableOfScope scopeId => exact (Form.check_of_texts (.single _ scopeId) rfl rfl).symm
  | payable uuid => exact (Form.check_of_texts (.single _ uuid) rfl rfl).symm

theorem Migration.validate_eq (request : Migration) : request.validate = request.form.check :=
  (Form.check_of_paired request.form rfl).symm

theorem Instantiation.validate_eq (request : Instantiation) :
    request.validate = request.form.check := by
  unfold validate Form.check
  dsimp only [form]
  cases request.onboardingCost <;> cases request.onboardingDenom <;> rfl

namespace Form

variable {form : Form}

theorem mem_faultyFields_iff {name : String} :
    name ∈ faultyFields form.checks ↔
      ∃ content, (name, content) ∈ form.texts ∧ ¬ content.InOrder := by
  simp only [faultyFields, checks, ← Content.isFaulty_iff, List.mem_map, List.mem_filter,
    Prod.exists, Prod.mk.injEq, exists_and_right, exists_eq_right]
  constructor
  · rintro ⟨_, content, member, rfl, faulty⟩
    exact ⟨content, member, faulty⟩
  · rintro ⟨content, member, faulty⟩
    exact ⟨name, content, member, rfl, faulty⟩

theorem faults_faultyFields (form : Form) : form.Faults (faultyFields form.checks) :=
  have ordered : (faultyFields form.checks).Sublist form.declared := calc
    ((form.checks.filter Prod.snd).map Prod.fst).Sublist (form.checks.map Prod.fst) :=
      List.filter_sublist.map Prod.fst
    form.checks.map Prod.fst = form.texts.map Prod.fst := by simp [checks, Function.comp_def]
    List.Sublist _ form.declared := form.inDeclared
  ⟨ordered, ordered.nodup form.distinct, fun _ => mem_faultyFields_iff⟩

/-- The faults of a form can be listed in one way only. -/
theorem Faults.unique {names others : List String} (faults : form.Faults names)
    (otherFaults : form.Faults others) : names = others := by
  have same (name : String) : name ∈ names ↔ name ∈ others :=
    (faults.exactly name).trans (otherFaults.exactly name).symm
  apply (List.Nodup.perm_iff_eq_of_sublist form.distinct faults.ordered otherFaults.ordered).1
  exact (List.perm_ext_iff_of_nodup faults.once otherFaults.once).2 same

theorem faultyFields_eq_nil_iff : faultyFields form.checks = [] ↔ form.TextsInOrder := by
  rw [List.eq_nil_iff_forall_not_mem]
  simp only [mem_faultyFields_iff, TextsInOrder, Prod.forall, not_exists, not_and, not_not]

theorem checkFields_eq_ok_iff : checkFields form.checks = .ok () ↔ form.TextsInOrder := by
  rw [← faultyFields_eq_nil_iff, checkFields]
  cases faultyFields form.checks <;> simp

theorem Faults.checkFields_eq {names : List String} (faults : form.Faults names)
    (nonempty : names ≠ []) : checkFields form.checks = .error (.invalidFields names) := by
  rw [checkFields, form.faults_faultyFields.unique faults]
  cases names with
  | nil => exact absurd rfl nonempty
  | cons name names => rfl

theorem Verdict.check_eq {outcome : Except Error Unit} (verdict : form.Verdict outcome) :
    form.check = outcome := by
  unfold check
  -- The checks that are passed drop out, and the first one that is not is the answer.
  cases verdict with
  | faulty nonempty faults =>
    rw [faults.checkFields_eq nonempty]
    rfl
  | @excessive percent inOrder given above =>
    have refused : checkFeePercent form.percent? = .error (.invalidFeePercent percent) := by
      rw [given]
      exact if_pos above
    rw [checkFields_eq_ok_iff.2 inOrder, refused]
    rfl
  | unpaired inOrder moderate alone =>
    rw [checkFields_eq_ok_iff.2 inOrder, checkFeePercent_eq_ok_iff.2 moderate, alone]
    rfl
  | passed inOrder moderate paired =>
    rw [checkFields_eq_ok_iff.2 inOrder, checkFeePercent_eq_ok_iff.2 moderate, paired]
    rfl

theorem exists_verdict (form : Form) : ∃ outcome, form.Verdict outcome := by
  by_cases inOrder : form.TextsInOrder
  · by_cases moderate : form.Moderate
    · cases unpaired : form.unpaired? with
      | none => exact ⟨_, .passed inOrder moderate unpaired⟩
      | some cost => exact ⟨_, .unpaired inOrder moderate unpaired⟩
    · simp only [Moderate, not_forall, Nat.not_le] at moderate
      obtain ⟨percent, given, above⟩ := moderate
      exact ⟨_, .excessive inOrder given above⟩
  · exact ⟨_, .faulty (mt faultyFields_eq_nil_iff.1 inOrder) form.faults_faultyFields⟩

theorem check_eq_iff {outcome : Except Error Unit} :
    form.check = outcome ↔ form.Verdict outcome := by
  constructor
  · rintro rfl
    obtain ⟨outcome, verdict⟩ := form.exists_verdict
    rwa [verdict.check_eq]
  · exact Verdict.check_eq

end Form

theorem Migration.toOverlay_of_valid (request : Migration) (valid : request.validate = .ok ()) :
    ∃ cost?, CostDenotes request.onboardingCost cost? ∧ request.toOverlay = .ok
      ⟨request.feeCollector, request.feePercent, request.isLocal, cost?,
        request.onboardingDenom⟩ := by
  obtain ⟨change, reads⟩ := exists_overlay valid
  obtain ⟨cost?, readable, rfl⟩ := toOverlay_eq_ok_iff.1 reads
  exact ⟨cost?, readCost_eq_ok_iff.1 readable, reads⟩

theorem Instantiation.configuration_of_valid (request : Instantiation)
    (valid : request.validate = .ok ()) :
    ∃ config, request.configuration = .ok config ∧
      CostDenotes request.onboardingCost config.onboardingCost := by
  obtain ⟨config, reads⟩ := exists_configuration valid
  obtain ⟨cost?, readable, rfl⟩ := configuration_eq_ok_iff.1 reads
  exact ⟨_, reads, readCost_eq_ok_iff.1 readable⟩

/-- What is answered to a request that is checked: all its faulty fields, if there are any; else its
percentage, if that is above the whole; else its cost, if it sets a ledger up and names no
denomination. A request that passes can be read: its cost is the amount that the text denotes, and
a migration changes every other setting to just what it asks for. -/
theorem validation_names_faults :
    (∀ (request : Execution) outcome, request.validate = outcome ↔ request.form.Verdict outcome) ∧
    (∀ (request : Query) outcome, request.validate = outcome ↔ request.form.Verdict outcome) ∧
    (∀ (request : Instantiation) outcome,
      request.validate = outcome ↔ request.form.Verdict outcome) ∧
    (∀ (request : Migration) outcome, request.validate = outcome ↔ request.form.Verdict outcome) ∧
    (∀ request : Migration, request.validate = .ok () →
      ∃ cost?, CostDenotes request.onboardingCost cost? ∧ request.toOverlay = .ok
        ⟨request.feeCollector, request.feePercent, request.isLocal, cost?,
          request.onboardingDenom⟩) ∧
    (∀ request : Instantiation, request.validate = .ok () →
      ∃ config, request.configuration = .ok config ∧
        CostDenotes request.onboardingCost config.onboardingCost) := by
  refine ⟨?execution, ?query, ?instantiation, ?migration, Migration.toOverlay_of_valid,
    Instantiation.configuration_of_valid⟩
  case execution => exact fun request _ => request.validate_eq ▸ Form.check_eq_iff
  case query => exact fun request _ => request.validate_eq ▸ Form.check_eq_iff
  case instantiation => exact fun request _ => request.validate_eq ▸ Form.check_eq_iff
  case migration => exact fun request _ => request.validate_eq ▸ Form.check_eq_iff

/-- A cost may carry a plus sign and leading zeros. -/
theorem validation_names_faults_of_seventy :
    let request : Migration := ⟨none, none, none, some "+0070", some "nhash"⟩
    request.validate = .ok () ∧ ∃ cost?, CostDenotes (some "+0070") cost? ∧
      request.toOverlay = .ok ⟨none, none, none, cost?, some "nhash"⟩ :=
  ⟨rfl, validation_names_faults.2.2.2.2.1 ⟨none, none, none, some "+0070", some "nhash"⟩ rfl⟩

/-- All four texts are named, though the fee takes more than the whole of a payment as well. -/
example : Instantiation.validate
    ⟨"", some "", some ⟨1000000000000000001, by decide⟩, some "70 nhash", some "", none⟩ =
    .error (.invalidFields ["contract_name", "fee_collection_address", "onboarding_cost",
      "onboarding_denom"]) := rfl

end PayableLedger
