import PayableLedger.Proofs.Json.Naming
import PayableLedger.Proofs.Wire.Requests

set_option autoImplicit false

namespace PayableLedger

open Json (Coded Members RecordField Kind StrictScalar Written ReadByName ReadByKind toJson ofJson?)
open Json.Members (required_eq_some_iff optional_eq_some_iff)
open Json.RecordField (holds_required holds_optional)

instance : StrictScalar Amount where
  ofJson?_bare read := by cases read

instance : StrictScalar Decimal where
  ofJson?_bare read := by cases read

instance : StrictScalar PayableStatus where
  ofJson?_bare read := by cases read

namespace Configuration

def fields : List (RecordField Configuration) := [
  .required "contract_name" name,
  .optional "fee_collection_address" feeCollector,
  .optional "fee_percent" feePercent,
  .required "is_local" isLocal,
  .optional "onboarding_cost" onboardingCost,
  .optional "onboarding_denom" onboardingDenom]

theorem written (config : Configuration) :
    ∃ members, toJson config = .object members ∧ Written config fields members := by
  refine ⟨_, rfl, ?_⟩
  exact .member (holds_required _ name) <| .member (holds_optional _ feeCollector) <|
    .member (holds_optional _ feePercent) <| .member (holds_required _ isLocal) <|
    .member (holds_optional _ onboardingCost) <| .member (holds_optional _ onboardingDenom) .nil

theorem ofMembers?_eq_some_iff_holds (members : Members) (config : Configuration) :
    ofMembers? members = some config ↔
      ∀ field ∈ fields, field.Holds config (members.named field.name) := by
  simp only [ofMembers?_eq_some_iff, required_eq_some_iff, optional_eq_some_iff, fields,
    List.forall_mem_cons, List.not_mem_nil, false_implies, implies_true, and_true, RecordField.name]

theorem readByName : ReadByName Configuration fields :=
  .of_iff (by decide) written (fun _ => rfl) ofMembers?_eq_some_iff_holds

end Configuration

namespace Payable

def fields : List (RecordField Payable) := [
  .required "payable_uuid" uuid,
  .required "scope_id" scopeId,
  .required "oracle_address" oracle,
  .required "payable_type" kind,
  .required "payable_denom" denom,
  .required "payable_total" total,
  .required "payable_remaining" remaining,
  .required "status" status,
  .required "payee_address" payee]

theorem written (payable : Payable) :
    ∃ members, toJson payable = .object members ∧ Written payable fields members := by
  refine ⟨_, rfl, ?_⟩
  exact .member (holds_required _ uuid) <| .member (holds_required _ scopeId) <|
    .member (holds_required _ oracle) <| .member (holds_required _ kind) <|
    .member (holds_required _ denom) <| .member (holds_required _ total) <|
    .member (holds_required _ remaining) <| .member (holds_required _ status) <|
    .member (holds_required _ payee) .nil

theorem ofMembers?_eq_some_iff_holds (members : Members) (payable : Payable) :
    ofMembers? members = some payable ↔
      ∀ field ∈ fields, field.Holds payable (members.named field.name) := by
  simp only [ofMembers?_eq_some_iff, required_eq_some_iff, fields, List.forall_mem_cons,
    List.not_mem_nil, false_implies, implies_true, and_true, RecordField.name]

theorem readByName : ReadByName Payable fields :=
  .of_iff (by decide) written (fun _ => rfl) ofMembers?_eq_some_iff_holds

end Payable

namespace Instantiation

def fields : List (RecordField Instantiation) := [
  .required "contract_name" name,
  .optional "fee_collection_address" feeCollector,
  .optional "fee_percent" feePercent,
  .optional "onboarding_cost" onboardingCost,
  .optional "onboarding_denom" onboardingDenom,
  .optional "is_local" isLocal]

theorem written (request : Instantiation) :
    ∃ members, toJson request = .object members ∧ Written request fields members := by
  refine ⟨_, rfl, ?_⟩
  exact .member (holds_required _ name) <| .member (holds_optional _ feeCollector) <|
    .member (holds_optional _ feePercent) <| .member (holds_optional _ onboardingCost) <|
    .member (holds_optional _ onboardingDenom) <| .member (holds_optional _ isLocal) .nil

theorem ofMembers?_eq_some_iff_holds (members : Members) (request : Instantiation) :
    ofMembers? members = some request ↔
      ∀ field ∈ fields, field.Holds request (members.named field.name) := by
  simp only [ofMembers?_eq_some_iff, required_eq_some_iff, optional_eq_some_iff, fields,
    List.forall_mem_cons, List.not_mem_nil, false_implies, implies_true, and_true, RecordField.name]

theorem readByName : ReadByName Instantiation fields :=
  .of_iff (by decide) written (fun _ => rfl) ofMembers?_eq_some_iff_holds

end Instantiation

namespace Migration

def fields : List (RecordField Migration) := [
  .optional "fee_collection_address" feeCollector,
  .optional "fee_percent" feePercent,
  .optional "is_local" isLocal,
  .optional "onboarding_cost" onboardingCost,
  .optional "onboarding_denom" onboardingDenom]

theorem written (request : Migration) :
    ∃ members, toJson request = .object members ∧ Written request fields members := by
  refine ⟨_, rfl, ?_⟩
  exact .member (holds_optional _ feeCollector) <| .member (holds_optional _ feePercent) <|
    .member (holds_optional _ isLocal) <| .member (holds_optional _ onboardingCost) <|
    .member (holds_optional _ onboardingDenom) .nil

theorem ofMembers?_eq_some_iff_holds (members : Members) (request : Migration) :
    ofMembers? members = some request ↔
      ∀ field ∈ fields, field.Holds request (members.named field.name) := by
  simp only [ofMembers?_eq_some_iff, optional_eq_some_iff, fields, List.forall_mem_cons,
    List.not_mem_nil, false_implies, implies_true, and_true, RecordField.name]

theorem readByName : ReadByName Migration fields :=
  .of_iff (by decide) written (fun _ => rfl) ofMembers?_eq_some_iff_holds

end Migration

/-- The members of a registration, in the order in which an execution has them. -/
def Registration.fields : List (RecordField Registration) := [
  .required "oracle_address" oracle,
  .required "payable_denom" denom,
  .required "payable_total" total,
  .required "payable_type" kind,
  .required "payable_uuid" uuid,
  .required "scope_id" scopeId]

theorem Registration.ofMembers?_eq_some_iff_holds (members : Members) (request : Registration) :
    ofMembers? members = some request ↔
      ∀ field ∈ fields, field.Holds request (members.named field.name) := by
  simp only [ofMembers?_eq_some_iff, required_eq_some_iff, fields, List.forall_mem_cons,
    List.not_mem_nil, false_implies, implies_true, and_true, RecordField.name]
  constructor
  · rintro ⟨kind, uuid, scopeId, oracle, denom, total⟩
    exact ⟨oracle, denom, total, kind, uuid, scopeId⟩
  · rintro ⟨oracle, denom, total, kind, uuid, scopeId⟩
    exact ⟨kind, uuid, scopeId, oracle, denom, total⟩

def Approval.fields : List (RecordField Approval) := [.required "payable_uuid" uuid]

theorem Approval.ofMembers?_eq_some_iff_holds (members : Members) (request : Approval) :
    ofMembers? members = some request ↔
      ∀ field ∈ fields, field.Holds request (members.named field.name) := by
  simp only [ofMembers?_eq_some_iff, required_eq_some_iff, fields, List.forall_mem_singleton,
    RecordField.name]

def Payment.fields : List (RecordField Payment) := [.required "payable_uuid" uuid]

theorem Payment.ofMembers?_eq_some_iff_holds (members : Members) (request : Payment) :
    ofMembers? members = some request ↔
      ∀ field ∈ fields, field.Holds request (members.named field.name) := by
  simp only [ofMembers?_eq_some_iff, required_eq_some_iff, fields, List.forall_mem_singleton,
    RecordField.name]

namespace Execution

def kinds : List (Kind Execution) := [
  ⟨"register_payable", .register, Registration.fields⟩,
  ⟨"oracle_approval", .approve, Approval.fields⟩,
  ⟨"make_payment", .pay, Payment.fields⟩]

theorem written (request : Execution) : ∃ kind ∈ kinds, ∃ b members, request = kind.make b ∧
    toJson request = .object [(kind.name, .object members)] ∧ Written b kind.fields members := by
  cases request with
  | register registration =>
    refine ⟨_, .head _, registration, _, rfl, rfl, ?_⟩
    exact .member (holds_required _ Registration.oracle) <|
      .member (holds_required _ Registration.denom) <|
      .member (holds_required _ Registration.total) <|
      .member (holds_required _ Registration.kind) <|
      .member (holds_required _ Registration.uuid) <|
      .member (holds_required _ Registration.scopeId) .nil
  | approve approval =>
    refine ⟨_, .tail _ (.head _), approval, _, rfl, rfl, ?_⟩
    exact .member (holds_required _ Approval.uuid) .nil
  | pay payment =>
    refine ⟨_, .tail _ (.tail _ (.head _)), payment, _, rfl, rfl, ?_⟩
    exact .member (holds_required _ Payment.uuid) .nil

theorem readByKind : ReadByKind Execution kinds := by
  apply ReadByKind.of_iff ofKind? (by decide) written (fun _ => rfl)
  refine List.forall_mem_cons.2 ⟨?_, List.forall_mem_cons.2 ⟨?_, List.forall_mem_singleton.2 ?_⟩⟩
  · exact Json.map_make_eq_some_iff Registration.ofMembers?_eq_some_iff_holds
  · exact Json.map_make_eq_some_iff Approval.ofMembers?_eq_some_iff_holds
  · exact Json.map_make_eq_some_iff Payment.ofMembers?_eq_some_iff_holds

end Execution

namespace Query

def kinds : List (Kind Query) := [
  ⟨"query_state", fun () => .state, []⟩,
  ⟨"query_payable_by_scope_id", .payableOfScope, [.required "scope_id" id]⟩,
  ⟨"query_payable_by_uuid", .payable, [.required "payable_uuid" id]⟩]

theorem written (request : Query) : ∃ kind ∈ kinds, ∃ b members, request = kind.make b ∧
    toJson request = .object [(kind.name, .object members)] ∧ Written b kind.fields members := by
  cases request with
  | state => exact ⟨_, .head _, (), [], rfl, rfl, .nil⟩
  | payableOfScope scopeId =>
    refine ⟨_, .tail _ (.head _), scopeId, _, rfl, rfl, ?_⟩
    exact .member (holds_required _ id) .nil
  | payable uuid =>
    refine ⟨_, .tail _ (.tail _ (.head _)), uuid, _, rfl, rfl, ?_⟩
    exact .member (holds_required _ id) .nil

theorem readByKind : ReadByKind Query kinds := by
  have single (name : String) (members : Members) (text : String) :
      members.required name String = some text ↔
        ∀ field ∈ [.required name id], RecordField.Holds text (members.named field.name) field := by
    rw [List.forall_mem_singleton]
    change members.required name String = some (id text) ↔ _
    exact required_eq_some_iff
  apply ReadByKind.of_iff ofKind? (by decide) written (fun _ => rfl)
  refine List.forall_mem_cons.2 ⟨?_, List.forall_mem_cons.2 ⟨?_, List.forall_mem_singleton.2 ?_⟩⟩
  · intro members request
    change some state = some request ↔ _
    simp [eq_comm]
  · exact Json.map_make_eq_some_iff (single "scope_id")
  · exact Json.map_make_eq_some_iff (single "payable_uuid")

end Query

/-- Every record and every request is read from any text that lists its members by their names: in
any order, with any blanks, with absent optional ones null or left out, and among members of any
other names, as long as no more than 127 levels are nested. Each of these is refused: a member that
has to be there is left out or null; a known member stands there twice or holds a number; an array
stands in the place of the object; a request of several kinds names a second one; or anything but
blanks follows. -/
theorem members_read_by_name :
    (ReadByName Instantiation Instantiation.fields ∧ ReadByName Migration Migration.fields ∧
      ReadByName Configuration Configuration.fields ∧ ReadByName Payable Payable.fields) ∧
      ReadByKind Execution Execution.kinds ∧ ReadByKind Query Query.kinds :=
  ⟨⟨Instantiation.readByName, Migration.readByName, Configuration.readByName, Payable.readByName⟩,
    Execution.readByKind, Query.readByKind⟩

/-- A migration that lists its members out of order, one of them null, with blanks between them and
a member of another name twice. -/
example : Json.decode? Migration " \x7b\"memo\" : [null, \x7b\x7d], \"is_local\":null ,
    \"fee_percent\": \"0.050\", \"memo\":\"\" \x7d " =
    some ⟨none, some ⟨50000000000000000, by decide⟩, none, none, none⟩ := by decide +kernel

end PayableLedger
