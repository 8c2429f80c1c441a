import PayableLedger.Proofs.Wire.RoundTrip

set_option autoImplicit false

namespace PayableLedger

open Json (Coded Members encode decode? decode?_encode_object decode?_encode_kind)
open Json.Members (required_of_named optional_of_named)

variable {members : Members}

theorem Instantiation.ofMembers?_eq_some_iff {request : Instantiation} :
    Instantiation.ofMembers? members = some request ↔
      members.required "contract_name" String = some request.name ∧
        members.optional "fee_collection_address" String = some request.feeCollector ∧
        members.optional "fee_percent" Decimal = some request.feePercent ∧
        members.optional "onboarding_cost" String = some request.onboardingCost ∧
        members.optional "onboarding_denom" String = some request.onboardingDenom ∧
        members.optional "is_local" Bool = some request.isLocal := by
  simp only [Instantiation.ofMembers?, Option.bind_eq_bind, Option.bind_eq_some_iff,
    Option.pure_def, Option.some.injEq]
  constructor
  · rintro ⟨_, name, _, feeCollector, _, feePercent, _, cost, _, denom, _, isLocal, rfl⟩
    exact ⟨name, feeCollector, feePercent, cost, denom, isLocal⟩
  · rintro ⟨name, feeCollector, feePercent, cost, denom, isLocal⟩
    exact ⟨_, name, _, feeCollector, _, feePercent, _, cost, _, denom, _, isLocal, rfl⟩

theorem Migration.ofMembers?_eq_some_iff {request : Migration} :
    Migration.ofMembers? members = some request ↔
      members.optional "fee_collection_address" String = some request.feeCollector ∧
        members.optional "fee_percent" Decimal = some request.feePercent ∧
        members.optional "is_local" Bool = some request.isLocal ∧
        members.optional "onboarding_cost" String = some request.onboardingCost ∧
        members.optional "onboarding_denom" String = some request.onboardingDenom := by
  simp only [Migration.ofMembers?, Option.bind_eq_bind, Option.bind_eq_some_iff, Option.pure_def,
    Option.some.injEq]
  constructor
  · rintro ⟨_, feeCollector, _, feePercent, _, isLocal, _, cost, _, denom, rfl⟩
    exact ⟨feeCollector, feePercent, isLocal, cost, denom⟩
  · rintro ⟨feeCollector, feePercent, isLocal, cost, denom⟩
    exact ⟨_, feeCollector, _, feePercent, _, isLocal, _, cost, _, denom, rfl⟩

theorem Registration.ofMembers?_eq_some_iff {request : Registration} :
    Registration.ofMembers? members = some request ↔
      members.required "payable_type" String = some request.kind ∧
        members.required "payable_uuid" String = some request.uuid ∧
        members.required "scope_id" String = some request.scopeId ∧
        members.required "oracle_address" String = some request.oracle ∧
        members.required "payable_denom" String = some request.denom ∧
        members.required "payable_total" Amount = some request.total := by
  simp only [Registration.ofMembers?, Option.bind_eq_bind, Option.bind_eq_some_iff,
    Option.pure_def, Option.some.injEq]
  constructor
  · rintro ⟨_, kind, _, uuid, _, scopeId, _, oracle, _, denom, _, total, rfl⟩
    exact ⟨kind, uuid, scopeId, oracle, denom, total⟩
  · rintro ⟨kind, uuid, scopeId, oracle, denom, total⟩
    exact ⟨_, kind, _, uuid, _, scopeId, _, oracle, _, denom, _, total, rfl⟩

theorem Approval.ofMembers?_eq_some_iff {request : Approval} :
    Approval.ofMembers? members = some request ↔
      members.required "payable_uuid" String = some request.uuid := by
  simp only [Approval.ofMembers?, Option.bind_eq_bind, Option.bind_eq_some_iff, Option.pure_def,
    Option.some.injEq]
  constructor
  · rintro ⟨_, uuid, rfl⟩
    exact uuid
  · intro uuid
    exact ⟨_, uuid, rfl⟩

theorem Payment.ofMembers?_eq_some_iff {request : Payment} :
    Payment.ofMembers? members = some request ↔
      members.required "payable_uuid" String = some request.uuid := by
  simp only [Payment.ofMembers?, Option.bind_eq_bind, Option.bind_eq_some_iff, Option.pure_def,
    Option.some.injEq]
  constructor
  · rintro ⟨_, uuid, rfl⟩
    exact uuid
  · intro uuid
    exact ⟨_, uuid, rfl⟩

theorem Execution.ofKind?_register : Execution.ofKind? "register_payable" members =
    (Registration.ofMembers? members).map .register := rfl

theorem Execution.ofKind?_approve : Execution.ofKind? "oracle_approval" members =
    (Approval.ofMembers? members).map .approve := rfl

theorem Execution.ofKind?_pay : Execution.ofKind? "make_payment" members =
    (Payment.ofMembers? members).map .pay := rfl

theorem Query.ofKind?_state : Query.ofKind? "query_state" members = some .state := rfl

theorem Query.ofKind?_payableOfScope : Query.ofKind? "query_payable_by_scope_id" members =
    (members.required "scope_id" String).map .payableOfScope := rfl

theorem Query.ofKind?_payable : Query.ofKind? "query_payable_by_uuid" members =
    (members.required "payable_uuid" String).map .payable := rfl

theorem Instantiation.decode?_encode (request : Instantiation) :
    decode? Instantiation (encode request) = some request := by
  apply decode?_encode_object Instantiation.ofMembers? rfl (fun _ => rfl) (by simp)
  apply Instantiation.ofMembers?_eq_some_iff.2
  exact ⟨required_of_named rfl, optional_of_named rfl, optional_of_named rfl,
    optional_of_named rfl, optional_of_named rfl, optional_of_named rfl⟩

theorem Migration.decode?_encode (request : Migration) :
    decode? Migration (encode request) = some request := by
  apply decode?_encode_object Migration.ofMembers? rfl (fun _ => rfl) (by simp)
  apply Migration.ofMembers?_eq_some_iff.2
  exact ⟨optional_of_named rfl, optional_of_named rfl, optional_of_named rfl,
    optional_of_named rfl, optional_of_named rfl⟩

theorem Registration.decode?_encode (request : Registration) :
    decode? Registration (encode request) = some request := by
  apply decode?_encode_object Registration.ofMembers? rfl (fun _ => rfl) (by simp)
  apply Registration.ofMembers?_eq_some_iff.2
  exact ⟨required_of_named rfl, required_of_named rfl, required_of_named rfl,
    required_of_named rfl, required_of_named rfl, required_of_named rfl⟩

theorem Approval.decode?_encode (request : Approval) :
    decode? Approval (encode request) = some request := by
  apply decode?_encode_object Approval.ofMembers? rfl (fun _ => rfl) (by simp)
  exact Approval.ofMembers?_eq_some_iff.2 (required_of_named rfl)

theorem Payment.decode?_encode (request : Payment) :
    decode? Payment (encode request) = some request := by
  apply decode?_encode_object Payment.ofMembers? rfl (fun _ => rfl) (by simp)
  exact Payment.ofMembers?_eq_some_iff.2 (required_of_named rfl)

theorem Execution.decode?_encode (request : Execution) :
    decode? Execution (encode request) = some request := by
  cases request with
  | register registration =>
    apply decode?_encode_kind Execution.ofKind? rfl (fun _ _ => rfl) (by simp)
    rw [ofKind?_register, Option.map_eq_some_iff]
    refine ⟨registration, ?_, rfl⟩
    apply Registration.ofMembers?_eq_some_iff.2
    exact ⟨required_of_named rfl, required_of_named rfl, required_of_named rfl,
      required_of_named rfl, required_of_named rfl, required_of_named rfl⟩
  | approve approval =>
    apply decode?_encode_kind Execution.ofKind? rfl (fun _ _ => rfl) (by simp)
    rw [ofKind?_approve, Option.map_eq_some_iff]
    exact ⟨approval, Approval.ofMembers?_eq_some_iff.2 (required_of_named rfl), rfl⟩
  | pay payment =>
    apply decode?_encode_kind Execution.ofKind? rfl (fun _ _ => rfl) (by simp)
    rw [ofKind?_pay, Option.map_eq_some_iff]
    exact ⟨payment, Payment.ofMembers?_eq_some_iff.2 (required_of_named rfl), rfl⟩

theorem Query.decode?_encode (request : Query) :
    decode? Query (encode request) = some request := by
  cases request with
  | state =>
    exact decode?_encode_kind Query.ofKind? rfl (fun _ _ => rfl) (by simp) ofKind?_state
  | payableOfScope scopeId =>
    apply decode?_encode_kind Query.ofKind? rfl (fun _ _ => rfl) (by simp)
    rw [ofKind?_payableOfScope, Option.map_eq_some_iff]
    exact ⟨scopeId, required_of_named rfl, rfl⟩
  | payable uuid =>
    apply decode?_encode_kind Query.ofKind? rfl (fun _ _ => rfl) (by simp)
    rw [ofKind?_payable, Option.map_eq_some_iff]
    exact ⟨uuid, required_of_named rfl, rfl⟩

namespace Json

variable {α : Type} [Coded α]

def reencode? (α : Type) [Coded α] (text : String) : Option String := (decode? α text).map encode

/-- A type survives its encoding: each value is decoded as it was encoded, and what has been encoded
again once stays as it is. -/
structure Survives (α : Type) [Coded α] : Prop where
  decode?_encode (a : α) : decode? α (encode a) = some a
  reencode?_reencode? {text written : String} (again : reencode? α text = some written) :
    reencode? α written = some written

theorem Survives.of_decode?_encode (back : ∀ a : α, decode? α (encode a) = some a) :
    Survives α := by
  refine ⟨back, ?_⟩
  intro text written again
  obtain ⟨a, _, rfl⟩ := Option.map_eq_some_iff.1 again
  rw [reencode?, back a, Option.map_some]

end Json

/-- What is stored and what is asked survives its JSON text, whatever characters, amounts and
decimals are in it and whichever of its optional members are there. -/
theorem json_text_faithful :
    (Json.Survives Configuration ∧ Json.Survives Payable ∧ Json.Survives PayableStatus) ∧
      (Json.Survives Instantiation ∧ Json.Survives Execution ∧ Json.Survives Query ∧
        Json.Survives Migration) ∧
      Json.Survives Registration ∧ Json.Survives Approval ∧ Json.Survives Payment := by
  refine ⟨⟨?_, ?_, ?_⟩, ⟨?_, ?_, ?_, ?_⟩, ?_, ?_, ?_⟩
  · exact .of_decode?_encode Configuration.decode?_encode
  · exact .of_decode?_encode Payable.decode?_encode
  · exact .of_decode?_encode PayableStatus.decode?_encode
  · exact .of_decode?_encode Instantiation.decode?_encode
  · exact .of_decode?_encode Execution.decode?_encode
  · exact .of_decode?_encode Query.decode?_encode
  · exact .of_decode?_encode Migration.decode?_encode
  · exact .of_decode?_encode Registration.decode?_encode
  · exact .of_decode?_encode Approval.decode?_encode
  · exact .of_decode?_encode Payment.decode?_encode

end PayableLedger
