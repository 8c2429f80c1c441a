import PayableLedger.Proofs.Json.Printing
import PayableLedger.Wire.Request

set_option autoImplicit false

namespace PayableLedger

open Json (Members LawfulScalar writable_text ofJson? toJson encode decode? decode?_encode_object)
open Json.Members (required_of_named optional_of_named)

instance : LawfulScalar Amount where
  writable a levels := writable_text a.toText levels
  ne_null _ := by rintro ⟨⟩
  ofJson?_toJson a := by
    change (Amount.parse a.toText).toOption = some a
    rw [Amount.parse_toText]
    rfl

instance : LawfulScalar Decimal where
  writable d levels := writable_text d.toText levels
  ne_null _ := by rintro ⟨⟩
  ofJson?_toJson d := by
    change (Decimal.parse d.toText).toOption = some d
    rw [Decimal.parse_toText]
    rfl

instance : LawfulScalar PayableStatus where
  writable status levels := writable_text status.name levels
  ne_null _ := by rintro ⟨⟩
  ofJson?_toJson status := PayableStatus.ofName?_name status

theorem Configuration.ofMembers?_eq_some_iff {members : Members} {config : Configuration} :
    Configuration.ofMembers? members = some config ↔
      members.required "contract_name" String = some config.name ∧
        members.optional "fee_collection_address" String = some config.feeCollector ∧
        members.optional "fee_percent" Decimal = some config.feePercent ∧
        members.required "is_local" Bool = some config.isLocal ∧
        members.optional "onboarding_cost" Amount = some config.onboardingCost ∧
        members.optional "onboarding_denom" String = some config.onboardingDenom := by
  simp only [Configuration.ofMembers?, Option.bind_eq_bind, Option.bind_eq_some_iff,
    Option.pure_def, Option.some.injEq]
  constructor
  · rintro ⟨_, name, _, feeCollector, _, feePercent, _, isLocal, _, cost, _, denom, rfl⟩
    exact ⟨name, feeCollector, feePercent, isLocal, cost, denom⟩
  · rintro ⟨name, feeCollector, feePercent, isLocal, cost, denom⟩
    exact ⟨_, name, _, feeCollector, _, feePercent, _, isLocal, _, cost, _, denom, rfl⟩

theorem Payable.ofMembers?_eq_some_iff {members : Members} {payable : Payable} :
    Payable.ofMembers? members = some payable ↔
      members.required "payable_uuid" String = some payable.uuid ∧
        members.required "scope_id" String = some payable.scopeId ∧
        members.required "oracle_address" String = some payable.oracle ∧
        members.required "payable_type" String = some payable.kind ∧
        members.required "payable_denom" String = some payable.denom ∧
        members.required "payable_total" Amount = some payable.total ∧
        members.required "payable_remaining" Amount = some payable.remaining ∧
        members.required "status" PayableStatus = some payable.status ∧
        members.required "payee_address" String = some payable.payee := by
  simp only [Payable.ofMembers?, Option.bind_eq_bind, Option.bind_eq_some_iff, Option.pure_def,
    Option.some.injEq]
  constructor
  · rintro ⟨_, uuid, _, scopeId, _, oracle, _, kind, _, denom, _, total, _, remaining, _, status,
      _, payee, rfl⟩
    exact ⟨uuid, scopeId, oracle, kind, denom, total, remaining, status, payee⟩
  · rintro ⟨uuid, scopeId, oracle, kind, denom, total, remaining, status, payee⟩
    exact ⟨_, uuid, _, scopeId, _, oracle, _, kind, _, denom, _, total, _, remaining, _, status,
      _, payee, rfl⟩

theorem Stamp.ofMembers?_eq_some_iff {members : Members} {stamp : Stamp} :
    Stamp.ofMembers? members = some stamp ↔
      members.required "contract" String = some stamp.contract ∧
        members.required "version" String = some stamp.version := by
  simp only [Stamp.ofMembers?, Option.bind_eq_bind, Option.bind_eq_some_iff, Option.pure_def,
    Option.some.injEq]
  constructor
  · rintro ⟨_, contract, _, version, rfl⟩
    exact ⟨contract, version⟩
  · rintro ⟨contract, version⟩
    exact ⟨_, contract, _, version, rfl⟩

theorem Configuration.decode?_encode (config : Configuration) :
    decode? Configuration (encode config) = some config := by
  apply decode?_encode_object Configuration.ofMembers? rfl (fun _ => rfl) (by simp)
  apply Configuration.ofMembers?_eq_some_iff.2
  exact ⟨required_of_named rfl, optional_of_named rfl,
    optional_of_named rfl, required_of_named rfl, optional_of_named rfl, optional_of_named rfl⟩

theorem Payable.decode?_encode (payable : Payable) :
    decode? Payable (encode payable) = some payable := by
  apply decode?_encode_object Payable.ofMembers? rfl (fun _ => rfl) (by simp)
  apply Payable.ofMembers?_eq_some_iff.2
  exact ⟨required_of_named rfl, required_of_named rfl,
    required_of_named rfl, required_of_named rfl, required_of_named rfl, required_of_named rfl,
    required_of_named rfl, required_of_named rfl, required_of_named rfl⟩

theorem PayableStatus.decode?_encode (status : PayableStatus) :
    decode? PayableStatus (encode status) = some status :=
  Json.decode?_encode (writable_text status.name Json.maxLevels) trivial
    (Json.ofJson?_toJson status)

theorem Stamp.decode?_encode (stamp : Stamp) : decode? Stamp (encode stamp) = some stamp := by
  apply decode?_encode_object Stamp.ofMembers? rfl (fun _ => rfl) (by simp)
  apply Stamp.ofMembers?_eq_some_iff.2
  exact ⟨required_of_named rfl, required_of_named rfl⟩

/-- An entry of the scope index is a text by itself. -/
theorem decode?_encode_text (text : String) : decode? String (encode text) = some text :=
  Json.decode?_encode (writable_text text Json.maxLevels) trivial rfl

end PayableLedger
