import PayableLedger.Json.Value
import PayableLedger.Basic

set_option autoImplicit false

namespace PayableLedger

open Json (Members Coded Value ofObject? ofOption toJson ofJson?)

instance : Coded Amount where
  toJson a := .text a.toText
  ofJson?
    | .text chars => (Amount.parse chars).toOption
    | _ => none

instance : Coded Decimal where
  toJson d := .text d.toText
  ofJson?
    | .text chars => (Decimal.parse chars).toOption
    | _ => none

instance : Coded PayableStatus where
  toJson status := .text status.name
  ofJson?
    | .text chars => PayableStatus.ofName? chars
    | _ => none

def Configuration.ofMembers? (members : Members) : Option Configuration := do
  return {
    name := ← members.required "contract_name" String
    feeCollector := ← members.optional "fee_collection_address" String
    feePercent := ← members.optional "fee_percent" Decimal
    isLocal := ← members.required "is_local" Bool
    onboardingCost := ← members.optional "onboarding_cost" Amount
    onboardingDenom := ← members.optional "onboarding_denom" String }

instance : Coded Configuration where
  toJson config := .object [
    ("contract_name", toJson config.name),
    ("fee_collection_address", ofOption config.feeCollector),
    ("fee_percent", ofOption config.feePercent),
    ("is_local", toJson config.isLocal),
    ("onboarding_cost", ofOption config.onboardingCost),
    ("onboarding_denom", ofOption config.onboardingDenom)]
  ofJson? := ofObject? Configuration.ofMembers?

def Payable.ofMembers? (members : Members) : Option Payable := do
  return {
    uuid := ← members.required "payable_uuid" String
    scopeId := ← members.required "scope_id" String
    oracle := ← members.required "oracle_address" String
    kind := ← members.required "payable_type" String
    denom := ← members.required "payable_denom" String
    total := ← members.required "payable_total" Amount
    remaining := ← members.required "payable_remaining" Amount
    status := ← members.required "status" PayableStatus
    payee := ← members.required "payee_address" String }

instance : Coded Payable where
  toJson payable := .object [
    ("payable_uuid", toJson payable.uuid),
    ("scope_id", toJson payable.scopeId),
    ("oracle_address", toJson payable.oracle),
    ("payable_type", toJson payable.kind),
    ("payable_denom", toJson payable.denom),
    ("payable_total", toJson payable.total),
    ("payable_remaining", toJson payable.remaining),
    ("status", toJson payable.status),
    ("payee_address", toJson payable.payee)]
  ofJson? := ofObject? Payable.ofMembers?

def Stamp.ofMembers? (members : Members) : Option Stamp := do
  return {
    contract := ← members.required "contract" String
    version := ← members.required "version" String }

instance : Coded Stamp where
  toJson stamp := .object [("contract", toJson stamp.contract), ("version", toJson stamp.version)]
  ofJson? := ofObject? Stamp.ofMembers?

def Instantiation.ofMembers? (members : Members) : Option Instantiation := do
  return {
    name := ← members.required "contract_name" String
    feeCollector := ← members.optional "fee_collection_address" String
    feePercent := ← members.optional "fee_percent" Decimal
    onboardingCost := ← members.optional "onboarding_cost" String
    onboardingDenom := ← members.optional "onboarding_denom" String
    isLocal := ← members.optional "is_local" Bool }

instance : Coded Instantiation where
  toJson request := .object [
    ("contract_name", toJson request.name),
    ("fee_collection_address", ofOption request.feeCollector),
    ("fee_percent", ofOption request.feePercent),
    ("onboarding_cost", ofOption request.onboardingCost),
    ("onboarding_denom", ofOption request.onboardingDenom),
    ("is_local", ofOption request.isLocal)]
  ofJson? := ofObject? Instantiation.ofMembers?

def Migration.ofMembers? (members : Members) : Option Migration := do
  return {
    feeCollector := ← members.optional "fee_collection_address" String
    feePercent := ← members.optional "fee_percent" Decimal
    isLocal := ← members.optional "is_local" Bool
    onboardingCost := ← members.optional "onboarding_cost" String
    onboardingDenom := ← members.optional "onboarding_denom" String }

instance : Coded Migration where
  toJson request := .object [
    ("fee_collection_address", ofOption request.feeCollector),
    ("fee_percent", ofOption request.feePercent),
    ("is_local", ofOption request.isLocal),
    ("onboarding_cost", ofOption request.onboardingCost),
    ("onboarding_denom", ofOption request.onboardingDenom)]
  ofJson? := ofObject? Migration.ofMembers?

def Registration.ofMembers? (members : Members) : Option Registration := do
  return {
    kind := ← members.required "payable_type" String
    uuid := ← members.required "payable_uuid" String
    scopeId := ← members.required "scope_id" String
    oracle := ← members.required "oracle_address" String
    denom := ← members.required "payable_denom" String
    total := ← members.required "payable_total" Amount }

instance : Coded Registration where
  toJson request := .object [
    ("payable_type", toJson request.kind),
    ("payable_uuid", toJson request.uuid),
    ("scope_id", toJson request.scopeId),
    ("oracle_address", toJson request.oracle),
    ("payable_denom", toJson request.denom),
    ("payable_total", toJson request.total)]
  ofJson? := ofObject? Registration.ofMembers?

/-- A registration as an execution holds it: the same members in alphabetical order. -/
def Registration.toExecutionJson (request : Registration) : Value := .object [
  ("oracle_address", toJson request.oracle),
  ("payable_denom", toJson request.denom),
  ("payable_total", toJson request.total),
  ("payable_type", toJson request.kind),
  ("payable_uuid", toJson request.uuid),
  ("scope_id", toJson request.scopeId)]

def Approval.ofMembers? (members : Members) : Option Approval := do
  return { uuid := ← members.required "payable_uuid" String }

instance : Coded Approval where
  toJson request := .object [("payable_uuid", toJson request.uuid)]
  ofJson? := ofObject? Approval.ofMembers?

def Payment.ofMembers? (members : Members) : Option Payment := do
  return { uuid := ← members.required "payable_uuid" String }

instance : Coded Payment where
  toJson request := .object [("payable_uuid", toJson request.uuid)]
  ofJson? := ofObject? Payment.ofMembers?

def Execution.ofKind? (kind : String) (members : Members) : Option Execution :=
  if kind = "register_payable" then (Registration.ofMembers? members).map .register
  else if kind = "oracle_approval" then (Approval.ofMembers? members).map .approve
  else if kind = "make_payment" then (Payment.ofMembers? members).map .pay
  else none

instance : Coded Execution where
  toJson
    | .register registration => .object [("register_payable", registration.toExecutionJson)]
    | .approve approval => .object [("oracle_approval", toJson approval)]
    | .pay payment => .object [("make_payment", toJson payment)]
  ofJson?
    | .object [(kind, .object members)] => Execution.ofKind? kind members
    | _ => none

def Query.ofKind? (kind : String) (members : Members) : Option Query :=
  if kind = "query_state" then some .state
  else if kind = "query_payable_by_scope_id" then
    (members.required "scope_id" String).map .payableOfScope
  else if kind = "query_payable_by_uuid" then
    (members.required "payable_uuid" String).map .payable
  else none

instance : Coded Query where
  toJson
    | .state => .object [("query_state", .object [])]
    | .payableOfScope scopeId =>
      .object [("query_payable_by_scope_id", .object [("scope_id", toJson scopeId)])]
    | .payable uuid => .object [("query_payable_by_uuid", .object [("payable_uuid", toJson uuid)])]
  ofJson?
    | .object [(kind, .object members)] => Query.ofKind? kind members
    | _ => none

end PayableLedger
