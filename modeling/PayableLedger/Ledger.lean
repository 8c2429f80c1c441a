import PayableLedger.Execution
import PayableLedger.Settings

set_option autoImplicit false

namespace PayableLedger

def faultyFields (checks : List (String × Bool)) : List String :=
  (checks.filter Prod.snd).map Prod.fst

def checkFields (checks : List (String × Bool)) : Except Error Unit :=
  match faultyFields checks with
  | [] => .ok ()
  | fields => .error (.invalidFields fields)

/-- A fee of more than the whole payment is refused. -/
def checkFeePercent : Option Decimal → Except Error Unit
  | none => .ok ()
  | some percent =>
    if Decimal.one.atomics < percent.atomics then .error (.invalidFeePercent percent) else .ok ()

def isUnreadableCost : Option String → Bool
  | none => false
  | some cost => match Amount.parse cost with
    | .ok _ => false
    | .error _ => true

def Instantiation.validate (request : Instantiation) : Except Error Unit := do
  checkFields [
    ("contract_name", request.name.isEmpty),
    ("fee_collection_address", request.feeCollector == some ""),
    ("onboarding_cost", isUnreadableCost request.onboardingCost),
    ("onboarding_denom", request.onboardingDenom == some "")]
  checkFeePercent request.feePercent
  match request.onboardingCost, request.onboardingDenom with
  | some cost, none => .error (.missingOnboardingDenom cost)
  | _, _ => .ok ()

def Migration.validate (request : Migration) : Except Error Unit := do
  checkFields [
    ("fee_collection_address", request.feeCollector == some ""),
    ("onboarding_cost", isUnreadableCost request.onboardingCost),
    ("onboarding_denom", request.onboardingDenom == some "")]
  checkFeePercent request.feePercent

def Execution.validate : Execution → Except Error Unit
  | .register registration => checkFields [
    ("oracle_address", registration.oracle.isEmpty),
    ("payable_denom", registration.denom.isEmpty),
    ("payable_type", registration.kind.isEmpty),
    ("payable_uuid", registration.uuid.isEmpty),
    ("scope_id", registration.scopeId.isEmpty)]
  | .approve approval => checkFields [("payable_uuid", approval.uuid.isEmpty)]
  | .pay payment => checkFields [("payable_uuid", payment.uuid.isEmpty)]

def Query.validate : Query → Except Error Unit
  | .state => .ok ()
  | .payableOfScope scopeId => checkFields [("scope_id", scopeId.isEmpty)]
  | .payable uuid => checkFields [("payable_uuid", uuid.isEmpty)]

namespace Query

/-- A scope without a payable is reported under its own identifier. -/
def payableOf (records : Records) (scopeId : String) : Except Error Payable := do
  match ← records.indexed? scopeId with
  | none => throw (.payableNotFound scopeId)
  | some uuid => records.payable uuid

def answer (records : Records) : Query → Except Error String
  | .state => return Json.encode (← records.configuration)
  | .payableOfScope scopeId => return Json.encode (← payableOf records scopeId)
  | .payable uuid => return Json.encode (← records.payable uuid)

end Query

/-- A request that fails its validation changes nothing. -/
def Store.whenValid (store : Store) (validation : Except Error Unit) (result : Result) : Result :=
  match validation with
  | .error cause => ⟨.error (.refused cause), store⟩
  | .ok () => result

namespace Ledger

def carryOutInstantiation (store : Store) (address : String) (call : Call)
    (request : Instantiation) : Result :=
  (request.procedure address call).perform store

def carryOutExecution (store : Store) (scopes : ScopeTable) (call : Call) : Execution → Result
  | .register registration => (registration.procedure scopes call).perform store
  | .approve approval => (approval.procedure call).perform store
  | .pay payment => (payment.procedure call).perform store

def carryOutMigration (store : Store) (request : Migration) : Result :=
  request.procedure.perform store

def carryOutQuery (store : Store) (request : Query) : Except Error String :=
  request.answer store.records

def instantiate (store : Store) (address : String) (call : Call) (request : Instantiation) :
    Result :=
  store.whenValid request.validate (carryOutInstantiation store address call request)

def execute (store : Store) (scopes : ScopeTable) (call : Call) (request : Execution) : Result :=
  store.whenValid request.validate (carryOutExecution store scopes call request)

def migrate (store : Store) (request : Migration) : Result :=
  store.whenValid request.validate (carryOutMigration store request)

def query (store : Store) (request : Query) : Except Error String := do
  request.validate
  carryOutQuery store request

end Ledger

end PayableLedger
