import PayableLedger.Procedure

set_option autoImplicit false

namespace PayableLedger

def readCost : Option String → Except Error (Option Amount)
  | none => .ok none
  | some cost => match Amount.parse cost with
    | .ok amount => .ok (some amount)
    | .error cause => .error (.badAmount cause)

namespace Instantiation

/-- A ledger is local only if that is asked for. -/
def configuration (request : Instantiation) : Except Error Configuration := do
  return {
    name := request.name
    feeCollector := request.feeCollector
    feePercent := request.feePercent
    isLocal := request.isLocal.getD false
    onboardingCost := ← readCost request.onboardingCost
    onboardingDenom := request.onboardingDenom }

/-- Neither the name nor the address to bind it to may be blank. -/
def bindName (name address : String) : Except Error Message :=
  if Text.isBlank name then .error .blankName
  else if Text.isBlank address then .error .blankAddress
  else .ok (.bindName name address)

def response (bound : Message) : Response := ⟨[bound], [⟨"action", "init"⟩]⟩

/-- The settings are stored before the name is bound, and stay if the binding is refused. -/
def carryOut (request : Instantiation) (address : String) (call : Call) : Outcome :=
  if !call.funds.isEmpty then ⟨[], .error (.refused .fundsPresent)⟩
  else match request.configuration with
    | .error cause => ⟨[], .error (.refused cause)⟩
    | .ok config => match bindName request.name address with
      | .error cause => ⟨[.configuration config], .error (.refused cause)⟩
      | .ok bound => ⟨[.configuration config, .stamp .running], .ok (response bound)⟩

def procedure (request : Instantiation) (address : String) (call : Call) :
    Procedure Response := do
  if !call.funds.isEmpty then
    throw (.refused .fundsPresent)
  let config ← request.configuration
  Procedure.write (.configuration config)
  let bound ← bindName request.name address
  let _ ← Procedure.stampRunning
  return response bound

end Instantiation

/-- The name has to be the running program's, and the version none above the running one. -/
def Stamp.checkMigration (stamp : Stamp) : Except Error Unit :=
  if stamp.contract ≠ Stamp.running.contract then
    .error (.foreignContract stamp.contract Stamp.running.contract)
  else match Version.parse stamp.version with
    | .error cause => .error (.badVersion cause)
    | .ok version =>
      if version.isAbove .running then
        .error (.newerVersion stamp.version Stamp.running.version)
      else .ok ()

theorem Version.parse_running : Version.parse Stamp.running.version = .ok .running := rfl

/-- The attributes of the fields that change, in the order of the fields. -/
def Overlay.attributes (change : Overlay) : List Attribute :=
  [ change.feeCollector.map (.changed "fee_collection_address"),
    change.feePercent.map fun percent => .changed "fee_percent" percent.toText,
    change.isLocal.map fun isLocal => .changed "is_local" (if isLocal then "true" else "false"),
    change.onboardingCost.map fun cost => .changed "onboarding_cost" cost.toText,
    change.onboardingDenom.map (.changed "onboarding_denom")].filterMap id

namespace Migration

def toOverlay (request : Migration) : Except Error Overlay := do
  return {
    feeCollector := request.feeCollector
    feePercent := request.feePercent
    isLocal := request.isLocal
    onboardingCost := ← readCost request.onboardingCost
    onboardingDenom := request.onboardingDenom }

/-- A cost is of no use without a denomination to charge it in. -/
def checkPaired (config : Configuration) : Except Error Unit :=
  match config.unpairedCost? with
  | some cost => .error (.missingOnboardingDenom cost.toText)
  | none => .ok ()

def response (stamp : Stamp) (change : Overlay) : Response :=
  ⟨[], .contractName stamp.contract :: .contractVersion stamp.version :: change.attributes⟩

def decide (request : Migration) (records : Records) :
    Except Failure (List Change × Response) := do
  (← records.stamp).checkMigration
  let change ← request.toOverlay
  let config := (← records.configuration).overlay change
  checkPaired config
  return ([.configuration config, .stamp .running], response .running change)

def carryOut (request : Migration) (records : Records) : Outcome :=
  .atomic (request.decide records)

/-- The steps of a migration; it answers with the stamp as it is read back. -/
def procedure (request : Migration) : Procedure Response := do
  let records ← Procedure.records
  (← records.stamp).checkMigration
  let change ← request.toOverlay
  let config := (← records.configuration).overlay change
  checkPaired config
  Procedure.write (.configuration config)
  let stamp ← Procedure.stampRunning
  return response stamp change

end Migration

end PayableLedger
