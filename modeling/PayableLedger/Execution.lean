import PayableLedger.Fee
import PayableLedger.Procedure

set_option autoImplicit false

namespace PayableLedger

namespace Registration

/-- The payable as it is registered: nothing of it is paid. -/
def toPayable (request : Registration) (payee : String) : Payable where
  uuid := request.uuid
  scopeId := request.scopeId
  oracle := request.oracle
  kind := request.kind
  denom := request.denom
  total := request.total
  remaining := request.total
  status := .pending
  payee := payee

def attributes (request : Registration) : List Attribute := [
  .registered request.uuid,
  .kind request.kind,
  .uuid request.uuid,
  .oracle request.oracle,
  .totalOwed request.total,
  .denom request.denom,
  .scopeId request.scopeId,
  .status PayableStatus.pending.name]

def response (request : Registration) : Option OnboardingFee → Response
  | none => ⟨[], request.attributes⟩
  | some fee => ⟨[fee.transfer], fee.notice :: request.attributes⟩

/-- What the rules say, in the order in which they are asked. -/
def accept (request : Registration) (records : Records) (scopes : ScopeTable) (call : Call) :
    Except Error (Option OnboardingFee) := do
  if request.total.isZero then
    throw (.zeroTotal request.uuid)
  if (← records.payable? request.uuid).isSome then
    throw (.duplicatePayable request.uuid)
  if (← records.indexed? request.scopeId).isSome then
    throw (.duplicateRegistration request.scopeId)
  let config ← records.configuration
  if !config.isLocal then
    scopes.verifyOwner request.scopeId call.sender
  config.onboard call

def decide (request : Registration) (records : Records) (scopes : ScopeTable) (call : Call) :
    Except Failure (List Change × Response) := do
  let fee ← request.accept records scopes call
  return ([.payable (request.toPayable call.sender), .indexed request.scopeId request.uuid],
    request.response fee)

def carryOut (request : Registration) (records : Records) (scopes : ScopeTable) (call : Call) :
    Outcome :=
  .atomic (request.decide records scopes call)

/-- The steps of a registration; the payable is stored before its scope is indexed. -/
def procedure (request : Registration) (scopes : ScopeTable) (call : Call) :
    Procedure Response := do
  let fee ← request.accept (← Procedure.records) scopes call
  Procedure.write (.payable (request.toPayable call.sender))
  Procedure.write (.indexed request.scopeId request.uuid)
  return request.response fee

end Registration

namespace Approval

def attributes (payable : Payable) : List Attribute := [
  .approved payable.uuid,
  .kind payable.kind,
  .uuid payable.uuid,
  .oracle payable.oracle,
  .status payable.status.name]

def approve (payable : Payable) (sender : String) : Except Error Payable :=
  if sender ≠ payable.oracle then .error .unauthorized
  else if payable.status ≠ .pending then
    .error (.invalidTransition payable.uuid payable.status .approved)
  else .ok { payable with status := .approved }

def decide (request : Approval) (records : Records) (call : Call) :
    Except Failure (List Change × Response) := do
  if !call.funds.isEmpty then
    throw (.refused .fundsPresent)
  let payable ← records.payable request.uuid
  let approved ← approve payable call.sender
  return ([.payable approved], ⟨[], attributes approved⟩)

def carryOut (request : Approval) (records : Records) (call : Call) : Outcome :=
  .atomic (request.decide records call)

def procedure (request : Approval) (call : Call) : Procedure Response := do
  if !call.funds.isEmpty then
    throw (.refused .fundsPresent)
  let payable ← (← Procedure.records).payable request.uuid
  let approved ← approve payable call.sender
  Procedure.write (.payable approved)
  return ⟨[], attributes approved⟩

end Approval

namespace Payment

/-- Payments are taken between the approval and the last payment. -/
def checkStatus (payable : Payable) : Except Error Unit :=
  match payable.status with
  | .approved => .ok ()
  | .partiallyPaid => .ok ()
  | .paid => .error (.alreadyPaid payable.uuid)
  | .pending => .error (.notApproved payable.uuid payable.status)
  | .rejected => .error (.notApproved payable.uuid payable.status)

/-- The denominations of the coins that are not of the one accepted. -/
def foreignDenoms (accepted : String) (funds : List Coin) : List String :=
  (funds.map Coin.denom).filter (· != accepted)

def addCoins (sum : Amount) : List Coin → Except Error Amount
  | [] => .ok sum
  | coin :: rest =>
    match sum.add? coin.amount with
    | none => .error (.sumTooLarge sum coin.amount)
    | some next => addCoins next rest

def amountOf (payable : Payable) (funds : List Coin) : Except Error Amount := do
  checkStatus payable
  let foreign := foreignDenoms payable.denom funds
  if !foreign.isEmpty then
    throw (.foreignDenoms payable.denom foreign)
  let amount ← addCoins .zero funds
  if amount.isZero then
    throw (.zeroPayment payable.uuid)
  if payable.remaining.units < amount.units then
    throw (.overpayment payable.remaining amount)
  return amount

def afterPayment (payable : Payable) (amount : Amount) : Payable :=
  let remaining := payable.remaining.minus amount
  { payable with
    remaining := remaining
    status := if remaining.isZero then .paid else .partiallyPaid }

/-- A coin is sent only if there is something to send. -/
def sendNonzero (recipient denom : String) (amount : Amount) : List Message :=
  if amount.isZero then [] else [.send recipient ⟨denom, amount⟩]

/-- The net amount goes to the payee, and then the fee to the collector. -/
def messages (payable : Payable) (division : FeeSplit) : List Message :=
  sendNonzero payable.payee payable.denom division.net ++
    match division.collector with
    | none => []
    | some collector => sendNonzero collector payable.denom division.fee

/-- The payable is shown as the payment leaves it. -/
def attributes (payable : Payable) (amount : Amount) (division : FeeSplit) (payer : String) :
    List Attribute := [
  .paymentMade payable.uuid,
  .kind payable.kind,
  .uuid payable.uuid,
  .oracle payable.oracle,
  .amountPaid amount,
  .feeAmount division.fee,
  .netAmount division.net,
  .totalRemaining payable.remaining,
  .status payable.status.name,
  .payer payer,
  .payee payable.payee]

def decide (request : Payment) (records : Records) (call : Call) :
    Except Failure (List Change × Response) := do
  let config ← records.configuration
  let payable ← records.payable request.uuid
  let amount ← amountOf payable call.funds
  let division ← config.splitFee amount
  let paid := afterPayment payable amount
  return ([.payable paid], ⟨messages paid division, attributes paid amount division call.sender⟩)

def carryOut (request : Payment) (records : Records) (call : Call) : Outcome :=
  .atomic (request.decide records call)

/-- The steps of a payment. The fee is divided off before anything is stored, so that a fee out of
range leaves no trace. -/
def procedure (request : Payment) (call : Call) : Procedure Response := do
  let records ← Procedure.records
  let config ← records.configuration
  let payable ← records.payable request.uuid
  let amount ← amountOf payable call.funds
  let division ← config.splitFee amount
  let paid := afterPayment payable amount
  Procedure.write (.payable paid)
  return ⟨messages paid division, attributes paid amount division call.sender⟩

end Payment

end PayableLedger
