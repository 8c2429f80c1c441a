import PayableLedger.Decimal
import PayableLedger.Version

set_option autoImplicit false

namespace PayableLedger

structure Coin where
  denom : String
  amount : Amount
deriving DecidableEq

/-- The coin as events show it: the amount, a slash and the denomination. -/
def Coin.toText (coin : Coin) : String := coin.amount.toText ++ "/" ++ coin.denom

/-- A fee is taken only with both a collector and a percentage, a charge for registering only with
both a cost and a denomination. A local ledger asks for neither scope ownership nor the charge. -/
structure Configuration where
  name : String
  feeCollector : Option String
  feePercent : Option Decimal
  isLocal : Bool
  onboardingCost : Option Amount
  onboardingDenom : Option String
deriving DecidableEq

/-- New values for some of the settings; what is absent stays as it is. -/
structure Overlay where
  feeCollector : Option String
  feePercent : Option Decimal
  isLocal : Option Bool
  onboardingCost : Option Amount
  onboardingDenom : Option String
deriving DecidableEq

namespace Configuration

/-- What a registration costs, unless it is free. -/
def onboardingCharge (config : Configuration) : Option Coin :=
  match config.onboardingCost, config.onboardingDenom with
  | some cost, some denom => if cost.isZero then none else some ⟨denom, cost⟩
  | _, _ => none

def overlay (config : Configuration) (change : Overlay) : Configuration where
  name := config.name
  feeCollector := change.feeCollector <|> config.feeCollector
  feePercent := change.feePercent <|> config.feePercent
  isLocal := change.isLocal.getD config.isLocal
  onboardingCost := change.onboardingCost <|> config.onboardingCost
  onboardingDenom := change.onboardingDenom <|> config.onboardingDenom

/-- The cost that no denomination goes with. -/
def unpairedCost? (config : Configuration) : Option Amount :=
  if config.onboardingDenom.isNone then config.onboardingCost else none

end Configuration

/-- Where a payable stands between its registration and its last payment. -/
inductive PayableStatus
  | pending
  | approved
  | rejected
  | partiallyPaid
  | paid
deriving DecidableEq

def PayableStatus.name : PayableStatus → String
  | .pending => "pending"
  | .approved => "approved"
  | .rejected => "rejected"
  | .partiallyPaid => "partially_paid"
  | .paid => "paid"

def PayableStatus.ofName? (name : String) : Option PayableStatus :=
  [pending, approved, rejected, partiallyPaid, paid].find? fun status => status.name == name

theorem PayableStatus.ofName?_name (status : PayableStatus) :
    ofName? status.name = some status := by
  cases status <;> rfl

/-- An amount that is owed for a scope, in one denomination. The oracle approves it, the payee
receives what is paid. -/
structure Payable where
  uuid : String
  scopeId : String
  oracle : String
  kind : String
  denom : String
  total : Amount
  remaining : Amount
  status : PayableStatus
  payee : String
deriving DecidableEq

/-- What the program that last wrote a storage leaves in it. The version is text, which need not be
a version. -/
structure Stamp where
  contract : String
  version : String
deriving DecidableEq

def Stamp.running : Stamp := ⟨"payable-registry-contract", "0.3.0"⟩

def Version.running : Version := Version.release 0 3 0

/-- Sets a ledger up. A cost arrives as text, and is read when the request is carried out. -/
structure Instantiation where
  name : String
  feeCollector : Option String
  feePercent : Option Decimal
  onboardingCost : Option String
  onboardingDenom : Option String
  isLocal : Option Bool
deriving DecidableEq

structure Registration where
  kind : String
  uuid : String
  scopeId : String
  oracle : String
  denom : String
  total : Amount
deriving DecidableEq

structure Approval where
  uuid : String
deriving DecidableEq

/-- Pays on a payable with the funds that come along. -/
structure Payment where
  uuid : String
deriving DecidableEq

inductive Execution
  | register (registration : Registration)
  | approve (approval : Approval)
  | pay (payment : Payment)
deriving DecidableEq

inductive Query
  | state
  | payableOfScope (scopeId : String)
  | payable (uuid : String)
deriving DecidableEq

/-- Changes some settings and brings the stored version up to the running one. -/
structure Migration where
  feeCollector : Option String
  feePercent : Option Decimal
  isLocal : Option Bool
  onboardingCost : Option String
  onboardingDenom : Option String
deriving DecidableEq

end PayableLedger
