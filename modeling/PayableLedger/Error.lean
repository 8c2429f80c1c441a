import PayableLedger.Basic

set_option autoImplicit false

namespace PayableLedger

inductive Error
  /-- A JSON text does not have the form that is wanted. -/
  | unreadable
  | configurationMissing
  | stampMissing
  | blankScopeId
  | scopeNotFound
  | blankName
  | blankAddress
  | badDecimal (cause : Decimal.ParseError)
  | badAmount (cause : Amount.ParseError)
  | badVersion (cause : Version.ParseError)
  | unauthorized
  | fundsPresent
  | invalidFields (fields : List String)
  | invalidFeePercent (percent : Decimal)
  | missingOnboardingDenom (cost : String)
  | duplicatePayable (uuid : String)
  | duplicateRegistration (scopeId : String)
  | insufficientOnboardingFee (needed provided : Amount) (denom : String)
  | zeroTotal (uuid : String)
  | payableNotFound (uuid : String)
  | invalidTransition (uuid : String) (current target : PayableStatus)
  | alreadyPaid (uuid : String)
  | notApproved (uuid : String) (current : PayableStatus)
  | foreignDenoms (accepted : String) (denoms : List String)
  /-- The coins of a payment add up to no amount. -/
  | sumTooLarge (sum next : Amount)
  | zeroPayment (uuid : String)
  | overpayment (owed provided : Amount)
  | foreignContract (stored running : String)
  | newerVersion (stored running : String)
deriving DecidableEq

/-- What comes of a call that does not succeed. -/
inductive Failure
  | refused (cause : Error)
  /-- The arithmetic of a fee left the range of amounts, and the call ends without an answer. -/
  | aborted
deriving DecidableEq

private def generic (reason : String) : String := "Generic error: " ++ reason

private def invalidAmount (uuid reason : String) : String :=
  "Invalid amount for payable [" ++ uuid ++ "]: " ++ reason

def Error.message : Error → String
  | .unreadable => "Error parsing into type"
  | .configurationMissing => "payable_registry_contract::core::state::Configuration not found"
  | .stampMissing => "cw2::ContractVersion not found"
  | .blankScopeId => generic "scope_id must not be empty"
  | .scopeNotFound => generic "Querier contract error: scope not found"
  | .blankName => generic "name must not be empty"
  | .blankAddress => generic "address must not be empty"
  | .badDecimal cause => generic cause.message
  | .badAmount cause => "Integer parsing error: " ++ cause.message
  | .badVersion cause => "Semver parsing error: " ++ cause.message
  | .unauthorized => "Unauthorized"
  | .fundsPresent => "Funds were provided for an operation that does not require them"
  | .invalidFields fields => "Invalid fields: " ++ Text.quoteList fields
  | .invalidFeePercent percent =>
    "Fee percent [" ++ percent.percentText ++ "%] must not exceed 100%"
  | .missingOnboardingDenom cost =>
    "An onboarding cost of [" ++ cost ++ "] was provided without an onboarding denom"
  | .duplicatePayable uuid => "Payable with uuid [" ++ uuid ++ "] has already been registered"
  | .duplicateRegistration scopeId =>
    "Scope [" ++ scopeId ++ "] already has a payable registered to it"
  | .insufficientOnboardingFee needed provided denom =>
    "Onboarding fee must be exactly " ++ needed.toText ++ denom ++ ", but " ++ provided.toText
      ++ denom ++ " was provided"
  | .zeroTotal uuid => invalidAmount uuid "payable total must be greater than zero"
  | .payableNotFound uuid => "Unable to locate target payable [" ++ uuid ++ "]"
  | .invalidTransition uuid current target =>
    "Payable [" ++ uuid ++ "] cannot move from status [" ++ current.name ++ "] to ["
      ++ target.name ++ "]"
  | .alreadyPaid uuid => "Payable [" ++ uuid ++ "] has already been paid in full"
  | .notApproved uuid current =>
    "Payable [" ++ uuid ++ "] is not approved for payment. Current status: [" ++ current.name
      ++ "]"
  | .foreignDenoms accepted denoms =>
    "Invalid fund types provided: " ++ Text.quoteList denoms ++ ". Please provide coin of type "
      ++ accepted
  | .sumTooLarge sum next =>
    "Overflow: Cannot Add with " ++ sum.toText ++ " and " ++ next.toText
  | .zeroPayment uuid =>
    invalidAmount uuid "payment must include a non-zero amount of the payable denom"
  | .overpayment owed provided =>
    "Payment too large. Total owed [" ++ owed.toText ++ "], amount provided ["
      ++ provided.toText ++ "]"
  | .foreignContract stored running =>
    "Current contract name [" ++ stored ++ "] does not match provided migration name ["
      ++ running ++ "]"
  | .newerVersion stored running =>
    "Current contract version [" ++ stored ++ "] is higher than provided migration version ["
      ++ running ++ "]"

end PayableLedger
