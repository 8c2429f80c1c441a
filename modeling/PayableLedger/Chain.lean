import PayableLedger.Error

set_option autoImplicit false

namespace PayableLedger

/-- Who calls, and the coins that come along, in their order. -/
structure Call where
  sender : String
  funds : List Coin
deriving DecidableEq

inductive Message
  | send (recipient : String) (coin : Coin)
  /-- The name becomes the address's own. -/
  | bindName (name address : String)
deriving DecidableEq

structure Attribute where
  key : String
  value : String
deriving DecidableEq

structure Response where
  messages : List Message
  attributes : List Attribute
deriving DecidableEq

namespace Attribute

def registered (uuid : String) : Attribute := ⟨"payable_registered", uuid⟩
def approved (uuid : String) : Attribute := ⟨"payable_oracle_approved", uuid⟩
def paymentMade (uuid : String) : Attribute := ⟨"payable_payment_made", uuid⟩
def uuid (uuid : String) : Attribute := ⟨"payable_uuid", uuid⟩
def kind (kind : String) : Attribute := ⟨"payable_type", kind⟩
def oracle (address : String) : Attribute := ⟨"payable_oracle_address", address⟩
def status (name : String) : Attribute := ⟨"payable_status", name⟩
def scopeId (scopeId : String) : Attribute := ⟨"payable_related_scope_id", scopeId⟩
def denom (denom : String) : Attribute := ⟨"payable_denom", denom⟩
def totalOwed (total : Amount) : Attribute := ⟨"payable_total_owed", total.toText⟩
def onboardingFeeCollected (fee : Coin) : Attribute :=
  ⟨"payable_onboarding_fee_collected", fee.toText⟩
def onboardingFeeRefunded (fee : Coin) : Attribute :=
  ⟨"payable_onboarding_fee_refunded", fee.toText⟩
def amountPaid (amount : Amount) : Attribute := ⟨"payable_amount_paid", amount.toText⟩
def feeAmount (amount : Amount) : Attribute := ⟨"payable_fee_amount", amount.toText⟩
def netAmount (amount : Amount) : Attribute := ⟨"payable_net_amount", amount.toText⟩
def totalRemaining (amount : Amount) : Attribute := ⟨"payable_total_remaining", amount.toText⟩
def payer (address : String) : Attribute := ⟨"payable_payer", address⟩
def payee (address : String) : Attribute := ⟨"payable_payee", address⟩
def contractName (name : String) : Attribute := ⟨"payable_migration_contract_name", name⟩
def contractVersion (version : String) : Attribute :=
  ⟨"payable_migration_contract_version", version⟩
def changed (field value : String) : Attribute :=
  ⟨"payable_migration_state_field_" ++ field, value⟩

end Attribute

structure Owner where
  address : String
  role : String
deriving DecidableEq

structure Scope where
  scopeId : String
  owners : List Owner
deriving DecidableEq

/-- The scopes that a call can look up. The first of an identifier counts. -/
abbrev ScopeTable := List Scope

namespace ScopeTable

def scope? (table : ScopeTable) (scopeId : String) : Option Scope :=
  table.find? fun scope => scope.scopeId == scopeId

def erase (table : ScopeTable) (scopeId : String) : ScopeTable :=
  table.filter fun scope => scope.scopeId != scopeId

/-- Adds a scope in place of any other of its identifier. -/
def insert (table : ScopeTable) (scope : Scope) : ScopeTable :=
  scope :: erase table scope.scopeId

/-- A blank identifier is refused before any scope is looked for. -/
def verifyOwner (table : ScopeTable) (scopeId address : String) : Except Error Unit :=
  if Text.isBlank scopeId then .error .blankScopeId
  else match scope? table scopeId with
    | none => .error .scopeNotFound
    | some scope =>
      if scope.owners.any fun owner => owner.address == address then .ok ()
      else .error .unauthorized

theorem verifyOwner_eq_ok_iff {table : ScopeTable} {scopeId address : String} :
    verifyOwner table scopeId address = .ok () ↔
      Text.isBlank scopeId = false ∧
        ∃ scope, scope? table scopeId = some scope ∧
          ∃ owner ∈ scope.owners, owner.address = address := by
  unfold verifyOwner
  split
  · next blank => simp [blank]
  · next solid =>
    rw [Bool.not_eq_true] at solid
    split
    · next missing => simp [missing]
    · next scope found => simp [solid, found]

end ScopeTable

end PayableLedger
