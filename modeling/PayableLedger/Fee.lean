import PayableLedger.Chain

set_option autoImplicit false

namespace PayableLedger

structure FeeSplit where
  fee : Amount
  net : Amount
  collector : Option String
deriving DecidableEq

/-- The fee is the configured part of the amount, rounded down. A fee above the amount, which a
percentage above one can give, aborts. -/
def Configuration.splitFee (config : Configuration) (amount : Amount) : Except Failure FeeSplit :=
  match config.feeCollector, config.feePercent with
  | some collector, some percent =>
    match percent.times? amount with
    | none => .error .aborted
    | some fee => match amount.sub? fee with
      | none => .error .aborted
      | some net => .ok ⟨fee, net, some collector⟩
  | _, _ => .ok ⟨.zero, amount, none⟩

/-- The fee on so many units, before it is an amount. -/
def Configuration.feeOn (config : Configuration) (units : Nat) : Nat :=
  match config.feeCollector, config.feePercent with
  | some _, some percent => units * percent.atomics / Decimal.unit
  | _, _ => 0

theorem Configuration.fee_add_net {config : Configuration} {amount : Amount} {division : FeeSplit}
    (success : config.splitFee amount = .ok division) :
    division.fee.units + division.net.units = amount.units := by
  unfold splitFee at success
  split at success
  · split at success
    · cases success
    · split at success
      · cases success
      · next net difference =>
        cases success
        have := Amount.sub?_eq_some_iff.1 difference
        simp only
        omega
  · cases success
    simp [Amount.zero]

theorem Configuration.units_fee {config : Configuration} {amount : Amount} {division : FeeSplit}
    (success : config.splitFee amount = .ok division) :
    division.fee.units = config.feeOn amount.units := by
  unfold splitFee at success
  unfold feeOn
  split at success
  · split at success
    · cases success
    · next fee product =>
      split at success
      · cases success
      · cases success
        exact Amount.ofNat?_eq_some_iff.1 product
  · cases success
    rfl

theorem Configuration.collector_of_splitFee {config : Configuration} {amount : Amount}
    {division : FeeSplit} (success : config.splitFee amount = .ok division) :
    (∃ collector, division.collector = some collector ∧ config.feeCollector = some collector) ∨
      division.collector = none ∧ division.fee = .zero := by
  unfold splitFee at success
  split at success
  · next collector percent collects _ =>
    split at success
    · cases success
    · split at success
      · cases success
      · cases success
        exact .inl ⟨collector, rfl, collects⟩
  · cases success
    exact .inr ⟨rfl, rfl⟩

/-- Where the charge goes, and the notice that tells so. -/
structure OnboardingFee where
  transfer : Message
  notice : Attribute
deriving DecidableEq

/-- The coins of one denomination together; a sum out of range becomes the greatest amount. -/
def provided (denom : String) (funds : List Coin) : Amount :=
  (funds.filter fun coin => coin.denom == denom).foldl
    (fun sum coin => sum.addSaturating coin.amount) .zero

def Configuration.takeCharge (config : Configuration) (sender : String) (charge : Coin) :
    OnboardingFee :=
  match config.feeCollector with
  | some collector => ⟨.send collector charge, .onboardingFeeCollected charge⟩
  | none => ⟨.send sender charge, .onboardingFeeRefunded charge⟩

/-- Takes the charge from the funds of a call. Where nothing is charged nothing may come along; a
local ledger waives the charge when nothing comes along. -/
def Configuration.onboard (config : Configuration) (call : Call) :
    Except Error (Option OnboardingFee) :=
  match config.onboardingCharge with
  | none => if call.funds.isEmpty then .ok none else .error .fundsPresent
  | some charge =>
    if config.isLocal && call.funds.isEmpty then .ok none
    else
      let sum := provided charge.denom call.funds
      if (call.funds.any fun coin => coin.denom != charge.denom) || sum != charge.amount then
        .error (.insufficientOnboardingFee charge.amount sum charge.denom)
      else .ok (some (config.takeCharge call.sender charge))

end PayableLedger
