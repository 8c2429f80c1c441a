import PayableLedger.Proofs.Overlay

set_option autoImplicit false

namespace PayableLedger

def Configuration.blank (name : String) : Configuration := ⟨name, none, none, false, none, none⟩

theorem Configuration.overlay_blank (name : String) (change : Overlay) :
    (blank name).overlay change = ⟨name, change.feeCollector, change.feePercent,
      change.isLocal.getD false, change.onboardingCost, change.onboardingDenom⟩ := by
  simp only [overlay, blank, Option.orElse_eq_orElse, Option.orElse_eq_or, Option.or_none]

namespace Instantiation

def overlaidBy (request : Instantiation) (change : Migration) : Instantiation where
  name := request.name
  feeCollector := change.feeCollector <|> request.feeCollector
  feePercent := change.feePercent <|> request.feePercent
  onboardingCost := change.onboardingCost <|> request.onboardingCost
  onboardingDenom := change.onboardingDenom <|> request.onboardingDenom
  isLocal := change.isLocal <|> request.isLocal

/-- The migration that brings blank settings to those of the request. -/
def settings (request : Instantiation) : Migration where
  feeCollector := request.feeCollector
  feePercent := request.feePercent
  isLocal := request.isLocal
  onboardingCost := request.onboardingCost
  onboardingDenom := request.onboardingDenom

variable {request : Instantiation}

theorem settings_overlaidBy (request : Instantiation) (change : Migration) :
    (request.overlaidBy change).settings = request.settings.followedBy change := rfl

theorem configuration_eq_ok_iff_settings {config : Configuration} :
    request.configuration = .ok config ↔
      ∃ change, request.settings.toOverlay = .ok change ∧
        config = (Configuration.blank request.name).overlay change := by
  simp only [configuration_eq_ok_iff, Migration.toOverlay_eq_ok_iff, Configuration.overlay_blank]
  constructor
  · rintro ⟨cost?, reads, rfl⟩
    exact ⟨_, ⟨cost?, reads, rfl⟩, rfl⟩
  · rintro ⟨change, ⟨cost?, reads, rfl⟩, rfl⟩
    exact ⟨cost?, reads, rfl⟩

/-- The pairing of cost and denomination as it is checked on the texts of the request. -/
def checkDenomination (request : Instantiation) : Except Error Unit :=
  match request.onboardingCost, request.onboardingDenom with
  | some cost, none => .error (.missingOnboardingDenom cost)
  | _, _ => .ok ()

/-- But for the name, an instantiation checks what a migration to its settings checks, and then the
pairing on the texts. -/
theorem validate_eq_of_named (named : request.name ≠ "") :
    request.validate = request.settings.validate >>= fun _ => request.checkDenomination := by
  have passed : request.name.isEmpty = false := String.isEmpty_eq_false_iff.2 named
  have skipped (checks : List (String × Bool)) :
      checkFields (("contract_name", false) :: checks) = checkFields checks := rfl
  simp only [validate, Migration.validate, passed, skipped, bind_assoc]
  rfl

/-- With settings laid over those of a request in order, only they can be out of order, or the
denomination be missing in the end. -/
theorem validate_overlaidBy (valid : request.validate = .ok ()) (change : Migration) :
    (request.overlaidBy change).validate =
      change.validate >>= fun _ => (request.overlaidBy change).checkDenomination := by
  have named : request.name ≠ "" := (validate_eq_ok_iff.1 valid).1
  have settingsValid : request.settings.validate = .ok () := by
    rw [validate_eq_of_named named, bind_eq_ok_iff] at valid
    obtain ⟨_, settingsValid, _⟩ := valid
    exact settingsValid
  have sameName : (request.overlaidBy change).name ≠ "" := named
  rw [validate_eq_of_named sameName, settings_overlaidBy,
    Migration.validate_followedBy settingsValid]

theorem configuration_overlaidBy {config : Configuration} {change : Migration} {overlay : Overlay}
    (settings : request.configuration = .ok config) (changes : change.toOverlay = .ok overlay) :
    (request.overlaidBy change).configuration = .ok (config.overlay overlay) := by
  obtain ⟨asked, asks, rfl⟩ := configuration_eq_ok_iff_settings.1 settings
  rw [Configuration.overlay_overlay]
  refine configuration_eq_ok_iff_settings.2 ⟨asked.followedBy overlay, ?_, rfl⟩
  exact Migration.toOverlay_followedBy asks changes

end Instantiation

/-- Two refusals of one kind: of the same fields, of the same percentage, or of a cost without a
denomination. A migration shows that cost as an amount, an instantiation shows it as it is given. -/
inductive Error.Alike : Error → Error → Prop
  | fields (fields : List String) : Alike (.invalidFields fields) (.invalidFields fields)
  | percent (percent : Decimal) : Alike (.invalidFeePercent percent) (.invalidFeePercent percent)
  | denomination {cost : String} {amount : Amount} (reads : Amount.parse cost = .ok amount) :
    Alike (.missingOnboardingDenom amount.toText) (.missingOnboardingDenom cost)

/-- Two calls concur: both succeed and leave the same storage, or both are refused alike. -/
inductive Result.Concur : Result → Result → Prop
  | succeed (response other : Response) (left : Store) :
    Concur ⟨.ok response, left⟩ ⟨.ok other, left⟩
  | refuse {cause other : Error} (alike : cause.Alike other) (left otherLeft : Store) :
    Concur ⟨.error (.refused cause), left⟩ ⟨.error (.refused other), otherLeft⟩

theorem alike_of_checkFields {checks : List (String × Bool)} {cause : Error}
    (refused : checkFields checks = .error cause) : cause.Alike cause := by
  unfold checkFields at refused
  split at refused
  · cases refused
  · cases refused
    exact .fields _

theorem alike_of_checkFeePercent {percent? : Option Decimal} {cause : Error}
    (refused : checkFeePercent percent? = .error cause) : cause.Alike cause := by
  unfold checkFeePercent at refused
  split at refused
  · cases refused
  · split at refused
    · cases refused
      exact .percent _
    · cases refused

theorem Migration.alike_of_invalid {request : Migration} {cause : Error}
    (invalid : request.validate = .error cause) : cause.Alike cause := by
  rcases bind_eq_error_iff.1 invalid with fields | ⟨_, _, percent⟩
  · exact alike_of_checkFields fields
  · exact alike_of_checkFeePercent percent

/-- The texts of a request and the amounts that they denote pass the check of their pairing both, or
are refused alike. -/
theorem Instantiation.pairing_of_configuration {request : Instantiation} {config : Configuration}
    (settings : request.configuration = .ok config) :
    (request.checkDenomination = .ok () ∧ Migration.checkPaired config = .ok ()) ∨
      ∃ cause other, Migration.checkPaired config = .error cause ∧
        request.checkDenomination = .error other ∧ cause.Alike other := by
  obtain ⟨cost?, reads, rfl⟩ := configuration_eq_ok_iff.1 settings
  simp only [checkDenomination, Migration.checkPaired, Configuration.unpairedCost?]
  cases denom : request.onboardingDenom with
  | some denom =>
    left
    cases request.onboardingCost <;> exact ⟨rfl, rfl⟩
  | none =>
    cases priced : request.onboardingCost with
    | none =>
      left
      rw [priced] at reads
      cases reads
      exact ⟨rfl, rfl⟩
    | some cost =>
      right
      rw [priced] at reads
      obtain ⟨amount, parsed, rfl⟩ := readCost_some_eq_ok_iff.1 reads
      exact ⟨_, _, rfl, rfl, .denomination parsed⟩

namespace Ledger

variable {store left : Store} {address : String} {call : Call} {request : Instantiation}
  {response : Response}

theorem instantiate_of_invalid {cause : Error} (invalid : request.validate = .error cause) :
    instantiate store address call request = ⟨.error (.refused cause), store⟩ := by
  rw [instantiate, invalid]
  rfl

theorem instantiate_of_valid (valid : request.validate = .ok ()) :
    instantiate store address call request = store.conclude (request.carryOut address call) := by
  rw [instantiate, valid]
  exact request.perform_procedure address call store

/-- An instantiation succeeds where it is in order, brings no funds and can bind its name, and
installs its settings. -/
theorem instantiate_eq_ok_iff :
    instantiate store address call request = ⟨.ok response, left⟩ ↔
      request.validate = .ok () ∧ call.funds = [] ∧
        ∃ config bound, request.configuration = .ok config ∧
          Instantiation.bindName request.name address = .ok bound ∧
          response = Instantiation.response bound ∧ left = store.install config := by
  constructor
  · intro instantiates
    cases validated : request.validate with
    | error cause =>
      rw [instantiate_of_invalid validated] at instantiates
      cases instantiates
    | ok =>
      rw [instantiate_of_valid validated] at instantiates
      unfold Instantiation.carryOut at instantiates
      split at instantiates
      · cases instantiates
      · next free =>
        split at instantiates
        · cases instantiates
        · next config settings =>
          split at instantiates
          · cases instantiates
          · next bound binds =>
            cases instantiates
            have unfunded : call.funds = [] := by simpa using free
            exact ⟨rfl, unfunded, config, bound, settings, binds, rfl, rfl⟩
  · rintro ⟨valid, free, config, bound, settings, binds, rfl, rfl⟩
    rw [instantiate_of_valid valid]
    simp only [Instantiation.carryOut, free, settings, binds]
    rfl

/-- On settings just installed, a migration in order hangs on the pairing alone. -/
theorem migrate_install {config : Configuration} {change : Migration} {overlay : Overlay}
    (valid : change.validate = .ok ()) (changes : change.toOverlay = .ok overlay) :
    migrate (store.install config) change =
      match Migration.checkPaired (config.overlay overlay) with
      | .ok () => ⟨.ok (Migration.response .running overlay),
          store.install (config.overlay overlay)⟩
      | .error cause => ⟨.error (.refused cause), store.install config⟩ := by
  have decided : change.decide (store.install config).records =
      (liftM (Migration.checkPaired (config.overlay overlay)) : Except Failure Unit) >>= fun _ =>
        pure ([.configuration (config.overlay overlay), .stamp .running],
          Migration.response .running overlay) := by
    simp only [Migration.decide, Store.stamp_install, Store.configuration_install, changes]
    rfl
  rw [migrate_of_valid valid, decided, Store.conclude_check]
  cases Migration.checkPaired (config.overlay overlay) with
  | error cause => rfl
  | ok =>
    rw [← store.install_install config (config.overlay overlay)]
    rfl

end Ledger

/-- Right after an instantiation, a migration succeeds where the instantiation with the settings of
the migration laid over its own does, and then leaves the same storage; where it does not, the two
are refused alike. -/
theorem migration_concurs_with_instantiation {store left : Store} {address sender : String}
    {request : Instantiation} {response : Response}
    (instantiates : Ledger.instantiate store address ⟨sender, []⟩ request = ⟨.ok response, left⟩)
    (change : Migration) :
    Result.Concur (Ledger.migrate left change)
      (Ledger.instantiate store address ⟨sender, []⟩ (request.overlaidBy change)) := by
  obtain ⟨valid, _, config, bound, settings, binds, rfl, rfl⟩ :=
    Ledger.instantiate_eq_ok_iff.1 instantiates
  have bothValid := Instantiation.validate_overlaidBy valid change
  cases changeValid : change.validate with
  | error cause =>
    rw [changeValid] at bothValid
    rw [Ledger.migrate_of_invalid changeValid, Ledger.instantiate_of_invalid bothValid]
    exact .refuse (Migration.alike_of_invalid changeValid) _ _
  | ok =>
    rw [changeValid] at bothValid
    obtain ⟨overlay, changes⟩ := Migration.exists_overlay changeValid
    have bothSettings := Instantiation.configuration_overlaidBy settings changes
    -- What is left to refuse on either side is a cost without a denomination.
    rw [Ledger.migrate_install changeValid changes]
    rcases Instantiation.pairing_of_configuration bothSettings with
      ⟨denominated, paired⟩ | ⟨cause, other, unpaired, undenominated, alike⟩
    · have bothInstantiate : Ledger.instantiate store address ⟨sender, []⟩
          (request.overlaidBy change) = ⟨.ok _, store.install (config.overlay overlay)⟩ :=
        Ledger.instantiate_eq_ok_iff.2 ⟨bothValid.trans denominated, rfl, _, bound, bothSettings,
          binds, rfl, rfl⟩
      rw [paired, bothInstantiate]
      exact .succeed _ _ _
    · rw [unpaired, Ledger.instantiate_of_invalid (bothValid.trans undenominated)]
      exact .refuse alike _ _

def freeInstantiation : Instantiation := ⟨"registry", none, none, none, none, none⟩

/-- A charge without a denomination, written with leading zeros. -/
def undenominatedMigration : Migration := ⟨none, none, none, some "007", none⟩

theorem migration_concurs_with_instantiation_undenominated :
    let left := Store.empty.install (.blank "registry")
    (∃ response, Ledger.instantiate .empty "contract" ⟨"admin", []⟩ freeInstantiation =
        ⟨.ok response, left⟩) ∧
      Result.Concur (Ledger.migrate left undenominatedMigration)
        (Ledger.instantiate .empty "contract" ⟨"admin", []⟩
          (freeInstantiation.overlaidBy undenominatedMigration)) := by
  intro left
  have instantiates : Ledger.instantiate .empty "contract" ⟨"admin", []⟩ freeInstantiation =
      ⟨.ok _, left⟩ :=
    Ledger.instantiate_eq_ok_iff.2 ⟨by decide, rfl, _, _, rfl, rfl, rfl, rfl⟩
  exact ⟨⟨_, instantiates⟩,
    migration_concurs_with_instantiation instantiates undenominatedMigration⟩

end PayableLedger
