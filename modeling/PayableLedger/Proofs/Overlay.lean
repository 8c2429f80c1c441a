import Mathlib.Data.List.Forall2
import PayableLedger.Proofs.Execution

set_option autoImplicit false

namespace PayableLedger

/-- Both changes at once: the later one counts where it says something. -/
def Overlay.followedBy (change later : Overlay) : Overlay where
  feeCollector := later.feeCollector <|> change.feeCollector
  feePercent := later.feePercent <|> change.feePercent
  isLocal := later.isLocal <|> change.isLocal
  onboardingCost := later.onboardingCost <|> change.onboardingCost
  onboardingDenom := later.onboardingDenom <|> change.onboardingDenom

def Migration.followedBy (request later : Migration) : Migration where
  feeCollector := later.feeCollector <|> request.feeCollector
  feePercent := later.feePercent <|> request.feePercent
  isLocal := later.isLocal <|> request.isLocal
  onboardingCost := later.onboardingCost <|> request.onboardingCost
  onboardingDenom := later.onboardingDenom <|> request.onboardingDenom

theorem Overlay.followedBy_self (change : Overlay) : change.followedBy change = change := by
  simp only [followedBy, Option.orElse_eq_orElse, Option.orElse_eq_or, Option.or_self]

theorem Configuration.overlay_overlay (config : Configuration) (change later : Overlay) :
    (config.overlay change).overlay later = config.overlay (change.followedBy later) := by
  simp only [overlay, Overlay.followedBy, Option.orElse_eq_orElse, Option.orElse_eq_or,
    Option.or_assoc, Option.getD_or]

/-- A check that finds nothing wrong with the old value depends on the new one alone. -/
theorem check_orElse {α β : Type} (check : Option α → β) {old : Option α}
    (passed : check old = check none) (new : Option α) : check (new <|> old) = check new := by
  cases new with
  | none => exact passed
  | some a => rfl

theorem readCost_orElse {new old : Option String} {newCost oldCost : Option Amount}
    (reads : readCost new = .ok newCost) (readsOld : readCost old = .ok oldCost) :
    readCost (new <|> old) = .ok (newCost <|> oldCost) := by
  cases new with
  | none =>
    obtain rfl : none = newCost := Except.ok.inj reads
    exact readsOld
  | some text =>
    obtain ⟨amount, parsed, rfl⟩ := readCost_some_eq_ok_iff.1 reads
    exact readCost_some_eq_ok_iff.2 ⟨amount, parsed, rfl⟩

namespace Store

/-- The storage with settings in it and the stamp of the running program beside them. -/
def install (store : Store) (config : Configuration) : Store :=
  store.applyAll [.configuration config, .stamp .running]

variable (store : Store) (config : Configuration)

theorem install_install (later : Configuration) :
    (store.install config).install later = store.install later := by
  simp only [install, applyAll, List.foldl_cons, List.foldl_nil, apply, save]
  rw [set_comm _ _ _ Key.configuration_ne_stamp.symm, set_set, set_set]

theorem configuration_install : (store.install config).records.configuration = .ok config := by
  have stored : (store.install config).get? Key.configuration = some (Json.encode config) :=
    (get?_set_of_ne _ _ Key.configuration_ne_stamp.symm).trans (get?_set_self _ _ _)
  have read : (store.install config).records.configuration? = .ok (some config) :=
    load?_of_get? stored Configuration.decode?_encode
  rw [Records.configuration, read]
  rfl

theorem stamp_install : (store.install config).records.stamp = .ok .running :=
  (store.apply (.configuration config)).stamp_apply_stamp .running

theorem get?_install_of_ne {key : Key} (configuration : key ≠ Key.configuration)
    (stamp : key ≠ Key.stamp) : (store.install config).get? key = store.get? key :=
  (get?_set_of_ne _ _ stamp.symm).trans (get?_set_of_ne _ _ configuration.symm)

theorem payable?_install : (store.install config).records.payable? = store.records.payable? := by
  funext uuid
  exact load?_congr (store.get?_install_of_ne config (Key.payable_ne_configuration uuid)
    (Key.payable_ne_stamp uuid))

theorem indexed?_install : (store.install config).records.indexed? = store.records.indexed? := by
  funext scopeId
  exact load?_congr (store.get?_install_of_ne config (Key.scopeIndex_ne_configuration scopeId)
    (Key.scopeIndex_ne_stamp scopeId))

end Store

theorem Stamp.checkMigration_running : running.checkMigration = .ok () := rfl

namespace Migration

/-- What a migration has found in a storage when it succeeds. -/
structure Applies (request : Migration) (store : Store) (config : Configuration)
    (change : Overlay) : Prop where
  valid : request.validate = .ok ()
  stamped : ∃ stamp, store.records.stamp = .ok stamp ∧ stamp.checkMigration = .ok ()
  changes : request.toOverlay = .ok change
  configured : store.records.configuration = .ok config
  paired : checkPaired (config.overlay change) = .ok ()

end Migration

namespace Ledger

variable {store left : Store} {request : Migration} {response : Response}

theorem migrate_of_invalid {cause : Error} (invalid : request.validate = .error cause) :
    migrate store request = ⟨.error (.refused cause), store⟩ := by
  rw [migrate, invalid]
  rfl

theorem migrate_of_valid (valid : request.validate = .ok ()) :
    migrate store request = store.conclude (.atomic (request.decide store.records)) := by
  rw [migrate, valid]
  exact request.perform_procedure store

/-- A migration succeeds where it applies, and installs the settings with its changes. -/
theorem migrate_eq_ok_iff :
    migrate store request = ⟨.ok response, left⟩ ↔
      ∃ config change, request.Applies store config change ∧
        response = Migration.response .running change ∧
        left = store.install (config.overlay change) := by
  constructor
  · intro migrates
    cases validated : request.validate with
    | error cause =>
      rw [migrate_of_invalid validated] at migrates
      cases migrates
    | ok =>
      rw [migrate_of_valid validated] at migrates
      cases decided : request.decide store.records with
      | error failure =>
        rw [decided] at migrates
        cases migrates
      | ok result =>
        obtain ⟨changes, answer⟩ := result
        obtain ⟨stamp, stamped, checked, change, overlay, config, configured, paired, rfl, rfl⟩ :=
          Migration.decide_eq_ok_iff.1 decided
        rw [decided] at migrates
        cases migrates
        exact ⟨config, change, ⟨validated, ⟨stamp, stamped, checked⟩, overlay, configured, paired⟩,
          rfl, rfl⟩
  · rintro ⟨config, change, applies, rfl, rfl⟩
    obtain ⟨stamp, stamped, checked⟩ := applies.stamped
    have decided := Migration.decide_eq_ok_iff.2 ⟨stamp, stamped, checked, change, applies.changes,
      config, applies.configured, applies.paired, rfl, rfl⟩
    rw [migrate_of_valid applies.valid, decided]
    rfl

end Ledger

namespace Migration

variable {request later : Migration} {store : Store} {config : Configuration}
  {change laterChange : Overlay}

theorem toOverlay_followedBy (changes : request.toOverlay = .ok change)
    (laterChanges : later.toOverlay = .ok laterChange) :
    (request.followedBy later).toOverlay = .ok (change.followedBy laterChange) := by
  obtain ⟨cost?, reads, rfl⟩ := toOverlay_eq_ok_iff.1 changes
  obtain ⟨laterCost?, laterReads, rfl⟩ := toOverlay_eq_ok_iff.1 laterChanges
  exact toOverlay_eq_ok_iff.2 ⟨_, readCost_orElse laterReads reads, rfl⟩

/-- A request in order adds nothing to what is wrong with the one laid over it. -/
theorem validate_followedBy (valid : request.validate = .ok ()) (later : Migration) :
    (request.followedBy later).validate = later.validate := by
  obtain ⟨collector, readable, denom, percent⟩ := validate_eq_ok_iff.1 valid
  have sameCollector := check_orElse (· == some "") (beq_eq_false_iff_ne.2 collector)
    later.feeCollector
  have sameCost := check_orElse isUnreadableCost (isUnreadableCost_eq_false_iff.2 readable)
    later.onboardingCost
  have sameDenom := check_orElse (· == some "") (beq_eq_false_iff_ne.2 denom)
    later.onboardingDenom
  have samePercent := check_orElse checkFeePercent (checkFeePercent_eq_ok_iff.2 percent)
    later.feePercent
  simp only [validate, followedBy, sameCollector, sameCost, sameDenom, samePercent]

/-- Where two migrations apply one after the other, one of both requests applies at once. The cost
and its denomination are paired in the end, even if they come from different requests. -/
theorem Applies.followedBy (applies : request.Applies store config change)
    {installed : Configuration}
    (laterApplies : later.Applies (store.install (config.overlay change)) installed laterChange) :
    installed = config.overlay change ∧
      (request.followedBy later).Applies store config (change.followedBy laterChange) := by
  have same := laterApplies.configured
  rw [Store.configuration_install, Except.ok.injEq] at same
  subst same
  refine ⟨rfl, ?_⟩
  constructor
  · exact (validate_followedBy applies.valid later).trans laterApplies.valid
  · exact applies.stamped
  · exact toOverlay_followedBy applies.changes laterApplies.changes
  · exact applies.configured
  · rw [← Configuration.overlay_overlay]
    exact laterApplies.paired

theorem Applies.again (applies : request.Applies store config change) :
    (config.overlay change).overlay change = config.overlay change ∧
      request.Applies (store.install (config.overlay change)) (config.overlay change) change := by
  have unchanged : (config.overlay change).overlay change = config.overlay change := by
    rw [Configuration.overlay_overlay, Overlay.followedBy_self]
  refine ⟨unchanged, ?_⟩
  constructor
  · exact applies.valid
  · exact ⟨.running, Store.stamp_install _ _, Stamp.checkMigration_running⟩
  · exact applies.changes
  · exact Store.configuration_install _ _
  · rw [unchanged]
    exact applies.paired

end Migration

/-- A setting that migrations can change: its name, whether a request provides it, and the text that
shows it. -/
structure Setting where
  name : String
  isProvided : Migration → Bool
  text? : Configuration → Option String

namespace Setting

def changeable : List Setting := [
  ⟨"fee_collection_address", (·.feeCollector.isSome), (·.feeCollector)⟩,
  ⟨"fee_percent", (·.feePercent.isSome), (·.feePercent.map Decimal.toText)⟩,
  ⟨"is_local", (·.isLocal.isSome), fun config => some (if config.isLocal then "true" else "false")⟩,
  ⟨"onboarding_cost", (·.onboardingCost.isSome), (·.onboardingCost.map Amount.toText)⟩,
  ⟨"onboarding_denom", (·.onboardingDenom.isSome), (·.onboardingDenom)⟩]

/-- The attribute shows, under the name of the setting, what the settings have for it. -/
def ShownBy (config : Configuration) (setting : Setting) (shown : Attribute) : Prop :=
  shown.key = "payable_migration_state_field_" ++ setting.name ∧
    setting.text? config = some shown.value

/-- The attribute of a setting is there, and shows it, if the request provides the setting. -/
inductive Announced (request : Migration) (config : Configuration) (setting : Setting) :
    Option Attribute → Prop
  | provided {shown : Attribute} (given : setting.isProvided request = true)
      (shows : setting.ShownBy config shown) : Announced request config setting (some shown)
  | passed (absent : setting.isProvided request = false) : Announced request config setting none

variable {request : Migration} {config : Configuration}

theorem announced_map {α : Type} {new : Option α} {text : α → String} {setting : Setting}
    (same : setting.isProvided request = new.isSome)
    (shows : ∀ a, new = some a → setting.text? config = some (text a)) :
    setting.Announced request config (new.map fun a => .changed setting.name (text a)) := by
  cases new with
  | none => exact .passed same
  | some a => exact .provided same ⟨rfl, shows a rfl⟩

/-- Where each setting is announced if it is provided, the attributes that are there are one for
each setting provided. -/
theorem shownBy_filter {settings : List Setting} {announced : List (Option Attribute)}
    (each : List.Forall₂ (Announced request config) settings announced) :
    List.Forall₂ (ShownBy config) (settings.filter fun setting => setting.isProvided request)
      (announced.filterMap id) := by
  induction each with
  | nil => exact .nil
  | cons this others ih =>
    cases this with
    | provided given shows =>
      rw [List.filter_cons, if_pos given]
      exact .cons shows ih
    | passed absent =>
      rw [List.filter_cons, if_neg (by simp [absent])]
      exact ih

end Setting

theorem isSome_readCost {cost? : Option String} {amount? : Option Amount}
    (reads : readCost cost? = .ok amount?) : cost?.isSome = amount?.isSome := by
  cases cost? with
  | none =>
    cases reads
    rfl
  | some cost =>
    obtain ⟨amount, _, rfl⟩ := readCost_some_eq_ok_iff.1 reads
    rfl

/-- The attributes of a change show the settings that the request provides, as they are then. -/
theorem Migration.attributes_overlay {request : Migration} {change : Overlay}
    (changes : request.toOverlay = .ok change) (config : Configuration) :
    List.Forall₂ (Setting.ShownBy (config.overlay change))
      (Setting.changeable.filter fun setting => setting.isProvided request)
      change.attributes := by
  obtain ⟨cost?, reads, same⟩ := toOverlay_eq_ok_iff.1 changes
  apply Setting.shownBy_filter
  refine .cons ?_ (.cons ?_ (.cons ?_ (.cons ?_ (.cons ?_ .nil))))
  · refine Setting.announced_map (by rw [same]) ?_
    intro collector given
    simp only [Configuration.overlay, given]
    rfl
  · refine Setting.announced_map (by rw [same]) ?_
    intro percent given
    simp only [Configuration.overlay, given]
    rfl
  · refine Setting.announced_map (by rw [same]) ?_
    intro isLocal given
    simp only [Configuration.overlay, given]
    rfl
  · refine Setting.announced_map (by rw [same]; exact isSome_readCost reads) ?_
    intro cost given
    simp only [Configuration.overlay, given]
    rfl
  · refine Setting.announced_map (by rw [same]) ?_
    intro denom given
    simp only [Configuration.overlay, given]
    rfl

/-- What a migration leaves and tells, in terms of the settings before and after it: each setting is
the one of the request if that provides it, and the old one otherwise, no other record changes, and
an attribute shows each setting provided. -/
structure Migration.LaysOver (request : Migration) (store left : Store) (response : Response)
    (before after : Configuration) : Prop where
  found : store.records.configuration = .ok before
  stored : left.records.configuration = .ok after
  stamped : left.records.stamp = .ok ⟨"payable-registry-contract", "0.3.0"⟩
  name : after.name = before.name
  feeCollector : after.feeCollector = (request.feeCollector <|> before.feeCollector)
  feePercent : after.feePercent = (request.feePercent <|> before.feePercent)
  isLocal : after.isLocal = request.isLocal.getD before.isLocal
  onboardingCost : ∃ cost?, readCost request.onboardingCost = .ok cost? ∧
    after.onboardingCost = (cost? <|> before.onboardingCost)
  onboardingDenom : after.onboardingDenom = (request.onboardingDenom <|> before.onboardingDenom)
  payables : left.records.payable? = store.records.payable?
  index : left.records.indexed? = store.records.indexed?
  nothing_else (key : Key) (configuration : key ≠ Key.configuration) (stamp : key ≠ Key.stamp) :
    left.get? key = store.get? key
  tells : ∃ shown, response = ⟨[],
      ⟨"payable_migration_contract_name", "payable-registry-contract"⟩ ::
        ⟨"payable_migration_contract_version", "0.3.0"⟩ :: shown⟩ ∧
    List.Forall₂ (Setting.ShownBy after)
      (Setting.changeable.filter fun setting => setting.isProvided request) shown

theorem Migration.Applies.laysOver {request : Migration} {store : Store} {config : Configuration}
    {change : Overlay} (applies : request.Applies store config change) :
    request.LaysOver store (store.install (config.overlay change)) (response .running change)
      config (config.overlay change) := by
  obtain ⟨cost?, reads, same⟩ := toOverlay_eq_ok_iff.1 applies.changes
  constructor
  · exact applies.configured
  · exact store.configuration_install _
  · exact store.stamp_install _
  · rfl
  · rw [same]
    rfl
  · rw [same]
    rfl
  · rw [same]
    rfl
  · refine ⟨cost?, reads, ?_⟩
    rw [same]
    rfl
  · rw [same]
    rfl
  · exact store.payable?_install _
  · exact store.indexed?_install _
  · intro key configuration stamp
    exact store.get?_install_of_ne _ configuration stamp
  · exact ⟨change.attributes, rfl, attributes_overlay applies.changes config⟩

/-- A migration that succeeds, on whatever storage, lays the settings of its request over the old
ones. If another one succeeds after it, the single request that takes each field from the other one
where it is there succeeds as well, and leaves the same storage. The same request a second time
succeeds, and changes nothing. -/
theorem migrations_overlay {store left : Store} {request : Migration} {response : Response}
    (migrates : Ledger.migrate store request = ⟨.ok response, left⟩) :
    (∃ before after, request.LaysOver store left response before after) ∧
      (∀ later laterResponse last, Ledger.migrate left later = ⟨.ok laterResponse, last⟩ →
        ∃ both, Ledger.migrate store (request.followedBy later) = ⟨.ok both, last⟩) ∧
      Ledger.migrate left request = ⟨.ok response, left⟩ := by
  obtain ⟨config, change, applies, rfl, rfl⟩ := Ledger.migrate_eq_ok_iff.1 migrates
  refine ⟨⟨config, _, applies.laysOver⟩, ?_, ?_⟩
  · intro later laterResponse last laterMigrates
    obtain ⟨installed, laterChange, laterApplies, _, rfl⟩ :=
      Ledger.migrate_eq_ok_iff.1 laterMigrates
    obtain ⟨rfl, both⟩ := applies.followedBy laterApplies
    refine ⟨_, Ledger.migrate_eq_ok_iff.2 ⟨config, _, both, rfl, ?_⟩⟩
    rw [Store.install_install, Configuration.overlay_overlay]
  · obtain ⟨unchanged, again⟩ := applies.again
    refine Ledger.migrate_eq_ok_iff.2 ⟨_, change, again, rfl, ?_⟩
    rw [unchanged, Store.install_install]

/-- A charge is introduced, and later its denomination is changed. -/
def chargingMigration : Migration := ⟨none, none, none, some "+05", some "usd"⟩

def recoiningMigration : Migration := ⟨none, none, some true, none, some "eur"⟩

def freeConfiguration : Configuration := ⟨"registry", some "collector", none, false, none, none⟩

theorem migrations_overlay_charging :
    let start := Store.empty.install freeConfiguration
    let charged := start.install { freeConfiguration with
      onboardingCost := some ⟨5, by decide⟩
      onboardingDenom := some "usd" }
    (∃ response, Ledger.migrate start chargingMigration = ⟨.ok response, charged⟩) ∧
      ∃ both, Ledger.migrate start (chargingMigration.followedBy recoiningMigration) =
        ⟨.ok both, charged.install { freeConfiguration with
          isLocal := true
          onboardingCost := some ⟨5, by decide⟩
          onboardingDenom := some "eur" }⟩ := by
  intro start charged
  have applies : chargingMigration.Applies start freeConfiguration
      ⟨none, none, none, some ⟨5, by decide⟩, some "usd"⟩ :=
    ⟨by decide, ⟨_, Store.stamp_install _ _, rfl⟩, rfl, Store.configuration_install _ _, rfl⟩
  have later : recoiningMigration.Applies charged _ ⟨none, none, some true, none, some "eur"⟩ :=
    ⟨by decide, ⟨_, Store.stamp_install _ _, rfl⟩, rfl, Store.configuration_install _ _, rfl⟩
  have migrates : Ledger.migrate start chargingMigration = ⟨.ok _, charged⟩ :=
    Ledger.migrate_eq_ok_iff.2 ⟨_, _, applies, rfl, rfl⟩
  obtain ⟨_, together, _⟩ := migrations_overlay migrates
  exact ⟨⟨_, migrates⟩, together _ _ _ (Ledger.migrate_eq_ok_iff.2 ⟨_, _, later, rfl, rfl⟩)⟩

end PayableLedger
