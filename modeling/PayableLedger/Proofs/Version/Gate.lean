import PayableLedger.Proofs.Overlay

set_option autoImplicit false

namespace PayableLedger

namespace Version

def numbers (v : Version) : List Nat := [v.major, v.minor, v.patch]

/-- The numbers are greater, the first that differs deciding; or they are the same, and there are
build metadata but no pre-release. -/
def Exceeds (v : Version) (major minor patch : Nat) : Prop :=
  [major, minor, patch] < v.numbers ∨
    v.numbers = [major, minor, patch] ∧ v.preRelease = "" ∧ v.build ≠ ""

theorem isAbove_release_iff_exceeds {v : Version} {major minor patch : Nat} :
    v.isAbove (release major minor patch) = true ↔ v.Exceeds major minor patch := by
  rw [isAbove_release, Exceeds, numbers]
  simp only [List.cons_lt_cons_iff, List.cons.injEq, List.not_lt_nil, and_false, or_false,
    and_true, @eq_comm _ major, @eq_comm _ minor]
  tauto

example : (⟨0, 3, 0, "rc.1", "hotfix"⟩ : Version).isAbove (release 0 3 0) = false := by
  decide +kernel

instance : Std.ReflCmp comparePreReleaseSegments where
  compare_self {segment} := by
    unfold comparePreReleaseSegments compareKinds
    cases isNumeric segment <;> simp

instance : Std.ReflCmp compareBuildSegments where
  compare_self {segment} := by
    unfold compareBuildSegments compareKinds
    cases isNumeric segment <;> simp

instance : Std.ReflCmp Version.compare where
  compare_self {v} := by
    have preRelease : comparePreRelease v.preRelease v.preRelease = .eq := by
      unfold comparePreRelease
      split <;> simp_all [Std.ReflCmp.compare_self]
    have build : compareBuild v.build v.build = .eq := by
      unfold compareBuild
      exact Std.ReflCmp.compare_self
    simp [Version.compare, preRelease, build]

theorem not_isAbove_self (v : Version) : v.isAbove v = false := by
  have same : v.compare v = .eq := Std.ReflCmp.compare_self
  rw [isAbove, same]
  rfl

end Version

namespace Stamp

/-- The rules for a stamp in their order, each broken while those before it are kept, with the error
that says so. -/
inductive Barred (stamp : Stamp) : Error → Prop
  | foreign (other : stamp.contract ≠ "payable-registry-contract") :
      Barred stamp (.foreignContract stamp.contract "payable-registry-contract")
  | unreadable (own : stamp.contract = "payable-registry-contract") {cause : Version.ParseError}
      (formless : Version.parse stamp.version = .error cause) : Barred stamp (.badVersion cause)
  | newer (own : stamp.contract = "payable-registry-contract") {v : Version}
      (reads : Version.parse stamp.version = .ok v) (exceeds : v.Exceeds 0 3 0) :
      Barred stamp (.newerVersion stamp.version "0.3.0")

variable {stamp : Stamp} {cause : Error}

theorem checkMigration_eq_ok_iff :
    stamp.checkMigration = .ok () ↔ stamp.contract = "payable-registry-contract" ∧
      ∃ v, Version.parse stamp.version = .ok v ∧ ¬ v.Exceeds 0 3 0 := by
  unfold checkMigration
  rw [refuse_eq_ok_iff, not_not]
  refine and_congr_right fun own => ?_
  cases reads : Version.parse stamp.version with
  | error cause => simp
  | ok v =>
    simp only [Except.ok.injEq, exists_eq_left', ← Version.isAbove_release_iff_exceeds]
    rw [refuse_eq_ok_iff]
    exact and_iff_left rfl

theorem checkMigration_of_barred (barred : stamp.Barred cause) :
    stamp.checkMigration = .error cause := by
  unfold checkMigration
  cases barred with
  | foreign other => exact if_pos other
  | unreadable own formless =>
    have named : ¬ stamp.contract ≠ running.contract := not_not_intro own
    simp only [if_neg named, formless]
  | newer own reads exceeds =>
    have named : ¬ stamp.contract ≠ running.contract := not_not_intro own
    have above := Version.isAbove_release_iff_exceeds.2 exceeds
    simp only [if_neg named, reads]
    exact if_pos above

theorem passes_or_barred (stamp : Stamp) :
    stamp.checkMigration = .ok () ∨ ∃ cause, stamp.Barred cause := by
  by_cases own : stamp.contract = "payable-registry-contract"
  case neg => exact .inr ⟨_, .foreign own⟩
  cases reads : Version.parse stamp.version with
  | error cause => exact .inr ⟨_, .unreadable own reads⟩
  | ok v =>
    by_cases exceeds : v.Exceeds 0 3 0
    · exact .inr ⟨_, .newer own reads exceeds⟩
    · exact .inl (checkMigration_eq_ok_iff.2 ⟨own, v, reads, exceeds⟩)

theorem checkMigration_eq_error_iff : stamp.checkMigration = .error cause ↔ stamp.Barred cause := by
  constructor
  · intro fails
    rcases stamp.passes_or_barred with passes | ⟨other, barred⟩
    · rw [passes] at fails
      cases fails
    · have same := checkMigration_of_barred barred
      rw [fails, Except.error.injEq] at same
      exact same ▸ barred
  · exact checkMigration_of_barred

end Stamp

namespace Ledger

variable {store : Store} {request : Migration} {stamp : Stamp} {config : Configuration}

theorem migrate_of_barred (valid : request.validate = .ok ())
    (stamped : store.records.stamp = .ok stamp) {cause : Error} (barred : stamp.Barred cause) :
    migrate store request = ⟨.error (.refused cause), store⟩ := by
  have fails : request.decide store.records = .error (.refused cause) := by
    rw [Migration.decide, stamped]
    change ((liftM stamp.checkMigration : Except Failure Unit) >>= _) = _
    rw [Stamp.checkMigration_of_barred barred]
    rfl
  rw [migrate_of_valid valid, fails]
  rfl

/-- Behind the check only a cost without a denomination is left to refuse. -/
theorem migrate_of_checked (valid : request.validate = .ok ())
    (stamped : store.records.stamp = .ok stamp) (checked : stamp.checkMigration = .ok ())
    (configured : store.records.configuration = .ok config) :
    (∃ response left, migrate store request = ⟨.ok response, left⟩) ∨
      ∃ cost, migrate store request =
        ⟨.error (.refused (.missingOnboardingDenom cost)), store⟩ := by
  obtain ⟨change, changes⟩ := Migration.exists_overlay valid
  cases unpaired : (config.overlay change).unpairedCost? with
  | none =>
    have paired : Migration.checkPaired (config.overlay change) = .ok () := by
      rw [Migration.checkPaired, unpaired]
    exact .inl ⟨_, _, migrate_eq_ok_iff.2
      ⟨config, change, ⟨valid, ⟨stamp, stamped, checked⟩, changes, configured, paired⟩, rfl, rfl⟩⟩
  | some cost =>
    have fails : request.decide store.records =
        .error (.refused (.missingOnboardingDenom cost.toText)) := by
      rw [Migration.decide, stamped, changes, configured]
      change ((liftM stamp.checkMigration : Except Failure Unit) >>= fun _ =>
        (liftM (Migration.checkPaired (config.overlay change)) : Except Failure Unit) >>= _) = _
      rw [checked, Migration.checkPaired, unpaired]
      rfl
    refine .inr ⟨cost.toText, ?_⟩
    rw [migrate_of_valid valid, fails]
    rfl

/-- A migration brings the stamp up to the running program behind the check, or changes nothing. -/
theorem migrate_cases (stamped : store.records.stamp = .ok stamp)
    (configured : store.records.configuration = .ok config) (request : Migration) :
    stamp.checkMigration = .ok () ∧
        (∃ after, (migrate store request).store = store.install after) ∨
      (migrate store request).store = store := by
  cases validated : request.validate with
  | error cause => exact .inr (congrArg Result.store (migrate_of_invalid validated))
  | ok =>
    rcases stamp.passes_or_barred with checked | ⟨cause, barred⟩
    · rcases migrate_of_checked validated stamped checked configured with
        ⟨response, left, migrates⟩ | ⟨cost, fails⟩
      · obtain ⟨before, change, _, _, rfl⟩ := migrate_eq_ok_iff.1 migrates
        exact .inl ⟨checked, _, congrArg Result.store migrates⟩
      · exact .inr (congrArg Result.store fails)
    · exact .inr (congrArg Result.store (migrate_of_barred validated stamped barred))

end Ledger

/-- There are settings, and the stamp is a given one still, or the running program's in place of
one that passes the check. -/
structure Store.Upgrades (store : Store) (stamp : Stamp) : Prop where
  configured : ∃ config, store.records.configuration = .ok config
  stamped : store.records.stamp = .ok stamp ∨
    stamp.checkMigration = .ok () ∧ store.records.stamp = .ok .running

namespace Store.Upgrades

variable {store : Store} {stamp : Stamp}

theorem install (checked : stamp.checkMigration = .ok ()) (store : Store)
    (config : Configuration) : (store.install config).Upgrades stamp :=
  ⟨⟨config, store.configuration_install config⟩, .inr ⟨checked, store.stamp_install config⟩⟩

theorem migrate (upgrades : store.Upgrades stamp) (request : Migration) :
    (Ledger.migrate store request).store.Upgrades stamp := by
  obtain ⟨config, configured⟩ := upgrades.configured
  rcases upgrades.stamped with first | ⟨checked, running⟩
  · rcases Ledger.migrate_cases first configured request with ⟨checked, after, left⟩ | left
    · rw [left]
      exact install checked store after
    · rw [left]
      exact upgrades
  · rcases Ledger.migrate_cases running configured request with ⟨_, after, left⟩ | left
    · rw [left]
      exact install checked store after
    · rw [left]
      exact upgrades

theorem migrations (upgrades : store.Upgrades stamp) (requests : List Migration) :
    (store.afterAll (requests.map .migrate)).Upgrades stamp := by
  induction requests generalizing store with
  | nil => exact upgrades
  | cons request rest ih => exact ih (upgrades.migrate request)

/-- The version is the first one, or the running one where the first is not above it. -/
theorem not_isAbove (upgrades : store.Upgrades stamp) {v : Version}
    (reads : Version.parse stamp.version = .ok v) :
    ∃ left w, store.records.stamp = .ok left ∧ Version.parse left.version = .ok w ∧
      v.isAbove w = false := by
  rcases upgrades.stamped with first | ⟨checked, running⟩
  · exact ⟨stamp, v, first, reads, v.not_isAbove_self⟩
  · obtain ⟨_, same, readsSame, below⟩ := Stamp.checkMigration_eq_ok_iff.1 checked
    rw [reads, Except.ok.injEq] at readsSame
    subst readsSame
    rw [← Version.isAbove_release_iff_exceeds, Bool.not_eq_true] at below
    exact ⟨.running, .running, running, Version.parse_running, below⟩

end Store.Upgrades

/-- A valid migration of a ledger passes the check of the stamp exactly if this names the running
program and a version that is not above the running one. Otherwise it is refused for the first thing
wrong with the stamp, and changes nothing. One that passes is refused for an unpaired cost at most.
If it succeeds, the stamp is that of the running program, and however many migrations follow each
other, the version in the stamp is never lower than before them. -/
theorem migration_gate_exact {store : Store} {request : Migration} {config : Configuration}
    {stamp : Stamp} (configured : store.records.configuration = .ok config)
    (stamped : store.records.stamp = .ok stamp) (valid : request.validate = .ok ()) :
    (stamp.checkMigration = .ok () ↔ stamp.contract = "payable-registry-contract" ∧
      ∃ v, Version.parse stamp.version = .ok v ∧ ¬ v.isAbove (.release 0 3 0)) ∧
    (∀ v : Version, v.isAbove (.release 0 3 0) = true ↔ v.Exceeds 0 3 0) ∧
    (∀ cause, stamp.checkMigration = .error cause ↔ stamp.Barred cause) ∧
    (∀ cause, stamp.Barred cause →
      Ledger.migrate store request = ⟨.error (.refused cause), store⟩) ∧
    (stamp.checkMigration = .ok () →
      (∃ response left, Ledger.migrate store request = ⟨.ok response, left⟩) ∨
        ∃ cost, Ledger.migrate store request =
          ⟨.error (.refused (.missingOnboardingDenom cost)), store⟩) ∧
    (∀ response left, Ledger.migrate store request = ⟨.ok response, left⟩ →
      left.get? Key.stamp =
        some (Json.encode (⟨"payable-registry-contract", "0.3.0"⟩ : Stamp))) ∧
    (∀ (requests : List Migration) v, Version.parse stamp.version = .ok v →
      ∃ left w, (store.afterAll (requests.map .migrate)).records.stamp = .ok left ∧
        Version.parse left.version = .ok w ∧ v.isAbove w = false) := by
  have checks : stamp.checkMigration = .ok () ↔ stamp.contract = "payable-registry-contract" ∧
      ∃ v, Version.parse stamp.version = .ok v ∧ ¬ v.isAbove (.release 0 3 0) := by
    simp only [Version.isAbove_release_iff_exceeds]
    exact Stamp.checkMigration_eq_ok_iff
  refine ⟨checks, fun v => Version.isAbove_release_iff_exceeds,
    fun cause => Stamp.checkMigration_eq_error_iff,
    fun cause => Ledger.migrate_of_barred valid stamped,
    fun checked => Ledger.migrate_of_checked valid stamped checked configured, ?_, ?_⟩
  · intro response left migrates
    obtain ⟨config, change, _, _, rfl⟩ := Ledger.migrate_eq_ok_iff.1 migrates
    exact Store.get?_set_self _ _ _
  · intro requests v reads
    have upgrades : store.Upgrades stamp := ⟨⟨config, configured⟩, .inl stamped⟩
    exact (upgrades.migrations requests).not_isAbove reads

theorem Store.configuration_apply_stamp (store : Store) (stamp : Stamp) :
    (store.apply (.stamp stamp)).records.configuration = store.records.configuration := by
  have same : (store.apply (.stamp stamp)).records.configuration? =
      store.records.configuration? :=
    load?_congr (get?_set_of_ne _ _ Key.configuration_ne_stamp.symm)
  rw [Records.configuration, same]
  rfl

/-- With the numbers of the running version and no pre-release, a stamp with build metadata is
above. -/
theorem migration_gate_build_metadata :
    let stamp : Stamp := ⟨"payable-registry-contract", "0.3.0+hotfix"⟩
    let store := (Store.empty.install freeConfiguration).apply (.stamp stamp)
    Ledger.migrate store chargingMigration =
      ⟨.error (.refused (.newerVersion "0.3.0+hotfix" "0.3.0")), store⟩ := by
  intro stamp store
  have configured : store.records.configuration = .ok freeConfiguration :=
    (Store.configuration_apply_stamp _ stamp).trans (Store.configuration_install _ _)
  have stamped : store.records.stamp = .ok stamp := Store.stamp_apply_stamp _ stamp
  have reads : Version.parse stamp.version = .ok ⟨0, 3, 0, "", "hotfix"⟩ := by decide +kernel
  have barred : stamp.Barred (.newerVersion "0.3.0+hotfix" "0.3.0") :=
    .newer rfl reads (.inr ⟨rfl, rfl, by decide⟩)
  obtain ⟨-, -, -, refuses, -⟩ :=
    migration_gate_exact configured stamped (by decide : chargingMigration.validate = .ok ())
  exact refuses _ barred

end PayableLedger
