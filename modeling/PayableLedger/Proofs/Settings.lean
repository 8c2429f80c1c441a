import PayableLedger.Proofs.Effect

set_option autoImplicit false

namespace PayableLedger

/-- The settings that validation lets through. -/
structure Configuration.Sound (config : Configuration) : Prop where
  named : config.name ≠ ""
  feePercent_le (percent : Decimal) (takes : config.feePercent = some percent) :
    percent.atomics ≤ Decimal.unit
  paired (cost : Amount) (charges : config.onboardingCost = some cost) :
    ∃ denom, config.onboardingDenom = some denom
  feeCollector_ne : config.feeCollector ≠ some ""
  onboardingDenom_ne : config.onboardingDenom ≠ some ""

theorem Migration.exists_denom_of_checkPaired {config : Configuration} {cost : Amount}
    (paired : checkPaired config = .ok ()) (charges : config.onboardingCost = some cost) :
    ∃ denom, config.onboardingDenom = some denom := by
  cases charged : config.onboardingDenom with
  | some denom => exact ⟨denom, rfl⟩
  | none =>
    simp only [checkPaired, Configuration.unpairedCost?, charged, charges, Option.isNone_none,
      if_true] at paired
    cases paired

theorem Overlay.new_or_old {α : Type} {new old : Option α} {a : α}
    (overlaid : (new <|> old) = some a) : new = some a ∨ old = some a := by
  cases new with
  | none => exact .inr overlaid
  | some b => exact .inl overlaid

theorem Decimal.times?_of_le {percent : Decimal} (le : percent.atomics ≤ unit) (amount : Amount) :
    ∃ part, percent.times? amount = some part ∧ part.units ≤ amount.units := by
  have within : amount.units * percent.atomics / unit ≤ amount.units := by
    apply Nat.div_le_of_le_mul
    rw [Nat.mul_comm unit]
    exact Nat.mul_le_mul_left _ le
  have inRange := Nat.lt_of_le_of_lt within amount.units_lt
  exact ⟨⟨_, inRange⟩, Amount.ofNat?_eq_some_iff.2 rfl, within⟩

/-- No fee is taken that exceeds what it is taken from. -/
def Configuration.Moderate (config : Configuration) : Prop :=
  ∀ collector percent, config.feeCollector = some collector → config.feePercent = some percent →
    percent.atomics ≤ Decimal.unit

theorem Configuration.Moderate.splitFee {config : Configuration} (moderate : config.Moderate)
    (amount : Amount) : ∃ division, config.splitFee amount = .ok division := by
  unfold Configuration.splitFee
  cases collects : config.feeCollector with
  | none => exact ⟨_, rfl⟩
  | some collector =>
    cases takes : config.feePercent with
    | none => exact ⟨_, rfl⟩
    | some percent =>
      have le := moderate collector percent collects takes
      obtain ⟨fee, part, within⟩ := Decimal.times?_of_le le amount
      have rest : amount.sub? fee = some (amount.minus fee) := by
        rw [Amount.sub?, if_pos within]
      simp only [part, rest]
      exact ⟨_, rfl⟩

namespace Configuration.Sound

variable {config : Configuration}

theorem moderate (sound : config.Sound) : config.Moderate :=
  fun _ percent _ takes => sound.feePercent_le percent takes

theorem splitFee (sound : config.Sound) (amount : Amount) :
    ∃ division, config.splitFee amount = .ok division :=
  sound.moderate.splitFee amount

theorem of_instantiation {request : Instantiation} (valid : request.validate = .ok ())
    (settings : request.configuration = .ok config) : config.Sound := by
  obtain ⟨named, collector, _, denom, percent, paired⟩ := Instantiation.validate_eq_ok_iff.1 valid
  obtain ⟨cost?, readable, rfl⟩ := Instantiation.configuration_eq_ok_iff.1 settings
  refine ⟨named, percent, ?_, collector, denom⟩
  rintro cost rfl
  cases charged : request.onboardingDenom with
  | some denom => exact ⟨denom, rfl⟩
  | none =>
    rw [paired charged] at readable
    cases readable

/-- Sound settings are still sound when a migration has changed some of them. What comes from the
request was validated, and the pairing of cost and denomination is checked on the result. -/
theorem overlay (sound : config.Sound) {request : Migration} {change : Overlay}
    (valid : request.validate = .ok ()) (changes : request.toOverlay = .ok change)
    (paired : Migration.checkPaired (config.overlay change) = .ok ()) :
    (config.overlay change).Sound := by
  obtain ⟨collector, _, denom, percent⟩ := Migration.validate_eq_ok_iff.1 valid
  obtain ⟨cost?, _, rfl⟩ := Migration.toOverlay_eq_ok_iff.1 changes
  constructor
  · exact sound.named
  · intro fee takes
    rcases Overlay.new_or_old takes with new | old
    · exact percent fee new
    · exact sound.feePercent_le fee old
  · intro cost charges
    exact Migration.exists_denom_of_checkPaired paired charges
  · intro blank
    rcases Overlay.new_or_old blank with new | old
    · exact collector new
    · exact sound.feeCollector_ne old
  · intro blank
    rcases Overlay.new_or_old blank with new | old
    · exact denom new
    · exact sound.onboardingDenom_ne old

end Configuration.Sound

/-- A change that stores nothing but sound settings and the running program's stamp. -/
def Change.Sound : Change → Prop
  | .configuration config => config.Sound
  | .stamp written => written = .running
  | .payable _ => True
  | .indexed _ _ => True

namespace Book

structure Sound (book : Book) : Prop where
  configuration (config : Configuration) (configured : book.configuration? = some config) :
    config.Sound
  stamp (stamp : Stamp) (stamped : book.stamp? = some stamp) : stamp = .running

theorem sound_empty : empty.Sound where
  configuration _ configured := by cases configured
  stamp _ stamped := by cases stamped

theorem Sound.apply {book : Book} (sound : book.Sound) {change : Change} (kept : change.Sound) :
    (book.apply change).Sound := by
  cases change with
  | configuration config =>
    refine ⟨?_, sound.stamp⟩
    rintro _ ⟨⟩
    exact kept
  | stamp stamp =>
    refine ⟨sound.configuration, ?_⟩
    rintro _ ⟨⟩
    exact kept
  | payable payable => exact ⟨sound.configuration, sound.stamp⟩
  | indexed scopeId uuid => exact ⟨sound.configuration, sound.stamp⟩

theorem Sound.applyAll {book : Book} (sound : book.Sound) {changes : List Change}
    (kept : ∀ change ∈ changes, change.Sound) : (book.applyAll changes).Sound := by
  induction changes generalizing book with
  | nil => exact sound
  | cons change rest ih =>
    rw [List.forall_mem_cons] at kept
    exact ih (sound.apply kept.1) kept.2

/-- From a sound book on, a call makes sound changes only, even where it fails half-way. -/
theorem Sound.changes {book : Book} (sound : book.Sound) {entry : Entry} {effect : Effect}
    (yields : Entry.Yields book.records entry effect) :
    ∀ change ∈ effect.changes, change.Sound := by
  cases yields with
  | refused => simp
  | unbound valid free settings unbound =>
    simp [Change.Sound, Configuration.Sound.of_instantiation valid settings]
  | instantiated valid free settings binds =>
    simp [Change.Sound, Configuration.Sound.of_instantiation valid settings]
  | registered => simp [Change.Sound]
  | approved => simp [Change.Sound]
  | paid => simp [Change.Sound]
  | migrated valid stamped checked changes configured paired =>
    rw [configuration_records_eq_ok_iff] at configured
    simp [Change.Sound, (sound.configuration _ configured).overlay valid changes paired]
  | answered => simp

theorem Sound.perform {book : Book} (sound : book.Sound) (entry : Entry) :
    (book.perform entry).Sound :=
  sound.applyAll (sound.changes (entry.yields_effect book.records))

theorem sound_after (entries : List Entry) : (after entries).Sound := by
  induction entries using List.reverseRecOn with
  | nil => exact sound_empty
  | append_singleton entries entry ih =>
    rw [after_concat]
    exact ih.perform entry

end Book

end PayableLedger
