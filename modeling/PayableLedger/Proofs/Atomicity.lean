import PayableLedger.Proofs.Effect

set_option autoImplicit false

namespace PayableLedger

/-- The request is in order and brings no funds, and yet its name cannot be bound to the address. -/
def Instantiation.Unbindable (request : Instantiation) (address : String) (call : Call) : Prop :=
  request.validate = .ok () ∧ call.funds = [] ∧
    (Text.isBlank request.name = true ∨ Text.isBlank address = true)

/-- Calls that fail in the middle, after their first write. -/
def Entry.Unbindable : Entry → Prop
  | .instantiate address call request => request.Unbindable address call
  | _ => False

namespace Entry

/-- A failing call changes nothing, or it stores the settings of an instantiation that binds no
name. -/
theorem changes_of_failed {records : Records} {entry : Entry} {effect : Effect}
    {failure : Failure} (yields : Yields records entry effect)
    (failed : effect.answer = .error failure) : effect.changes = [] ∨ entry.Unbindable := by
  cases yields with
  | refused => exact .inl rfl
  | unbound valid free settings unbound =>
    obtain ⟨blank, _⟩ := Instantiation.bindName_eq_error_iff.1 unbound
    exact .inr ⟨valid, free, blank⟩
  | _ => cases failed

theorem store_of_failed {store : Store} {entry : Entry} {failure : Failure}
    (failed : (entry.perform store).answer = .error failure) (bindable : ¬ entry.Unbindable) :
    (entry.perform store).store = store := by
  rw [entry.perform_eq] at failed ⊢
  have unchanged : (entry.effect store.records).changes = [] :=
    (changes_of_failed (entry.yields_effect store.records) failed).resolve_right bindable
  rw [unchanged]
  rfl

end Entry

theorem Instantiation.Unbindable.perform_eq {request : Instantiation} {address : String}
    {call : Call} (unbindable : request.Unbindable address call) {config : Configuration}
    (settings : request.configuration = .ok config) (store : Store) :
    (Entry.instantiate address call request).perform store =
      ⟨.error (.refused (if Text.isBlank request.name then .blankName else .blankAddress)),
        store.save Key.configuration config⟩ := by
  obtain ⟨valid, free, blank⟩ := unbindable
  have unbound := Instantiation.bindName_eq_error_iff.2 ⟨blank, rfl⟩
  simp only [Entry.perform, Ledger.instantiate, Store.whenValid, valid,
    Ledger.carryOutInstantiation, Instantiation.perform_procedure, Instantiation.carryOut, free,
    settings, unbound]
  rfl

/-- Whatever the storage holds, a call that fails leaves it as it was, whichever entry point was
called and however it failed. The one exception is an instantiation that is valid and free of funds
but has a blank name or address: it fails when the name is bound, its settings are stored by then,
and nothing else has changed. -/
theorem failed_call_keeps_storage (store : Store) :
    (∀ entry failure, (Entry.perform store entry).answer = .error failure → ¬ entry.Unbindable →
      (entry.perform store).store = store) ∧
      ∀ address call (request : Instantiation), request.Unbindable address call →
        ∃ config, request.configuration = .ok config ∧
          (Entry.instantiate address call request).perform store =
            ⟨.error (.refused (if Text.isBlank request.name then .blankName else .blankAddress)),
              store.save Key.configuration config⟩ ∧
          ∀ key, key ≠ Key.configuration →
            (store.save Key.configuration config).get? key = store.get? key := by
  constructor
  · intro entry failure failed bindable
    exact Entry.store_of_failed failed bindable
  · intro address call request unbindable
    obtain ⟨config, settings⟩ := Instantiation.exists_configuration unbindable.1
    refine ⟨config, settings, unbindable.perform_eq settings store, ?_⟩
    intro key apart
    exact Store.get?_set_of_ne store _ apart.symm

/-- A name that is there, as validation asks, but made of white space. -/
def blankInstantiation : Instantiation := ⟨" ", none, none, none, none, none⟩

theorem failed_call_keeps_storage_blankName :
    ((Entry.query .state).perform .empty).store = .empty ∧
      (Entry.instantiate "contract" ⟨"admin", []⟩ blankInstantiation).perform .empty =
        ⟨.error (.refused .blankName),
          Store.empty.save Key.configuration
            (⟨" ", none, none, false, none, none⟩ : Configuration)⟩ := by
  obtain ⟨kept, settled⟩ := failed_call_keeps_storage .empty
  constructor
  · exact kept (.query .state) (.refused .configurationMissing) (by decide +kernel) id
  · have unbindable : blankInstantiation.Unbindable "contract" ⟨"admin", []⟩ :=
      ⟨rfl, rfl, .inl (by decide)⟩
    obtain ⟨config, settings, performs, _⟩ := settled _ _ _ unbindable
    cases settings
    exact performs

end PayableLedger
