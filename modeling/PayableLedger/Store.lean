import Std.Data.ExtTreeMap

set_option autoImplicit false

namespace PayableLedger

abbrev Key := List UInt8

structure Store where
  entries : Std.ExtTreeMap Key String
deriving DecidableEq

namespace Store

def empty : Store := ⟨∅⟩

def get? (store : Store) (key : Key) : Option String := store.entries[key]?

def set (store : Store) (key : Key) (value : String) : Store := ⟨store.entries.insert key value⟩

def erase (store : Store) (key : Key) : Store := ⟨store.entries.erase key⟩

@[ext] theorem ext {s t : Store} (same : ∀ key, s.get? key = t.get? key) : s = t := by
  cases s; cases t
  exact congrArg mk (Std.ExtTreeMap.ext_getElem? same)

@[simp] theorem get?_empty (key : Key) : empty.get? key = none := by
  simp [get?, empty]

theorem get?_set (store : Store) (key other : Key) (value : String) :
    (store.set key value).get? other = if key = other then some value else store.get? other := by
  simp [get?, set, Std.ExtTreeMap.getElem?_insert]

@[simp] theorem get?_set_self (store : Store) (key : Key) (value : String) :
    (store.set key value).get? key = some value := by
  simp [get?_set]

theorem get?_set_of_ne (store : Store) {key other : Key} (value : String) (apart : key ≠ other) :
    (store.set key value).get? other = store.get? other := by
  simp [get?_set, apart]

theorem get?_erase (store : Store) (key other : Key) :
    (store.erase key).get? other = if key = other then none else store.get? other := by
  simp [get?, erase, Std.ExtTreeMap.getElem?_erase]

theorem set_comm (store : Store) {key other : Key} (value value' : String) (apart : key ≠ other) :
    (store.set key value).set other value' = (store.set other value').set key value := by
  ext1 k
  simp only [get?_set]
  grind

theorem set_set (store : Store) (key : Key) (value value' : String) :
    (store.set key value).set key value' = store.set key value' := by
  ext1 k
  simp only [get?_set]
  grind

/-- The keys whose readings differ, with the readings afterwards. -/
def changes (before after : Store) : List (Key × Option String) :=
  let written := after.entries.toList.filter fun (key, value) => before.get? key != some value
  let removed := before.entries.toList.filter fun (key, _) => (after.get? key).isNone
  written.map (fun (key, value) => (key, some value)) ++ removed.map (fun (key, _) => (key, none))

theorem mem_changes {before after : Store} {key : Key} {reading : Option String} :
    (key, reading) ∈ changes before after ↔
      after.get? key = reading ∧ before.get? key ≠ reading := by
  simp only [changes, List.mem_append, List.mem_map, List.mem_filter, Prod.exists, Prod.mk.injEq,
    Std.ExtTreeMap.mem_toList_iff_getElem?_eq_some, get?]
  grind

end Store

namespace Key

def ofText (text : String) : Key := text.toByteArray.data.toList

theorem ofText_injective {a b : String} (same : ofText a = ofText b) : a = b := by
  rw [← String.toByteArray_inj]
  cases hA : a.toByteArray
  cases hB : b.toByteArray
  simp_all [ofText]

/-- The length of the name in two bytes, the name, and what tells its records apart. -/
def inSpace (name rest : Key) : Key :=
  UInt8.ofNat (name.length / 256) :: UInt8.ofNat name.length :: (name ++ rest)

def configurationSpace : Key := ofText "config_v2"

def payableSpace : Key := ofText "payable"

def scopeIndexSpace : Key := ofText "scope_payable_index"

def configuration : Key := inSpace configurationSpace []

def payable (uuid : String) : Key := inSpace payableSpace (ofText uuid)

def scopeIndex (scopeId : String) : Key := inSpace scopeIndexSpace (ofText scopeId)

/-- The stamp is the one record whose key has no length in front. -/
def stamp : Key := ofText "contract_info"

theorem configuration_eq : configuration = 0 :: 9 :: configurationSpace := by decide +kernel

theorem stamp_eq : stamp = 99 :: 111 :: stamp.drop 2 := by decide +kernel

theorem inSpace_payableSpace (rest : Key) :
    inSpace payableSpace rest = 0 :: 7 :: (payableSpace ++ rest) := by
  have length : payableSpace.length = 7 := by decide +kernel
  rw [inSpace, length]
  rfl

theorem payable_eq (uuid : String) : payable uuid = 0 :: 7 :: (payableSpace ++ ofText uuid) :=
  inSpace_payableSpace (ofText uuid)

theorem scopeIndex_eq (scopeId : String) :
    scopeIndex scopeId = 0 :: 19 :: (scopeIndexSpace ++ ofText scopeId) := by
  have length : scopeIndexSpace.length = 19 := by decide +kernel
  rw [scopeIndex, inSpace, length]
  rfl

theorem payable_ne_configuration (uuid : String) : payable uuid ≠ configuration := by
  simp [payable_eq, configuration_eq]

theorem scopeIndex_ne_configuration (scopeId : String) : scopeIndex scopeId ≠ configuration := by
  simp [scopeIndex_eq, configuration_eq]

theorem payable_ne_scopeIndex (uuid scopeId : String) : payable uuid ≠ scopeIndex scopeId := by
  simp [payable_eq, scopeIndex_eq]

theorem payable_ne_stamp (uuid : String) : payable uuid ≠ stamp := by
  rw [payable_eq, stamp_eq]
  simp

theorem scopeIndex_ne_stamp (scopeId : String) : scopeIndex scopeId ≠ stamp := by
  rw [scopeIndex_eq, stamp_eq]
  simp

theorem configuration_ne_stamp : configuration ≠ stamp := by decide +kernel

theorem payable_injective {u v : String} (same : payable u = payable v) : u = v := by
  apply ofText_injective
  simpa [payable, inSpace] using same

theorem scopeIndex_injective {s t : String} (same : scopeIndex s = scopeIndex t) : s = t := by
  apply ofText_injective
  simpa [scopeIndex, inSpace] using same

end Key

end PayableLedger
