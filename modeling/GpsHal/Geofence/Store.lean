import GpsHal.Location.DataTypes
import GpsHal.Util.OrdMap
import Mathlib.Data.Prod.Lex

/-!
# `GeofenceAdapter` : the saved geofences

The engine knows a geofence by a hardware id, its client by an id of the client.  The adapter keeps
what it knows of each geofence under the hardware id, and the hardware id under the client and its
id.

## Main definitions

* `GeofenceStore` : `mGeofences` and `mGeofenceIds`, with the functions that read and write them.
-/

namespace GpsHal

structure GeofenceKey where
  client : ℕ
  id : BitVec 32
  deriving DecidableEq, Repr

namespace GeofenceKey

/-- The keys in the order of `operator <`. -/
def lex (key : GeofenceKey) : ℕ ×ₗ ℕ := toLex (key.id.toNat, key.client)

theorem lex_injective : Function.Injective lex := by
  rintro ⟨client, id⟩ ⟨client', id'⟩ h
  have hpair := Prod.mk.inj (toLex.injective h)
  obtain rfl := BitVec.eq_of_toNat_eq hpair.1
  obtain rfl := hpair.2
  rfl

instance : LinearOrder GeofenceKey := LinearOrder.lift' lex lex_injective

end GeofenceKey

structure GeofenceObject where
  key : GeofenceKey
  breachMask : BitVec 32
  responsiveness : BitVec 32
  dwellTime : BitVec 32
  latitude : BitVec 64
  longitude : BitVec 64
  radius : BitVec 64
  paused : Bool
  deriving DecidableEq, Repr

/-- map of hwId to GeofenceObject -/
abbrev GeofencesMap := OrdMap (BitVec 32) GeofenceObject

/-- map of GeofenceKey to hwId -/
abbrev GeofenceIdMap := OrdMap GeofenceKey (BitVec 32)

/-- The two maps of `GeofenceAdapter`. -/
structure GeofenceStore where
  mGeofences : GeofencesMap
  mGeofenceIds : GeofenceIdMap

namespace GeofenceStore

def empty : GeofenceStore := ⟨∅, ∅⟩

variable (s : GeofenceStore)

def getHwIdFromClient (client : ℕ) (clientId : BitVec 32) : Option (BitVec 32) :=
  s.mGeofenceIds.find ⟨client, clientId⟩

def getGeofenceKeyFromHwId (hwId : BitVec 32) : Option GeofenceKey :=
  (s.mGeofences.find hwId).map (·.key)

/-- The object that `saveGeofenceItem` makes. -/
def newObject (key : GeofenceKey) (options : GeofenceOption) (info : GeofenceInfo) :
    GeofenceObject where
  key := key
  breachMask := options.breachTypeMask
  responsiveness := options.responsiveness
  dwellTime := options.dwellTime
  latitude := info.latitude
  longitude := info.longitude
  radius := info.radius
  paused := false

def saveGeofenceItem (client : ℕ) (clientId hwId : BitVec 32) (options : GeofenceOption)
    (info : GeofenceInfo) : GeofenceStore :=
  let key : GeofenceKey := ⟨client, clientId⟩
  { mGeofences := s.mGeofences.insert hwId (newObject key options info)
    mGeofenceIds := s.mGeofenceIds.insert key hwId }

section

variable (client : ℕ) (clientId hwId : BitVec 32) (options : GeofenceOption) (info : GeofenceInfo)

theorem mGeofences_saveGeofenceItem :
    (s.saveGeofenceItem client clientId hwId options info).mGeofences =
      s.mGeofences.insert hwId (newObject ⟨client, clientId⟩ options info) := rfl

theorem mGeofenceIds_saveGeofenceItem :
    (s.saveGeofenceItem client clientId hwId options info).mGeofenceIds =
      s.mGeofenceIds.insert ⟨client, clientId⟩ hwId := rfl

end

def removeGeofenceItem (hwId : BitVec 32) : GeofenceStore :=
  match s.getGeofenceKeyFromHwId hwId with
  | none => s
  | some key =>
    match s.mGeofenceIds.find key with
    | none => s
    | some _ => { mGeofences := s.mGeofences.erase hwId, mGeofenceIds := s.mGeofenceIds.erase key }

/-- A geofence that `mGeofenceIds` has is removed from both maps. -/
theorem removeGeofenceItem_of_find {hwId hwId' : BitVec 32} {object : GeofenceObject}
    (hobject : s.mGeofences.find hwId = some object)
    (hkey : s.mGeofenceIds.find object.key = some hwId') :
    s.removeGeofenceItem hwId =
      ⟨s.mGeofences.erase hwId, s.mGeofenceIds.erase object.key⟩ := by
  simp only [removeGeofenceItem, getGeofenceKeyFromHwId, hobject, Option.map_some, hkey]

/-- Nothing happens to one that `mGeofenceIds` does not have. -/
theorem removeGeofenceItem_of_unknown {hwId : BitVec 32}
    (hunknown : ∀ object, s.mGeofences.find hwId = some object →
      s.mGeofenceIds.find object.key = none) : s.removeGeofenceItem hwId = s := by
  cases hobject : s.mGeofences.find hwId with
  | none => simp only [removeGeofenceItem, getGeofenceKeyFromHwId, hobject, Option.map_none]
  | some object =>
    simp only [removeGeofenceItem, getGeofenceKeyFromHwId, hobject, Option.map_some,
      hunknown object hobject]

/-- Change the object of a hardware id, if there is one. -/
def updateItem (hwId : BitVec 32) (f : GeofenceObject → GeofenceObject) : GeofenceStore :=
  match s.mGeofences.find hwId with
  | some object => { s with mGeofences := s.mGeofences.insert hwId (f object) }
  | none => s

@[simp] theorem mGeofenceIds_updateItem (hwId : BitVec 32) (f : GeofenceObject → GeofenceObject) :
    (s.updateItem hwId f).mGeofenceIds = s.mGeofenceIds := by
  unfold updateItem
  split <;> rfl

theorem find_updateItem (hwId hwId' : BitVec 32) (f : GeofenceObject → GeofenceObject) :
    (s.updateItem hwId f).mGeofences.find hwId' =
      if hwId' = hwId then (s.mGeofences.find hwId').map f else s.mGeofences.find hwId' := by
  unfold updateItem
  split
  next object hobject =>
    rw [OrdMap.find_insert]
    split_ifs with h
    · rw [h, hobject, Option.map_some]
    · rfl
  next hnone =>
    split_ifs with h
    · rw [h, hnone, Option.map_none]
    · rfl

def pauseGeofenceItem (hwId : BitVec 32) : GeofenceStore :=
  s.updateItem hwId fun object => { object with paused := true }

def resumeGeofenceItem (hwId : BitVec 32) : GeofenceStore :=
  s.updateItem hwId fun object => { object with paused := false }

/-- `object` with other options. -/
def modifyObject (options : GeofenceOption) (object : GeofenceObject) : GeofenceObject :=
  { object with
    breachMask := options.breachTypeMask
    responsiveness := options.responsiveness
    dwellTime := options.dwellTime }

def modifyGeofenceItem (hwId : BitVec 32) (options : GeofenceOption) : GeofenceStore :=
  s.updateItem hwId (modifyObject options)

end GeofenceStore

end GpsHal
