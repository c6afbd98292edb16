import Mathlib.Data.BitVec
import Mathlib.Data.Prod.Lex

/-!
# `LocationDataTypes.h`

The types that the clients of the location API and its adapters share, as far as several modules
use them, and the key under which the adapters save a session.
-/

namespace GpsHal

inductive LocationError where
  | SUCCESS
  | GENERAL_FAILURE
  | CALLBACK_MISSING
  | INVALID_PARAMETER
  | ID_EXISTS
  | ID_UNKNOWN
  | ALREADY_STARTED
  | GEOFENCES_AT_MAX
  | NOT_SUPPORTED
  deriving DecidableEq, Repr

inductive GnssSuplMode where
  | STANDALONE | MSB | MSA
  deriving DecidableEq, Repr

/-- `struct LocationSessionKey` -/
structure LocationSessionKey where
  client : ℕ
  id : ℕ
  deriving DecidableEq, Repr

namespace LocationSessionKey

/-- The keys in the order of `operator <`. -/
def lex (key : LocationSessionKey) : ℕ ×ₗ ℕ := toLex (key.id, key.client)

theorem lex_injective : Function.Injective lex := by
  rintro ⟨client, id⟩ ⟨client', id'⟩ h
  cases toLex.injective h
  rfl

instance : LinearOrder LocationSessionKey := LinearOrder.lift' lex lex_injective

theorem lt_iff {left right : LocationSessionKey} :
    left < right ↔ left.id < right.id ∨ left.id = right.id ∧ left.client < right.client :=
  Prod.Lex.lt_iff

end LocationSessionKey

inductive BatchingMode where
  | ROUTINE | TRIP | NO_AUTO_REPORT
  deriving DecidableEq, Repr

/-- `struct BatchingOptions` -/
structure BatchingOptions where
  size : ℕ
  minInterval : ℕ
  minDistance : ℕ
  mode : GnssSuplMode
  locReqEngTypeMask : ℕ
  batchingMode : BatchingMode
  deriving DecidableEq, Repr

def GEOFENCE_BREACH_ENTER_BIT : BitVec 32 := 1 <<< 0
def GEOFENCE_BREACH_EXIT_BIT : BitVec 32 := 1 <<< 1

inductive GeofenceBreachType where
  | ENTER | EXIT | DWELL_IN | DWELL_OUT | UNKNOWN
  deriving DecidableEq, Repr

/-- `struct GeofenceOption` -/
structure GeofenceOption where
  size : ℕ
  breachTypeMask : BitVec 32
  responsiveness : BitVec 32
  dwellTime : BitVec 32
  deriving DecidableEq, Repr

/-- `struct GeofenceInfo`; the numbers are doubles, of which only the bits matter here. -/
structure GeofenceInfo where
  size : ℕ
  latitude : BitVec 64
  longitude : BitVec 64
  radius : BitVec 64
  deriving DecidableEq, Repr

/-- `UNSET` is the zero of a cleared structure; no version has this value. -/
inductive GnssConfigSuplVersion where
  | UNSET | V1_0_0 | V2_0_0 | V2_0_2
  deriving DecidableEq, Repr

inductive GnssConfigLppProfile where
  | RRLP_ON_LTE | USER_PLANE | CONTROL_PLANE | USER_PLANE_AND_CONTROL_PLANE
  deriving DecidableEq, Repr

inductive GnssConfigEmergencyPdnForEmergencySupl where
  | NO | YES
  deriving DecidableEq, Repr

inductive GnssConfigSuplEmergencyServices where
  | NO | YES
  deriving DecidableEq, Repr

inductive GnssAssistanceType where
  | SUPL | C2K | SUPL_EIMS | SUPL_IMS
  deriving DecidableEq, Repr

/-- `struct GnssConfigSetAssistanceServer`; `hostName` may be `NULL`. -/
structure GnssConfigSetAssistanceServer where
  size : ℕ
  type : GnssAssistanceType
  hostName : Option String
  port : BitVec 32
  deriving DecidableEq, Repr

/-- `GnssConfigSetAssistanceServer::equals` -/
def GnssConfigSetAssistanceServer.equals (server config : GnssConfigSetAssistanceServer) : Bool :=
  config.type == server.type && config.port == server.port && config.hostName == server.hostName

end GpsHal
