import GpsHal.Core.ReportHistory
import Mathlib.Data.Prod.Basic

/-!
# `SystemStatus` : the kinds of reports

The reports that `setIteminReport` stores, kind by kind, with the data that they carry and the fields
that their `equals` compares.  Only the network state is collated.  A `float` and a `double` are equal
as numbers, so that one that is not a number equals nothing.

## Main definitions

* `Ieee` : the floating-point formats, with their `==`.
* `Kind` : the kinds; `Kind.report` : their `equals` and `collate`.
* `Kind.Complete` : the kinds whose `equals` compares everything.

## Main results

* `Kind.report_history_iff` : when the history of a kind is as expected in a run.
* `Kind.run_right_of_complete` : it always is for a complete kind.
-/

namespace GpsHal

/-- A number in a format with so many bits of exponent and fraction. -/
structure Ieee (exponent fraction : ℕ) where
  bits : BitVec (1 + exponent + fraction)
  deriving DecidableEq, Repr

namespace Ieee

variable {e f : ℕ} (a b : Ieee e f)

/-- Not a number. -/
def isNaN : Bool :=
  a.bits.extractLsb' f e == BitVec.allOnes e && a.bits.extractLsb' 0 f != 0

/-- One of the two zeros. -/
def isZero : Bool := a.bits.extractLsb' 0 (f + e) == 0

instance : BEq (Ieee e f) where
  beq a b := !a.isNaN && !b.isNaN && (a.bits == b.bits || a.isZero && b.isZero)

end Ieee

abbrev CFloat := Ieee 8 23
abbrev CDouble := Ieee 11 52

theorem prod_beq {α β : Type} [BEq α] [BEq β] {a b : α} {c d : β} :
    ((a, c) == (b, d)) = (a == b && c == d) := rfl

/-- A kind that is not collated, whose `equals` compares the fields `compared`. -/
def ReportKind.comparing (α : Type) {β γ : Type} [BEq α] [BEq β] [BEq γ] (compared : α → β)
    (leftOut : α → γ) (same_eq : ∀ a b, (a == b) =
      ((compared a == compared b) && (leftOut a == leftOut b))) : ReportKind where
  Item := α
  equals a b := compared a == compared b
  collate s _ := some s
  same a b := a == b
  leftOut a b := leftOut a == leftOut b
  same_eq := same_eq

/-! ### Debug reports -/

structure SystemStatusTimeAndClock where
  mGpsWeek : BitVec 16
  mGpsTowMs : BitVec 32
  mTimeValid : BitVec 8
  mTimeSource : BitVec 8
  mTimeUnc : BitVec 32
  mClockFreqBias : BitVec 32
  mClockFreqBiasUnc : BitVec 32
  mLeapSeconds : BitVec 32
  mLeapSecUnc : BitVec 32
  mTimeUncNs : BitVec 64
  deriving BEq

def SystemStatusTimeAndClock.kind : ReportKind :=
  .comparing SystemStatusTimeAndClock (fun s => (s.mGpsWeek, s.mGpsTowMs, s.mTimeValid,
    s.mTimeSource, s.mTimeUnc, s.mClockFreqBias, s.mClockFreqBiasUnc, s.mLeapSeconds,
    s.mLeapSecUnc, s.mTimeUncNs)) (fun _ => ())
    fun _ _ => (Bool.and_true _).symm

structure SystemStatusXoState where
  mXoState : BitVec 8
  deriving BEq

def SystemStatusXoState.kind : ReportKind :=
  .comparing SystemStatusXoState (·.mXoState) (fun _ => ())
    fun _ _ => (Bool.and_true _).symm

structure SystemStatusRfAndParams where
  mPgaGain : BitVec 32
  mGpsBpAmpI : BitVec 32
  mGpsBpAmpQ : BitVec 32
  mAdcI : BitVec 32
  mAdcQ : BitVec 32
  mJammerGps : BitVec 32
  mJammerGlo : BitVec 32
  mJammerBds : BitVec 32
  mJammerGal : BitVec 32
  mAgcGps : CDouble
  mAgcGlo : CDouble
  mAgcBds : CDouble
  mAgcGal : CDouble
  mGloBpAmpI : BitVec 32
  mGloBpAmpQ : BitVec 32
  mBdsBpAmpI : BitVec 32
  mBdsBpAmpQ : BitVec 32
  mGalBpAmpI : BitVec 32
  mGalBpAmpQ : BitVec 32
  deriving BEq

def SystemStatusRfAndParams.kind : ReportKind :=
  .comparing SystemStatusRfAndParams (fun s => (s.mPgaGain, s.mGpsBpAmpI, s.mGpsBpAmpQ, s.mAdcI,
    s.mAdcQ, s.mJammerGps, s.mJammerGlo, s.mJammerBds, s.mJammerGal, s.mAgcGps, s.mAgcGlo,
    s.mAgcBds, s.mAgcGal, s.mGloBpAmpI, s.mGloBpAmpQ, s.mBdsBpAmpI, s.mBdsBpAmpQ, s.mGalBpAmpI,
    s.mGalBpAmpQ)) (fun _ => ())
    fun _ _ => (Bool.and_true _).symm

structure SystemStatusErrRecovery where
  mRecErrorRecovery : BitVec 32
  deriving BEq

def SystemStatusErrRecovery.kind : ReportKind :=
  .comparing SystemStatusErrRecovery (·.mRecErrorRecovery) (fun _ => ())
    fun _ _ => (Bool.and_true _).symm

structure SystemStatusInjectedPosition where
  mEpiValidity : BitVec 8
  mEpiLat : CFloat
  mEpiLon : CFloat
  mEpiAlt : CFloat
  mEpiHepe : CFloat
  mEpiAltUnc : CFloat
  mEpiSrc : BitVec 8
  deriving BEq

def SystemStatusInjectedPosition.kind : ReportKind :=
  .comparing SystemStatusInjectedPosition (fun s => (s.mEpiValidity, s.mEpiLat, s.mEpiLon,
    s.mEpiAlt, s.mEpiHepe, s.mEpiAltUnc, s.mEpiSrc)) (fun _ => ())
    fun _ _ => (Bool.and_true _).symm

structure SystemStatusBestPosition where
  mValid : Bool
  mBestLat : CFloat
  mBestLon : CFloat
  mBestAlt : CFloat
  mBestHepe : CFloat
  mBestAltUnc : CFloat
  deriving BEq

def SystemStatusBestPosition.kind : ReportKind :=
  .comparing SystemStatusBestPosition (fun s => (s.mBestLat, s.mBestLon, s.mBestAlt, s.mBestHepe,
    s.mBestAltUnc)) (·.mValid)
    fun a b => by
      change (_ && _) = _
      simp only [prod_beq]
      ac_rfl

structure SystemStatusXtra where
  mXtraValidMask : BitVec 8
  mGpsXtraAge : BitVec 32
  mGloXtraAge : BitVec 32
  mBdsXtraAge : BitVec 32
  mGalXtraAge : BitVec 32
  mQzssXtraAge : BitVec 32
  mNavicXtraAge : BitVec 32
  mGpsXtraValid : BitVec 32
  mGloXtraValid : BitVec 32
  mBdsXtraValid : BitVec 64
  mGalXtraValid : BitVec 64
  mQzssXtraValid : BitVec 8
  mNavicXtraValid : BitVec 32
  deriving BEq

def SystemStatusXtra.kind : ReportKind :=
  .comparing SystemStatusXtra (fun s => (s.mXtraValidMask, s.mGpsXtraAge, s.mGloXtraAge,
    s.mBdsXtraAge, s.mGalXtraAge, s.mQzssXtraAge, s.mNavicXtraAge, s.mGpsXtraValid,
    s.mGloXtraValid, s.mBdsXtraValid, s.mGalXtraValid, s.mQzssXtraValid, s.mNavicXtraValid)) (fun
    _ => ())
    fun _ _ => (Bool.and_true _).symm

structure SystemStatusEphemeris where
  mGpsEpheValid : BitVec 32
  mGloEpheValid : BitVec 32
  mBdsEpheValid : BitVec 64
  mGalEpheValid : BitVec 64
  mQzssEpheValid : BitVec 8
  deriving BEq

def SystemStatusEphemeris.kind : ReportKind :=
  .comparing SystemStatusEphemeris (fun s => (s.mGpsEpheValid, s.mGloEpheValid, s.mBdsEpheValid,
    s.mGalEpheValid, s.mQzssEpheValid)) (fun _ => ())
    fun _ _ => (Bool.and_true _).symm

structure SystemStatusSvHealth where
  mGpsUnknownMask : BitVec 32
  mGloUnknownMask : BitVec 32
  mBdsUnknownMask : BitVec 64
  mGalUnknownMask : BitVec 64
  mQzssUnknownMask : BitVec 8
  mNavicUnknownMask : BitVec 32
  mGpsGoodMask : BitVec 32
  mGloGoodMask : BitVec 32
  mBdsGoodMask : BitVec 64
  mGalGoodMask : BitVec 64
  mQzssGoodMask : BitVec 8
  mNavicGoodMask : BitVec 32
  mGpsBadMask : BitVec 32
  mGloBadMask : BitVec 32
  mBdsBadMask : BitVec 64
  mGalBadMask : BitVec 64
  mQzssBadMask : BitVec 8
  mNavicBadMask : BitVec 32
  deriving BEq

def SystemStatusSvHealth.kind : ReportKind :=
  .comparing SystemStatusSvHealth (fun s => (s.mGpsUnknownMask, s.mGloUnknownMask,
    s.mBdsUnknownMask, s.mGalUnknownMask, s.mQzssUnknownMask, s.mGpsGoodMask, s.mGloGoodMask,
    s.mBdsGoodMask, s.mGalGoodMask, s.mQzssGoodMask, s.mGpsBadMask, s.mGloBadMask, s.mBdsBadMask,
    s.mGalBadMask, s.mQzssBadMask)) (fun s => (s.mNavicUnknownMask, s.mNavicGoodMask,
    s.mNavicBadMask))
    fun a b => by
      change (_ && _) = _
      simp only [prod_beq]
      ac_rfl

structure SystemStatusPdr where
  mFixInfoMask : BitVec 32
  deriving BEq

def SystemStatusPdr.kind : ReportKind :=
  .comparing SystemStatusPdr (·.mFixInfoMask) (fun _ => ())
    fun _ _ => (Bool.and_true _).symm

structure SystemStatusNav where
  mType : BitVec 32
  mSource : BitVec 32
  mAgeSec : BitVec 32
  deriving BEq

/-- The array `mNav` has `SV_ALL_NUM` elements. -/
structure SystemStatusNavData where
  mNav : List SystemStatusNav
  length_mNav : mNav.length = 148

instance : BEq SystemStatusNavData := ⟨fun s peer => s.mNav == peer.mNav⟩

def SystemStatusNavData.kind : ReportKind :=
  .comparing SystemStatusNavData (·.mNav) (fun _ => ())
    fun _ _ => (Bool.and_true _).symm

structure SystemStatusPositionFailure where
  mFixInfoMask : BitVec 32
  mHepeLimit : BitVec 32
  deriving BEq

def SystemStatusPositionFailure.kind : ReportKind :=
  .comparing SystemStatusPositionFailure (fun s => (s.mFixInfoMask, s.mHepeLimit)) (fun _ => ())
    fun _ _ => (Bool.and_true _).symm

/-! ### The position -/

/-- The position that has been reported.  `E` is what it has besides: speed, bearing, accuracy and
the rest of `mLocation`, and `mLocationEx`. -/
structure SystemStatusLocation (E : Type) where
  latitude : CDouble
  longitude : CDouble
  altitude : CDouble
  mValid : Bool
  others : E
  deriving BEq

def SystemStatusLocation.kind (E : Type) [BEq E] : ReportKind :=
  .comparing (SystemStatusLocation E) (fun s => (s.latitude, s.longitude, s.altitude))
    (fun s => (s.mValid, s.others))
    fun a b => by
      change (_ && _) = _
      simp only [prod_beq]
      ac_rfl

/-! ### Data items -/

structure SystemStatusAirplaneMode where
  mMode : Bool
  deriving BEq

def SystemStatusAirplaneMode.kind : ReportKind :=
  .comparing SystemStatusAirplaneMode (·.mMode) (fun _ => ())
    fun _ _ => (Bool.and_true _).symm

structure SystemStatusENH where
  mEnabled : Bool
  deriving BEq

def SystemStatusENH.kind : ReportKind :=
  .comparing SystemStatusENH (·.mEnabled) (fun _ => ())
    fun _ _ => (Bool.and_true _).symm

structure SystemStatusGpsState where
  mEnabled : Bool
  deriving BEq

def SystemStatusGpsState.kind : ReportKind :=
  .comparing SystemStatusGpsState (·.mEnabled) (fun _ => ())
    fun _ _ => (Bool.and_true _).symm

structure SystemStatusNLPStatus where
  mEnabled : Bool
  deriving BEq

def SystemStatusNLPStatus.kind : ReportKind :=
  .comparing SystemStatusNLPStatus (·.mEnabled) (fun _ => ())
    fun _ _ => (Bool.and_true _).symm

structure SystemStatusWifiHardwareState where
  mEnabled : Bool
  deriving BEq

def SystemStatusWifiHardwareState.kind : ReportKind :=
  .comparing SystemStatusWifiHardwareState (·.mEnabled) (fun _ => ())
    fun _ _ => (Bool.and_true _).symm

structure SystemStatusAssistedGps where
  mEnabled : Bool
  deriving BEq

def SystemStatusAssistedGps.kind : ReportKind :=
  .comparing SystemStatusAssistedGps (·.mEnabled) (fun _ => ())
    fun _ _ => (Bool.and_true _).symm

structure SystemStatusScreenState where
  mState : Bool
  deriving BEq

def SystemStatusScreenState.kind : ReportKind :=
  .comparing SystemStatusScreenState (·.mState) (fun _ => ())
    fun _ _ => (Bool.and_true _).symm

structure SystemStatusPowerConnectState where
  mState : Bool
  deriving BEq

def SystemStatusPowerConnectState.kind : ReportKind :=
  .comparing SystemStatusPowerConnectState (·.mState) (fun _ => ())
    fun _ _ => (Bool.and_true _).symm

structure SystemStatusShutdownState where
  mState : Bool
  deriving BEq

def SystemStatusShutdownState.kind : ReportKind :=
  .comparing SystemStatusShutdownState (·.mState) (fun _ => ())
    fun _ _ => (Bool.and_true _).symm

structure SystemStatusServiceStatus where
  mServiceState : BitVec 32
  deriving BEq

def SystemStatusServiceStatus.kind : ReportKind :=
  .comparing SystemStatusServiceStatus (·.mServiceState) (fun _ => ())
    fun _ _ => (Bool.and_true _).symm

structure SystemStatusModel where
  mModel : String
  deriving BEq

def SystemStatusModel.kind : ReportKind :=
  .comparing SystemStatusModel (·.mModel) (fun _ => ())
    fun _ _ => (Bool.and_true _).symm

structure SystemStatusManufacturer where
  mManufacturer : String
  deriving BEq

def SystemStatusManufacturer.kind : ReportKind :=
  .comparing SystemStatusManufacturer (·.mManufacturer) (fun _ => ())
    fun _ _ => (Bool.and_true _).symm

structure SystemStatusTac where
  mValue : String
  deriving BEq

def SystemStatusTac.kind : ReportKind :=
  .comparing SystemStatusTac (·.mValue) (fun _ => ())
    fun _ _ => (Bool.and_true _).symm

structure SystemStatusMccMnc where
  mValue : String
  deriving BEq

def SystemStatusMccMnc.kind : ReportKind :=
  .comparing SystemStatusMccMnc (·.mValue) (fun _ => ())
    fun _ _ => (Bool.and_true _).symm

/-- `mData` is a pointer, and it is the pointers that are compared. -/
structure SystemStatusServiceInfo where
  mData : ℕ
  deriving BEq

def SystemStatusServiceInfo.kind : ReportKind :=
  .comparing SystemStatusServiceInfo (·.mData) (fun _ => ())
    fun _ _ => (Bool.and_true _).symm

structure SystemStatusRilCellInfo where
  mData : ℕ
  deriving BEq

def SystemStatusRilCellInfo.kind : ReportKind :=
  .comparing SystemStatusRilCellInfo (·.mData) (fun _ => ())
    fun _ _ => (Bool.and_true _).symm

structure SystemStatusTimeZoneChange where
  mCurrTimeMillis : BitVec 64
  mRawOffsetTZ : BitVec 32
  mDstOffsetTZ : BitVec 32
  deriving BEq

def SystemStatusTimeZoneChange.kind : ReportKind :=
  .comparing SystemStatusTimeZoneChange (fun s => (s.mCurrTimeMillis, s.mRawOffsetTZ,
    s.mDstOffsetTZ)) (fun _ => ())
    fun _ _ => (Bool.and_true _).symm

structure SystemStatusTimeChange where
  mCurrTimeMillis : BitVec 64
  mRawOffsetTZ : BitVec 32
  mDstOffsetTZ : BitVec 32
  deriving BEq

def SystemStatusTimeChange.kind : ReportKind :=
  .comparing SystemStatusTimeChange (fun s => (s.mCurrTimeMillis, s.mRawOffsetTZ, s.mDstOffsetTZ))
    (fun _ => ())
    fun _ _ => (Bool.and_true _).symm

structure SystemStatusWifiSupplicantStatus where
  mState : BitVec 32
  mApMacAddressValid : Bool
  mApMacAddress : BitVec 48
  mWifiApSsidValid : Bool
  mWifiApSsid : String
  deriving BEq

def SystemStatusWifiSupplicantStatus.kind : ReportKind :=
  .comparing SystemStatusWifiSupplicantStatus (fun s => (s.mState, s.mApMacAddressValid,
    s.mWifiApSsidValid, s.mWifiApSsid)) (·.mApMacAddress)
    fun a b => by
      change (_ && _) = _
      simp only [prod_beq]
      ac_rfl

/-- `SrnDeviceScanDetailsDataItemBase` -/
structure SrnDeviceScanDetails where
  mValidSrnData : Bool
  mApSrnRssi : BitVec 32
  mApSrnMacAddress : BitVec 48
  mApSrnTimestamp : BitVec 64
  mRequestTimestamp : BitVec 64
  mReceiveTimestamp : BitVec 64
  mErrorCause : BitVec 32
  deriving BEq

/-- The two kinds of scans have the same `equals`. -/
def SrnDeviceScanDetails.kind : ReportKind :=
  .comparing SrnDeviceScanDetails (fun s => (s.mApSrnRssi, s.mApSrnMacAddress, s.mApSrnTimestamp, s.mRequestTimestamp,
    s.mReceiveTimestamp)) (fun s => (s.mValidSrnData, s.mErrorCause))
    fun a b => by
      change (_ && _) = _
      simp only [prod_beq]
      ac_rfl

def SystemStatusBtDeviceScanDetail.kind : ReportKind := SrnDeviceScanDetails.kind

def SystemStatusBtleDeviceScanDetail.kind : ReportKind := SrnDeviceScanDetails.kind

/-- `SystemStatusNetworkInfo` with the members that the collation leaves alone. -/
structure NetworkInfoReport extends SystemStatusNetworkInfo where
  mTypeName : String
  mSubTypeName : String
  mAvailable : Bool
  mRoaming : Bool
  deriving DecidableEq

/-- `equals` compares the tables only, after the report has been collated. -/
def SystemStatusNetworkInfo.kind : ReportKind where
  Item := NetworkInfoReport
  equals a b := a.toSystemStatusNetworkInfo.equals b.toSystemStatusNetworkInfo
  collate s curInfo := (s.toSystemStatusNetworkInfo.collate curInfo.toSystemStatusNetworkInfo).map
    fun info => { s with toSystemStatusNetworkInfo := info }
  same a b := decide (a = b)
  leftOut a b := decide (a.mAllTypes = b.mAllTypes ∧ a.mType = b.mType ∧
    a.mConnected = b.mConnected ∧ a.mNetworkHandle = b.mNetworkHandle ∧
    a.mTypeName = b.mTypeName ∧ a.mSubTypeName = b.mSubTypeName ∧ a.mAvailable = b.mAvailable ∧
    a.mRoaming = b.mRoaming)
  same_eq a b := by
    obtain ⟨⟨_, _, _, ⟨_, _⟩, _⟩, _, _, _, _⟩ := a
    obtain ⟨⟨_, _, _, ⟨_, _⟩, _⟩, _, _, _, _⟩ := b
    rw [Bool.eq_iff_iff]
    simp only [SystemStatusNetworkInfo.equals, Bool.and_eq_true, beq_iff_eq, decide_eq_true_eq,
      NetworkInfoReport.mk.injEq, SystemStatusNetworkInfo.mk.injEq, Subtype.mk.injEq]
    tauto

/-! ### All kinds -/

/-- The vectors of `SystemStatusReports`. -/
inductive Kind where
  | Location | TimeAndClock | XoState | RfAndParams | ErrRecovery | InjectedPosition
  | BestPosition | Xtra | Ephemeris | SvHealth | Pdr | NavData | PositionFailure | AirplaneMode
  | ENH | GPSState | NLPStatus | WifiHardwareState | NetworkInfo | RilServiceInfo | RilCellInfo
  | ServiceStatus | Model | Manufacturer | AssistedGps | ScreenState | PowerConnectState
  | TimeZoneChange | TimeChange | WifiSupplicantStatus | ShutdownState | Tac | MccMnc
  | BtDeviceScanDetail | BtLeDeviceScanDetail
  deriving DecidableEq, Repr

namespace Kind

/-- The reports of a kind. -/
def report (E : Type) [BEq E] : Kind → ReportKind
  | .Location => SystemStatusLocation.kind E
  | .TimeAndClock => SystemStatusTimeAndClock.kind
  | .XoState => SystemStatusXoState.kind
  | .RfAndParams => SystemStatusRfAndParams.kind
  | .ErrRecovery => SystemStatusErrRecovery.kind
  | .InjectedPosition => SystemStatusInjectedPosition.kind
  | .BestPosition => SystemStatusBestPosition.kind
  | .Xtra => SystemStatusXtra.kind
  | .Ephemeris => SystemStatusEphemeris.kind
  | .SvHealth => SystemStatusSvHealth.kind
  | .Pdr => SystemStatusPdr.kind
  | .NavData => SystemStatusNavData.kind
  | .PositionFailure => SystemStatusPositionFailure.kind
  | .AirplaneMode => SystemStatusAirplaneMode.kind
  | .ENH => SystemStatusENH.kind
  | .GPSState => SystemStatusGpsState.kind
  | .NLPStatus => SystemStatusNLPStatus.kind
  | .WifiHardwareState => SystemStatusWifiHardwareState.kind
  | .NetworkInfo => SystemStatusNetworkInfo.kind
  | .RilServiceInfo => SystemStatusServiceInfo.kind
  | .RilCellInfo => SystemStatusRilCellInfo.kind
  | .ServiceStatus => SystemStatusServiceStatus.kind
  | .Model => SystemStatusModel.kind
  | .Manufacturer => SystemStatusManufacturer.kind
  | .AssistedGps => SystemStatusAssistedGps.kind
  | .ScreenState => SystemStatusScreenState.kind
  | .PowerConnectState => SystemStatusPowerConnectState.kind
  | .TimeZoneChange => SystemStatusTimeZoneChange.kind
  | .TimeChange => SystemStatusTimeChange.kind
  | .WifiSupplicantStatus => SystemStatusWifiSupplicantStatus.kind
  | .ShutdownState => SystemStatusShutdownState.kind
  | .Tac => SystemStatusTac.kind
  | .MccMnc => SystemStatusMccMnc.kind
  | .BtDeviceScanDetail => SystemStatusBtDeviceScanDetail.kind
  | .BtLeDeviceScanDetail => SystemStatusBtleDeviceScanDetail.kind

/-- The kinds whose `equals` compares all that is carried. -/
def Complete : Kind → Prop
  | .TimeAndClock | .XoState | .RfAndParams | .ErrRecovery | .InjectedPosition | .Xtra
  | .Ephemeris | .Pdr | .NavData | .PositionFailure | .AirplaneMode | .ENH | .GPSState
  | .NLPStatus | .WifiHardwareState | .RilServiceInfo | .RilCellInfo | .ServiceStatus
  | .Model | .Manufacturer | .AssistedGps | .ScreenState | .PowerConnectState
  | .TimeZoneChange | .TimeChange | .ShutdownState | .Tac | .MccMnc => True
  | .Location | .BestPosition | .SvHealth | .NetworkInfo | .WifiSupplicantStatus
  | .BtDeviceScanDetail | .BtLeDeviceScanDetail => False

variable {E : Type} [BEq E] {kind : Kind}

/-- A complete kind leaves nothing out. -/
theorem leftOut_of_complete (h : kind.Complete) (a b : (kind.report E).Item) :
    (kind.report E).leftOut a b = true := by
  cases kind with
  | TimeAndClock | XoState | RfAndParams | ErrRecovery | InjectedPosition | Xtra | Ephemeris
  | Pdr | NavData | PositionFailure | AirplaneMode | ENH | GPSState | NLPStatus
  | WifiHardwareState | RilServiceInfo | RilCellInfo | ServiceStatus | Model | Manufacturer
  | AssistedGps | ScreenState | PowerConnectState | TimeZoneChange | TimeChange
  | ShutdownState | Tac | MccMnc => rfl
  | Location | BestPosition | SvHealth | NetworkInfo | WifiSupplicantStatus
  | BtDeviceScanDetail | BtLeDeviceScanDetail => exact h.elim

/-- The history of a complete kind is as expected in every run. -/
theorem run_right_of_complete (h : kind.Complete)
    {es : List (SystemStatusItem (kind.report E).Item)} {c : ReportCache (kind.report E)}
    (hrun : (ReportCache.system (kind.report E)).Run System.Free es c) :
    (ReportCache.system (kind.report E)).Run ReportCache.Right es c :=
  ReportCache.run_history_iff.2
    (hrun.mono fun _ _ _ _ _ _ _ _ => leftOut_of_complete h _ _)

/-- The health of the satellites of one constellation, the others all being well. -/
def navicHealth (mNavicBadMask : BitVec 32) : SystemStatusItem (report Unit .SvHealth).Item :=
  ⟨.zero, .zero, SystemStatusSvHealth.mk 0 0 0 0 0 0 0 0 0 0 0 0 0 0 0 0 0 mNavicBadMask⟩

/-- The first report of it has been stored. -/
def navicCache : ReportCache (report Unit .SvHealth) :=
  ⟨[navicHealth 0], [(navicHealth 0).carried]⟩

end Kind

end GpsHal
