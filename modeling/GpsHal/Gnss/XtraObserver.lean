import GpsHal.Core.NetworkInfo
import GpsHal.Gnss.GpsLock
import GpsHal.Transition.Basic
import GpsHal.Util.CNumber

/-!
# `XtraSystemStatusObserver` : the system status for the XTRA client

The observer keeps the GPS lock, the connections and the cell of the system, and sends texts about them
to the client of XTRA in another process: nothing before the client has asked for the status, then the
whole status if it asks for it, and each change (`gnss/XtraSystemStatusObserver.cpp`).

## Main definitions

* `NetworkInfoType.toString`, `NetworkInfoType.ofString` : network handles as texts
  (`core/data-items/DataItemConcreteTypesBase.h`).
* `XtraSystemStatusObserver.system` : updates, data items, texts of the client and messages in any order.
* `XtraView.read` : what can be learned from a text.

## Main results

* `NetworkInfoType.ofString_toString` : handles are read back.
* `XtraSystemStatusObserver.told_of_run` : what the client can learn is never out of date, and complete
  once the status has been sent.
-/

namespace GpsHal

/-- `endl` -/
def endl : Char := '\n'

/-- A number that is inserted into a stream. -/
def insertInt (n : ℤ) : List Char :=
  if n < 0 then '-' :: Nat.toDigits 10 n.natAbs else Nat.toDigits 10 n.natAbs

/-- A number that is extracted from a stream to an `int32_t`. -/
def extractInt (s : List Char) : ℤ := max (-2147483648) (min 2147483647 (strtol (s.map byte) 10))

/-- A number that is extracted from a stream to a `uint64_t`. -/
def extractUInt64 (s : List Char) : BitVec 64 := strtoull (s.map byte) 10

namespace NetworkInfoType

def sDelimit : Char := ':'

/-- The type is printed as an `unsigned`. -/
def toString (e : NetworkInfoType) : List Char :=
  Nat.toDigits 10 e.networkHandle.toNat ++
    sDelimit :: Nat.toDigits 10 (BitVec.ofInt 32 e.networkType).toNat

/-- The constructor from a string. -/
def ofString (strObj : List Char) : NetworkInfoType :=
  match strObj.dropWhile (· ≠ sDelimit) with
  | _ :: typeStr => ⟨extractUInt64 (strObj.takeWhile (· ≠ sDelimit)), extractInt typeStr⟩
  | [] => .unknown

end NetworkInfoType

/-! ### The observer -/

/-- What the observer keeps about the system. -/
structure XtraStatus where
  mGpsLock : BitVec 32
  mConnections : BitVec 64
  mNetworkHandle : HandleTable
  mTac : List Char
  mMccmnc : List Char
  mXtraThrottle : Bool
  mIsConnectivityStatusKnown : Bool

/-- The lines of the status. -/
def XtraStatus.respondStatus (s : XtraStatus) : List (List Char) :=
  "respondStatus".toList ::
    (if s.mGpsLock = -1 then [] else insertInt s.mGpsLock.toInt) ::
    (if s.mConnections = ~~~0 then [] else insertInt s.mConnections.toNat) ::
    (s.mNetworkHandle.1.map NetworkInfoType.toString ++
      [s.mTac, s.mMccmnc, insertInt (if s.mIsConnectivityStatusKnown then 1 else 0)])

/-- A data item; `other` has an id that the observer does not handle, with whether the factory creates an
item for it. -/
inductive XtraDataItem
  | networkInfo (allTypes : BitVec 64) (networkHandle : HandleTable)
  | tac (value : List Char)
  | mccmnc (value : List Char)
  | other (created : Bool)

/-- `HandleStatusRequestMsg` and `HandleOsObserverUpdateMsg`, the latter with the items it has copied. -/
inductive XtraMsg
  | statusRequest (xtraStatusUpdated : BitVec 32)
  | osObserverUpdate (mDataItemList : List XtraDataItem)

/-- The observer with its messages in the queue of the thread; `sent` is a record of the texts that have
been sent. -/
structure XtraSystemStatusObserver extends XtraStatus where
  mReqStatusReceived : Bool
  msgs : List XtraMsg
  sent : List (List Char)

inductive XtraEvent
  | updateLockStatus (lock : BitVec 32)
  | updateXtraThrottle (enabled : Bool)
  | notify (dlist : List XtraDataItem)
  /-- A text of the client arrives. -/
  | onReceive (data : List Char)
  /-- The delay timer expires. -/
  | timeOutCallback
  /-- The thread takes its next message. -/
  | process

/-- `!strncmp(data, "requestStatus", 13)` -/
def isRequestStatus (data : List Char) : Bool := data.take 13 == "requestStatus".toList

/-- The number in a text of the client, by the format `%*s %d`. -/
def xtraStatusUpdated (data : List Char) : BitVec 32 :=
  atoi (((data.map byte).dropWhile isspace).dropWhile fun c => !isspace c)

namespace XtraSystemStatusObserver

def init : XtraSystemStatusObserver where
  mGpsLock := -1
  mConnections := ~~~0
  mNetworkHandle := ⟨List.replicate MAX_NETWORK_HANDLES .unknown, rfl⟩
  mTac := []
  mMccmnc := []
  mXtraThrottle := true
  mIsConnectivityStatusKnown := false
  mReqStatusReceived := false
  msgs := []
  sent := []

variable (s : XtraSystemStatusObserver)

/-- `LocIpc::send` -/
def send (text : List Char) : XtraSystemStatusObserver := { s with sent := s.sent ++ [text] }

/-- The end of an update: nothing is sent before the status has been requested. -/
def sendUpdate (text : List Char) : XtraSystemStatusObserver :=
  if !s.mReqStatusReceived then s else s.send text

def updateLockStatus (lock : BitVec 32) : XtraSystemStatusObserver :=
  let s := { s with mGpsLock := lock &&& ~~~GNSS_CONFIG_GPS_LOCK_NI }
  s.sendUpdate ("gpslock".toList ++ ' ' :: insertInt s.mGpsLock.toInt)

def updateConnections (allConnections : BitVec 64) (networkHandleInfo : HandleTable) :
    XtraSystemStatusObserver :=
  let s := { s with
    mIsConnectivityStatusKnown := true
    mConnections := allConnections
    mNetworkHandle := networkHandleInfo }
  s.sendUpdate ([endl].intercalate ("connection".toList :: insertInt s.mConnections.toNat ::
    s.mNetworkHandle.1.map NetworkInfoType.toString))

/-- A string is printed up to its first NUL. -/
def updateTac (tac : List Char) : XtraSystemStatusObserver :=
  let s := { s with mTac := tac }
  s.sendUpdate ("tac".toList ++ ' ' :: tac.takeWhile (· ≠ Char.ofNat 0))

def updateMccMnc (mccmnc : List Char) : XtraSystemStatusObserver :=
  let s := { s with mMccmnc := mccmnc }
  s.sendUpdate ("mncmcc".toList ++ ' ' :: mccmnc.takeWhile (· ≠ Char.ofNat 0))

def updateXtraThrottle (enabled : Bool) : XtraSystemStatusObserver :=
  let s := { s with mXtraThrottle := enabled }
  s.sendUpdate ("xtrathrottle".toList ++ ' ' :: insertInt (if enabled then 1 else 0))

def onStatusRequested (xtraStatusUpdated : BitVec 32) : XtraSystemStatusObserver :=
  let s := { s with mReqStatusReceived := true }
  if xtraStatusUpdated ≠ 0 then s else s.send ([endl].intercalate s.respondStatus)

/-- The constructor of `HandleOsObserverUpdateMsg` copies the items, up to one that is not created. -/
def copyItems (dlist : List XtraDataItem) : List XtraDataItem :=
  dlist.takeWhile fun each => match each with
    | .other created => created
    | _ => true

def procItem (s : XtraSystemStatusObserver) : XtraDataItem → XtraSystemStatusObserver
  | .networkInfo allTypes networkHandle => s.updateConnections allTypes networkHandle
  | .tac value => s.updateTac value
  | .mccmnc value => s.updateMccMnc value
  | .other _ => s

def proc : XtraMsg → XtraSystemStatusObserver
  | .statusRequest xtraStatusUpdated => s.onStatusRequested xtraStatusUpdated
  | .osObserverUpdate mDataItemList => mDataItemList.foldl procItem s

def sendMsg (msg : XtraMsg) : XtraSystemStatusObserver := { s with msgs := s.msgs ++ [msg] }

def step : XtraEvent → XtraSystemStatusObserver
  | .updateLockStatus lock => s.updateLockStatus lock
  | .updateXtraThrottle enabled => s.updateXtraThrottle enabled
  | .notify dlist => s.sendMsg (.osObserverUpdate (copyItems dlist))
  | .onReceive data =>
    if isRequestStatus data then s.sendMsg (.statusRequest (xtraStatusUpdated data)) else s
  | .timeOutCallback => s.send ("halinit".toList ++ [Char.ofNat 0])
  | .process =>
    match s.msgs with
    | msg :: msgs => { s with msgs }.proc msg
    | [] => s

def system : System XtraSystemStatusObserver XtraEvent := .ofFun init step

end XtraSystemStatusObserver

/-! ### What can be learned -/

/-- What the client knows about the system, as far as it has been told. -/
structure XtraView where
  gpsLock : Option ℤ
  connections : Option (BitVec 64)
  networkHandles : Option (List NetworkInfoType)
  tac : Option (List Char)
  mccmnc : Option (List Char)
  xtraThrottle : Option Bool
  connectivityStatusKnown : Option Bool

namespace XtraView

def empty : XtraView := ⟨none, none, none, none, none, none, none⟩

variable (v : XtraView)

/-- A text of one line has a key and a value. -/
def readUpdate (line : List Char) : XtraView :=
  let key := line.takeWhile (· ≠ ' ')
  let value := (line.dropWhile (· ≠ ' ')).tail
  if key = "gpslock".toList then { v with gpsLock := some (extractInt value) }
  else if key = "tac".toList then { v with tac := some value }
  else if key = "mncmcc".toList then { v with mccmnc := some value }
  else if key = "xtrathrottle".toList then { v with xtraThrottle := some (extractInt value ≠ 0) }
  else v

/-- The lines behind `connection`. -/
def readConnections : List (List Char) → XtraView
  | connections :: handles =>
    { v with
      connections := some (extractUInt64 connections)
      networkHandles := some (handles.map NetworkInfoType.ofString)
      connectivityStatusKnown := some true }
  | [] => v

/-- The lines behind `respondStatus`. -/
def readStatus : List (List Char) → XtraView
  | gpsLock :: connections :: lines =>
    { v with
      gpsLock := some (if gpsLock = [] then -1 else extractInt gpsLock)
      connections := some (if connections = [] then ~~~0 else extractUInt64 connections)
      networkHandles := some ((lines.take MAX_NETWORK_HANDLES).map NetworkInfoType.ofString)
      tac := lines[MAX_NETWORK_HANDLES]?
      mccmnc := lines[MAX_NETWORK_HANDLES + 1]?
      connectivityStatusKnown := lines[MAX_NETWORK_HANDLES + 2]?.map fun known => extractInt known ≠ 0 }
  | _ => v

def read (text : List Char) : XtraView :=
  match text.splitOn endl with
  | [line] => v.readUpdate line
  | key :: lines =>
    if key = "connection".toList then v.readConnections lines
    else if key = "respondStatus".toList then v.readStatus lines
    else v
  | [] => v

/-- Nothing that the client knows is out of date. -/
structure Fresh (status : XtraStatus) : Prop where
  gpsLock : ∀ x ∈ v.gpsLock, x = status.mGpsLock.toInt
  connections : ∀ x ∈ v.connections, x = status.mConnections
  networkHandles : ∀ x ∈ v.networkHandles, x = status.mNetworkHandle.1
  tac : ∀ x ∈ v.tac, x = status.mTac
  mccmnc : ∀ x ∈ v.mccmnc, x = status.mMccmnc
  xtraThrottle : ∀ x ∈ v.xtraThrottle, x = status.mXtraThrottle
  connectivityStatusKnown : ∀ x ∈ v.connectivityStatusKnown, x = status.mIsConnectivityStatusKnown

/-- The client knows everything, except perhaps whether XTRA is throttled. -/
structure Complete : Prop where
  gpsLock : v.gpsLock.isSome
  connections : v.connections.isSome
  networkHandles : v.networkHandles.isSome
  tac : v.tac.isSome
  mccmnc : v.mccmnc.isSome
  connectivityStatusKnown : v.connectivityStatusKnown.isSome

end XtraView

/-- A string that can be told in a line. -/
def PlainText (s : List Char) : Prop := ∀ c ∈ s, c ≠ endl ∧ c ≠ Char.ofNat 0

/-- Handles whose types can be told. -/
def PlainHandles (handles : List NetworkInfoType) : Prop :=
  ∀ e ∈ handles, 0 ≤ e.networkType ∧ e.networkType < 2147483648

/-- The strings and handles of the status can be told. -/
structure XtraStatus.Plain (status : XtraStatus) : Prop where
  tac : PlainText status.mTac
  mccmnc : PlainText status.mMccmnc
  handles : PlainHandles status.mNetworkHandle.1

/-! ### Numbers and handles -/

theorem insertInt_ofNat (n : ℕ) : insertInt n = Nat.toDigits 10 n := by
  rw [insertInt, if_neg (by omega), Int.natAbs_natCast]

theorem mem_insertInt {n : ℤ} {c : Char} (hc : c ∈ insertInt n) : c = '-' ∨ c.isDigit = true := by
  rw [insertInt] at hc
  split at hc
  · exact (List.mem_cons.1 hc).imp_right (isDigit_toDigits c)
  · exact .inr (isDigit_toDigits c hc)

theorem insertInt_ne_nil (n : ℤ) : insertInt n ≠ [] := by
  rw [insertInt]
  split
  · exact List.cons_ne_nil _ _
  · exact Nat.toDigits_ne_nil

theorem endl_notMem_insertInt (n : ℤ) : endl ∉ insertInt n := fun h => by
  rcases mem_insertInt h with h | h <;> exact absurd h (by decide)

theorem extractInt_insertInt {n : ℤ} (hlow : -2147483648 ≤ n) (hhigh : n < 2147483648) :
    extractInt (insertInt n) = n := by
  rw [extractInt, insertInt]
  split
  · rw [strtol, readSigned_neg]
    dsimp only
    rw [if_pos rfl]
    omega
  · rw [strtol_toDigits (by omega)]
    omega

theorem extractInt_toInt (x : BitVec 32) : extractInt (insertInt x.toInt) = x.toInt :=
  extractInt_insertInt (by have := BitVec.le_toInt x; omega) (by have := BitVec.toInt_lt (x := x); omega)

theorem extractUInt64_toNat (x : BitVec 64) : extractUInt64 (insertInt x.toNat) = x := by
  rw [insertInt_ofNat, extractUInt64, strtoull_toDigits x.isLt, BitVec.ofNat_toNat, BitVec.setWidth_eq]

namespace NetworkInfoType

variable {e : NetworkInfoType}

theorem mem_toString {c : Char} (hc : c ∈ e.toString) : c = sDelimit ∨ c.isDigit = true := by
  rcases List.mem_append.1 hc with hc | hc
  · exact .inr (isDigit_toDigits c hc)
  · exact (List.mem_cons.1 hc).imp_right (isDigit_toDigits c)

/-- **Handles are read back**, if their types are not negative. -/
theorem ofString_toString (hlow : 0 ≤ e.networkType) (hhigh : e.networkType < 2147483648) :
    ofString e.toString = e := by
  have hdigits : ∀ c ∈ Nat.toDigits 10 e.networkHandle.toNat, decide (c ≠ sDelimit) = true := by
    rintro c hc
    refine decide_eq_true fun hdelimit => ?_
    exact absurd (hdelimit ▸ isDigit_toDigits c hc) (by decide)
  have htype : ((BitVec.ofInt 32 e.networkType).toNat : ℤ) = e.networkType := by
    rw [BitVec.toNat_ofInt]
    omega
  have hread : extractInt (Nat.toDigits 10 (BitVec.ofInt 32 e.networkType).toNat) = e.networkType := by
    rw [← insertInt_ofNat, htype]
    exact extractInt_insertInt (by omega) hhigh
  rw [ofString, toString, List.dropWhile_append_of_pos hdigits, List.takeWhile_append_of_pos hdigits,
    List.dropWhile_cons_of_neg (by decide), List.takeWhile_cons_of_neg (by decide), List.append_nil]
  dsimp only
  rw [hread, ← insertInt_ofNat, extractUInt64_toNat]

end NetworkInfoType

theorem endl_notMem_toString (e : NetworkInfoType) : endl ∉ e.toString := fun h => by
  rcases NetworkInfoType.mem_toString h with h | h <;> exact absurd h (by decide)

theorem map_ofString_toString {handles : List NetworkInfoType} (h : PlainHandles handles) :
    (handles.map NetworkInfoType.toString).map NetworkInfoType.ofString = handles := by
  rw [List.map_map]
  conv_rhs => rw [← List.map_id handles]
  exact List.map_congr_left fun e he => NetworkInfoType.ofString_toString (h e he).1 (h e he).2

/-! ### Texts are read back -/

namespace XtraView

variable (v : XtraView)

theorem read_line {line : List Char} (h : endl ∉ line) : v.read line = v.readUpdate line := by
  rw [read, List.splitOn_eq_singleton h]

theorem read_lines {key line : List Char} {lines : List (List Char)}
    (h : ∀ l ∈ key :: line :: lines, endl ∉ l) :
    v.read ([endl].intercalate (key :: line :: lines)) =
      if key = "connection".toList then v.readConnections (line :: lines)
      else if key = "respondStatus".toList then v.readStatus (line :: lines)
      else v := by
  rw [read, List.splitOn_intercalate endl h (List.cons_ne_nil _ _)]

theorem read_keyValue (key : List Char) {value : List Char} (hkey : ' ' ∉ key ∧ endl ∉ key)
    (hvalue : endl ∉ value) :
    v.read (key ++ ' ' :: value) =
      if key = "gpslock".toList then { v with gpsLock := some (extractInt value) }
      else if key = "tac".toList then { v with tac := some value }
      else if key = "mncmcc".toList then { v with mccmnc := some value }
      else if key = "xtrathrottle".toList then { v with xtraThrottle := some (extractInt value ≠ 0) }
      else v := by
  have hpos : ∀ c ∈ key, decide (c ≠ ' ') = true := fun c hc =>
    decide_eq_true fun heq => hkey.1 (heq ▸ hc)
  have hline : endl ∉ key ++ ' ' :: value := by
    rw [List.mem_append, List.mem_cons]
    exact not_or.2 ⟨hkey.2, not_or.2 ⟨by decide, hvalue⟩⟩
  rw [v.read_line hline, readUpdate, List.takeWhile_append_of_pos hpos,
    List.dropWhile_append_of_pos hpos, List.takeWhile_cons_of_neg (by decide),
    List.dropWhile_cons_of_neg (by decide), List.append_nil]
  rfl

theorem read_gpslock (lock : BitVec 32) : v.read ("gpslock".toList ++ ' ' :: insertInt lock.toInt) =
    { v with gpsLock := some lock.toInt } := by
  rw [v.read_keyValue _ (by decide) (endl_notMem_insertInt _), if_pos rfl, extractInt_toInt]

/-- A string that is printed up to its first NUL. -/
theorem takeWhile_plain {text : List Char} (h : PlainText text) :
    text.takeWhile (· ≠ Char.ofNat 0) = text :=
  List.takeWhile_eq_self_iff.2 fun c hc => decide_eq_true (h c hc).2

theorem endl_notMem_plain {text : List Char} (h : PlainText text) : endl ∉ text :=
  fun hmem => (h endl hmem).1 rfl

theorem read_tac {tac : List Char} (h : PlainText tac) :
    v.read ("tac".toList ++ ' ' :: tac.takeWhile (· ≠ Char.ofNat 0)) = { v with tac := some tac } := by
  rw [takeWhile_plain h, v.read_keyValue _ (by decide) (endl_notMem_plain h), if_neg (by decide),
    if_pos rfl]

theorem read_mncmcc {mccmnc : List Char} (h : PlainText mccmnc) :
    v.read ("mncmcc".toList ++ ' ' :: mccmnc.takeWhile (· ≠ Char.ofNat 0)) =
      { v with mccmnc := some mccmnc } := by
  rw [takeWhile_plain h, v.read_keyValue _ (by decide) (endl_notMem_plain h), if_neg (by decide),
    if_neg (by decide), if_pos rfl]

theorem read_xtrathrottle (enabled : Bool) :
    v.read ("xtrathrottle".toList ++ ' ' :: insertInt (if enabled then 1 else 0)) =
      { v with xtraThrottle := some enabled } := by
  rw [v.read_keyValue _ (by decide) (endl_notMem_insertInt _), if_neg (by decide), if_neg (by decide),
    if_neg (by decide), if_pos rfl]
  cases enabled <;> rfl

theorem read_connection (allConnections : BitVec 64) {handles : List NetworkInfoType}
    (h : PlainHandles handles) :
    v.read ([endl].intercalate ("connection".toList :: insertInt allConnections.toNat ::
      handles.map NetworkInfoType.toString)) =
      { v with
        connections := some allConnections
        networkHandles := some handles
        connectivityStatusKnown := some true } := by
  rw [v.read_lines, if_pos rfl, readConnections, extractUInt64_toNat, map_ofString_toString h]
  intro l hl
  rcases List.mem_cons.1 hl with rfl | hl
  · decide
  rcases List.mem_cons.1 hl with rfl | hl
  · exact endl_notMem_insertInt _
  · obtain ⟨e, -, rfl⟩ := List.mem_map.1 hl
    exact endl_notMem_toString e

theorem read_respondStatus {s : XtraStatus} (h : s.Plain) :
    v.read ([endl].intercalate s.respondStatus) =
      { gpsLock := some s.mGpsLock.toInt
        connections := some s.mConnections
        networkHandles := some s.mNetworkHandle.1
        tac := some s.mTac
        mccmnc := some s.mMccmnc
        xtraThrottle := v.xtraThrottle
        connectivityStatusKnown := some s.mIsConnectivityStatusKnown } := by
  have hlock : (if (if s.mGpsLock = -1 then [] else insertInt s.mGpsLock.toInt) = [] then -1
      else extractInt (if s.mGpsLock = -1 then [] else insertInt s.mGpsLock.toInt)) =
        s.mGpsLock.toInt := by
    by_cases hone : s.mGpsLock = -1
    · rw [if_pos hone, if_pos rfl, hone]
      rfl
    · rw [if_neg hone, if_neg (insertInt_ne_nil _), extractInt_toInt]
  have hconnections : (if (if s.mConnections = ~~~0 then [] else insertInt s.mConnections.toNat) = []
      then ~~~0 else extractUInt64 (if s.mConnections = ~~~0 then []
        else insertInt s.mConnections.toNat)) = s.mConnections := by
    by_cases hall : s.mConnections = ~~~0
    · rw [if_pos hall, if_pos rfl, hall]
    · rw [if_neg hall, if_neg (insertInt_ne_nil _), extractUInt64_toNat]
  have hlength : (s.mNetworkHandle.1.map NetworkInfoType.toString).length = MAX_NETWORK_HANDLES := by
    rw [List.length_map, s.mNetworkHandle.2]
  have hknown : (decide (extractInt (insertInt (if s.mIsConnectivityStatusKnown then 1 else 0)) ≠ 0)) =
      s.mIsConnectivityStatusKnown := by
    cases s.mIsConnectivityStatusKnown <;> rfl
  rw [XtraStatus.respondStatus, v.read_lines, if_neg (by decide), if_pos rfl, readStatus,
    hlock, hconnections, List.take_left' hlength, map_ofString_toString h.handles,
    List.getElem?_append_right (by omega), List.getElem?_append_right (by omega),
    List.getElem?_append_right (by omega), hlength, Nat.sub_self]
  · simp only [Nat.add_sub_cancel_left, List.getElem?_cons_zero, List.getElem?_cons_succ, Option.map_some,
      hknown]
  · have hempty {p : Prop} [Decidable p] (n : ℤ) : endl ∉ if p then [] else insertInt n := by
      split
      · exact List.not_mem_nil
      · exact endl_notMem_insertInt n
    simp only [List.forall_mem_cons, List.forall_mem_append, List.forall_mem_map, List.not_mem_nil,
      false_imp_iff, implies_true, and_true]
    exact ⟨by decide, hempty _, hempty _, fun e _ => endl_notMem_toString e, endl_notMem_plain h.tac,
      endl_notMem_plain h.mccmnc, endl_notMem_insertInt _⟩

end XtraView

/-! ### Runs -/

/-- The text is an answer to a request for the status. -/
def isResponse (text : List Char) : Bool := text.take 13 == "respondStatus".toList

def XtraDataItem.Plain : XtraDataItem → Prop
  | networkInfo _ networkHandle => PlainHandles networkHandle.1
  | tac value => PlainText value
  | mccmnc value => PlainText value
  | other _ => True

def XtraMsg.Plain : XtraMsg → Prop
  | statusRequest _ => True
  | osObserverUpdate mDataItemList => ∀ item ∈ mDataItemList, item.Plain

def XtraEvent.Plain : XtraEvent → Prop
  | notify dlist => ∀ item ∈ dlist, item.Plain
  | _ => True

/-- The client asks for the whole status. -/
def XtraMsg.asksStatus : XtraMsg → Bool
  | statusRequest xtraStatusUpdated => xtraStatusUpdated = 0
  | osObserverUpdate _ => false

def XtraEvent.asksStatus : XtraEvent → Bool
  | onReceive data => isRequestStatus data && decide (xtraStatusUpdated data = 0)
  | _ => false

namespace XtraSystemStatusObserver

variable {s s' : XtraSystemStatusObserver}

variable (s) in
/-- What the client can learn from the texts. -/
def view : XtraView := s.sent.foldl .read .empty

variable (s) in
/-- Answers that have been sent, and those to the requests in the queue. -/
def answers : ℕ := s.msgs.countP XtraMsg.asksStatus + s.sent.countP isResponse

structure Told (s : XtraSystemStatusObserver) : Prop where
  fresh : s.view.Fresh s.toXtraStatus
  complete : 0 < s.sent.countP isResponse → s.view.Complete
  quiet : s.mReqStatusReceived = false → ∀ text ∈ s.sent, text = "halinit".toList ++ [Char.ofNat 0]
  plain : s.toXtraStatus.Plain
  queued : ∀ msg ∈ s.msgs, msg.Plain

theorem view_send (text : List Char) : (s.send text).view = s.view.read text := by
  rw [view, send, List.foldl_append]
  rfl

theorem read_halinit (v : XtraView) : v.read ("halinit".toList ++ [Char.ofNat 0]) = v := by
  rw [v.read_line (by decide)]
  rfl

/-- Nothing has been told yet. -/
theorem Told.view_quiet (h : s.Told) (hreq : s.mReqStatusReceived = false) : s.view = .empty := by
  have hfold : ∀ l : List (List Char), (∀ text ∈ l, text = "halinit".toList ++ [Char.ofNat 0]) →
      ∀ v : XtraView, l.foldl .read v = v := by
    intro l hl
    induction l with
    | nil => exact fun _ => rfl
    | cons text l ih =>
      obtain ⟨htext, hl⟩ := List.forall_mem_cons.1 hl
      intro v
      rw [List.foldl_cons, htext, read_halinit, ih hl]
  exact hfold _ (h.quiet hreq) _

/-- An update of the status, which is told if the status has been requested. -/
theorem Told.update (h : s.Told) (status : XtraStatus) {text : List Char} (hplain : status.Plain)
    (hresponse : isResponse text = false)
    (hfresh : ∀ v : XtraView, v.Fresh s.toXtraStatus → (v.read text).Fresh status)
    (hcomplete : ∀ v : XtraView, v.Complete → (v.read text).Complete) :
    ({ s with toXtraStatus := status }.sendUpdate text).Told := by
  by_cases hreq : s.mReqStatusReceived = true
  · have hsend : { s with toXtraStatus := status }.sendUpdate text =
        { s with toXtraStatus := status }.send text := if_neg (by rw [hreq]; decide)
    rw [hsend]
    refine ⟨?_, fun hcount => ?_, fun hquiet => absurd (hreq.symm.trans hquiet) (by decide), hplain,
      h.queued⟩
    · rw [view_send]
      exact hfresh _ h.fresh
    · rw [view_send]
      refine hcomplete _ (h.complete ?_)
      change 0 < (s.sent ++ [text]).countP isResponse at hcount
      rwa [List.countP_append, List.countP_singleton, hresponse, if_neg (by decide), Nat.add_zero] at hcount
  · have hsame : { s with toXtraStatus := status }.sendUpdate text = { s with toXtraStatus := status } :=
      if_pos (by rw [Bool.eq_false_iff.2 hreq]; rfl)
    have hview : { s with toXtraStatus := status }.view = .empty :=
      h.view_quiet (Bool.eq_false_iff.2 hreq)
    rw [hsame]
    refine ⟨?_, h.complete, h.quiet, hplain, h.queued⟩
    rw [hview]
    constructor <;> exact fun x hx => absurd hx (by simp [XtraView.empty])

theorem isResponse_of_head {c : Char} {text : List Char} (hc : c ≠ 'r') : isResponse (c :: text) = false :=
  beq_eq_false_iff_ne.2 fun h => hc (List.cons.inj h).1

theorem Told.updateLockStatus (h : s.Told) (lock : BitVec 32) : (s.updateLockStatus lock).Told := by
  refine h.update { s.toXtraStatus with mGpsLock := lock &&& ~~~GNSS_CONFIG_GPS_LOCK_NI }
    ⟨h.plain.tac, h.plain.mccmnc, h.plain.handles⟩ (isResponse_of_head (by decide)) (fun v hv => ?_)
    fun v hv => ?_
  · rw [v.read_gpslock]
    exact { hv with gpsLock := fun x hx => (Option.some.inj hx).symm }
  · rw [v.read_gpslock]
    exact { hv with gpsLock := rfl }

theorem Told.updateConnections (h : s.Told) (allConnections : BitVec 64) {networkHandleInfo : HandleTable}
    (hhandles : PlainHandles networkHandleInfo.1) :
    (s.updateConnections allConnections networkHandleInfo).Told := by
  refine h.update { s.toXtraStatus with
      mIsConnectivityStatusKnown := true
      mConnections := allConnections
      mNetworkHandle := networkHandleInfo }
    ⟨h.plain.tac, h.plain.mccmnc, hhandles⟩ (isResponse_of_head (by decide)) (fun v hv => ?_)
    fun v hv => ?_
  · rw [v.read_connection _ hhandles]
    exact { hv with
      connections := fun x hx => (Option.some.inj hx).symm
      networkHandles := fun x hx => (Option.some.inj hx).symm
      connectivityStatusKnown := fun x hx => (Option.some.inj hx).symm }
  · rw [v.read_connection _ hhandles]
    exact { hv with connections := rfl, networkHandles := rfl, connectivityStatusKnown := rfl }

theorem Told.updateTac (h : s.Told) {tac : List Char} (htac : PlainText tac) : (s.updateTac tac).Told := by
  refine h.update { s.toXtraStatus with mTac := tac } ⟨htac, h.plain.mccmnc, h.plain.handles⟩
    (isResponse_of_head (by decide)) (fun v hv => ?_) fun v hv => ?_
  · rw [v.read_tac htac]
    exact { hv with tac := fun x hx => (Option.some.inj hx).symm }
  · rw [v.read_tac htac]
    exact { hv with tac := rfl }

theorem Told.updateMccMnc (h : s.Told) {mccmnc : List Char} (hmccmnc : PlainText mccmnc) :
    (s.updateMccMnc mccmnc).Told := by
  refine h.update { s.toXtraStatus with mMccmnc := mccmnc } ⟨h.plain.tac, hmccmnc, h.plain.handles⟩
    (isResponse_of_head (by decide)) (fun v hv => ?_) fun v hv => ?_
  · rw [v.read_mncmcc hmccmnc]
    exact { hv with mccmnc := fun x hx => (Option.some.inj hx).symm }
  · rw [v.read_mncmcc hmccmnc]
    exact { hv with mccmnc := rfl }

theorem Told.updateXtraThrottle (h : s.Told) (enabled : Bool) : (s.updateXtraThrottle enabled).Told := by
  refine h.update { s.toXtraStatus with mXtraThrottle := enabled }
    ⟨h.plain.tac, h.plain.mccmnc, h.plain.handles⟩ (isResponse_of_head (by decide)) (fun v hv => ?_)
    fun v hv => ?_
  · rw [v.read_xtrathrottle]
    exact { hv with xtraThrottle := fun x hx => (Option.some.inj hx).symm }
  · rw [v.read_xtrathrottle]
    exact { hv with }

theorem isResponse_respondStatus (status : XtraStatus) :
    isResponse ([endl].intercalate status.respondStatus) = true := by
  rw [XtraStatus.respondStatus, List.intercalate_cons_cons, isResponse, List.append_assoc]
  exact beq_iff_eq.2 (List.take_left' rfl)

theorem Told.onStatusRequested (h : s.Told) (xtraStatusUpdated : BitVec 32) :
    (s.onStatusRequested xtraStatusUpdated).Told := by
  have hread := s.view.read_respondStatus h.plain
  unfold XtraSystemStatusObserver.onStatusRequested
  dsimp only
  split
  · exact ⟨h.fresh, h.complete, fun hquiet => absurd hquiet.symm (by simp), h.plain, h.queued⟩
  · refine ⟨?_, fun _ => ?_, fun hquiet => absurd hquiet.symm (by simp [send]), h.plain, h.queued⟩
    · rw [view_send]
      change (s.view.read ([endl].intercalate s.toXtraStatus.respondStatus)).Fresh s.toXtraStatus
      rw [hread]
      exact {
        gpsLock := fun x hx => (Option.some.inj hx).symm
        connections := fun x hx => (Option.some.inj hx).symm
        networkHandles := fun x hx => (Option.some.inj hx).symm
        tac := fun x hx => (Option.some.inj hx).symm
        mccmnc := fun x hx => (Option.some.inj hx).symm
        xtraThrottle := h.fresh.xtraThrottle
        connectivityStatusKnown := fun x hx => (Option.some.inj hx).symm }
    · rw [view_send]
      change (s.view.read ([endl].intercalate s.toXtraStatus.respondStatus)).Complete
      rw [hread]
      exact ⟨rfl, rfl, rfl, rfl, rfl, rfl⟩

theorem Told.procItem (h : s.Told) {item : XtraDataItem} (hitem : item.Plain) : (s.procItem item).Told := by
  cases item with
  | networkInfo allTypes networkHandle => exact h.updateConnections allTypes hitem
  | tac value => exact h.updateTac hitem
  | mccmnc value => exact h.updateMccMnc hitem
  | other created => exact h

theorem Told.proc (h : s.Told) {msg : XtraMsg} (hmsg : msg.Plain) : (s.proc msg).Told := by
  cases msg with
  | statusRequest xtraStatusUpdated => exact h.onStatusRequested xtraStatusUpdated
  | osObserverUpdate mDataItemList =>
    have hitems : ∀ (l : List XtraDataItem) (s : XtraSystemStatusObserver), s.Told →
        (∀ item ∈ l, item.Plain) → (l.foldl XtraSystemStatusObserver.procItem s).Told := by
      intro l
      induction l with
      | nil => exact fun _ hs _ => hs
      | cons item l ih =>
        intro s hs hl
        obtain ⟨hitem, hl⟩ := List.forall_mem_cons.1 hl
        exact ih _ (hs.procItem hitem) hl
    exact hitems mDataItemList s h hmsg

theorem Told.sendMsg (h : s.Told) {msg : XtraMsg} (hmsg : msg.Plain) : (s.sendMsg msg).Told :=
  ⟨h.fresh, h.complete, h.quiet, h.plain,
    List.forall_mem_append.2 ⟨h.queued, List.forall_mem_singleton.2 hmsg⟩⟩

theorem Told.step (h : s.Told) {e : XtraEvent} (he : e.Plain) : (s.step e).Told := by
  cases e with
  | updateLockStatus lock => exact h.updateLockStatus lock
  | updateXtraThrottle enabled => exact h.updateXtraThrottle enabled
  | notify dlist => exact h.sendMsg fun item hitem => he item (List.takeWhile_subset _ hitem)
  | onReceive data =>
    unfold XtraSystemStatusObserver.step
    dsimp only
    split
    · exact h.sendMsg trivial
    · exact h
  | timeOutCallback =>
    refine ⟨?_, fun hcount => ?_, fun hquiet => ?_, h.plain, h.queued⟩
    · rw [XtraSystemStatusObserver.step, view_send, read_halinit]
      exact h.fresh
    · rw [XtraSystemStatusObserver.step, view_send, read_halinit]
      refine h.complete ?_
      change 0 < (s.sent ++ ["halinit".toList ++ [Char.ofNat 0]]).countP isResponse at hcount
      rwa [List.countP_append] at hcount
    · exact List.forall_mem_append.2 ⟨h.quiet hquiet, List.forall_mem_singleton.2 rfl⟩
  | process =>
    unfold XtraSystemStatusObserver.step
    dsimp only
    split
    next msg msgs hmsgs =>
      have hqueued := h.queued
      rw [hmsgs] at hqueued
      obtain ⟨hmsg, hmsgs⟩ := List.forall_mem_cons.1 hqueued
      have hrest : { s with msgs }.Told := ⟨h.fresh, h.complete, h.quiet, h.plain, hmsgs⟩
      exact hrest.proc hmsg
    next => exact h

/-! #### Answers -/

theorem answers_sendUpdate {text : List Char} (h : isResponse text = false) :
    (s.sendUpdate text).answers = s.answers := by
  rw [sendUpdate]
  split
  · rfl
  · rw [answers, answers, send, List.countP_append, List.countP_singleton, h, if_neg (by decide),
      Nat.add_zero]

theorem answers_procItem (s : XtraSystemStatusObserver) (item : XtraDataItem) :
    (s.procItem item).answers = s.answers := by
  cases item with
  | other created => rfl
  | networkInfo allTypes networkHandle => exact answers_sendUpdate (isResponse_of_head (by decide))
  | tac value => exact answers_sendUpdate (isResponse_of_head (by decide))
  | mccmnc value => exact answers_sendUpdate (isResponse_of_head (by decide))

theorem answers_proc (s : XtraSystemStatusObserver) (msg : XtraMsg) :
    (s.proc msg).answers = s.answers + if msg.asksStatus then 1 else 0 := by
  cases msg with
  | statusRequest xtraStatusUpdated =>
    rw [proc, onStatusRequested, XtraMsg.asksStatus]
    by_cases hzero : xtraStatusUpdated = 0
    · simp only [hzero, ne_eq, not_true_eq_false, if_false, decide_true, if_true, answers, send,
        List.countP_append, List.countP_singleton, isResponse_respondStatus, Nat.add_assoc]
    · simp only [hzero, ne_eq, not_false_eq_true, if_true, decide_false, Bool.false_eq_true, if_false,
        Nat.add_zero, answers]
  | osObserverUpdate mDataItemList =>
    change (mDataItemList.foldl procItem s).answers = s.answers
    induction mDataItemList generalizing s with
    | nil => rfl
    | cons item l ih => rw [List.foldl_cons, ih, answers_procItem]

theorem answers_sendMsg (s : XtraSystemStatusObserver) (msg : XtraMsg) :
    (s.sendMsg msg).answers = s.answers + if msg.asksStatus then 1 else 0 := by
  rw [answers, answers, sendMsg, List.countP_append, List.countP_singleton, Nat.add_right_comm]

/-- Each request for the status is answered once. -/
theorem answers_step (s : XtraSystemStatusObserver) (e : XtraEvent) :
    (s.step e).answers = s.answers + if e.asksStatus then 1 else 0 := by
  cases e with
  | updateLockStatus lock => exact answers_sendUpdate (isResponse_of_head (by decide))
  | updateXtraThrottle enabled => exact answers_sendUpdate (isResponse_of_head (by decide))
  | notify dlist => exact s.answers_sendMsg _
  | onReceive data =>
    rw [step, XtraEvent.asksStatus]
    cases isRequestStatus data with
    | true => exact s.answers_sendMsg _
    | false => rfl
  | timeOutCallback =>
    have hinit : isResponse ("halinit".toList ++ [Char.ofNat 0]) = false := by decide
    simp only [step, XtraEvent.asksStatus, Bool.false_eq_true, if_false, answers, send,
      List.countP_append, List.countP_singleton, hinit, Nat.add_zero]
  | process =>
    unfold step
    dsimp only
    split
    next msg msgs hmsgs =>
      rw [answers_proc, answers, answers, hmsgs, List.countP_cons, Nat.add_right_comm]
      rfl
    next => rfl

theorem plain_init : init.toXtraStatus.Plain where
  tac _ hc := absurd hc List.not_mem_nil
  mccmnc _ hc := absurd hc List.not_mem_nil
  handles e he := by
    rw [List.eq_of_mem_replicate he]
    exact ⟨by decide, by decide⟩

/-- **What the client is told.**  What it can learn from the texts is never out of date, and complete once
the status has been sent; each request for the status is answered once, and before a request nothing is
sent but the message of the timer. -/
theorem told_of_run {es : List XtraEvent} (h : system.Run (fun _ e => e.Plain) es s) :
    s.view.Fresh s.toXtraStatus ∧ (0 < s.sent.countP isResponse → s.view.Complete) ∧
    es.countP XtraEvent.asksStatus = s.msgs.countP XtraMsg.asksStatus + s.sent.countP isResponse ∧
    (s.mReqStatusReceived = false → ∀ text ∈ s.sent, text = "halinit".toList ++ [Char.ofNat 0]) := by
  have hinit : init.Told := by
    refine ⟨?_, fun hcount => absurd hcount (by decide), fun _ text htext => absurd htext List.not_mem_nil,
      plain_init, fun msg hmsg => absurd hmsg List.not_mem_nil⟩
    constructor <;> exact fun x hx => absurd hx (by simp [view, init, XtraView.empty])
  have htold : s.Told := h.invariant hinit fun s e s' hs he hstep => by
    subst hstep
    exact hs.step he
  have hcount : es.countP XtraEvent.asksStatus = s.answers := by
    clear htold
    induction h with
    | nil => rfl
    | @snoc es s s' e _ _ hstep ih =>
      subst hstep
      rw [answers_step, List.countP_append, List.countP_singleton, ih]
  exact ⟨htold.fresh, htold.complete, hcount, htold.quiet⟩

/-- The cell is known before the client asks for the status, and the lock changes after that. -/
theorem told_of_run_request :
    let es : List XtraEvent := [.notify [.tac ['1', 'A']], .timeOutCallback, .process,
      .onReceive "requestStatus 0".toList, .process, .updateLockStatus 3]
    (es.foldl step init).view.tac = some ['1', 'A'] ∧ (es.foldl step init).view.gpsLock = some 1 := by
  intro es
  have htac : PlainText ['1', 'A'] := by simp [PlainText, endl]
  have hrun : system.Run (fun _ e => e.Plain) es (es.foldl step init) :=
    System.run_foldl ⟨List.forall_mem_singleton.2 htac, trivial, trivial, trivial, trivial, trivial,
      trivial⟩
  obtain ⟨hfresh, hcomplete, -, -⟩ := told_of_run hrun
  have hknown := hcomplete (by decide)
  obtain ⟨tac, htac⟩ := Option.isSome_iff_exists.1 hknown.tac
  obtain ⟨lock, hlock⟩ := Option.isSome_iff_exists.1 hknown.gpsLock
  exact ⟨htac.trans (congrArg some (hfresh.tac tac htac)),
    hlock.trans (congrArg some (hfresh.gpsLock lock hlock))⟩

end XtraSystemStatusObserver

end GpsHal
