import GpsHal.Transition.Basic
import Mathlib.Data.List.Perm.Basic
import Mathlib.Data.List.TakeWhile

/-!
# `SystemStatusNetworkInfo` : the table of network handles

`SystemStatus` keeps the last reports of the network state.  A new report is collated with the
cached one (`core/SystemStatus.h`): the cached table of handles is copied, and the handle of the
event is put into it or taken out of it.  The set of connected types is a bit mask beside the
table.

The runs are those of the events a network stack may send: a handle connects only when it is not
connected, at most `MAX_NETWORK_HANDLES` are connected at once, and a handle disconnects with the
type it was connected with.  Which handles are connected is recorded next to the cache.

## Main definitions

* `SystemStatusNetworkInfo.collate`, `setIteminReport` : the code; `none` is an access outside
  the table.
* `NetworkCache.Collated` : the cached table and mask are those of the connected handles.
* `NetworkCache.Tractable` : the events that the code collates correctly.

## Main result

* `always_collated_iff` : the cache is right throughout a run exactly when all its events are
  tractable.
-/

namespace GpsHal

/-- `NETWORK_HANDLE_UNKNOWN`, which is `~0` in the 64 bits of a handle. -/
def NETWORK_HANDLE_UNKNOWN : BitVec 64 := ~~~0#64

def MAX_NETWORK_HANDLES : ℕ := 10

/-- The first of the enumerators of `NetworkType`. -/
def TYPE_MOBILE : ℤ := 0

/-- The last of the enumerators of `NetworkType`. -/
def TYPE_UNKNOWN : ℤ := 10

/-- `SystemStatusItemBase::maxItem` -/
def maxItem : ℕ := 5

/-- An entry of the table.  The type is an `int` that may lie outside the enumeration. -/
structure NetworkInfoType where
  networkHandle : BitVec 64
  networkType : ℤ
  deriving DecidableEq, Repr

/-- `NetworkInfoType()` -/
def NetworkInfoType.unknown : NetworkInfoType := ⟨NETWORK_HANDLE_UNKNOWN, TYPE_UNKNOWN⟩

/-- The entry holds a handle. -/
abbrev NetworkInfoType.Known (e : NetworkInfoType) : Prop :=
  e.networkHandle ≠ NETWORK_HANDLE_UNKNOWN

/-- The array `mAllNetworkHandles`. -/
abbrev HandleTable := {t : List NetworkInfoType // t.length = MAX_NETWORK_HANDLES}

/-- `typeToAllTypes` : the bit of a type, none for a type outside the enumeration. -/
def typeToAllTypes (type : ℤ) : BitVec 64 :=
  if TYPE_UNKNOWN ≤ type ∨ type < TYPE_MOBILE then 0#64 else 1#64 <<< type.toNat

/-- The members of `SystemStatusNetworkInfo` that the collation reads or writes. -/
structure SystemStatusNetworkInfo where
  mAllTypes : BitVec 64
  mType : ℤ
  mConnected : Bool
  mAllNetworkHandles : HandleTable
  mNetworkHandle : BitVec 64
  deriving DecidableEq

/-- A network event, as it is passed to `eventConnectionStatus`. -/
structure NetworkEvent where
  connected : Bool
  type : ℤ
  networkHandle : BitVec 64
  deriving DecidableEq, Repr

/-- The entry that an event is about. -/
def NetworkEvent.entry (e : NetworkEvent) : NetworkInfoType := ⟨e.networkHandle, e.type⟩

/-- The constructor: the table of a new item holds the handle of the event, whatever the event. -/
def NetworkEvent.item (e : NetworkEvent) : SystemStatusNetworkInfo where
  mAllTypes := typeToAllTypes e.type
  mType := e.type
  mConnected := e.connected
  mAllNetworkHandles := ⟨e.entry :: List.replicate 9 .unknown, rfl⟩
  mNetworkHandle := e.networkHandle

/-! ### The loops of `collate` -/

/-- The loop of a connect event: the first unknown entry gets the handle, unless the handle is
found before it. -/
def insertHandle (new : NetworkInfoType) : List NetworkInfoType → List NetworkInfoType
  | [] => []
  | e :: es =>
    if new.networkHandle = e.networkHandle then e :: es
    else if NETWORK_HANDLE_UNKNOWN = e.networkHandle then new :: es
    else e :: insertHandle new es

theorem length_insertHandle (new : NetworkInfoType) (t : List NetworkInfoType) :
    (insertHandle new t).length = t.length := by
  induction t with
  | nil => rfl
  | cons e es ih => unfold insertHandle; split_ifs <;> simp [ih]

/-- The variables of the loop of a disconnect event; `typeCount` is an 8 bit counter. -/
structure TableScan where
  lastValidIndex : ℕ
  deletedIndex : ℕ
  typeCount : ℕ
  deriving DecidableEq, Repr

/-- One round of the loop of a disconnect event. -/
def TableScan.visit (c : TableScan) (old e : NetworkInfoType) : TableScan :=
  let c := if old.networkType = e.networkType then { c with typeCount := (c.typeCount + 1) % 256 }
    else c
  let c := if old.networkHandle = e.networkHandle then
      { c with deletedIndex := c.lastValidIndex, typeCount := (c.typeCount + 255) % 256 }
    else c
  { c with lastValidIndex := c.lastValidIndex + 1 }

/-- The loop of a disconnect event: it runs up to the first unknown entry, so `lastValidIndex`
ends one past the last valid one. -/
def scanHandles (old : NetworkInfoType) : List NetworkInfoType → TableScan → TableScan
  | [], c => c
  | e :: es, c =>
    if e.networkHandle = NETWORK_HANDLE_UNKNOWN then c else scanHandles old es (c.visit old e)

/-- The three assignments that take a handle out of the table: none when the index
`lastValidIndex` lies outside. -/
def swapRemove (t : HandleTable) (deletedIndex lastValidIndex : ℕ) : Option HandleTable :=
  t.1[lastValidIndex]?.map fun last =>
    ⟨(t.1.set deletedIndex last).set lastValidIndex .unknown, by simp [t.2]⟩

namespace SystemStatusNetworkInfo

/-- `collate` : `s` becomes the report that follows `curInfo`. -/
def collate (s curInfo : SystemStatusNetworkInfo) : Option SystemStatusNetworkInfo :=
  -- replace current with cached table for now and then update
  let table := curInfo.mAllNetworkHandles
  let entry : NetworkInfoType := ⟨s.mNetworkHandle, s.mType⟩
  if s.mConnected = true then
    some { s with
      mAllTypes := s.mAllTypes ||| curInfo.mAllTypes
      mAllNetworkHandles := ⟨insertHandle entry table.1, by rw [length_insertHandle, table.2]⟩ }
  else if s.mAllTypes ≠ 0#64 then
    let c := scanHandles entry table.1 ⟨0, MAX_NETWORK_HANDLES, 0⟩
    let removed := if c.deletedIndex ≠ MAX_NETWORK_HANDLES then
        swapRemove table c.deletedIndex c.lastValidIndex
      else some table
    removed.map fun table => { s with
      mAllNetworkHandles := table
      mAllTypes := if c.typeCount = 0 then curInfo.mAllTypes &&& ~~~s.mAllTypes else s.mAllTypes }
  else some { s with mAllNetworkHandles := table }

/-- `equals` compares the tables only. -/
def equals (s peer : SystemStatusNetworkInfo) : Bool :=
  s.mAllNetworkHandles.1 == peer.mAllNetworkHandles.1

end SystemStatusNetworkInfo

/-- `push_back`, and the oldest report goes when there are more than `maxItem`. -/
def pushReport (report : List SystemStatusNetworkInfo) (s : SystemStatusNetworkInfo) :
    List SystemStatusNetworkInfo :=
  if maxItem < (report ++ [s]).length then (report ++ [s]).tail else report ++ [s]

/-- `SystemStatus::setIteminReport` -/
def setIteminReport (report : List SystemStatusNetworkInfo) (s : SystemStatusNetworkInfo) :
    Option (List SystemStatusNetworkInfo × Bool) :=
  match report.getLast? with
  | none => some (pushReport report s, true)
  | some back => (s.collate back).map fun s =>
      if back.equals s then (report, false) else (pushReport report s, true)

/-! ### The transition system -/

/-- The cache, and the handles connected so far, oldest connection first. -/
structure NetworkCache where
  /-- `none` after an access outside a table. -/
  mNetworkInfo : Option (List SystemStatusNetworkInfo)
  connected : List NetworkInfoType

namespace NetworkCache

/-- The event changes what is connected and is put into the cache. -/
def apply (s : NetworkCache) (e : NetworkEvent) : NetworkCache where
  mNetworkInfo := s.mNetworkInfo.bind fun report => (setIteminReport report e.item).map (·.1)
  connected :=
    if e.connected = true then s.connected ++ [e.entry]
    else s.connected.filter fun c => c.networkHandle ≠ e.networkHandle

/-- The events that may come: a handle connects when it is not connected and there is room for
it, and a connected handle disconnects with its type. -/
def Admissible (s : NetworkCache) (e : NetworkEvent) : Prop :=
  if e.connected = true then
    s.connected.length < MAX_NETWORK_HANDLES ∧
      ∀ c ∈ s.connected, c.networkHandle ≠ e.networkHandle
  else ∀ c ∈ s.connected, c.networkHandle = e.networkHandle → c.networkType = e.type

instance (s : NetworkCache) (e : NetworkEvent) : Decidable (s.Admissible e) :=
  inferInstanceAs (Decidable (if e.connected = true then _ else _))

/-- The cache under admissible events. -/
def system : System NetworkCache NetworkEvent where
  init := ⟨some [], []⟩
  step s e s' := s.Admissible e ∧ s' = s.apply e

/-- The OR of the bits of the types. -/
def allTypes (l : List NetworkInfoType) : BitVec 64 :=
  l.foldr (fun e mask => typeToAllTypes e.networkType ||| mask) 0#64

/-- The table holds exactly the handles of `l`, each once and from index 0 on, and unknown entries
after them. -/
def Packed (t l : List NetworkInfoType) : Prop :=
  ∃ known rest, t = known ++ rest ∧ known.Perm l ∧ (∀ e ∈ known, e.Known) ∧ ∀ e ∈ rest, ¬ e.Known

/-- The last report, if there is one; nothing after an access outside a table. -/
def latest (s : NetworkCache) : Option (Option SystemStatusNetworkInfo) :=
  s.mNetworkInfo.map (·.getLast?)

/-- No access has left a table, and the last report has exactly the connected handles in its table
and the OR of their types in its mask. -/
def Collated (s : NetworkCache) : Prop :=
  match s.latest with
  | none => False
  | some none => s.connected = []
  | some (some info) =>
    Packed info.mAllNetworkHandles.1 s.connected ∧ info.mAllTypes = allTypes s.connected

/-- The events that the code collates correctly.  A connect is for a handle other than the unknown
one.  The first event is a connect (or about no handle at all).  A disconnect of a connected
handle is for the one that connected last, while the table is not full; its type has a bit, and
either no other connected handle has the type or all the others have no other bit. -/
def Tractable (s : NetworkCache) (e : NetworkEvent) : Prop :=
  if e.connected = true then e.networkHandle ≠ NETWORK_HANDLE_UNKNOWN
  else if s.latest = some none then
    e.networkHandle = NETWORK_HANDLE_UNKNOWN ∧ typeToAllTypes e.type = 0#64
  else (∀ c ∈ s.connected, c.networkHandle ≠ e.networkHandle) ∨
    ∃ others, s.connected = others ++ [e.entry] ∧
      s.connected.length < MAX_NETWORK_HANDLES ∧ typeToAllTypes e.type ≠ 0#64 ∧
      ((∀ c ∈ others, c.networkType ≠ e.type) ∨ allTypes others = typeToAllTypes e.type)

/-! ### What the loops compute -/

section Loops

variable {A B rest t : List NetworkInfoType} {new old c r : NetworkInfoType}

theorem insertHandle_append (hA : ∀ e ∈ A, e.Known ∧ e.networkHandle ≠ new.networkHandle)
    (hr : ¬ r.Known) (hnew : new.Known) :
    insertHandle new (A ++ r :: rest) = A ++ new :: rest := by
  induction A with
  | nil =>
    have hr : r.networkHandle = NETWORK_HANDLE_UNKNOWN := not_not.1 hr
    have hne : new.networkHandle ≠ r.networkHandle := fun h => hnew (h.trans hr)
    simp [insertHandle, hr, hnew]
  | cons e es ih =>
    obtain ⟨he, hes⟩ := List.forall_mem_cons.1 hA
    simp only [List.cons_append, insertHandle, if_neg he.2.symm, if_neg he.1.symm, ih hes]

/-- The loop stops at the first unknown entry. -/
theorem scanHandles_unknown (hrest : ∀ e ∈ rest, ¬ e.Known) (c : TableScan) :
    scanHandles old rest c = c := by
  cases rest with
  | nil => rfl
  | cons r rest =>
    have hr : r.networkHandle = NETWORK_HANDLE_UNKNOWN := not_not.1 (hrest r (by simp))
    rw [scanHandles, if_pos hr]

/-- Entries with other handles are counted. -/
theorem scanHandles_append (hA : ∀ e ∈ A, e.Known ∧ e.networkHandle ≠ old.networkHandle)
    {k d n : ℕ} (hn : n + A.length < 256) :
    scanHandles old (A ++ t) ⟨k, d, n⟩ =
      scanHandles old t ⟨k + A.length, d, n + A.countP (·.networkType = old.networkType)⟩ := by
  induction A generalizing k n with
  | nil => rfl
  | cons e es ih =>
    obtain ⟨he, hes⟩ := List.forall_mem_cons.1 hA
    rw [List.length_cons] at hn
    rw [List.cons_append, scanHandles, if_neg he.1]
    by_cases ht : e.networkType = old.networkType
    · have hvisit : TableScan.visit ⟨k, d, n⟩ old e = ⟨k + 1, d, n + 1⟩ := by
        simp only [TableScan.visit, if_pos ht.symm, if_neg he.2.symm]
        rw [Nat.mod_eq_of_lt (by omega)]
      rw [hvisit, ih hes (by omega), List.countP_cons_of_pos (by simpa using ht), List.length_cons]
      congr 2 <;> omega
    · have hvisit : TableScan.visit ⟨k, d, n⟩ old e = ⟨k + 1, d, n⟩ := by
        simp only [TableScan.visit, if_neg (Ne.symm ht), if_neg he.2.symm]
      rw [hvisit, ih hes (by omega), List.countP_cons_of_neg (by simpa using ht), List.length_cons]
      congr 2; omega

variable (old) in
/-- The loop over a table without the handle finds nothing. -/
theorem scanHandles_absent (hA : ∀ e ∈ A, e.Known ∧ e.networkHandle ≠ old.networkHandle)
    (hrest : ∀ e ∈ rest, ¬ e.Known) (hlen : A.length < 256) {d : ℕ} :
    (scanHandles old (A ++ rest) ⟨0, d, 0⟩).deletedIndex = d := by
  rw [scanHandles_append hA (by omega), scanHandles_unknown hrest]

/-- The loop over a table with the handle finds its index, the number of known entries and the
number of other entries of its type. -/
theorem scanHandles_present (hA : ∀ e ∈ A, e.Known ∧ e.networkHandle ≠ old.networkHandle)
    (hB : ∀ e ∈ B, e.Known ∧ e.networkHandle ≠ old.networkHandle) (hold : old.Known)
    (hrest : ∀ e ∈ rest, ¬ e.Known) (hlen : A.length + B.length < 255) {d : ℕ} :
    scanHandles old (A ++ old :: (B ++ rest)) ⟨0, d, 0⟩ =
      ⟨A.length + 1 + B.length, A.length,
        (A ++ B).countP (·.networkType = old.networkType)⟩ := by
  have hvisit : ∀ n < 255, TableScan.visit ⟨0 + A.length, d, n⟩ old old =
      ⟨A.length + 1, A.length, n⟩ := by
    intro n hn
    simp only [TableScan.visit, if_true]
    congr 1 <;> omega
  have hcount : A.countP (·.networkType = old.networkType) ≤ A.length := List.countP_le_length
  rw [scanHandles_append hA (by omega), scanHandles, if_neg hold, hvisit _ (by omega),
    scanHandles_append hB (by omega), scanHandles_unknown hrest, List.countP_append]
  congr 1; omega

/-- Taking out an entry leaves an unknown one in its place. -/
theorem swapRemove_append {t : HandleTable} (ht : t.1 = A ++ c :: (B ++ r :: rest)) :
    ∃ t', swapRemove t A.length (A.length + 1 + B.length) = some t' ∧
      t'.1 = A ++ r :: (B ++ .unknown :: rest) := by
  have hget : t.1[A.length + 1 + B.length]? = some r := by
    rw [ht, List.getElem?_append_right (by omega)]
    simp [show A.length + 1 + B.length - A.length = B.length + 1 by omega]
  refine ⟨_, by rw [swapRemove, hget]; rfl, ?_⟩
  simp only [ht]
  rw [List.set_append_right _ _ (le_refl _), List.set_append_right _ _ (by omega)]
  simp [show A.length + 1 + B.length - A.length = B.length + 1 by omega]

/-- On a full table the index is outside. -/
theorem swapRemove_full {t : HandleTable} {i k : ℕ} (hk : MAX_NETWORK_HANDLES ≤ k) :
    swapRemove t i k = none := by
  rw [swapRemove, List.getElem?_eq_none (by rw [t.2]; exact hk), Option.map_none]

end Loops

/-! ### The mask -/

theorem getLsbD_typeToAllTypes (type : ℤ) (i : ℕ) :
    (typeToAllTypes type).getLsbD i = decide (0 ≤ type ∧ type < 10 ∧ i = type.toNat) := by
  unfold typeToAllTypes TYPE_UNKNOWN TYPE_MOBILE
  split_ifs with h
  · rw [BitVec.getLsbD_zero]
    exact (decide_eq_false (by omega)).symm
  · rw [BitVec.getLsbD_shiftLeft, BitVec.getLsbD_one]
    rw [Bool.eq_iff_iff]
    simp only [Bool.and_eq_true, Bool.not_eq_true', decide_eq_true_eq, decide_eq_false_iff_not]
    omega

theorem getLsbD_allTypes {l : List NetworkInfoType} {i : ℕ} :
    (allTypes l).getLsbD i = true ↔ ∃ c ∈ l, (typeToAllTypes c.networkType).getLsbD i = true := by
  induction l with
  | nil => simp [allTypes]
  | cons c l ih =>
    have hcons : allTypes (c :: l) = typeToAllTypes c.networkType ||| allTypes l := rfl
    rw [hcons, BitVec.getLsbD_or, Bool.or_eq_true, ih, List.exists_mem_cons_iff]

theorem allTypes_append (A B : List NetworkInfoType) :
    allTypes (A ++ B) = allTypes A ||| allTypes B := by
  induction A with
  | nil => simp [allTypes]
  | cons c A ih =>
    change typeToAllTypes c.networkType ||| allTypes (A ++ B) = _
    rw [ih, ← BitVec.or_assoc]; rfl

theorem allTypes_concat (l : List NetworkInfoType) (e : NetworkEvent) :
    allTypes (l ++ [e.entry]) = typeToAllTypes e.type ||| allTypes l := by
  rw [allTypes_append, BitVec.or_comm]
  simp [allTypes, NetworkEvent.entry]

/-- Clearing the bit of a type that no other handle has leaves the bits of the others. -/
theorem allTypes_clear {l : List NetworkInfoType} {type : ℤ}
    (h : ∀ c ∈ l, c.networkType ≠ type) :
    (typeToAllTypes type ||| allTypes l) &&& ~~~typeToAllTypes type = allTypes l := by
  refine BitVec.eq_of_getLsbD_eq fun i hi => ?_
  simp only [BitVec.getLsbD_and, BitVec.getLsbD_or, BitVec.getLsbD_not, hi, decide_true,
    Bool.true_and]
  cases hb : (typeToAllTypes type).getLsbD i with
  | false => simp
  | true =>
    -- the bit is of `type`, so no type in `l` has it
    have hnot : ¬ (allTypes l).getLsbD i = true := by
      rw [getLsbD_allTypes]
      rintro ⟨c, hc, hci⟩
      simp only [getLsbD_typeToAllTypes, decide_eq_true_eq] at hb hci
      exact h c hc (by omega)
    simpa using hnot

/-! ### The last report -/

/-- The last report after an event, given the one before it. -/
def nextReport (e : NetworkEvent) :
    Option SystemStatusNetworkInfo → Option (Option SystemStatusNetworkInfo)
  | none => some (some e.item)
  | some back => (e.item.collate back).map fun info => some (if back.equals info then back else info)

theorem getLast?_pushReport (report : List SystemStatusNetworkInfo) (s : SystemStatusNetworkInfo) :
    (pushReport report s).getLast? = some s := by
  unfold pushReport
  split_ifs with h
  · cases report with
    | nil => simp [maxItem] at h
    | cons r report => simp
  · simp

theorem latest_apply (s : NetworkCache) (e : NetworkEvent) :
    (s.apply e).latest = s.latest.bind (nextReport e) := by
  unfold latest apply
  cases s.mNetworkInfo with
  | none => rfl
  | some report =>
    simp only [Option.bind_some, Option.map_some, setIteminReport, nextReport]
    cases hl : report.getLast? with
    | none => simp [getLast?_pushReport]
    | some back =>
      simp only [Option.map_map]
      cases e.item.collate back with
      | none => rfl
      | some info =>
        simp only [Option.map_some, Function.comp]
        split <;> simp [hl, getLast?_pushReport]

/-- The report has the handles of `l` in its table, in the order of `l`. -/
structure Lists (info : SystemStatusNetworkInfo) (l : List NetworkInfoType) : Prop where
  table : ∃ rest, info.mAllNetworkHandles.1 = l ++ rest ∧ ∀ e ∈ rest, ¬ e.Known
  known : ∀ e ∈ l, e.Known
  types : info.mAllTypes = allTypes l

section Collate

variable {e : NetworkEvent} {info info' : SystemStatusNetworkInfo} {l A B : List NetworkInfoType}

/-- A report with another table is pushed. -/
theorem nextReport_of_collate (hcol : e.item.collate info = some info')
    (hne : info.mAllNetworkHandles.1 ≠ info'.mAllNetworkHandles.1) :
    nextReport e (some info) = some (some info') := by
  have heq : info.equals info' = false := by
    simpa [SystemStatusNetworkInfo.equals] using hne
  simp [nextReport, hcol, heq]

variable (info) in
theorem collate_connect (hc : e.connected = true) :
    ∃ info', e.item.collate info = some info' ∧
      info'.mAllNetworkHandles.1 = insertHandle e.entry info.mAllNetworkHandles.1 ∧
      info'.mAllTypes = typeToAllTypes e.type ||| info.mAllTypes :=
  ⟨_, if_pos hc, rfl, rfl⟩

variable (info) in
theorem collate_disconnect (hc : e.connected = false) (hbit : typeToAllTypes e.type ≠ 0#64)
    {k i n : ℕ} (hi : i < MAX_NETWORK_HANDLES)
    (hscan : scanHandles e.entry info.mAllNetworkHandles.1 ⟨0, MAX_NETWORK_HANDLES, 0⟩ =
      ⟨k, i, n⟩) :
    e.item.collate info = (swapRemove info.mAllNetworkHandles i k).map fun table =>
      { e.item with
        mAllNetworkHandles := table
        mAllTypes := if n = 0 then info.mAllTypes &&& ~~~typeToAllTypes e.type
          else typeToAllTypes e.type } := by
  unfold NetworkEvent.entry at hscan
  have hne : i ≠ MAX_NETWORK_HANDLES := by omega
  simp [SystemStatusNetworkInfo.collate, NetworkEvent.item, hc, hbit, hscan, hne]

theorem Lists.length_le (h : Lists info l) : l.length ≤ MAX_NETWORK_HANDLES := by
  obtain ⟨rest, ht, -⟩ := h.table
  have hlen := info.mAllNetworkHandles.2
  rw [ht, List.length_append] at hlen
  omega

/-- A connect of a new handle appends its entry. -/
theorem Lists.connect (h : Lists info l) (hlen : l.length < MAX_NETWORK_HANDLES)
    (hfresh : ∀ c ∈ l, c.networkHandle ≠ e.networkHandle) (hc : e.connected = true)
    (hknown : e.networkHandle ≠ NETWORK_HANDLE_UNKNOWN) :
    ∃ info', nextReport e (some info) = some (some info') ∧ Lists info' (l ++ [e.entry]) := by
  obtain ⟨rest, ht, hrest⟩ := h.table
  obtain ⟨r, rest, rfl⟩ : ∃ r rest', rest = r :: rest' := by
    cases rest with
    | nil =>
      have hfull := info.mAllNetworkHandles.2
      rw [ht, List.append_nil] at hfull
      omega
    | cons r rest => exact ⟨r, rest, rfl⟩
  obtain ⟨hr, hrest⟩ := List.forall_mem_cons.1 hrest
  have hins : insertHandle e.entry info.mAllNetworkHandles.1 = l ++ e.entry :: rest := by
    rw [ht]
    exact insertHandle_append (fun c hcl => ⟨h.known c hcl, hfresh c hcl⟩) hr hknown
  have hne : info.mAllNetworkHandles.1 ≠ insertHandle e.entry info.mAllNetworkHandles.1 := by
    rw [hins, ht]
    intro heq
    obtain rfl : r = e.entry := (List.cons.inj (List.append_cancel_left heq)).1
    exact hr hknown
  obtain ⟨info', hcol, htab, htypes⟩ := collate_connect info hc
  refine ⟨info', nextReport_of_collate hcol (htab ▸ hne), ⟨rest, ?_, hrest⟩, ?_, ?_⟩
  · rw [htab, hins]; simp
  · simp only [List.forall_mem_append, List.forall_mem_singleton]
    exact ⟨h.known, hknown⟩
  · rw [allTypes_concat, ← h.types, htypes]

/-- A disconnect of a handle that is not in the table leaves the last report as it is. -/
theorem Lists.disconnect_absent (h : Lists info l)
    (hfresh : ∀ c ∈ l, c.networkHandle ≠ e.networkHandle) (hc : e.connected = false) :
    nextReport e (some info) = some (some info) := by
  obtain ⟨rest, ht, hrest⟩ := h.table
  have hlen := h.length_le
  have hscan := scanHandles_absent e.entry
    (fun c hcl => ⟨h.known c hcl, hfresh c hcl⟩) hrest
    (by unfold MAX_NETWORK_HANDLES at hlen; omega) (d := MAX_NETWORK_HANDLES)
  simp only [nextReport, SystemStatusNetworkInfo.collate, NetworkEvent.item, hc, ht]
  change ((scanHandles ⟨e.networkHandle, e.type⟩ _ _).deletedIndex) = _ at hscan
  by_cases hbit : typeToAllTypes e.type = 0#64
  · simp [hbit, SystemStatusNetworkInfo.equals]
  · simp [hbit, hscan, SystemStatusNetworkInfo.equals]

/-- A disconnect whose type has no bit leaves the last report as it is. -/
theorem nextReport_noBit (hc : e.connected = false) (hbit : typeToAllTypes e.type = 0#64) :
    nextReport e (some info) = some (some info) := by
  simp [nextReport, SystemStatusNetworkInfo.collate, NetworkEvent.item, hc, hbit,
    SystemStatusNetworkInfo.equals]

/-- The loop over a table that lists the handle of the event. -/
theorem Lists.scan (h : Lists info (A ++ e.entry :: B))
    (hnd : ((A ++ e.entry :: B).map (·.networkHandle)).Nodup) :
    scanHandles e.entry info.mAllNetworkHandles.1 ⟨0, MAX_NETWORK_HANDLES, 0⟩ =
      ⟨A.length + 1 + B.length, A.length, (A ++ B).countP (·.networkType = e.type)⟩ := by
  obtain ⟨rest, ht, hrest⟩ := h.table
  have hlen : (A ++ e.entry :: B).length ≤ 10 := h.length_le
  rw [List.length_append, List.length_cons] at hlen
  have hother : ∀ c ∈ A ++ B, c.networkHandle ≠ e.networkHandle := by
    rw [List.map_append, List.map_cons, List.perm_middle.nodup_iff, List.nodup_cons] at hnd
    exact fun c hcl heq => hnd.1 (by rw [← List.map_append]; exact List.mem_map.2 ⟨c, hcl, heq⟩)
  have hknown := h.known
  simp only [List.forall_mem_append, List.forall_mem_cons] at hknown hother
  rw [ht, List.append_assoc, List.cons_append]
  exact scanHandles_present (fun c hcl => ⟨hknown.1 c hcl, hother.1 c hcl⟩)
    (fun c hcl => ⟨hknown.2.2 c hcl, hother.2 c hcl⟩) hknown.2.1 hrest (by omega)

/-- A disconnect on a full table reads past its end. -/
theorem Lists.disconnect_full (h : Lists info (A ++ e.entry :: B))
    (hnd : ((A ++ e.entry :: B).map (·.networkHandle)).Nodup) (hc : e.connected = false)
    (hbit : typeToAllTypes e.type ≠ 0#64)
    (hfull : (A ++ e.entry :: B).length = MAX_NETWORK_HANDLES) :
    nextReport e (some info) = none := by
  have hscan := h.scan hnd
  rw [List.length_append, List.length_cons] at hfull
  have hremove := swapRemove_full (t := info.mAllNetworkHandles) (i := A.length)
    (k := A.length + 1 + B.length) (by omega)
  rw [nextReport, collate_disconnect _ hc hbit (by omega) hscan, hremove]
  rfl

/-- A disconnect of a listed handle puts an unknown entry in its place.  The mask loses the bit of
its type when no other handle has it, and becomes that bit otherwise. -/
theorem Lists.disconnect (h : Lists info (A ++ e.entry :: B))
    (hnd : ((A ++ e.entry :: B).map (·.networkHandle)).Nodup) (hc : e.connected = false)
    (hbit : typeToAllTypes e.type ≠ 0#64)
    (hroom : (A ++ e.entry :: B).length < MAX_NETWORK_HANDLES) :
    ∃ info' r rest, nextReport e (some info) = some (some info') ∧
      info'.mAllNetworkHandles.1 = A ++ r :: (B ++ .unknown :: rest) ∧ ¬ r.Known ∧
      (∀ c ∈ rest, ¬ c.Known) ∧
      info'.mAllTypes = if (A ++ B).countP (·.networkType = e.type) = 0 then
        allTypes (A ++ e.entry :: B) &&& ~~~typeToAllTypes e.type else typeToAllTypes e.type := by
  obtain ⟨rest, ht, hrest⟩ := h.table
  obtain ⟨r, rest, rfl⟩ : ∃ r rest', rest = r :: rest' := by
    cases rest with
    | nil =>
      have hfull := info.mAllNetworkHandles.2
      rw [ht, List.append_nil] at hfull
      omega
    | cons r rest => exact ⟨r, rest, rfl⟩
  obtain ⟨hr, hrest⟩ := List.forall_mem_cons.1 hrest
  have hscan := h.scan hnd
  rw [List.length_append, List.length_cons] at hroom
  rw [List.append_assoc, List.cons_append] at ht
  obtain ⟨t', hremove, ht'⟩ := swapRemove_append ht
  have hne : info.mAllNetworkHandles.1 ≠ t'.1 := by
    rw [ht', ht]
    intro heq
    obtain rfl : e.entry = r := (List.cons.inj (List.append_cancel_left heq)).1
    exact hr (h.known _ (by simp))
  have hcol := collate_disconnect info hc hbit (by omega) hscan
  rw [hremove, Option.map_some] at hcol
  exact ⟨_, r, rest, nextReport_of_collate hcol hne, ht', hr, hrest, by rw [h.types]⟩

end Collate

/-! ### Runs -/

section Runs

variable {s : NetworkCache} {e : NetworkEvent}

theorem item_table (e : NetworkEvent) :
    e.item.mAllNetworkHandles.1 = [e.entry] ++ List.replicate 9 .unknown := rfl

theorem not_known_replicate {n : ℕ} :
    ∀ c ∈ List.replicate n NetworkInfoType.unknown, ¬ c.Known := fun c hc => by
  simp [(List.mem_replicate.1 hc).2, NetworkInfoType.unknown]

/-- The invariant of the runs without intractable events: the table lists the connected handles in
the order in which they connected. -/
structure InOrder (s : NetworkCache) : Prop where
  nodup : (s.connected.map (·.networkHandle)).Nodup
  latest : (s.latest = some none ∧ s.connected = []) ∨
    ∃ info, s.latest = some (some info) ∧ Lists info s.connected

theorem InOrder.collated (h : s.InOrder) : s.Collated := by
  unfold Collated
  rcases h.latest with ⟨hl, hc⟩ | ⟨info, hl, hi⟩
  · rw [hl]; exact hc
  · obtain ⟨rest, ht, hrest⟩ := hi.table
    rw [hl]
    exact ⟨⟨s.connected, rest, ht, .refl _, hi.known, hrest⟩, hi.types⟩

theorem nodup_apply (hnd : (s.connected.map (·.networkHandle)).Nodup) (hadm : s.Admissible e) :
    ((s.apply e).connected.map (·.networkHandle)).Nodup := by
  unfold Admissible at hadm
  simp only [apply]
  split_ifs at hadm ⊢
  · rw [List.map_append, List.nodup_append]
    refine ⟨hnd, by simp, ?_⟩
    simp only [List.mem_map, List.map_cons, List.map_nil, List.mem_singleton]
    rintro _ ⟨c, hc, rfl⟩ _ rfl
    exact hadm.2 c hc
  · exact hnd.sublist (List.filter_sublist.map _)

theorem filter_absent {l : List NetworkInfoType}
    (h : ∀ c ∈ l, c.networkHandle ≠ e.networkHandle) :
    l.filter (fun c => c.networkHandle ≠ e.networkHandle) = l :=
  List.filter_eq_self.2 fun c hc => decide_eq_true (h c hc)

/-- Handles are distinct, so a disconnect takes one entry out of the connected ones. -/
theorem filter_split {A B : List NetworkInfoType}
    (hnd : ((A ++ e.entry :: B).map (·.networkHandle)).Nodup) :
    (A ++ e.entry :: B).filter (fun c => c.networkHandle ≠ e.networkHandle) = A ++ B := by
  rw [List.map_append, List.map_cons, List.perm_middle.nodup_iff, List.nodup_cons,
    ← List.map_append] at hnd
  have hother : ∀ c ∈ A ++ B, c.networkHandle ≠ e.networkHandle :=
    fun c hc heq => hnd.1 (List.mem_map.2 ⟨c, hc, heq⟩)
  obtain ⟨hA, hB⟩ := List.forall_mem_append.1 hother
  rw [List.filter_append, List.filter_cons_of_neg (by simp [NetworkEvent.entry]),
    filter_absent hA, filter_absent hB]

theorem InOrder.step (h : s.InOrder) (hadm : s.Admissible e) (ht : s.Tractable e) :
    (s.apply e).InOrder := by
  refine ⟨nodup_apply h.nodup hadm, ?_⟩
  unfold Admissible at hadm
  unfold Tractable at ht
  rw [latest_apply]
  cases hc : e.connected with
  | true =>
    rw [if_pos hc] at hadm ht
    have hconn : (s.apply e).connected = s.connected ++ [e.entry] := if_pos hc
    rw [hconn]
    right
    rcases h.latest with ⟨hl, hnil⟩ | ⟨info, hl, hi⟩
    · refine ⟨e.item, by rw [hl]; rfl, ?_⟩
      rw [hnil]
      exact ⟨⟨_, item_table e, not_known_replicate⟩, List.forall_mem_singleton.2 ht,
        by simp [allTypes, NetworkEvent.item, NetworkEvent.entry]⟩
    · obtain ⟨info', hnext, hi'⟩ := hi.connect hadm.1 hadm.2 hc ht
      exact ⟨info', by rw [hl]; exact hnext, hi'⟩
  | false =>
    have hf : ¬ e.connected = true := by simp [hc]
    rw [if_neg hf] at hadm ht
    have hconn : (s.apply e).connected =
        s.connected.filter fun c => c.networkHandle ≠ e.networkHandle := if_neg hf
    rw [hconn]
    rcases h.latest with ⟨hl, hnil⟩ | ⟨info, hl, hi⟩
    · rw [if_pos hl] at ht
      refine .inr ⟨e.item, by rw [hl]; rfl, ?_⟩
      rw [hnil]
      exact ⟨⟨_, item_table e, List.forall_mem_cons.2 ⟨not_not.2 ht.1, not_known_replicate⟩⟩,
        by simp, by simp [allTypes, NetworkEvent.item, ht.2]⟩
    · rw [if_neg (by simp [hl])] at ht
      rcases ht with hfresh | ⟨others, hsplit, hroom, hbit, htypes⟩
      · rw [filter_absent hfresh]
        exact .inr ⟨info, by rw [hl]; exact hi.disconnect_absent hfresh hc, hi⟩
      · have hnd := h.nodup
        rw [hsplit] at hi hnd hroom ⊢
        obtain ⟨info', r, rest, hnext, htab, hr, hrest, hmask⟩ := hi.disconnect hnd hc hbit hroom
        rw [filter_split hnd, List.append_nil]
        refine .inr ⟨info', by rw [hl]; exact hnext, ⟨_, htab, ?_⟩, ?_, ?_⟩
        · rw [List.nil_append, List.forall_mem_cons, List.forall_mem_cons]
          exact ⟨hr, by simp [NetworkInfoType.unknown], hrest⟩
        · exact (List.forall_mem_append.1 hi.known).1
        · rw [hmask, List.append_nil, allTypes_concat]
          split_ifs with hcount
          · exact allTypes_clear fun c hcl => by simpa using List.countP_eq_zero.1 hcount c hcl
          · rcases htypes with hnone | hall
            · exact absurd (List.countP_eq_zero.2 fun c hcl => by simpa using hnone c hcl) hcount
            · exact hall.symm

/-- The known entries of a table in front of the unknown ones are determined by it. -/
theorem known_unique {A A' rest rest' : List NetworkInfoType} (h : A ++ rest = A' ++ rest')
    (hA : ∀ c ∈ A, c.Known) (hrest : ∀ c ∈ rest, ¬ c.Known) (hA' : ∀ c ∈ A', c.Known)
    (hr : ∀ r ∈ rest'.head?, ¬ r.Known) : A = A' := by
  have htake : ∀ {B r : List NetworkInfoType}, (∀ c ∈ B, c.Known) → (∀ c ∈ r.head?, ¬ c.Known) →
      (B ++ r).takeWhile (fun c => decide c.Known) = B := by
    intro B r hB hr
    rw [List.takeWhile_append_of_pos fun c hc => decide_eq_true (hB c hc)]
    cases r with
    | nil => simp
    | cons c r => rw [List.takeWhile_cons_of_neg (by simpa using hr c rfl), List.append_nil]
  rw [← htake hA fun c hc => hrest c (List.mem_of_mem_head? hc), h, htake hA' hr]

/-- An event that is not tractable breaks the cache at once. -/
theorem InOrder.not_collated (h : s.InOrder) (hadm : s.Admissible e) (ht : ¬ s.Tractable e) :
    ¬ (s.apply e).Collated := by
  intro hcol
  unfold Collated at hcol
  rw [latest_apply] at hcol
  unfold Admissible at hadm
  unfold Tractable at ht
  cases hc : e.connected with
  | true =>
    rw [if_pos hc, not_not] at ht
    have hconn : (s.apply e).connected = s.connected ++ [e.entry] := if_pos hc
    rw [hconn] at hcol
    split at hcol
    · exact hcol
    · simp at hcol
    · obtain ⟨⟨known, rest, -, hperm, hknown, -⟩, -⟩ := hcol
      exact hknown e.entry (hperm.mem_iff.2 (by simp)) ht
  | false =>
    have hf : ¬ e.connected = true := by simp [hc]
    rw [if_neg hf] at hadm ht
    have hconn : (s.apply e).connected =
        s.connected.filter fun c => c.networkHandle ≠ e.networkHandle := if_neg hf
    rw [hconn] at hcol
    rcases h.latest with ⟨hl, hnil⟩ | ⟨info, hl, hi⟩
    · -- the first event: its handle is in the table although it is not connected
      rw [if_pos hl] at ht
      rw [hl, hnil] at hcol
      obtain ⟨⟨known, rest, htab, hperm, -, hrest⟩, htypes⟩ := hcol
      obtain rfl : known = [] := hperm.eq_nil
      rw [item_table, List.nil_append] at htab
      exact ht ⟨not_not.1 (hrest e.entry (by rw [← htab]; simp)), htypes⟩
    · rw [if_neg (by simp [hl]), not_or] at ht
      obtain ⟨hmem, ht⟩ := ht
      simp only [not_forall, not_not] at hmem
      obtain ⟨c, hcl, hch⟩ := hmem
      obtain rfl : c = e.entry := by
        cases c
        exact congrArg₂ NetworkInfoType.mk hch (hadm _ hcl hch)
      obtain ⟨A, B, hsplit⟩ := List.append_of_mem hcl
      have hnd := h.nodup
      rw [hl, Option.bind_some] at hcol
      rw [hsplit] at hi hnd hcol ht
      rw [filter_split hnd] at hcol
      by_cases hbit : typeToAllTypes e.type = 0#64
      · -- the handle stays in the table
        rw [nextReport_noBit hc hbit] at hcol
        obtain ⟨⟨known, rest, htab, hperm, hknown, hrest⟩, -⟩ := hcol
        obtain ⟨rest', htab', hrest'⟩ := hi.table
        obtain rfl := known_unique (htab.symm.trans htab') hknown hrest hi.known
          fun r hr => hrest' r (List.mem_of_mem_head? hr)
        have hlen := hperm.length_eq
        simp at hlen
      · by_cases hroom : (A ++ e.entry :: B).length < MAX_NETWORK_HANDLES
        · obtain ⟨info', r, rest', hnext, htab', hr, -, hmask⟩ := hi.disconnect hnd hc hbit hroom
          rw [hnext] at hcol
          obtain ⟨⟨known, rest, htab, hperm, hknown, hrest⟩, htypes⟩ := hcol
          have hA := (List.forall_mem_append.1 hi.known).1
          obtain rfl := known_unique (htab.symm.trans htab') hknown hrest hA
            fun c hc => by obtain rfl : r = c := by simpa using hc
                           exact hr
          -- nothing may be listed after the hole
          obtain rfl : B = [] := by
            have hlen := hperm.length_eq
            rw [List.length_append] at hlen
            exact List.length_eq_zero_iff.1 (by omega)
          refine ht ⟨known, rfl, hroom, hbit, ?_⟩
          rw [List.append_nil] at htypes hmask
          by_cases hcount : known.countP (·.networkType = e.type) = 0
          · exact .inl fun c hck => by simpa using List.countP_eq_zero.1 hcount c hck
          · rw [if_neg hcount] at hmask
            exact .inr (htypes.symm.trans hmask)
        · rw [hi.disconnect_full hnd hc hbit (le_antisymm hi.length_le (not_lt.1 hroom))] at hcol
          exact hcol

/-- **The network table.**  The cache stays right throughout a run exactly when every event of the
run is tractable. -/
theorem always_collated_iff {es : List NetworkEvent} {s : NetworkCache} :
    system.Always Collated es s ↔ system.Run Tractable es s := by
  refine System.always_iff_run (J := InOrder) ⟨by simp [system], .inl ⟨rfl, rfl⟩⟩
    (fun _ h => h.collated) ?_ ?_
  · rintro s e _ h ht ⟨hadm, rfl⟩
    exact h.step hadm ht
  · rintro s e _ h ht ⟨hadm, rfl⟩
    exact h.not_collated hadm ht

/-- Two networks connect and the one that connected first goes: its place in the table becomes a
hole in front of the other. -/
theorem collated_broken :
    ∃ s, system.Run System.Free
      [⟨true, 0, 100⟩, ⟨true, 1, 101⟩, ⟨false, 0, 100⟩] s ∧ ¬ s.Collated := by
  have h₁ : system.Run System.Free [⟨true, 0, 100⟩] _ := .snoc .nil trivial ⟨by decide, rfl⟩
  have h₂ := h₁.snoc (e := ⟨true, 1, 101⟩) trivial ⟨by decide, rfl⟩
  refine ⟨_, h₂.snoc trivial ⟨by decide, rfl⟩, ?_⟩
  have hinit : system.init.InOrder := ⟨by simp [system], .inl ⟨rfl, rfl⟩⟩
  have hfirst := hinit.step (e := ⟨true, 0, 100⟩) (by decide) (by simp [Tractable]; decide)
  have hsecond := hfirst.step (e := ⟨true, 1, 101⟩) (by decide) (by simp [Tractable]; decide)
  refine hsecond.not_collated (by decide) ?_
  rintro (hfresh | ⟨others, hlast, -⟩)
  · exact hfresh ⟨100, 0⟩ (by decide) rfl
  · have := congrArg List.getLast? hlast
    simp at this
    exact absurd this (by decide)

end Runs

end NetworkCache

end GpsHal
