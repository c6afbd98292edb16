import GpsHal.Util.ConfItem

/-!
# `loc_util_trim_space` in memory

The string is shifted to the left where it stands, with a read and a write position of its own, and
ended behind its last character that is not white space (`utils/loc_misc_utils.cpp`).

## Main definitions

* `TrimSpace.loc_util_trim_space` : the function on the memory from the start of the string.
* `TrimSpace.Trims` : what it should do to a string.

## Main results

* `TrimSpace.ctext_loc_util_trim_space` : the text afterwards is that of the function on texts.
* `TrimSpace.trims_iff` : it does what it should exactly if the string is not blank, or empty.
-/

namespace GpsHal

/-- The state of the function.  Positions count from `org_string`; `writes` records those that have
been written to. -/
structure TrimSpace where
  mem : List UInt8
  first_nonspace : Option ℕ
  last_nonspace : Option ℕ
  write_ptr : ℕ
  writes : List ℕ
  deriving DecidableEq, Repr

namespace TrimSpace

/-- One turn of the loop, with the character at `scan_ptr`. -/
def next (t : TrimSpace) (scan_ptr : ℕ) (c : UInt8) : TrimSpace :=
  let first_nonspace :=
    if !isspace c && t.first_nonspace.isNone then some scan_ptr else t.first_nonspace
  if first_nonspace.isSome then
    { mem := t.mem.set t.write_ptr c
      first_nonspace := first_nonspace
      last_nonspace := if isspace c then t.last_nonspace else some (t.write_ptr + 1)
      write_ptr := t.write_ptr + 1
      writes := t.writes ++ [t.write_ptr] }
  else t

/-- The loop up to the NUL, with as many turns as there are bytes. -/
def loop : ℕ → ℕ → TrimSpace → TrimSpace
  | 0, _, t => t
  | turns + 1, scan_ptr, t =>
    let c := t.mem.getD scan_ptr 0
    if c = 0 then t else loop turns (scan_ptr + 1) (t.next scan_ptr c)

def loc_util_trim_space (mem : List UInt8) : TrimSpace :=
  let t := loop mem.length 0 ⟨mem, none, none, 0, []⟩
  match t.last_nonspace with
  | some last_nonspace =>
    { t with
      mem := t.mem.set last_nonspace 0
      writes := t.writes ++ [last_nonspace] }
  | none => t

/-- The string loses the white space around it, nothing is written outside of it and its NUL, and
trimming it again changes nothing. -/
structure Trims (mem : List UInt8) : Prop where
  text : ctext (loc_util_trim_space mem).mem = strip (ctext mem)
  within : ∀ i ∈ (loc_util_trim_space mem).writes, i ≤ (ctext mem).length
  frame : (loc_util_trim_space mem).mem.drop ((ctext mem).length + 1) =
    mem.drop ((ctext mem).length + 1)
  again : ctext (loc_util_trim_space (loc_util_trim_space mem).mem).mem =
    ctext (loc_util_trim_space mem).mem

/-! ### The loop -/

theorem ctext_append {s : List UInt8} (h : 0 ∉ s) (rest : List UInt8) : ctext (s ++ 0 :: rest) = s := by
  unfold ctext
  rw [List.takeWhile_append_of_pos]
  · rw [List.takeWhile_cons_of_neg (p := (· != 0)) (by decide), List.append_nil]
  · intro c hc
    have hne : c ≠ 0 := fun heq => h (heq ▸ hc)
    simpa using hne

/-- Memory with a NUL is a text, the NUL and what comes behind it. -/
theorem eq_ctext_append {mem : List UInt8} (h : 0 ∈ mem) :
    0 ∉ ctext mem ∧ ∃ rest, mem = ctext mem ++ 0 :: rest := by
  induction mem with
  | nil => cases h
  | cons c mem ih =>
    by_cases hc : c = 0
    · subst hc
      exact ⟨by simp [ctext], mem, by simp [ctext]⟩
    · obtain ⟨hnot, rest, hrest⟩ := ih ((List.mem_cons.1 h).resolve_left (Ne.symm hc))
      have htext : ctext (c :: mem) = c :: ctext mem :=
        List.takeWhile_cons_of_pos (p := (· != 0)) (by simpa using hc)
      rw [htext]
      refine ⟨?_, rest, congrArg (c :: ·) hrest⟩
      rw [List.mem_cons]
      exact not_or.2 ⟨Ne.symm hc, hnot⟩

/-- What the loop has done to the memory when it has read `read`: what the scan of texts has written
stands in front of the old bytes. -/
structure Scanned (mem : List UInt8) (s : TrimScan) (scan_ptr : ℕ) (t : TrimSpace) : Prop where
  mem_eq : t.mem = s.written ++ mem.drop s.written.length
  first : t.first_nonspace.isSome = s.first_nonspace
  last : t.last_nonspace = s.last_nonspace
  write : t.write_ptr = s.written.length
  le : s.written.length ≤ scan_ptr
  writes : ∀ i ∈ t.writes, i < scan_ptr

variable {mem : List UInt8} {s : TrimScan} {scan_ptr : ℕ} {t : TrimSpace}

theorem set_append_drop (w m : List UInt8) (c : UInt8) (h : w.length < m.length) :
    (w ++ m.drop w.length).set w.length c = (w ++ [c]) ++ m.drop (w.length + 1) := by
  rw [List.set_append_right _ _ le_rfl, Nat.sub_self, List.drop_eq_getElem_cons h, List.set_cons_zero,
    List.append_assoc, List.singleton_append]

theorem Scanned.next (h : Scanned mem s scan_ptr t) (hlt : scan_ptr < mem.length) (c : UInt8) :
    Scanned mem (s.next c) (scan_ptr + 1) (t.next scan_ptr c) := by
  have hle := h.le
  have hwrites (i : ℕ) (hi : i ∈ t.writes ++ [t.write_ptr]) : i < scan_ptr + 1 := by
    rcases List.mem_append.1 hi with hi | hi
    · exact (h.writes i hi).trans (Nat.lt_succ_self _)
    · rw [List.mem_singleton.1 hi, h.write]
      omega
  have hset := set_append_drop s.written mem c (by omega)
  have hfirst : (if !isspace c && t.first_nonspace.isNone then some scan_ptr
      else t.first_nonspace).isSome = (s.first_nonspace || !isspace c) := by
    rw [← h.first]
    cases isspace c <;> cases t.first_nonspace <;> rfl
  unfold TrimSpace.next TrimScan.next
  dsimp only
  generalize (if !isspace c && t.first_nonspace.isNone then some scan_ptr
    else t.first_nonspace) = first at hfirst ⊢
  by_cases hwrite : (s.first_nonspace || !isspace c) = true
  · rw [hfirst, if_pos hwrite, if_pos hwrite]
    refine ⟨?_, hfirst.trans hwrite, ?_, ?_, ?_, hwrites⟩
    · dsimp only
      rw [h.mem_eq, h.write, hset, List.length_append, List.length_singleton]
    · dsimp only
      rw [h.last, h.write]
    · dsimp only
      rw [h.write, List.length_append, List.length_singleton]
    · rw [List.length_append, List.length_singleton]
      omega
  · rw [hfirst, if_neg hwrite, if_neg hwrite]
    exact ⟨h.mem_eq, h.first, h.last, h.write, hle.trans (Nat.le_succ _),
      fun i hi => (h.writes i hi).trans (Nat.lt_succ_self _)⟩

/-- What has not been read yet has not been written over. -/
theorem Scanned.getD (h : Scanned mem s scan_ptr t) : t.mem.getD scan_ptr 0 = mem.getD scan_ptr 0 := by
  have hle := h.le
  rw [h.mem_eq, List.getD_eq_getElem?_getD, List.getD_eq_getElem?_getD,
    List.getElem?_append_right hle, List.getElem?_drop, Nat.add_sub_cancel' hle]

/-- The loop reads what is left of the text. -/
theorem Scanned.loop {text rest : List UInt8} {turns : ℕ} (h : Scanned mem s scan_ptr t)
    (hmem : mem.drop scan_ptr = text ++ 0 :: rest) (hnot : 0 ∉ text) (hturns : text.length < turns) :
    Scanned mem (text.foldl TrimScan.next s) (scan_ptr + text.length)
      (TrimSpace.loop turns scan_ptr t) := by
  induction text generalizing s scan_ptr t turns with
  | nil =>
    obtain ⟨turns, rfl⟩ := Nat.exists_eq_succ_of_ne_zero (Nat.ne_of_gt hturns)
    have hzero : mem.getD scan_ptr 0 = 0 := by
      have hget := congrArg (·.getD 0 0) hmem
      simpa [List.getD_eq_getElem?_getD] using hget
    unfold TrimSpace.loop
    dsimp only
    rw [h.getD, hzero, if_pos rfl]
    exact h
  | cons c text ih =>
    obtain ⟨turns, rfl⟩ := Nat.exists_eq_succ_of_ne_zero (Nat.ne_of_gt (Nat.zero_lt_of_lt hturns))
    have hc : c ≠ 0 := fun heq => hnot (heq ▸ List.mem_cons_self)
    have hget : mem.getD scan_ptr 0 = c := by
      have hget := congrArg (·.getD 0 0) hmem
      simpa [List.getD_eq_getElem?_getD] using hget
    have hlt : scan_ptr < mem.length := by
      have hlength := congrArg List.length hmem
      rw [List.length_drop, List.length_append, List.length_cons] at hlength
      omega
    have hdrop : mem.drop (scan_ptr + 1) = text ++ 0 :: rest := by
      rw [← List.drop_drop, hmem]
      rfl
    rw [TrimSpace.loop, h.getD, hget, if_neg hc, List.foldl_cons, List.length_cons, ← Nat.add_assoc,
      Nat.add_right_comm]
    refine ih (h.next hlt c) hdrop (fun hmem => hnot (List.mem_cons_of_mem _ hmem)) ?_
    exact Nat.lt_of_succ_lt_succ hturns

/-! ### The function -/

theorem not_mem_strip {text : List UInt8} (h : 0 ∉ text) : 0 ∉ strip text := fun hmem =>
  h ((List.dropWhile_suffix isspace).mem ((List.rdropWhile_prefix isspace _).mem hmem))

/-- What the function leaves: a text that is not blank is stripped and ended in front of its old NUL,
and one that is stays. -/
theorem loc_util_trim_space_eq {text : List UInt8} (hnot : 0 ∉ text) (rest : List UInt8) :
    (∃ behind, (loc_util_trim_space (text ++ 0 :: rest)).mem =
      (if blank text then text else strip text) ++ 0 :: behind) ∧
    (∀ i ∈ (loc_util_trim_space (text ++ 0 :: rest)).writes, i ≤ text.length) ∧
    (loc_util_trim_space (text ++ 0 :: rest)).mem.drop (text.length + 1) = rest := by
  obtain ⟨mem, hmem⟩ : ∃ mem, mem = text ++ 0 :: rest := ⟨_, rfl⟩
  have hlength : mem.length = text.length + 1 + rest.length := by
    rw [hmem, List.length_append, List.length_cons]
    omega
  have hstart : Scanned mem ⟨false, [], none⟩ 0 ⟨mem, none, none, 0, []⟩ :=
    ⟨rfl, rfl, rfl, rfl, le_rfl, nofun⟩
  have hloop := hstart.loop hmem hnot (show text.length < mem.length by omega)
  rw [trimScan_foldl, Nat.zero_add] at hloop
  have hdrop : (text.dropWhile isspace).length ≤ text.length := (List.dropWhile_suffix _).length_le
  have hstrip : strip text <+: text.dropWhile isspace := List.rdropWhile_prefix _ _
  rw [← hmem]
  unfold loc_util_trim_space
  dsimp only
  generalize TrimSpace.loop mem.length 0 ⟨mem, none, none, 0, []⟩ = t at hloop
  obtain ⟨hmem', -, hlast, -, -, hwrites⟩ := hloop
  dsimp only at hmem' hlast
  have hframe : t.mem.drop (text.length + 1) = rest := by
    rw [hmem', List.drop_append, List.drop_eq_nil_of_le (by omega), List.nil_append, List.drop_drop,
      hmem, List.drop_append, List.drop_eq_nil_of_le (by omega), List.nil_append]
    have hone : (text.dropWhile isspace).length + (text.length + 1 -
        (text.dropWhile isspace).length) - text.length = 1 := by omega
    rw [hone]
    rfl
  cases hblank : blank text with
  | true =>
    rw [if_pos hblank] at hlast
    rw [hlast, if_pos rfl]
    refine ⟨⟨rest, ?_⟩, fun i hi => (hwrites i hi).le, hframe⟩
    rw [hmem', dropWhile_eq_nil_of_blank hblank, List.nil_append]
    exact hmem
  | false =>
    rw [if_neg (by rw [hblank]; decide)] at hlast
    rw [hlast, if_neg (by decide)]
    dsimp only
    have hle := hstrip.length_le
    have hlt : (strip text).length < t.mem.length := by
      rw [hmem', List.length_append, List.length_drop]
      omega
    refine ⟨⟨t.mem.drop ((strip text).length + 1), ?_⟩, fun i hi => ?_, ?_⟩
    · have htake : t.mem.take (strip text).length = strip text := by
        rw [hmem', List.take_append_of_le_length hle]
        exact (List.prefix_iff_eq_take.1 hstrip).symm
      rw [List.set_eq_take_append_cons_drop, if_pos hlt, htake]
    · rcases List.mem_append.1 hi with hi | hi
      · exact (hwrites i hi).le
      · rw [List.mem_singleton.1 hi]
        omega
    · rw [List.drop_set_of_lt (by omega)]
      exact hframe

/-- The text afterwards is that of the function on texts. -/
theorem ctext_loc_util_trim_space {mem : List UInt8} (h : 0 ∈ mem) :
    ctext (loc_util_trim_space mem).mem = GpsHal.loc_util_trim_space (ctext mem) := by
  obtain ⟨hnot, rest, hmem⟩ := eq_ctext_append h
  obtain ⟨⟨behind, heq⟩, -, -⟩ := loc_util_trim_space_eq hnot rest
  rw [← hmem] at heq
  rw [heq, GpsHal.loc_util_trim_space_eq]
  refine ctext_append ?_ behind
  split_ifs
  · exact hnot
  · exact not_mem_strip hnot

theorem zero_mem_loc_util_trim_space {mem : List UInt8} (h : 0 ∈ mem) :
    0 ∈ (loc_util_trim_space mem).mem := by
  obtain ⟨hnot, rest, hmem⟩ := eq_ctext_append h
  obtain ⟨⟨behind, heq⟩, -, -⟩ := loc_util_trim_space_eq hnot rest
  rw [hmem, heq]
  exact List.mem_append_right _ List.mem_cons_self

theorem isspace_of_dropWhile {text rest : List UInt8} {c : UInt8}
    (h : text.dropWhile isspace = c :: rest) : isspace c = false := by
  have hhead := List.head?_dropWhile_not isspace text
  rw [h] at hhead
  exact hhead

/-- What has been stripped is empty or starts with another character than white space. -/
theorem dropWhile_strip (text : List UInt8) : (strip text).dropWhile isspace = strip text := by
  have hbegin : strip text <+: text.dropWhile isspace := List.rdropWhile_prefix _ _
  cases hstrip : strip text with
  | nil => rfl
  | cons c rest =>
    rw [hstrip] at hbegin
    obtain ⟨behind, hdrop⟩ := hbegin
    exact List.dropWhile_cons_of_neg (by rw [isspace_of_dropWhile hdrop.symm]; decide)

theorem strip_strip (text : List UInt8) : strip (strip text) = strip text := by
  have hagain : strip (strip text) = (strip text).rdropWhile isspace := by
    rw [strip, dropWhile_strip]
  rw [hagain]
  exact List.rdropWhile_idempotent _ _

/-- Only a blank text has nothing left. -/
theorem strip_eq_nil_iff {text : List UInt8} : strip text = [] ↔ blank text := by
  constructor
  · intro h
    have hall := List.rdropWhile_eq_nil_iff.1 h
    cases hdrop : text.dropWhile isspace with
    | nil => exact List.all_eq_true.2 (List.dropWhile_eq_nil_iff.1 hdrop)
    | cons c rest =>
      have hc := hall c (by rw [hdrop]; exact List.mem_cons_self)
      rw [isspace_of_dropWhile hdrop] at hc
      cases hc
  · intro h
    rw [strip, dropWhile_eq_nil_of_blank h]
    rfl

/-- **Trimming.**  It does what it should unless the string has white space only, and some. -/
theorem trims_iff {mem : List UInt8} (h : 0 ∈ mem) :
    Trims mem ↔ (blank (ctext mem) → ctext mem = []) := by
  obtain ⟨hnot, rest, hmem⟩ := eq_ctext_append h
  obtain ⟨-, hwithin, hframe⟩ := loc_util_trim_space_eq hnot rest
  rw [← hmem] at hwithin hframe
  have htext := ctext_loc_util_trim_space h
  have hagain := ctext_loc_util_trim_space (zero_mem_loc_util_trim_space h)
  rw [htext] at hagain
  have heq := GpsHal.loc_util_trim_space_eq (ctext mem)
  constructor
  · intro htrims hblank
    have hstrip := htrims.text
    rwa [htext, heq, if_pos hblank, strip_eq_nil_iff.2 hblank] at hstrip
  · intro hnil
    have hbehind : mem.drop ((ctext mem).length + 1) = rest := by
      have hdrop := congrArg (List.drop ((ctext mem).length + 1)) hmem
      rwa [List.drop_append, List.drop_eq_nil_of_le (Nat.le_succ _), Nat.add_sub_cancel_left] at hdrop
    have hstrip : GpsHal.loc_util_trim_space (ctext mem) = strip (ctext mem) := by
      rw [heq]
      split_ifs with hblank
      · rw [hnil hblank]
        rfl
      · rfl
    refine ⟨htext.trans hstrip, hwithin, hframe.trans hbehind.symm, ?_⟩
    rw [hagain, htext, hstrip, GpsHal.loc_util_trim_space_eq, strip_strip, ite_self]

/-- ` a  b` is trimmed. -/
theorem trims_iff_inner : Trims (cstring " a  b " ++ [0, byte 'x']) :=
  (trims_iff (by decide)).2 (by decide)

/-- A space is left as it is. -/
theorem not_trims_space : ¬ Trims (cstring " " ++ [0]) := fun h => absurd h.text (by decide)

end TrimSpace

end GpsHal
