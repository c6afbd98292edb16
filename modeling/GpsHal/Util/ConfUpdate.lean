import GpsHal.Util.ConfRead
import GpsHal.Util.TrimSpace

/-!
# Updates from configuration text

`loc_update_conf` goes through the lines of a text in memory, on a copy of it, with a budget of
updates that is one less than the table has entries (`utils/loc_cfg.cpp`).

## Main definitions

* `loc_update_conf` : the function.
* `ConfUpdates` : what it should do.

## Main results

* `updateConf_spec` : the loop gives every entry its last value in the lines that it reads.
* `loc_update_conf_updates_iff` : when the function does what it should.
-/

namespace GpsHal

/-- What `loc_update_conf` returns and leaves.  `read` records the lines that have been parsed. -/
structure ConfUpdate where
  ret : ℤ
  config_table : List loc_param_s_type
  conf_data : Option (List UInt8)
  read : List (List UInt8)
  deriving DecidableEq, Repr

section

variable (atof : List UInt8 → CDouble)

/-- The loop, with as many turns as there can be.  `input_buf` is the token with the place where the
next call of `strtok_r` starts. -/
def updateConf : ℕ → BitVec 32 → Option (List UInt8 × List UInt8) → ConfUpdate → ConfUpdate
  | 0, _, _, t => t
  | _ + 1, _, none, t => t
  | turns + 1, num_params, some (input_buf, saveptr), t =>
    if num_params = 0 then t
    else
      let r := loc_fill_conf_item atof input_buf t.config_table
      updateConf turns (num_params - BitVec.ofNat 32 r.2) (strtok_r newline saveptr)
        { t with
          ret := t.ret + 1
          config_table := r.1
          read := t.read ++ [input_buf] }

/-- `loc_update_conf` with what it finds behind its pointers.  `malloc` says whether there is memory
for the copy, which is ended with a NUL. -/
def loc_update_conf (malloc : Bool) (conf_data : Option (List UInt8)) (length : ℤ)
    (config_table : Option ConfTable) : ConfUpdate :=
  let entries := (config_table.map (·.entries)).getD []
  match conf_data with
  | some data =>
    if length ≠ 0 ∧ config_table.isSome ∧ entries ≠ [] ∧ malloc then
      let conf_copy := data.take length.toNat ++ [0]
      let num_params := BitVec.ofNat 32 entries.length - 1
      let input_buf := strtok_r newline (ctext conf_copy)
      updateConf atof conf_copy.length num_params input_buf ⟨0, entries, conf_data, []⟩
    else ⟨-1, entries, conf_data, []⟩
  | none => ⟨-1, entries, conf_data, []⟩

end

/-- The lines of a text, but for the empty ones. -/
def confLines (conf_data : List UInt8) : List (List UInt8) := parts newline (ctext conf_data)

/-- What the function should do: every entry has its last value in the text, the result is the number
of entries that have been updated, and the text stays as it is. -/
structure ConfUpdates (atof : List UInt8 → CDouble) (conf_data : List UInt8) (config_table : ConfTable)
    (r : ConfUpdate) : Prop where
  table : r.config_table =
    config_table.entries.map fun e => e.given atof (e.lastValue (confLines conf_data))
  count : r.ret = config_table.entries.countP fun e => r.read.any fun line => (e.valueIn line).isSome
  data : r.conf_data = some conf_data

/-! ### Counting -/

section

variable {α β : Type} (p : α → β → Bool)

/-- The pairs, from one side. -/
def pairs (as : List α) (bs : List β) : List (α × β) :=
  as.flatMap fun a => (bs.filter (p a)).map fun b => (a, b)

theorem length_pairs_cons (a : α) (as : List α) (bs : List β) :
    (pairs p (a :: as) bs).length = bs.countP (p a) + (pairs p as bs).length := by
  unfold pairs
  rw [List.flatMap_cons, List.length_append, List.length_map, List.countP_eq_length_filter]

/-- Pairs are counted from either side. -/
theorem length_pairs_comm (as : List α) (bs : List β) :
    (pairs p as bs).length = (pairs (fun b a => p a b) bs as).length := by
  induction as with
  | nil =>
    induction bs with
    | nil => rfl
    | cons b bs ih =>
      rw [length_pairs_cons, ← ih]
      rfl
  | cons a as ih =>
    rw [length_pairs_cons, ih]
    clear ih
    induction bs with
    | nil => rfl
    | cons b bs ih =>
      rw [length_pairs_cons, length_pairs_cons, ← ih, List.countP_cons, List.countP_cons]
      omega

/-- Those with a partner are as many as the pairs exactly if no one has two. -/
theorem countP_any_spec (as : List α) (bs : List β) :
    as.countP (fun a => bs.any (p a)) ≤ (pairs p as bs).length ∧
      (as.countP (fun a => bs.any (p a)) = (pairs p as bs).length ↔
        ∀ a ∈ as, bs.countP (p a) ≤ 1) := by
  induction as with
  | nil => exact ⟨le_rfl, iff_of_true rfl nofun⟩
  | cons a as ih =>
    obtain ⟨hle, heq⟩ := ih
    have hany : (if bs.any (p a) then 1 else 0) = min 1 (bs.countP (p a)) := by
      by_cases h : bs.any (p a)
      · have hpos : 0 < bs.countP (p a) := List.countP_pos_iff.2 (List.any_eq_true.1 h)
        rw [if_pos h]
        omega
      · have hzero : bs.countP (p a) = 0 := List.countP_eq_zero.2 fun b hb hp =>
          h (List.any_eq_true.2 ⟨b, hb, hp⟩)
        rw [if_neg h, hzero]
        rfl
    rw [List.countP_cons, hany, length_pairs_cons, List.forall_mem_cons, ← heq]
    constructor
    · omega
    · omega

/-- If every `b` has one partner at most, then the partners are as many as the `b`s exactly if each `b`
has one and no two have the same. -/
theorem countP_any_eq_length_iff (as : List α) (bs : List β)
    (hone : ∀ b ∈ bs, as.countP (fun a => p a b) ≤ 1) :
    as.countP (fun a => bs.any (p a)) = bs.length ↔
      (∀ b ∈ bs, as.any fun a => p a b) ∧ ∀ a ∈ as, bs.countP (p a) ≤ 1 := by
  obtain ⟨hle, heq⟩ := countP_any_spec p as bs
  have hpairs : bs.countP (fun b => as.any fun a => p a b) = _ :=
    (countP_any_spec (fun b a => p a b) bs as).2.2 hone
  have hlength : bs.countP (fun b => as.any fun a => p a b) ≤ bs.length := List.countP_le_length
  rw [← length_pairs_comm] at hpairs
  rw [← heq, ← List.countP_eq_length (p := fun b => as.any fun a => p a b)]
  omega

end

/-! ### The loop -/

/-- The next call starts behind the token. -/
theorem length_lasts_lt {delim : UInt8} {s token lasts : List UInt8}
    (h : strtok_r delim s = some (token, lasts)) : lasts.length < s.length := by
  unfold strtok_r at h
  have hdrop : (s.dropWhile (· == delim)).length ≤ s.length := (List.dropWhile_suffix _).length_le
  cases hs : s.dropWhile (· == delim) with
  | nil =>
    rw [hs] at h
    cases h
  | cons c cs =>
    rw [hs] at h hdrop
    have hhead := List.head?_dropWhile_not (· == delim) s
    rw [hs, List.head?_cons] at hhead
    dsimp only at hhead
    have hne : (c != delim) = true := by simpa using hhead
    obtain ⟨-, rfl⟩ := Prod.mk.inj (Option.some.inj h)
    have hrest : (cs.dropWhile (· != delim)).length ≤ cs.length := (List.dropWhile_suffix _).length_le
    rw [List.dropWhile_cons_of_pos (p := (· != delim)) hne, List.length_tail]
    rw [List.length_cons] at hdrop
    omega

namespace ReadUpTo

variable {α : Type} {hit : α → Bool} {n : ℕ} {lines read unread : List α}

/-- If all that has been read are hits, then as many lines have been read as there was room for. -/
theorem eq_take (h : ReadUpTo hit n lines read unread) (hall : ∀ line ∈ read, hit line) :
    read = lines.take n := by
  have hcount : read.countP hit = read.length := List.countP_eq_length.2 hall
  have hle : read.length ≤ n := by
    by_contra hlt
    have hneed := h.needed (read.length - 1) (by omega)
    have hfirst : (read.take (read.length - 1)).countP hit = (read.take (read.length - 1)).length :=
      List.countP_eq_length.2 fun line hline => hall line (List.mem_of_mem_take hline)
    rw [List.length_take] at hfirst
    omega
  rw [h.split]
  cases hunread : unread with
  | nil => rw [List.append_nil, List.take_of_length_le hle]
  | cons line rest =>
    have henough := h.enough (by rw [hunread]; exact List.cons_ne_nil _ _)
    have hlength : n = read.length := by omega
    rw [hlength, List.take_left]

/-- If the first lines are hits, then it is they that have been read. -/
theorem eq_take_of_hits (h : ReadUpTo hit n lines read unread)
    (hall : ∀ line ∈ lines.take n, hit line) : read = lines.take n := by
  refine h.eq_take fun line hline => hall line ?_
  have hle : read.length ≤ n := by
    by_contra hlt
    have hneed := h.needed n (by omega)
    have htake : lines.take n = read.take n := by
      rw [h.split, List.take_append_of_le_length (by omega)]
    rw [htake] at hall
    have hcount : (read.take n).countP hit = (read.take n).length := List.countP_eq_length.2 hall
    rw [List.length_take] at hcount
    omega
  rw [h.split, List.take_append, List.take_of_length_le hle]
  exact List.mem_append_left _ hline

end ReadUpTo

section

variable {atof : List UInt8 → CDouble}

variable (atof) in
/-- The loop reads lines up to its budget, and gives every entry its last value in them. -/
theorem updateConf_spec {turns : ℕ} {s : List UInt8} (hturns : s.length ≤ turns)
    (num_params : BitVec 32) {entries : List loc_param_s_type}
    (hnames : (entries.map (·.param_name)).Nodup) (ret : ℤ) (conf_data : Option (List UInt8))
    (before : List (List UInt8)) :
    ∃ read unread, ReadUpTo (hits entries) num_params.toNat (parts newline s) read unread ∧
      updateConf atof turns num_params (strtok_r newline s) ⟨ret, entries, conf_data, before⟩ =
        ⟨ret + read.length, entries.map fun e => e.given atof (e.lastValue read), conf_data,
          before ++ read⟩ := by
  have hnone (entries : List loc_param_s_type) (ret : ℤ) (before : List (List UInt8)) :
      (⟨ret, entries, conf_data, before⟩ : ConfUpdate) =
        ⟨ret + ([] : List (List UInt8)).length, entries.map fun e => e.given atof (e.lastValue []),
          conf_data, before ++ []⟩ := by
    have hmap : entries.map (fun e => e.given atof (e.lastValue [])) = entries := List.map_id _
    rw [hmap, List.append_nil, List.length_nil, Int.natCast_zero, Int.add_zero]
  induction turns generalizing s num_params entries ret before with
  | zero =>
    obtain rfl := List.length_eq_zero_iff.1 (Nat.le_zero.1 hturns)
    exact ⟨[], [], ReadUpTo.nil _, hnone entries ret before⟩
  | succ turns ih =>
    have hparts := parts_eq_strtok_r newline s
    cases htoken : strtok_r newline s with
    | none =>
      rw [htoken] at hparts
      rw [hparts]
      exact ⟨[], [], ReadUpTo.nil _, hnone entries ret before⟩
    | some token =>
      obtain ⟨line, lasts⟩ := token
      rw [htoken] at hparts
      dsimp only at hparts
      rw [updateConf]
      by_cases hzero : num_params = 0
      · subst hzero
        rw [if_pos rfl]
        exact ⟨[], parts newline s, ReadUpTo.zero _, hnone entries ret before⟩
      · rw [if_neg hzero, loc_fill_conf_item_eq, countP_valueIn hnames]
        dsimp only
        have hlength := length_lasts_lt htoken
        obtain ⟨read, unread, hread, heq⟩ := ih (show lasts.length ≤ turns by omega)
          (num_params - BitVec.ofNat 32 _) (nodup_names_given hnames) (ret + 1) (before ++ [line])
        refine ⟨line :: read, unread, ?_, ?_⟩
        · rw [hparts]
          exact readUpTo_line hzero hread
        · rw [heq, map_given_cons, List.append_assoc, List.length_cons, Int.natCast_succ,
            Int.add_assoc, Int.add_comm 1]
          rfl

/-! ### The function -/

variable (atof) in
/-- What the function does to a text that is not empty. -/
theorem loc_update_conf_spec {conf_data : List UInt8} (hne : ctext conf_data ≠ [])
    {config_table : ConfTable} (htable : config_table.entries ≠ [])
    (hnames : (config_table.entries.map (·.param_name)).Nodup) :
    ∃ read unread, ReadUpTo (hits config_table.entries) (config_table.entries.length - 1)
        (confLines conf_data) read unread ∧
      loc_update_conf atof true (some conf_data) (ctext conf_data).length (some config_table) =
        ⟨read.length, config_table.entries.map fun e => e.given atof (e.lastValue read), conf_data,
          read⟩ := by
  have hprefix : ctext conf_data <+: conf_data := List.takeWhile_prefix _
  have hcopy : conf_data.take (ctext conf_data).length = ctext conf_data :=
    (List.prefix_iff_eq_take.1 hprefix).symm
  have hnul : 0 ∉ ctext conf_data := fun hmem => by simpa using List.mem_takeWhile_imp hmem
  have hlength : (ctext conf_data).length ≠ 0 := fun h => hne (List.length_eq_zero_iff.1 h)
  have hpos := List.length_pos_iff.2 htable
  have hnum : (BitVec.ofNat 32 config_table.entries.length - 1).toNat =
      config_table.entries.length - 1 := by
    have hlt := config_table.length_lt
    rw [BitVec.toNat_sub_of_le, BitVec.toNat_ofNat, Nat.mod_eq_of_lt hlt]
    · rfl
    · rw [BitVec.le_def, BitVec.toNat_ofNat, Nat.mod_eq_of_lt hlt]
      exact hpos
  have hturns : (ctext conf_data).length ≤ (ctext conf_data ++ [0]).length := by
    rw [List.length_append]
    exact Nat.le_add_right _ _
  obtain ⟨read, unread, hread, heq⟩ := updateConf_spec atof hturns
    (BitVec.ofNat 32 config_table.entries.length - 1) hnames 0 (some conf_data) []
  rw [hnum] at hread
  refine ⟨read, unread, hread, ?_⟩
  unfold loc_update_conf
  dsimp only [Option.map_some, Option.getD_some]
  rw [if_pos ⟨Int.natCast_ne_zero.2 hlength, rfl, htable, rfl⟩, Int.toNat_natCast, hcopy,
    TrimSpace.ctext_append hnul, heq, Int.zero_add, List.nil_append]

/-- **Updates.**  The function does what it should exactly if there is memory, the text is not empty,
each of the first lines, one less than the table has entries, has a value for an entry, no two of them
for the same one, and the lines behind change nothing. -/
theorem loc_update_conf_updates_iff (atof : List UInt8 → CDouble) (malloc : Bool)
    (conf_data : List UInt8) {config_table : ConfTable} (htable : config_table.entries ≠ [])
    (hnames : (config_table.entries.map (·.param_name)).Nodup) :
    ConfUpdates atof conf_data config_table (loc_update_conf atof malloc (some conf_data)
        (ctext conf_data).length (some config_table)) ↔
      malloc = true ∧ ctext conf_data ≠ [] ∧
      let first := (confLines conf_data).take (config_table.entries.length - 1)
      (∀ line ∈ first, hits config_table.entries line) ∧
      (∀ e ∈ config_table.entries, first.countP (fun line => (e.valueIn line).isSome) ≤ 1) ∧
      ∀ e ∈ config_table.entries,
        e.given atof (e.lastValue (confLines conf_data)) = e.given atof (e.lastValue first) := by
  have hfailed {r : ConfUpdate} (hr : r.ret = -1) : ¬ ConfUpdates atof conf_data config_table r :=
    fun h => by
      have hcount := h.count
      omega
  cases malloc with
  | false =>
    refine iff_of_false (hfailed ?_) fun h => Bool.false_ne_true h.1
    unfold loc_update_conf
    dsimp only
    rw [if_neg fun h => Bool.false_ne_true h.2.2.2]
  | true =>
    by_cases hne : ctext conf_data = []
    · refine iff_of_false (hfailed ?_) fun h => h.2.1 hne
      unfold loc_update_conf
      dsimp only
      rw [hne, if_neg fun h => h.1 rfl]
    · obtain ⟨read, unread, hread, heq⟩ := loc_update_conf_spec atof hne htable hnames
      -- the entries that are updated are as many as the lines that are read
      have hupdated := countP_any_eq_length_iff (fun (e : loc_param_s_type) line =>
        (e.valueIn line).isSome) config_table.entries read fun line _ => by
          rw [countP_valueIn hnames]
          split_ifs <;> decide
      rw [heq]
      constructor
      · intro h
        obtain ⟨hall, hone⟩ := hupdated.1 (Int.ofNat_inj.1 h.count.symm)
        have hfirst := hread.eq_take hall
        have htable := h.table
        dsimp only at htable
        rw [hfirst] at hall hone htable
        exact ⟨rfl, hne, hall, hone, fun e he => (List.map_inj_left.1 htable e he).symm⟩
      · rintro ⟨-, -, hall, hone, hbehind⟩
        have hfirst := hread.eq_take_of_hits hall
        rw [← hfirst] at hall hone hbehind
        refine ⟨List.map_congr_left fun e he => (hbehind e he).symm, ?_, rfl⟩
        exact congrArg Int.ofNat (hupdated.2 ⟨hall, hone⟩).symm

/-- For the table `A`, `B` the text `A=1` has the one line that the budget allows. -/
theorem loc_update_conf_updates_iff_one :
    let atof : List UInt8 → CDouble := fun _ => ⟨0⟩
    let A : loc_param_s_type := ⟨cstring "A", some (.number 0), some 0, byte 'n'⟩
    let B : loc_param_s_type := ⟨cstring "B", some (.number 0), some 0, byte 'n'⟩
    let conf_data := cstring "A=1" ++ [newline, 0]
    let config_table : ConfTable := ⟨[A, B], by decide⟩
    let r := loc_update_conf atof true (some conf_data) (ctext conf_data).length (some config_table)
    r = ⟨1, [⟨cstring "A", some (.number 1), some 1, byte 'n'⟩, B], some conf_data, [cstring "A=1"]⟩ ∧
      ConfUpdates atof conf_data config_table r := by
  intro atof A B conf_data config_table r
  refine ⟨by decide, ?_⟩
  exact (loc_update_conf_updates_iff atof true conf_data (by decide) (by decide)).2 (by decide)

/-- A table of one entry is never updated. -/
theorem not_confUpdates_single :
    let atof : List UInt8 → CDouble := fun _ => ⟨0⟩
    let A : loc_param_s_type := ⟨cstring "A", some (.number 0), some 0, byte 'n'⟩
    let conf_data := cstring "A=1" ++ [0]
    let config_table : ConfTable := ⟨[A], by decide⟩
    ¬ ConfUpdates atof conf_data config_table
      (loc_update_conf atof true (some conf_data) 3 (some config_table)) := by
  intro atof A conf_data config_table h
  exact absurd h.table (by decide)

end

end GpsHal
