import GpsHal.Util.ConfItem
import Mathlib.Data.List.Forall2

/-!
# Reading of configuration files

`loc_read_conf_r` reads a file line by line until as many parameters have been set as the table has
entries, so that it can be called again for the rest of the file (`utils/loc_cfg.cpp`).

## Main definitions

* `loc_read_conf_r` : the function.
* `ReadUpTo` : the lines that are read.
* `Filled` : what lines do to an entry.

## Main results

* `readConf_spec` : the loop gives every entry its last value in the lines that it reads.
* `loc_read_conf_r_spec` : so does the function, and in a file with no more values than entries these
  are the values of the file.
-/

namespace GpsHal

/-! ### Files -/

def newline : UInt8 := 10

/-- Up to `n` bytes of a file, but not beyond the first newline, and what comes behind them. -/
def readLine : ℕ → List UInt8 → List UInt8 × List UInt8
  | 0, fp => ([], fp)
  | _ + 1, [] => ([], [])
  | n + 1, c :: fp =>
    if c = newline then ([c], fp)
    else
      let r := readLine n fp
      (c :: r.1, r.2)

/-- `fgets`, which leaves room for the NUL. -/
def fgets (size : ℕ) (fp : List UInt8) : Option (List UInt8 × List UInt8) :=
  if fp.isEmpty then none else some (readLine (size - 1) fp)

/-- The lines of a file, each with its newline. -/
def fileLines : List UInt8 → List (List UInt8)
  | [] => []
  | c :: file =>
    if c = newline then [c] :: fileLines file
    else
      match fileLines file with
      | [] => [[c]]
      | line :: lines => (c :: line) :: lines

theorem flatten_fileLines (file : List UInt8) : (fileLines file).flatten = file := by
  induction file with
  | nil => rfl
  | cons c file ih =>
    rw [fileLines]
    split_ifs with hc
    · rw [List.flatten_cons, ih]
      rfl
    · cases hlines : fileLines file with
      | nil =>
        rw [hlines] at ih
        rw [← ih]
        rfl
      | cons line lines =>
        rw [hlines] at ih
        rw [← ih]
        rfl

/-- A first line that is short enough is read as a whole. -/
theorem fileLines_eq_cons {file : List UInt8} (hne : file ≠ []) {n : ℕ}
    (hshort : ∀ line ∈ (fileLines file).head?, line.length ≤ n) :
    fileLines file = (readLine n file).1 :: fileLines (readLine n file).2 := by
  induction file generalizing n with
  | nil => exact absurd rfl hne
  | cons c file ih =>
    cases n with
    | zero =>
      exfalso
      rw [fileLines] at hshort
      split_ifs at hshort
      · exact absurd (hshort _ rfl) (by simp)
      · cases hlines : fileLines file with
        | nil =>
          rw [hlines] at hshort
          exact absurd (hshort _ rfl) (by simp)
        | cons line lines =>
          rw [hlines] at hshort
          exact absurd (hshort _ rfl) (by simp)
    | succ n =>
      rw [fileLines] at hshort ⊢
      rw [readLine]
      by_cases hc : c = newline
      · rw [if_pos hc, if_pos hc]
      · rw [if_neg hc] at hshort
        rw [if_neg hc, if_neg hc]
        by_cases hfile : file = []
        · subst hfile
          cases n <;> rfl
        · have hhead : ∀ line ∈ (fileLines file).head?, line.length ≤ n := by
            intro line hline
            cases hlines : fileLines file with
            | nil =>
              rw [hlines] at hline
              cases hline
            | cons first lines =>
              rw [hlines] at hline hshort
              obtain rfl := Option.mem_some_iff.1 hline
              exact Nat.le_of_succ_le_succ (hshort _ rfl)
          rw [ih hfile hhead]

theorem length_readLine_lt {file : List UInt8} (hne : file ≠ []) (n : ℕ) :
    (readLine (n + 1) file).2.length < file.length := by
  have hle (m : ℕ) (fp : List UInt8) : (readLine m fp).2.length ≤ fp.length := by
    induction m generalizing fp with
    | zero => exact le_rfl
    | succ m ih =>
      cases fp with
      | nil => exact le_rfl
      | cons c fp =>
        rw [readLine]
        split_ifs
        · exact Nat.le_succ _
        · exact (ih fp).trans (Nat.le_succ _)
  cases file with
  | nil => exact absurd rfl hne
  | cons c file =>
    rw [readLine]
    split_ifs
    · exact Nat.lt_succ_self _
    · exact Nat.lt_succ_of_le (hle n file)

/-- What is left of a file has the lines that are left. -/
theorem fileLines_flatten {file : List UInt8} {read unread : List (List UInt8)}
    (h : fileLines file = read ++ unread) : fileLines unread.flatten = unread := by
  induction read generalizing file with
  | nil =>
    rw [List.nil_append] at h
    rw [← h, flatten_fileLines]
  | cons line read ih =>
    have hne : file ≠ [] := by
      rintro rfl
      cases h
    have hlines := fileLines_eq_cons hne (n := line.length) fun first hfirst => by
      rw [h] at hfirst
      exact (congrArg List.length (Option.some.inj hfirst)).ge
    rw [h, List.cons_append] at hlines
    exact ih (List.cons.inj hlines).2.symm

theorem length_fileLines_le (file : List UInt8) : (fileLines file).length ≤ file.length := by
  induction file with
  | nil => exact le_rfl
  | cons c file ih =>
    rw [fileLines, List.length_cons]
    split_ifs
    · exact Nat.succ_le_succ ih
    · cases hlines : fileLines file with
      | nil => exact Nat.succ_le_succ (Nat.zero_le _)
      | cons line lines =>
        rw [hlines] at ih
        exact ih.trans (Nat.le_succ _)

/-! ### Tables -/

/-- A table, whose length is a `uint32_t`. -/
structure ConfTable where
  entries : List loc_param_s_type
  length_lt : entries.length < 4294967296

/-- Some entry has a value in the line. -/
def hits (entries : List loc_param_s_type) (line : List UInt8) : Bool :=
  entries.any fun e => (e.valueIn line).isSome

/-- The lines are read as long as fewer than `n` of them have been hits. -/
structure ReadUpTo {α : Type} (hit : α → Bool) (n : ℕ) (lines read unread : List α) : Prop where
  split : lines = read ++ unread
  needed : ∀ k < read.length, (read.take k).countP hit < n
  enough : unread ≠ [] → n ≤ read.countP hit

namespace ReadUpTo

variable {α : Type} {hit : α → Bool} {n : ℕ} {lines read unread : List α}

theorem zero (lines : List α) : ReadUpTo hit 0 lines [] lines :=
  ⟨rfl, fun _ hk => absurd hk (Nat.not_lt_zero _), fun _ => Nat.zero_le _⟩

theorem nil (n : ℕ) : ReadUpTo hit n [] [] [] :=
  ⟨rfl, fun _ hk => absurd hk (Nat.not_lt_zero _), fun h => absurd rfl h⟩

/-- One more line is read. -/
theorem cons (h : ReadUpTo hit n lines read unread) (line : α) {n' : ℕ} (hpos : 0 < n')
    (hn : n' = n + if hit line then 1 else 0) :
    ReadUpTo hit n' (line :: lines) (line :: read) unread := by
  refine ⟨congrArg (line :: ·) h.split, fun k hk => ?_, fun hne => ?_⟩
  · cases k with
    | zero => exact hpos
    | succ k =>
      have := h.needed k (Nat.lt_of_succ_lt_succ hk)
      rw [List.take_succ_cons, List.countP_cons]
      omega
  · have := h.enough hne
    rw [List.countP_cons]
    omega

/-- A block of lines with `n` hits is read after lines without any, or one with fewer if it is the
last.  What is left of it has no hits. -/
theorem block {quiet block more : List α} (h : ReadUpTo hit n (quiet ++ block ++ more) read unread)
    (hquiet : quiet.countP hit = 0) (hle : block.countP hit ≤ n)
    (hlast : more = [] ∨ block.countP hit = n) :
    ∃ rest, quiet ++ block = read ++ rest ∧ unread = rest ++ more ∧ rest.countP hit = 0 := by
  rcases List.append_eq_append_iff.1 h.split with ⟨rest, hread, hmore⟩ | ⟨rest, hblock, hunread⟩
  · -- not a line behind the block is read, for then it has been read with all its hits
    have hnil : rest = [] := by
      by_contra hrest
      have hn : block.countP hit = n := hlast.resolve_left fun hmore' => hrest (by
        rw [hmore'] at hmore
        exact (List.append_eq_nil_iff.1 hmore.symm).1)
      have hlength : (quiet ++ block).length < read.length := by
        have hadd := congrArg List.length hread
        have hpos := List.length_pos_iff.2 hrest
        rw [List.length_append] at hadd
        omega
      have hneeded := h.needed _ hlength
      rw [hread, List.take_left, List.countP_append, hquiet, hn] at hneeded
      omega
    subst hnil
    rw [List.append_nil] at hread
    exact ⟨[], by rw [List.append_nil, hread], hmore.symm, rfl⟩
  · refine ⟨rest, hblock, hunread, ?_⟩
    by_cases hrest : rest = []
    · rw [hrest]
      rfl
    · have henough := h.enough (by rw [hunread]; exact List.append_ne_nil_of_left_ne_nil hrest _)
      have hcount := congrArg (List.countP hit) hblock
      rw [List.countP_append, List.countP_append, hquiet] at hcount
      omega

end ReadUpTo

/-! ### The loop -/

section

variable (atof : List UInt8 → CDouble)

/-- The loop of `loc_read_conf_r`, with as many turns as there can be. -/
def readConf : ℕ → BitVec 32 → List loc_param_s_type → List UInt8 →
    List loc_param_s_type × List UInt8
  | 0, _, config_table, conf_fp => (config_table, conf_fp)
  | turns + 1, num_params, config_table, conf_fp =>
    if num_params = 0 then (config_table, conf_fp)
    else
      match fgets LOC_MAX_PARAM_LINE conf_fp with
      | none => (config_table, conf_fp)
      | some (input_buf, conf_fp) =>
        let r := loc_fill_conf_item atof input_buf config_table
        readConf turns (num_params - BitVec.ofNat 32 r.2) r.1 conf_fp

/-- What `loc_read_conf_r` returns and leaves. -/
structure ConfRead where
  ret : ℤ
  config_table : List loc_param_s_type
  conf_fp : Option (List UInt8)
  deriving DecidableEq, Repr

/-- `loc_read_conf_r`.  Every line has a byte, so that there are not more turns than bytes. -/
def loc_read_conf_r (conf_fp : Option (List UInt8)) (config_table : ConfTable) : ConfRead :=
  match conf_fp with
  | none => ⟨-1, config_table.entries, none⟩
  | some fp =>
    let r := readConf atof fp.length (BitVec.ofNat 32 config_table.entries.length)
      (config_table.entries.map (·.cleared)) fp
    ⟨0, r.1, some r.2⟩

end

/-! ### What a line does -/

section

variable {entries : List loc_param_s_type} {line : List UInt8}

theorem name_of_valueIn {e : loc_param_s_type} (h : (e.valueIn line).isSome) :
    ∃ value, lineItem line = some (e.param_name, value) := by
  unfold loc_param_s_type.valueIn at h
  split at h
  · rename_i name value hitem
    split_ifs at h with hnamed
    · rw [hnamed.1]
      exact ⟨value, hitem⟩
    · cases h
  · cases h

/-- With distinct names a line has a value for one entry at most. -/
theorem countP_valueIn (hnames : (entries.map (·.param_name)).Nodup) (line : List UInt8) :
    entries.countP (fun e => (e.valueIn line).isSome) = if hits entries line then 1 else 0 := by
  split_ifs with hhit
  · obtain ⟨e, he, hvalue⟩ := List.any_eq_true.1 hhit
    refine le_antisymm ?_ (List.countP_pos_iff.2 ⟨e, he, hvalue⟩)
    obtain ⟨value, hitem⟩ := name_of_valueIn hvalue
    calc entries.countP (fun e => (e.valueIn line).isSome)
        ≤ entries.countP fun e' => e'.param_name == e.param_name := by
          refine List.countP_mono_left fun e' _ hvalue' => ?_
          obtain ⟨value', hitem'⟩ := name_of_valueIn hvalue'
          rw [hitem] at hitem'
          simpa using (congrArg Prod.fst (Option.some.inj hitem')).symm
      _ = (entries.map (·.param_name)).count e.param_name := by
          rw [List.count, List.countP_map]
          rfl
      _ ≤ 1 := List.nodup_iff_count_le_one.1 hnames _
  · refine List.countP_eq_zero.2 fun e he hvalue => hhit ?_
    exact List.any_eq_true.2 ⟨e, he, hvalue⟩

/-- Values that are given change nothing about the hits. -/
theorem hits_map {f : loc_param_s_type → loc_param_s_type}
    (hf : ∀ e line, (f e).valueIn line = e.valueIn line) : hits (entries.map f) = hits entries := by
  funext line
  unfold hits
  rw [List.any_map]
  congr 1
  funext e
  exact congrArg Option.isSome (hf e line)

end

/-! ### What a file does -/

section

variable {atof : List UInt8 → CDouble}

section

variable {entries : List loc_param_s_type} {line : List UInt8}

theorem nodup_names_given (hnames : (entries.map (·.param_name)).Nodup) :
    ((entries.map fun e => e.given atof (e.valueIn line)).map (·.param_name)).Nodup := by
  rw [List.map_map]
  exact (congrArg List.Nodup (List.map_congr_left fun e _ =>
    loc_param_s_type.given_param_name _)).mpr hnames

/-- A line, and then the rest into the entries as they are now, with what is left of the budget. -/
theorem readUpTo_line {num_params : BitVec 32} (hnum : num_params ≠ 0)
    {rest read unread : List (List UInt8)}
    (h : ReadUpTo (hits (entries.map fun e => e.given atof (e.valueIn line)))
      (num_params - BitVec.ofNat 32 (if hits entries line then 1 else 0)).toNat rest read unread) :
    ReadUpTo (hits entries) num_params.toNat (line :: rest) (line :: read) unread := by
  rw [hits_map fun e line => loc_param_s_type.valueIn_given _] at h
  have hpos : 0 < num_params.toNat :=
    Nat.pos_of_ne_zero fun h => hnum (BitVec.eq_of_toNat_eq h)
  have hle : (if hits entries line then 1 else 0) ≤ num_params.toNat := by
    split_ifs
    · exact hpos
    · exact Nat.zero_le _
  have hcount : (BitVec.ofNat 32 (if hits entries line then 1 else 0)).toNat =
      if hits entries line then 1 else 0 := by
    split_ifs <;> rfl
  refine h.cons line hpos ?_
  rw [BitVec.toNat_sub_of_le (BitVec.le_def.2 (by rw [hcount]; exact hle)), hcount]
  exact (Nat.sub_add_cancel hle).symm

theorem map_given_cons (read : List (List UInt8)) :
    (entries.map fun e => e.given atof (e.valueIn line)).map
        (fun e => e.given atof (e.lastValue read)) =
      entries.map fun e => e.given atof (e.lastValue (line :: read)) := by
  rw [List.map_map]
  refine List.map_congr_left fun e _ => ?_
  have hrun : (line :: read).foldl (fun e line => e.given atof (e.valueIn line)) e = _ :=
    loc_param_s_type.foldl_given _
  rw [List.foldl_cons, loc_param_s_type.foldl_given] at hrun
  exact hrun

end

/-- The loop reads lines up to its budget, and gives every entry its last value in them. -/
theorem readConf_spec {turns : ℕ} {file : List UInt8} (hturns : file.length ≤ turns)
    (hshort : ∀ line ∈ fileLines file, line.length < LOC_MAX_PARAM_LINE) (num_params : BitVec 32)
    {entries : List loc_param_s_type} (hnames : (entries.map (·.param_name)).Nodup) :
    ∃ read unread, ReadUpTo (hits entries) num_params.toNat (fileLines file) read unread ∧
      readConf atof turns num_params entries file =
        (entries.map fun e => e.given atof (e.lastValue read), unread.flatten) := by
  have hnone : entries.map (fun e => e.given atof (e.lastValue [])) = entries := List.map_id _
  induction turns generalizing file num_params entries with
  | zero =>
    obtain rfl := List.length_eq_zero_iff.1 (Nat.le_zero.1 hturns)
    refine ⟨[], [], ReadUpTo.nil _, ?_⟩
    rw [hnone]
    rfl
  | succ turns ih =>
    rw [readConf]
    by_cases hzero : num_params = 0
    · subst hzero
      refine ⟨[], fileLines file, ReadUpTo.zero _, ?_⟩
      rw [if_pos rfl, hnone, flatten_fileLines]
    · rw [if_neg hzero]
      by_cases hfile : file = []
      · subst hfile
        refine ⟨[], [], ReadUpTo.nil _, ?_⟩
        rw [hnone]
        rfl
      · have hlines := fileLines_eq_cons hfile fun line hline =>
          show line.length ≤ 251 from Nat.le_of_lt_succ (hshort line (List.mem_of_head? hline))
        have hlength := length_readLine_lt hfile 250
        have hfgets : fgets LOC_MAX_PARAM_LINE file = some (readLine 251 file) := by
          unfold fgets
          rw [if_neg (by simpa using hfile)]
          rfl
        rw [hfgets]
        generalize readLine 251 file = r at hlines hlength
        obtain ⟨line, rest⟩ := r
        dsimp only at hlines hlength ⊢
        rw [loc_fill_conf_item_eq, countP_valueIn hnames]
        dsimp only
        obtain ⟨read, unread, hread, heq⟩ := ih (show rest.length ≤ turns by omega) (fun l hl => hshort l (by
          rw [hlines]
          exact List.mem_cons_of_mem _ hl)) (num_params - BitVec.ofNat 32 _)
          (nodup_names_given hnames) (List.map_id _)
        refine ⟨line :: read, unread, ?_, ?_⟩
        · rw [hlines]
          exact readUpTo_line hzero hread
        · rw [heq, map_given_cons]

/-- An entry after some lines.  It keeps its name and its type, its bit says whether they have a value
for it, and it holds the last one, stripped and converted.  A blank value may not have been stripped,
and a hexadecimal one not converted to a `double`. -/
structure Filled (atof : List UInt8 → CDouble) (lines : List (List UInt8))
    (e e' : loc_param_s_type) : Prop where
  name : e'.param_name = e.param_name
  type : e'.param_type = e.param_type
  bit : e'.param_set = e.param_set.map fun _ => if (e.lastValue lines).isSome then 1 else 0
  unchanged : e.lastValue lines = none → e'.param_ptr = e.param_ptr
  holds : ∀ value, e.lastValue lines = some value → ¬blank value →
    (e.param_type = byte 'f' → ¬isHex (strip value)) →
      e'.param_ptr = some (paramValue atof e.param_type (strip value))

theorem filled_given (lines : List (List UInt8)) (e : loc_param_s_type) :
    Filled atof lines e (e.cleared.given atof (e.lastValue lines)) := by
  refine ⟨?_, ?_, ?_, fun hnone => ?_, fun value hvalue hblank hhex => ?_⟩
  · rw [loc_param_s_type.given_param_name]
    rfl
  · rw [loc_param_s_type.given_param_type]
    rfl
  · cases e.lastValue lines with
    | none => rfl
    | some value => exact Option.map_map _ _ _
  · rw [hnone]
    rfl
  · obtain ⟨line, -, hline⟩ := loc_param_s_type.exists_valueIn_of_lastValue hvalue
    have hsettable : e.cleared.settable := loc_param_s_type.settable_of_valueIn hline
    rw [hvalue]
    exact loc_param_s_type.given_param_ptr hsettable hblank hhex

/-- The function reads lines up to its budget, and gives every entry its last value in them. -/
theorem loc_read_conf_r_eq (atof : List UInt8 → CDouble) (config_table : ConfTable)
    (hnames : (config_table.entries.map (·.param_name)).Nodup) {file : List UInt8}
    (hshort : ∀ line ∈ fileLines file, line.length < LOC_MAX_PARAM_LINE) :
    ∃ read unread, ReadUpTo (hits config_table.entries) config_table.entries.length
        (fileLines file) read unread ∧
      loc_read_conf_r atof (some file) config_table =
        ⟨0, config_table.entries.map fun e => e.cleared.given atof (e.lastValue read),
          some unread.flatten⟩ := by
  have hcleared : hits (config_table.entries.map (·.cleared)) = hits config_table.entries :=
    hits_map fun e line => rfl
  have hnames' : ((config_table.entries.map (·.cleared)).map (·.param_name)).Nodup := by
    rw [List.map_map]
    exact hnames
  obtain ⟨read, unread, hread, heq⟩ := readConf_spec le_rfl hshort
    (BitVec.ofNat 32 config_table.entries.length) hnames'
  rw [hcleared, BitVec.toNat_ofNat, Nat.mod_eq_of_lt config_table.length_lt] at hread
  refine ⟨read, unread, hread, ?_⟩
  change ConfRead.mk _ _ _ = _
  rw [heq, List.map_map]
  rfl

/-- The entries hold the last values in the lines that are read, and those that are read are all the
lines with values if there are no more of them than entries. -/
theorem loc_read_conf_r_fills (atof : List UInt8 → CDouble) (config_table : ConfTable)
    (hnames : (config_table.entries.map (·.param_name)).Nodup) (file : List UInt8)
    (hshort : ∀ line ∈ fileLines file, line.length < LOC_MAX_PARAM_LINE) :
    let r := loc_read_conf_r atof (some file) config_table
    r.ret = 0 ∧
    (∃ read unread, ReadUpTo (hits config_table.entries) config_table.entries.length (fileLines file)
        read unread ∧ r.conf_fp = some unread.flatten ∧
      List.Forall₂ (Filled atof read) config_table.entries r.config_table) ∧
    ((fileLines file).countP (hits config_table.entries) ≤ config_table.entries.length →
      List.Forall₂ (Filled atof (fileLines file)) config_table.entries r.config_table) := by
  intro r
  obtain ⟨read, unread, hread, hr⟩ := loc_read_conf_r_eq atof config_table hnames hshort
  change r = _ at hr
  have hfilled : List.Forall₂ (Filled atof read) config_table.entries r.config_table := by
    rw [hr]
    exact List.forall₂_map_right_iff.2 (List.forall₂_same.2 fun e _ => filled_given read e)
  refine ⟨by rw [hr], ⟨read, unread, hread, by rw [hr], hfilled⟩, fun hfew => ?_⟩
  rw [hr]
  refine List.forall₂_map_right_iff.2 (List.forall₂_same.2 fun e he => ?_)
  -- nothing that is left is a hit
  have hlast : e.lastValue (fileLines file) = e.lastValue read := by
    rw [hread.split]
    refine loc_param_s_type.lastValue_append fun line hline => ?_
    rw [hread.split, List.countP_append] at hfew
    have hnone : unread.countP (hits config_table.entries) = 0 := by
      have := hread.enough (List.ne_nil_of_mem hline)
      omega
    have hmiss := List.countP_eq_zero.1 hnone line hline
    refine Option.not_isSome_iff_eq_none.1 fun hsome => hmiss (List.any_eq_true.2 ⟨e, he, hsome⟩)
  rw [← hlast]
  exact filled_given _ e

/-- A table with a parameter of each type, and the file `A = 5`, `# S=1`, `S=x y `, `D=1.5`. -/
theorem loc_read_conf_r_fills_types :
    let atof : List UInt8 → CDouble := fun s =>
      if s = cstring "5" then ⟨0x4014000000000000⟩
      else if s = cstring "1" then ⟨0x3FF0000000000000⟩
      else if s = cstring "1.5" then ⟨0x3FF8000000000000⟩ else ⟨0⟩
    let A : loc_param_s_type := ⟨cstring "A", some (.number 0), some 0, byte 'n'⟩
    let S : loc_param_s_type := ⟨cstring "S", some (.string []), some 0, byte 's'⟩
    let D : loc_param_s_type := ⟨cstring "D", some (.double ⟨0⟩), none, byte 'f'⟩
    let config_table : ConfTable := ⟨[A, S, D], by decide⟩
    let file := cstring "A = 5" ++ newline :: cstring "# S=1" ++ newline :: cstring "S=x y " ++
      newline :: cstring "D=1.5"
    let r := loc_read_conf_r atof (some file) config_table
    r = ⟨0, [⟨cstring "A", some (.number 5), some 1, byte 'n'⟩,
      ⟨cstring "S", some (.string (cstring "x y")), some 1, byte 's'⟩,
      ⟨cstring "D", some (.double ⟨0x3FF8000000000000⟩), none, byte 'f'⟩], some []⟩ ∧
    List.Forall₂ (Filled atof (fileLines file)) config_table.entries r.config_table := by
  intro atof A S D config_table file r
  refine ⟨by decide, ?_⟩
  exact (loc_read_conf_r_fills atof config_table (by decide) file (by decide)).2.2 (by decide)

/-- In a file with more values than entries the last ones are not read, be it that they repeat a name
or that others do.  A value ends at a second equals sign; a blank one is not stripped; and a
hexadecimal one is no `double`. -/
theorem loc_read_conf_r_limits :
    let atof : List UInt8 → CDouble := fun s =>
      if s = cstring "1" then ⟨0x3FF0000000000000⟩
      else if s = cstring "2" then ⟨0x4000000000000000⟩
      else if s = cstring "0x10" then ⟨0x4030000000000000⟩ else ⟨0⟩
    let A : loc_param_s_type := ⟨cstring "A", some (.number 0), some 0, byte 'n'⟩
    let S : loc_param_s_type := ⟨cstring "S", some (.string []), some 0, byte 's'⟩
    let D : loc_param_s_type := ⟨cstring "D", some (.double ⟨0⟩), some 0, byte 'f'⟩
    let twice := cstring "A=1" ++ newline :: (cstring "A=2" ++ [newline])
    let hidden := twice ++ cstring "S=x"
    (∀ line ∈ fileLines hidden, line.length < LOC_MAX_PARAM_LINE) ∧
    (A.lastValue (fileLines twice) = some (cstring "2" ++ [newline]) ∧
      loc_read_conf_r atof (some twice) ⟨[A], by decide⟩ =
        ⟨0, [⟨cstring "A", some (.number 1), some 1, byte 'n'⟩], some (cstring "A=2" ++ [newline])⟩) ∧
    (S.lastValue (fileLines hidden) = some (cstring "x") ∧
      loc_read_conf_r atof (some hidden) ⟨[A, S], by decide⟩ =
        ⟨0, [⟨cstring "A", some (.number 2), some 1, byte 'n'⟩, S], some (cstring "S=x")⟩) ∧
    (loc_read_conf_r atof (some (cstring "S=a=b")) ⟨[S], by decide⟩).config_table =
      [⟨cstring "S", some (.string (cstring "a")), some 1, byte 's'⟩] ∧
    (loc_read_conf_r atof (some (cstring "S=" ++ [newline])) ⟨[S], by decide⟩).config_table =
      [⟨cstring "S", some (.string [newline]), some 1, byte 's'⟩] ∧
    (loc_read_conf_r atof (some (cstring "D=0x10")) ⟨[D], by decide⟩).config_table =
      [⟨cstring "D", some (.double ⟨0⟩), some 1, byte 'f'⟩] := by
  decide

end

end GpsHal
