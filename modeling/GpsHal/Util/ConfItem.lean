import GpsHal.Core.ReportKinds
import GpsHal.Util.CNumber
import GpsHal.Util.Fold
import Mathlib.Data.List.DropRight

/-!
# Configuration items

A line of a configuration file names a parameter and gives its value, with an equals sign between
them.  Both are trimmed, the value is converted to a number, and every entry of a table with that name
takes it (`utils/loc_cfg.cpp`, `utils/loc_misc_utils.cpp`).

## Main definitions

* `strtok_r`, `loc_util_trim_space` : the tokens of a line and their trimming.
* `loc_set_config_entry`, `loc_fill_conf_item` : what a line does to an entry and to a table.
* `lineItem`, `loc_param_s_type.valueIn` : the name and the value in a line, and the value of an entry.

## Main results

* `loc_util_trim_space_eq` : what trimming leaves of a text.
* `loc_fill_conf_item_eq` : a line changes the entries that it has a value for, and counts them.
* `loc_param_s_type.foldl_given` : after some lines an entry has the last value that they have for it.
-/

namespace GpsHal

def LOC_MAX_PARAM_NAME : ℕ := 80
def LOC_MAX_PARAM_STRING : ℕ := 172
def LOC_MAX_PARAM_LINE : ℕ := LOC_MAX_PARAM_NAME + LOC_MAX_PARAM_STRING

/-! ### Tokens -/

/-- The text in a buffer ends at its first NUL. -/
def ctext (buf : List UInt8) : List UInt8 := buf.takeWhile (· != 0)

/-- `strtok_r` with one delimiter: the token, and where the next call starts. -/
def strtok_r (delim : UInt8) (s : List UInt8) : Option (List UInt8 × List UInt8) :=
  match s.dropWhile (· == delim) with
  | [] => none
  | c :: cs => some ((c :: cs).takeWhile (· != delim), ((c :: cs).dropWhile (· != delim)).tail)

/-- The parts of a text between delimiters, without the empty ones. -/
def parts (delim : UInt8) (s : List UInt8) : List (List UInt8) :=
  (s.splitOn delim).filter fun part => !part.isEmpty

theorem parts_cons_self (delim : UInt8) (s : List UInt8) : parts delim (delim :: s) = parts delim s := by
  have hsplit := List.splitOn_append_cons_self (a := delim) [] s
  unfold parts
  rw [List.nil_append, List.splitOn_nil, List.singleton_append] at hsplit
  rw [hsplit]
  rfl

theorem parts_dropWhile (delim : UInt8) (s : List UInt8) :
    parts delim (s.dropWhile (· == delim)) = parts delim s := by
  induction s with
  | nil => rfl
  | cons c s ih =>
    by_cases hc : c = delim
    · subst hc
      rw [List.dropWhile_cons_of_pos (p := (· == c)) (beq_self_eq_true c), ih, parts_cons_self]
    · rw [List.dropWhile_cons_of_neg (p := (· == delim)) (by simpa using hc)]

/-- The tokens are the parts. -/
theorem parts_eq_strtok_r (delim : UInt8) (s : List UInt8) :
    parts delim s = match strtok_r delim s with
      | none => []
      | some (token, lasts) => token :: parts delim lasts := by
  rw [← parts_dropWhile]
  unfold strtok_r
  have hhead := List.head?_dropWhile_not (· == delim) s
  cases hs : s.dropWhile (· == delim) with
  | nil => rfl
  | cons c cs =>
    rw [hs, List.head?_cons] at hhead
    dsimp only at hhead ⊢
    have hne : (c != delim) = true := by simpa using hhead
    -- the first part goes up to the next delimiter or to the end
    have htoken : delim ∉ (c :: cs).takeWhile (· != delim) := fun hmem => by
      simpa using List.mem_takeWhile_imp hmem
    have hempty : ((c :: cs).takeWhile (· != delim)).isEmpty = false := by
      rw [List.takeWhile_cons_of_pos (p := (· != delim)) hne]
      rfl
    have hsplit := List.takeWhile_append_dropWhile (p := (· != delim)) (l := c :: cs)
    have hlasts := List.head?_dropWhile_not (· != delim) (c :: cs)
    cases hdrop : (c :: cs).dropWhile (· != delim) with
    | nil =>
      rw [hdrop, List.append_nil] at hsplit
      rw [hsplit] at htoken hempty ⊢
      unfold parts
      rw [List.splitOn_eq_singleton htoken, List.filter_cons_of_pos (by rw [hempty]; rfl)]
      rfl
    | cons d rest =>
      rw [hdrop, List.head?_cons] at hlasts
      obtain rfl : d = delim := by simpa using hlasts
      rw [hdrop] at hsplit
      rw [← hsplit]
      unfold parts
      rw [List.splitOn_append_cons_self_of_not_mem htoken,
        List.filter_cons_of_pos (by rw [hempty]; rfl), hsplit]
      rfl

/-! ### Trimming -/

/-- The state of the loop of `loc_util_trim_space`, with what has been written so far and the position
of `last_nonspace` in it. -/
structure TrimScan where
  first_nonspace : Bool
  written : List UInt8
  last_nonspace : Option ℕ
  deriving DecidableEq, Repr

def TrimScan.next (t : TrimScan) (c : UInt8) : TrimScan :=
  if t.first_nonspace || !isspace c then
    ⟨true, t.written ++ [c], if isspace c then t.last_nonspace else some (t.written.length + 1)⟩
  else t

def loc_util_trim_space (org_string : List UInt8) : List UInt8 :=
  let t := org_string.foldl TrimScan.next ⟨false, [], none⟩
  -- what has not been written over is still there
  let org_string := t.written ++ org_string.drop t.written.length
  match t.last_nonspace with
  | some last_nonspace => org_string.take last_nonspace
  | none => org_string

/-- A text without its surrounding white space. -/
def strip (s : List UInt8) : List UInt8 := (s.dropWhile isspace).rdropWhile isspace

/-- A text of nothing but white space. -/
def blank (s : List UInt8) : Bool := s.all isspace

theorem dropWhile_eq_nil_of_blank {s : List UInt8} (h : blank s) : s.dropWhile isspace = [] :=
  List.dropWhile_eq_nil_iff.2 (List.all_eq_true.1 h)

theorem trimScan_foldl (s : List UInt8) : s.foldl TrimScan.next ⟨false, [], none⟩ =
    ⟨!blank s, s.dropWhile isspace, if blank s then none else some (strip s).length⟩ := by
  induction s using List.reverseRecOn with
  | nil => rfl
  | append_singleton s c ih =>
    have hblank : blank (s ++ [c]) = (blank s && isspace c) := by
      unfold blank
      rw [List.all_append, List.all_cons, List.all_nil, Bool.and_true]
    have hdrop : (s ++ [c]).dropWhile isspace =
        if blank s then [c].dropWhile isspace else s.dropWhile isspace ++ [c] := by
      rw [List.dropWhile_append]
      congr 1
      simp [blank]
    rw [List.foldl_append, ih, hblank]
    unfold strip
    rw [hdrop]
    cases hs : blank s with
    | false => cases hc : isspace c <;> simp [TrimScan.next, hc]
    | true =>
      rw [dropWhile_eq_nil_of_blank hs]
      cases hc : isspace c <;> simp [TrimScan.next, hc, List.rdropWhile_singleton]

/-- A text is stripped, but for one that is blank. -/
theorem loc_util_trim_space_eq (s : List UInt8) :
    loc_util_trim_space s = if blank s then s else strip s := by
  unfold loc_util_trim_space
  rw [trimScan_foldl]
  dsimp only
  split_ifs with hblank
  · rw [dropWhile_eq_nil_of_blank hblank]
    rfl
  · have hbegin : strip s <+: s.dropWhile isspace := List.rdropWhile_prefix _ _
    exact (List.prefix_iff_eq_take.1 (hbegin.trans (List.prefix_append _ _))).symm

/-! ### Tables -/

/-- What a parameter holds. -/
inductive ParamValue
  | string (s : List UInt8)
  | number (n : BitVec 32)
  | double (d : CDouble)
  deriving DecidableEq, Repr

/-- An entry of a table, with what is stored behind its pointers. -/
structure loc_param_s_type where
  param_name : List UInt8
  param_ptr : Option ParamValue
  param_set : Option UInt8
  param_type : UInt8
  deriving DecidableEq, Repr

/-- What a line says. -/
structure loc_param_v_type where
  param_name : List UInt8
  param_str_value : List UInt8
  param_int_value : BitVec 32
  param_double_value : CDouble
  deriving DecidableEq, Repr

/-- The switch on the type of an entry: what is stored, if the type is known. -/
def loc_param_v_type.stored (config_value : loc_param_v_type) (param_type : UInt8) :
    Option ParamValue :=
  if param_type = byte 's' then
    if config_value.param_str_value = cstring "NULL" then some (.string [])
    else some (.string (config_value.param_str_value.take (LOC_MAX_PARAM_STRING - 1)))
  else if param_type = byte 'n' then some (.number config_value.param_int_value)
  else if param_type = byte 'f' then some (.double config_value.param_double_value)
  else none

def loc_set_config_entry (config_entry : loc_param_s_type) (config_value : loc_param_v_type) :
    loc_param_s_type × ℤ :=
  if config_entry.param_name = config_value.param_name ∧ config_entry.param_ptr.isSome then
    match config_value.stored config_entry.param_type with
    | some value =>
      ({ config_entry with
          param_ptr := some value
          param_set := config_entry.param_set.map fun _ => 1 }, 0)
    | none => (config_entry, -1)
  else (config_entry, -1)

/-- At least three characters, the first of them `0x`. -/
def isHex (s : List UInt8) : Bool :=
  3 ≤ s.length && s[0]? == some (byte '0') && s[1]?.map tolower == some (byte 'x')

section

variable (atof : List UInt8 → CDouble)

/-- The parsing of the two tokens of a line.  The record has been cleared before. -/
def configValue (param_name param_str_value : List UInt8) : loc_param_v_type :=
  let param_str_value := loc_util_trim_space param_str_value
  let config_value : loc_param_v_type := ⟨loc_util_trim_space param_name, param_str_value, 0, ⟨0⟩⟩
  if isHex param_str_value then
    { config_value with param_int_value := BitVec.ofInt 32 (strtol (param_str_value.drop 2) 16) }
  else
    { config_value with
      param_double_value := atof param_str_value
      param_int_value := atoi param_str_value }

/-- The table after a line, and how many entries have been set. -/
def loc_fill_conf_item (input_buf : List UInt8) (config_table : List loc_param_s_type) :
    List loc_param_s_type × ℕ :=
  match strtok_r (byte '=') (ctext input_buf) with
  | none => (config_table, 0)
  | some (param_name, lasts) =>
    match strtok_r (byte '=') lasts with
    | none => (config_table, 0)
    | some (param_str_value, _) =>
      let config_value := configValue atof param_name param_str_value
      (config_table.map fun e => (loc_set_config_entry e config_value).1,
        config_table.countP fun e => (loc_set_config_entry e config_value).2 = 0)

end

/-! ### Values -/

/-- The name and the value in a line are its first two parts, the name without the white space around
it. -/
def lineItem (line : List UInt8) : Option (List UInt8 × List UInt8) :=
  match parts (byte '=') (ctext line) with
  | name :: value :: _ => some (if blank name then name else strip name, value)
  | _ => none

/-- The value of a text for a type, in the way the type asks for. -/
def paramValue (atof : List UInt8 → CDouble) (param_type : UInt8) (text : List UInt8) : ParamValue :=
  if param_type = byte 's' then
    .string (if text = cstring "NULL" then [] else text.take (LOC_MAX_PARAM_STRING - 1))
  else if param_type = byte 'n' then
    .number (if isHex text then BitVec.ofInt 32 (strtol (text.drop 2) 16) else atoi text)
  else .double (atof text)

namespace loc_param_s_type

variable (e : loc_param_s_type)

/-- The entry points to a parameter, of a type that exists. -/
def settable : Bool :=
  e.param_ptr.isSome &&
    (e.param_type == byte 's' || e.param_type == byte 'n' || e.param_type == byte 'f')

/-- The value that a line has for an entry, with the white space around it. -/
def valueIn (line : List UInt8) : Option (List UInt8) :=
  match lineItem line with
  | some (name, value) => if e.param_name = name ∧ e.settable then some value else none
  | none => none

/-- The value that the last of some lines has for an entry. -/
def lastValue (lines : List (List UInt8)) : Option (List UInt8) :=
  newest (fun line => (e.valueIn line).map some) none lines

/-- The entry with its validity bit cleared. -/
def cleared : loc_param_s_type := { e with param_set := e.param_set.map fun _ => 0 }

/-- The entry after it has been given a value. -/
def given (atof : List UInt8 → CDouble) : Option (List UInt8) → loc_param_s_type
  | none => e
  | some value =>
    { e with
      param_ptr := e.param_ptr.bind fun _ => (configValue atof [] value).stored e.param_type
      param_set := e.param_set.map fun _ => 1 }

variable {e} {atof : List UInt8 → CDouble} {line value : List UInt8}

theorem settable_of_valueIn (h : e.valueIn line = some value) : e.settable := by
  unfold valueIn at h
  split at h
  · split_ifs at h with hnamed
    exact hnamed.2
  · cases h

theorem isSome_stored (config_value : loc_param_v_type) (t : UInt8) :
    (config_value.stored t).isSome = (t == byte 's' || t == byte 'n' || t == byte 'f') := by
  unfold loc_param_v_type.stored
  split_ifs <;> simp [*]

@[simp] theorem given_param_name (v : Option (List UInt8)) :
    (e.given atof v).param_name = e.param_name := by
  cases v <;> rfl

@[simp] theorem given_param_type (v : Option (List UInt8)) :
    (e.given atof v).param_type = e.param_type := by
  cases v <;> rfl

@[simp] theorem settable_given (v : Option (List UInt8)) :
    (e.given atof v).settable = e.settable := by
  cases v with
  | none => rfl
  | some value =>
    unfold settable given
    cases hptr : e.param_ptr with
    | none => rfl
    | some old =>
      dsimp only
      rw [Option.bind_some, isSome_stored, Bool.and_self, Option.isSome_some, Bool.true_and]

/-- A value that has been given changes nothing about which lines have a value for the entry. -/
@[simp] theorem valueIn_given (v : Option (List UInt8)) :
    (e.given atof v).valueIn line = e.valueIn line := by
  unfold valueIn
  rw [given_param_name, settable_given]

theorem given_given (v : Option (List UInt8)) :
    (e.given atof v).given atof (some value) = e.given atof (some value) := by
  cases v with
  | none => rfl
  | some old =>
    obtain ⟨name, ptr, set, type⟩ := e
    have hset : (set.map fun _ => (1 : UInt8)).map (fun _ => 1) = set.map fun _ => (1 : UInt8) := by
      cases set <;> rfl
    -- whether something is stored depends on the type only
    have hptr : ((ptr.bind fun _ => (configValue atof [] old).stored type).bind fun _ =>
        (configValue atof [] value).stored type) =
          ptr.bind fun _ => (configValue atof [] value).stored type := by
      have hsame := (isSome_stored (configValue atof [] old) type).trans
        (isSome_stored (configValue atof [] value) type).symm
      cases ptr with
      | none => rfl
      | some p =>
        rw [Option.bind_some, Option.bind_some]
        cases hstored : (configValue atof [] old).stored type with
        | some v => rfl
        | none =>
          rw [hstored] at hsame
          exact (Option.isNone_iff_eq_none.1 (Option.isSome_eq_false_iff.1 hsame.symm)).symm
    unfold given
    dsimp only
    rw [hset, hptr]

theorem lastValue_given (v : Option (List UInt8)) (lines : List (List UInt8)) :
    (e.given atof v).lastValue lines = e.lastValue lines := by
  unfold lastValue
  congr 1
  funext line
  rw [valueIn_given]

/-- The last value stands in one of the lines. -/
theorem exists_valueIn_of_lastValue {lines : List (List UInt8)} (h : e.lastValue lines = some value) :
    ∃ line ∈ lines, e.valueIn line = some value := by
  induction lines using List.reverseRecOn with
  | nil => cases h
  | append_singleton lines line ih =>
    unfold lastValue at h ih
    rw [newest_concat] at h
    cases hline : e.valueIn line with
    | none =>
      rw [hline] at h
      obtain ⟨line', hmem, hvalue⟩ := ih h
      exact ⟨line', List.mem_append_left _ hmem, hvalue⟩
    | some v =>
      rw [hline] at h
      cases h
      exact ⟨line, List.mem_append_right _ (List.mem_singleton_self line), hline⟩

/-- Lines without a value for the entry change nothing. -/
theorem lastValue_append {lines lines' : List (List UInt8)}
    (h : ∀ line ∈ lines', e.valueIn line = none) : e.lastValue (lines ++ lines') = e.lastValue lines := by
  induction lines' using List.reverseRecOn with
  | nil => rw [List.append_nil]
  | append_singleton lines' line ih =>
    have hlast := ih fun line hline => h line (List.mem_append_left _ hline)
    unfold lastValue at hlast ⊢
    rw [← List.append_assoc, newest_concat, h line (List.mem_append_right _ List.mem_cons_self)]
    exact hlast

/-- Line after line, what counts is the last value. -/
theorem foldl_given (lines : List (List UInt8)) :
    lines.foldl (fun e line => e.given atof (e.valueIn line)) e = e.given atof (e.lastValue lines) := by
  induction lines using List.reverseRecOn with
  | nil => rfl
  | append_singleton lines line ih =>
    unfold lastValue at ih ⊢
    rw [List.foldl_append, ih, newest_concat, List.foldl_cons, List.foldl_nil, valueIn_given]
    cases hvalue : e.valueIn line with
    | none => rfl
    | some value => exact given_given _

/-- A settable entry holds its value, stripped and converted; but a blank value may not have been
stripped, and a hexadecimal one may not have been converted to a `double`. -/
theorem given_param_ptr (h : e.settable) (hblank : ¬blank value)
    (hhex : e.param_type = byte 'f' → ¬isHex (strip value)) :
    (e.given atof (some value)).param_ptr = some (paramValue atof e.param_type (strip value)) := by
  unfold settable at h
  rw [Bool.and_eq_true] at h
  obtain ⟨old, hold⟩ := Option.isSome_iff_exists.1 h.1
  have htrim : loc_util_trim_space value = strip value := by
    rw [loc_util_trim_space_eq, if_neg hblank]
  change (e.param_ptr.bind fun _ => (configValue atof [] value).stored e.param_type) = _
  rw [hold, Option.bind_some]
  unfold configValue paramValue
  dsimp only
  rw [htrim]
  by_cases hs : e.param_type = byte 's'
  · rw [if_pos hs, hs]
    split_ifs <;> simp [loc_param_v_type.stored, *]
  · by_cases hn : e.param_type = byte 'n'
    · rw [if_neg hs, if_pos hn, hn]
      split_ifs <;> rfl
    · have hf : e.param_type = byte 'f' := by simpa [hs, hn] using h.2
      rw [if_neg (hhex hf), if_neg hs, if_neg hn, hf]
      rfl

end loc_param_s_type

/-! ### Lines -/

section

variable (atof : List UInt8 → CDouble)

/-- An entry is set if a line has a value for it. -/
theorem loc_set_config_entry_eq {line name value : List UInt8} {others : List (List UInt8)}
    (h : parts (byte '=') (ctext line) = name :: value :: others) (e : loc_param_s_type) :
    (loc_set_config_entry e (configValue atof name value)).1 = e.given atof (e.valueIn line) ∧
      ((loc_set_config_entry e (configValue atof name value)).2 = 0 ↔ (e.valueIn line).isSome) := by
  have hname : (configValue atof name value).param_name = if blank name then name else strip name := by
    rw [← loc_util_trim_space_eq]
    unfold configValue
    dsimp only
    split_ifs <;> rfl
  have hstored : (configValue atof name value).stored e.param_type =
      (configValue atof [] value).stored e.param_type := by
    unfold configValue
    dsimp only
    split_ifs <;> rfl
  have hsome := loc_param_s_type.isSome_stored (configValue atof [] value) e.param_type
  unfold loc_set_config_entry loc_param_s_type.valueIn lineItem loc_param_s_type.settable
  rw [h, hname, hstored]
  dsimp only
  by_cases hnamed : e.param_name = if blank name then name else strip name
  · cases hptr : e.param_ptr with
    | none => simp [loc_param_s_type.given]
    | some old =>
      cases hvalue : (configValue atof [] value).stored e.param_type with
      | none =>
        rw [hvalue] at hsome
        rw [← hsome]
        simp [loc_param_s_type.given]
      | some v =>
        rw [hvalue] at hsome
        rw [← hsome]
        simp [hnamed, hptr, hvalue, loc_param_s_type.given]
  · simp [hnamed, loc_param_s_type.given]

/-- A line changes the entries that it has a value for, and counts them. -/
theorem loc_fill_conf_item_eq (line : List UInt8) (table : List loc_param_s_type) :
    loc_fill_conf_item atof line table =
      (table.map fun e => e.given atof (e.valueIn line),
        table.countP fun e => (e.valueIn line).isSome) := by
  unfold loc_fill_conf_item
  have hparts := parts_eq_strtok_r (byte '=') (ctext line)
  have hnothing (h : lineItem line = none) : (table, 0) =
      (table.map fun e => e.given atof (e.valueIn line),
        table.countP fun e => (e.valueIn line).isSome) := by
    have hvalue (e : loc_param_s_type) : e.valueIn line = none := by
      unfold loc_param_s_type.valueIn
      rw [h]
    simp [hvalue, loc_param_s_type.given]
  cases hfirst : strtok_r (byte '=') (ctext line) with
  | none =>
    rw [hfirst] at hparts
    refine hnothing ?_
    unfold lineItem
    rw [hparts]
  | some first =>
    obtain ⟨name, lasts⟩ := first
    rw [hfirst] at hparts
    dsimp only at hparts ⊢
    rw [parts_eq_strtok_r (byte '=') lasts] at hparts
    cases hsecond : strtok_r (byte '=') lasts with
    | none =>
      rw [hsecond] at hparts
      refine hnothing ?_
      unfold lineItem
      rw [hparts]
    | some second =>
      obtain ⟨value, rest⟩ := second
      rw [hsecond] at hparts
      dsimp only at hparts ⊢
      have hset := loc_set_config_entry_eq atof hparts
      congr 1
      · exact List.map_congr_left fun e _ => (hset e).1
      · exact List.countP_congr fun e _ => by simpa using (hset e).2

end

end GpsHal
