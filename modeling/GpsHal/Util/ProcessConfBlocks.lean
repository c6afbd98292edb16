import GpsHal.Util.ConfUpdate
import GpsHal.Util.ProcessConf

/-!
# Blocks of a process configuration

A file with a block of lines for each process, which starts with the name of the process.  The blocks
are not read as such: as many values are read for a process as there are parameters, into a record
that still has those of the process before.

## Main definitions

* `Block` : the lines for a process.
* `loc_launcher_conf.Separate` : the condition under which a process has its own values.
* `Launcher.alone` : what a block describes.

## Main results

* `Launcher.readProcesses_eq` : under the condition every block is read by itself.
* `Launcher.loc_read_process_conf_blocks` : the entries are those that the blocks describe.
-/

namespace GpsHal

/-! ### Values -/

namespace loc_param_s_type

variable {e e' : loc_param_s_type} {line : List UInt8} {lines lines' : List (List UInt8)}
  {atof : List UInt8 → CDouble}

/-- An entry for the same parameter, with another value. -/
structure SameParam (e e' : loc_param_s_type) : Prop where
  name : e.param_name = e'.param_name
  ptr : e.param_ptr.isSome = e'.param_ptr.isSome
  set : e.param_set = e'.param_set
  type : e.param_type = e'.param_type

theorem SameParam.valueIn_eq (h : SameParam e e') (line : List UInt8) :
    e.valueIn line = e'.valueIn line := by
  unfold valueIn settable
  rw [h.name, h.ptr, h.type]

theorem SameParam.lastValue_eq (h : SameParam e e') (lines : List (List UInt8)) :
    e.lastValue lines = e'.lastValue lines := by
  unfold lastValue
  congr 1
  funext line
  rw [h.valueIn_eq]

/-- A new value replaces the old one. -/
theorem SameParam.given_some (h : SameParam e e') (value : List UInt8) :
    e.cleared.given atof (some value) = e'.cleared.given atof (some value) := by
  obtain ⟨name, ptr, set, type⟩ := e
  obtain ⟨name', ptr', set', type'⟩ := e'
  obtain ⟨hname, hptr, hset, htype⟩ := h
  dsimp only at hname hptr hset htype
  subst hname hset htype
  have hbind : ∀ stored : Option ParamValue,
      (ptr.bind fun _ => stored) = ptr'.bind fun _ => stored := by
    intro stored
    cases ptr <;> cases ptr' <;> simp_all
  unfold cleared given
  dsimp only
  rw [hbind]

/-- The text that a value leaves in a buffer. -/
theorem text_given_some (p : String) (old value : List UInt8) :
    ((ofText p old).cleared.given atof (some value)).text =
      if loc_util_trim_space value = cstring "NULL" then []
      else (loc_util_trim_space value).take (LOC_MAX_PARAM_STRING - 1) := by
  have htrim : (configValue atof [] value).param_str_value = loc_util_trim_space value := by
    unfold configValue
    dsimp only
    split_ifs <;> rfl
  have hptr : ((ofText p old).cleared.given atof (some value)).param_ptr =
      (configValue atof [] value).stored (byte 's') := rfl
  unfold text
  rw [hptr, loc_param_v_type.stored, if_pos rfl, htrim]
  split_ifs <;> rfl

theorem isSome_lastValue :
    (e.lastValue lines).isSome = lines.any fun line => (e.valueIn line).isSome := by
  unfold lastValue
  induction lines using List.reverseRecOn with
  | nil => rfl
  | append_singleton lines line ih =>
    rw [newest_concat, List.any_append, ← ih]
    cases hvalue : e.valueIn line with
    | none => simp [hvalue]
    | some value => simp [hvalue]

/-- Lines without a value for the entry change nothing, in front of others as well. -/
theorem lastValue_quiet_append (h : ∀ line ∈ lines, e.valueIn line = none) :
    e.lastValue (lines ++ lines') = e.lastValue lines' := by
  have hnone : e.lastValue lines = none := by
    rw [← Option.not_isSome_iff_eq_none, isSome_lastValue, List.any_eq_true]
    rintro ⟨line, hline, hsome⟩
    rw [h line hline] at hsome
    cases hsome
  unfold lastValue at hnone ⊢
  rw [newest_append, hnone]

end loc_param_s_type

theorem valueIn_of_not_hits {entries : List loc_param_s_type} {e : loc_param_s_type}
    (he : e ∈ entries) {lines : List (List UInt8)} (h : lines.countP (hits entries) = 0) :
    ∀ line ∈ lines, e.valueIn line = none := by
  intro line hline
  have hmiss := List.countP_eq_zero.1 h line hline
  exact Option.not_isSome_iff_eq_none.1 fun hsome => hmiss (List.any_eq_true.2 ⟨e, he, hsome⟩)

/-- What is read of some lines for a block has the values of the block, if what is read before it and
what is left of it have none. -/
theorem lastValue_block {entries : List loc_param_s_type} {e : loc_param_s_type} (he : e ∈ entries)
    {quiet block read rest : List (List UInt8)} (hread : quiet ++ block = read ++ rest)
    (hquiet : quiet.countP (hits entries) = 0) (hrest : rest.countP (hits entries) = 0) :
    e.lastValue read = e.lastValue block := by
  rw [← loc_param_s_type.lastValue_append (valueIn_of_not_hits he hrest), ← hread,
    loc_param_s_type.lastValue_quiet_append (valueIn_of_not_hits he hquiet)]

section Tables

variable {entries entries' : List loc_param_s_type}

theorem hits_eq (h : List.Forall₂ loc_param_s_type.SameParam entries entries') :
    hits entries = hits entries' := by
  funext line
  unfold hits
  induction h with
  | nil => rfl
  | cons h _ ih => rw [List.any_cons, List.any_cons, ih, h.valueIn_eq]

/-- Two tables are the same after some lines, if they are for those that the lines have no value for. -/
theorem map_given_eq (atof : List UInt8 → CDouble) {lines : List (List UInt8)}
    (hsame : List.Forall₂ loc_param_s_type.SameParam entries entries')
    (h : List.Forall₂ (fun e e' => (e'.lastValue lines).isSome ∨ e = e') entries entries') :
    entries.map (fun e => e.cleared.given atof (e.lastValue lines)) =
      entries'.map fun e => e.cleared.given atof (e.lastValue lines) := by
  induction hsame with
  | nil => rfl
  | cons hsame _ ih =>
    obtain ⟨hvalue | rfl, hrest⟩ := List.forall₂_cons.1 h
    · obtain ⟨value, hvalue⟩ := Option.isSome_iff_exists.1 hvalue
      rw [List.map_cons, List.map_cons, ih hrest, hsame.lastValue_eq, hvalue, hsame.given_some]
    · rw [List.map_cons, List.map_cons, ih hrest]

end Tables

/-! ### The record -/

namespace loc_launcher_conf

open loc_param_s_type

variable (atof : List UInt8 → CDouble) (conf : loc_launcher_conf) (lines block : List (List UInt8))

/-- The record without what has been read for a process. -/
def bare : loc_launcher_conf := { conf with
  proc_name := []
  proc_argument := []
  proc_status := []
  group_list := []
  premium_feature := 0
  loc_feature_mask := 0
  platform_list := []
  baseband := []
  auto_platform := []
  vendor_enhanced_process := 0 }

/-- The ten parameters of a process. -/
def parameters : List loc_param_s_type :=
  (⟨[], [], [], [], 0, 0, [], [], 0, [], [], [], [], [], [], [], [], 0⟩ :
    loc_launcher_conf).loc_process_conf_parameter_table

/-- The record with the last values in some lines. -/
def filled : loc_launcher_conf := conf.withProcess
  (conf.loc_process_conf_parameter_table.map fun e => e.cleared.given atof (e.lastValue lines))

/-- What the lines have no value for is empty in the record. -/
def EmptyFor : Prop :=
  List.Forall₂ (fun e p => (p.lastValue lines).isSome ∨ e = p)
    conf.loc_process_conf_parameter_table parameters

/-- The lines have a value for each parameter. -/
def Complete : Prop := ∀ p ∈ parameters, (p.lastValue lines).isSome

theorem nodup_parameters : (parameters.map (·.param_name)).Nodup := by decide +kernel

theorem sameParam : List.Forall₂ SameParam conf.loc_process_conf_parameter_table parameters := by
  unfold parameters loc_process_conf_parameter_table
  repeat' first | exact .nil | refine .cons ⟨rfl, rfl, rfl, rfl⟩ ?_

theorem hits_table : hits conf.loc_process_conf_parameter_table = hits parameters :=
  hits_eq conf.sameParam

variable {conf lines block}

/-- What has been in the record does not matter if it is empty for the lines. -/
theorem filled_eq (h : conf.EmptyFor lines) : conf.filled atof lines = conf.bare.filled atof lines := by
  have hmap := map_given_eq atof conf.sameParam h
  unfold filled
  rw [hmap]
  rfl

/-- Complete lines replace everything. -/
theorem emptyFor_of_complete (h : Complete lines) : conf.EmptyFor lines := by
  refine (List.forall₂_iff_zip).2 ⟨conf.sameParam.length_eq, fun hmem => .inl (h _ ?_)⟩
  exact (List.of_mem_zip hmem).2

theorem bare_filled : (conf.filled atof lines).bare = conf.bare := rfl

/-- What has been empty is still empty when the lists have been split. -/
theorem emptyFor_splitLists (h : conf.EmptyFor lines) :
    (Launcher.splitLists conf).EmptyFor lines := by
  have hfirst {p : String} {list : List UInt8} {q : Prop} (h : q ∨ ofText p list = ofText p []) :
      q ∨ ofText p (firstName list) = ofText p [] := by
    refine h.imp_right fun heq => ?_
    obtain rfl : list = [] := congrArg text heq
    rfl
  simp only [EmptyFor, loc_process_conf_parameter_table, parameters, List.forall₂_cons] at h ⊢
  obtain ⟨hname, hargument, hstatus, hgroups, hpremium, hmask, hplatform, hbaseband, hauto, hrest⟩ := h
  exact ⟨hname, hargument, hstatus, hfirst hgroups, hpremium, hmask, hfirst hplatform,
    hfirst hbaseband, hfirst hauto, hrest⟩

/-! ### Blocks -/

/-- A block in front of another has a value for each parameter; and what the last one has no value for
is empty when it is read. -/
def Separate : loc_launcher_conf → List (List (List UInt8)) → Prop
  | _, [] => True
  | conf, [block] => conf.EmptyFor block
  | conf, block :: next :: blocks => Complete block ∧ Separate (conf.filled atof block) (next :: blocks)

variable {atof}

theorem Separate.emptyFor {blocks : List (List (List UInt8))}
    (h : Separate atof conf (block :: blocks)) : conf.EmptyFor block := by
  cases blocks with
  | nil => exact h
  | cons next blocks => exact emptyFor_of_complete h.1

theorem Separate.tail {blocks : List (List (List UInt8))}
    (h : Separate atof conf (block :: blocks)) : Separate atof (conf.filled atof block) blocks := by
  cases blocks with
  | nil => trivial
  | cons next blocks => exact h.2

theorem Separate.splitLists {blocks : List (List (List UInt8))} (h : Separate atof conf blocks) :
    Separate atof (Launcher.splitLists conf) blocks := by
  match blocks, h with
  | [], _ => trivial
  | [_], h => exact emptyFor_splitLists h
  | block :: _ :: _, h =>
    refine ⟨h.1, ?_⟩
    rw [filled_eq atof (emptyFor_of_complete h.1)]
    have hrest := h.2
    rw [filled_eq atof (emptyFor_of_complete h.1)] at hrest
    exact hrest

end loc_launcher_conf

open loc_param_s_type loc_launcher_conf

/-- The parameter that a block starts with. -/
def nameParam : loc_param_s_type := ofText "PROCESS_NAME" []

/-- The lines for a process.  The first one has its name, which is not empty, and no parameter has two
values.  There may be lines without values. -/
structure Block (block : List (List UInt8)) : Prop where
  starts : ∃ line rest value, block = line :: rest ∧ nameParam.valueIn line = some value ∧
    loc_util_trim_space value ≠ [] ∧ loc_util_trim_space value ≠ cstring "NULL"
  once : ∀ p ∈ parameters, block.countP (fun line => (p.valueIn line).isSome) ≤ 1

namespace Block

variable {block : List (List UInt8)}

theorem countP_name (h : Block block) : block.countP (hits [nameParam]) = 1 := by
  obtain ⟨line, rest, value, hblock, hvalue, -⟩ := h.starts
  have hhits : hits [nameParam] = fun line => (nameParam.valueIn line).isSome := by
    funext line
    exact Bool.or_false _
  rw [hhits]
  refine le_antisymm (h.once _ List.mem_cons_self) (List.countP_pos_iff.2 ⟨line, ?_, ?_⟩)
  · rw [hblock]
    exact List.mem_cons_self
  · rw [hvalue]
    rfl

theorem countP_le (h : Block block) : block.countP (hits parameters) ≤ parameters.length := by
  have hle := (countP_any_spec (fun line (p : loc_param_s_type) => (p.valueIn line).isSome)
    block parameters).1
  rw [length_pairs_comm, ← (countP_any_spec (fun (p : loc_param_s_type) line =>
    (p.valueIn line).isSome) parameters block).2.2 h.once] at hle
  exact hle.trans List.countP_le_length

theorem countP_of_complete (h : Block block) (hcomplete : Complete block) :
    block.countP (hits parameters) = parameters.length := by
  refine (countP_any_eq_length_iff (fun line (p : loc_param_s_type) => (p.valueIn line).isSome)
    block parameters h.once).2 ⟨fun p hp => ?_, fun line _ => ?_⟩
  · rw [← isSome_lastValue]
    exact hcomplete p hp
  · rw [countP_valueIn nodup_parameters]
    split_ifs
    · exact le_rfl
    · exact Nat.zero_le _

/-- The name that is read from a block. -/
theorem name_ne_nil (h : Block block) (atof : List UInt8 → CDouble) :
    (nameParam.cleared.given atof (nameParam.lastValue block)).text ≠ [] := by
  obtain ⟨line, rest, value, rfl, hvalue, hne, hnull⟩ := h.starts
  have hlast : nameParam.lastValue (line :: rest) = some value := by
    have hone := h.once nameParam List.mem_cons_self
    rw [List.countP_cons, hvalue, Option.isSome_some, if_pos rfl] at hone
    have hrest := List.countP_eq_zero.1 (Nat.le_zero.1 (Nat.le_of_succ_le_succ hone))
    rw [← List.singleton_append, lastValue_append fun line hline =>
      Option.not_isSome_iff_eq_none.1 (hrest line hline)]
    show (((nameParam.valueIn line).map some).getD none) = some value
    rw [hvalue]
    rfl
  rw [hlast, nameParam, text_given_some, if_neg hnull]
  intro hnil
  rcases List.take_eq_nil_iff.1 hnil with hzero | hnil
  · cases hzero
  · exact hne hnil

end Block

/-! ### Reading -/

namespace Launcher

variable {device : Launcher} {conf conf' : loc_launcher_conf} {loc_service_mask : BitVec 32}
  {fp : List UInt8} {quiet : List (List UInt8)} {blocks : List (List (List UInt8))}

variable (device loc_service_mask) in
/-- What a block describes, with the features and the device's configuration in the record. -/
def alone (conf : loc_launcher_conf) (block : List (List UInt8)) : loc_process_info_s_type :=
  (device.process (conf.bare.filled device.atof block) loc_service_mask).1

theorem alone_congr (h : conf.bare = conf'.bare) :
    device.alone loc_service_mask conf = device.alone loc_service_mask conf' := by
  funext block
  rw [alone, alone, h]

theorem process_snd : (device.process conf loc_service_mask).2 = conf ∨
    (device.process conf loc_service_mask).2 = splitLists conf := by
  unfold process
  dsimp only
  split_ifs
  · exact .inl rfl
  · exact .inl rfl
  · exact .inl rfl
  · exact .inl rfl
  · exact .inl rfl
  · exact .inr rfl

theorem bare_process : (device.process conf loc_service_mask).2.bare = conf.bare := by
  have hcases : (device.process conf loc_service_mask).2 = conf ∨ _ := process_snd
  rcases hcases with h | h
  · rw [h]
  · rw [h]
    rfl

theorem separate_process (h : Separate device.atof conf blocks) :
    Separate device.atof (device.process conf loc_service_mask).2 blocks := by
  have hcases : (device.process conf loc_service_mask).2 = conf ∨ _ := process_snd
  rcases hcases with hconf | hconf
  · rwa [hconf]
  · rw [hconf]
    exact h.splitLists

/-- By induction on the blocks, with the lines in front of the first one that have no values. -/
theorem readProcesses_eq (hlines : fileLines fp = quiet ++ blocks.flatten)
    (hquiet : quiet.countP (hits parameters) = 0)
    (hshort : ∀ line ∈ fileLines fp, line.length < LOC_MAX_PARAM_LINE)
    (hblocks : ∀ block ∈ blocks, Block block) (hsep : Separate device.atof conf blocks) :
    device.readProcesses loc_service_mask blocks.length conf (some fp) =
      some (blocks.map (device.alone loc_service_mask conf)) := by
  induction blocks generalizing conf fp quiet with
  | nil => rfl
  | cons block blocks ih =>
    have hblock := hblocks block List.mem_cons_self
    have hlength : conf.loc_process_conf_parameter_table.length < 4294967296 := by
      show 10 < 4294967296
      decide
    obtain ⟨read, unread, hread, heq⟩ := loc_read_conf_r_eq device.atof
      ⟨conf.loc_process_conf_parameter_table, hlength⟩ nodup_parameters hshort
    have hsplit := hread.split
    rw [hits_table, hlines, List.flatten_cons, ← List.append_assoc] at hread
    have hlast : blocks.flatten = [] ∨
        block.countP (hits parameters) = conf.loc_process_conf_parameter_table.length := by
      cases blocks with
      | nil => exact .inl rfl
      | cons next blocks => exact .inr (hblock.countP_of_complete hsep.1)
    obtain ⟨rest, hboundary, hunread, hrest⟩ := hread.block hquiet hblock.countP_le hlast
    -- the values that have been read are those of the block
    have hfilled : conf.withProcess (conf.loc_process_conf_parameter_table.map fun e =>
        e.cleared.given device.atof (e.lastValue read)) = conf.filled device.atof block := by
      rw [← conf.hits_table] at hquiet hrest
      rw [filled]
      congr 1
      refine List.map_congr_left fun e he => ?_
      rw [lastValue_block he hboundary hquiet hrest]
    have hleft : fileLines unread.flatten = rest ++ blocks.flatten := by
      rw [fileLines_flatten hsplit, hunread]
    have hshort' : ∀ line ∈ fileLines unread.flatten, line.length < LOC_MAX_PARAM_LINE := by
      intro line hline
      refine hshort line ?_
      rw [hsplit]
      rw [hleft, ← hunread] at hline
      exact List.mem_append_right _ hline
    have hbare : (device.process (conf.filled device.atof block) loc_service_mask).2.bare =
        conf.bare := bare_process.trans (bare_filled _)
    rw [List.length_cons, readProcesses, heq]
    dsimp only
    rw [hfilled, if_neg (by decide), ih hleft hrest hshort'
      (fun b hb => hblocks b (List.mem_cons_of_mem _ hb)) (separate_process hsep.tail),
      Option.map_some, List.map_cons, alone_congr hbare, filled_eq _ hsep.emptyFor]
    rfl

/-- One turn of the count. -/
theorem countProcesses_succ {turns : ℕ} {proc_list_length : BitVec 8} {e : loc_param_s_type}
    {left : Option (List UInt8)} {h : [nameParam].length < 4294967296}
    (hread : loc_read_conf_r device.atof (some fp) ⟨[nameParam], h⟩ = ⟨0, [e], left⟩) :
    device.countProcesses (turns + 1) conf (some fp) proc_list_length =
      if e.text = [] then some ({ conf with proc_name := e.text }, proc_list_length)
      else device.countProcesses turns { conf with proc_name := e.text } left
        (proc_list_length + 1) := by
  have htable : loc_read_conf_r device.atof (some fp)
      ⟨{ conf with proc_name := [] }.loc_process_conf_parameter_table.take 1, h⟩ =
        ⟨0, [e], left⟩ := hread
  rw [countProcesses]
  dsimp only
  rw [htable]
  rfl

/-- Every block is counted, by its name. -/
theorem countProcesses_eq {turns : ℕ} {proc_list_length : BitVec 8}
    (hlines : fileLines fp = quiet ++ blocks.flatten) (hquiet : quiet.countP (hits [nameParam]) = 0)
    (hshort : ∀ line ∈ fileLines fp, line.length < LOC_MAX_PARAM_LINE)
    (hblocks : ∀ block ∈ blocks, Block block) (hturns : blocks.length < turns) :
    device.countProcesses turns conf (some fp) proc_list_length =
      some ({ conf with proc_name := [] }, proc_list_length + BitVec.ofNat 8 blocks.length) := by
  induction blocks generalizing turns conf fp quiet proc_list_length with
  | nil =>
    obtain ⟨turns, rfl⟩ : ∃ k, turns = k + 1 := ⟨turns - 1, by omega⟩
    obtain ⟨read, unread, hread, heq⟩ := loc_read_conf_r_eq device.atof
      ⟨[nameParam], by show 1 < 4294967296; decide⟩ (List.nodup_singleton _) hshort
    rw [hlines, List.flatten_nil, ← List.append_nil (quiet ++ [])] at hread
    obtain ⟨rest, hboundary, -, hrest⟩ := hread.block hquiet (Nat.zero_le _) (.inl rfl)
    have hnone : nameParam.lastValue read = nameParam.lastValue [] :=
      lastValue_block List.mem_cons_self hboundary hquiet hrest
    rw [List.map_singleton, hnone] at heq
    have htext : (nameParam.cleared.given device.atof (nameParam.lastValue [])).text = [] := rfl
    rw [countProcesses_succ heq, if_pos htext]
    exact congrArg (fun n => some (_, n)) (BitVec.add_zero _).symm
  | cons block blocks ih =>
    obtain ⟨turns, rfl⟩ : ∃ k, turns = k + 1 := ⟨turns - 1, by omega⟩
    have hblock := hblocks block List.mem_cons_self
    obtain ⟨read, unread, hread, heq⟩ := loc_read_conf_r_eq device.atof
      ⟨[nameParam], by show 1 < 4294967296; decide⟩ (List.nodup_singleton _) hshort
    have hsplit := hread.split
    rw [hlines, List.flatten_cons, ← List.append_assoc] at hread
    obtain ⟨rest, hboundary, hunread, hrest⟩ :=
      hread.block hquiet hblock.countP_name.le (.inr hblock.countP_name)
    have hname : nameParam.lastValue read = nameParam.lastValue block :=
      lastValue_block List.mem_cons_self hboundary hquiet hrest
    have hleft : fileLines unread.flatten = rest ++ blocks.flatten := by
      rw [fileLines_flatten hsplit, hunread]
    have hcount : proc_list_length + 1 + BitVec.ofNat 8 blocks.length =
        proc_list_length + BitVec.ofNat 8 (blocks.length + 1) := by
      rw [BitVec.add_assoc, BitVec.add_comm 1, BitVec.ofNat_add]
      rfl
    rw [List.map_singleton, hname] at heq
    rw [countProcesses_succ heq, if_neg (hblock.name_ne_nil device.atof), List.length_cons, ← hcount]
    refine ih hleft hrest (fun line hline => hshort line ?_)
      (fun b hb => hblocks b (List.mem_cons_of_mem _ hb)) ?_
    · rw [hsplit]
      rw [hleft, ← hunread] at hline
      exact List.mem_append_right _ hline
    · rw [List.length_cons] at hturns
      omega

end Launcher

/-! ### Texts -/

section Texts

variable {atof : List UInt8 → CDouble} {p : String} {line : List UInt8} {lines : List (List UInt8)}

theorem mem_intercalate {d c : UInt8} {fields : List (List UInt8)} {field : List UInt8}
    (hfield : field ∈ fields) (hc : c ∈ field) : c ∈ [d].intercalate fields := by
  induction fields with
  | nil => cases hfield
  | cons first fields ih =>
    cases fields with
    | nil =>
      obtain rfl := List.mem_singleton.1 hfield
      simpa using hc
    | cons next fields =>
      rw [List.intercalate_cons_cons]
      rcases List.mem_cons.1 hfield with rfl | hfield
      · exact List.mem_append_left _ (List.mem_append_left _ hc)
      · exact List.mem_append_right _ (ih hfield)

/-- The value in a line has no NUL. -/
theorem zero_notMem_of_valueIn {e : loc_param_s_type} {value : List UInt8}
    (h : e.valueIn line = some value) : 0 ∉ value := by
  obtain ⟨name, hitem⟩ : ∃ name, lineItem line = some (name, value) := by
    unfold loc_param_s_type.valueIn at h
    split at h
    · rename_i name value' hitem
      split_ifs at h
      obtain rfl := Option.some.inj h
      exact ⟨name, hitem⟩
    · cases h
  have hpart : value ∈ parts (byte '=') (ctext line) := by
    unfold lineItem at hitem
    split at hitem
    · rename_i first second rest hparts
      obtain rfl : second = value := congrArg Prod.snd (Option.some.inj hitem)
      rw [hparts]
      exact List.mem_cons_of_mem _ List.mem_cons_self
    · cases hitem
  intro hzero
  have hmem : (0 : UInt8) ∈ ctext line := by
    have hjoin : [byte '='].intercalate ((ctext line).splitOn (byte '=')) = ctext line :=
      List.intercalate_splitOn _
    rw [← hjoin]
    exact mem_intercalate (List.mem_of_mem_filter hpart) hzero
  exact absurd (List.mem_takeWhile_imp hmem) (by decide)

theorem mem_of_mem_trim {c : UInt8} {text : List UInt8} (h : c ∈ loc_util_trim_space text) :
    c ∈ text := by
  rw [loc_util_trim_space_eq] at h
  split_ifs at h
  · exact h
  · exact (List.dropWhile_suffix _).subset ((List.rdropWhile_prefix _ _).subset h)

/-- A text that has been read fits its buffer and has no NUL. -/
theorem text_given : let text := ((ofText p []).cleared.given atof ((ofText p []).lastValue lines)).text
    0 ∉ text ∧ text.length < LOC_MAX_PARAM_STRING := by
  cases hlast : (ofText p []).lastValue lines with
  | none => exact ⟨List.not_mem_nil, (by decide : 0 < LOC_MAX_PARAM_STRING)⟩
  | some value =>
    obtain ⟨line, -, hline⟩ := exists_valueIn_of_lastValue hlast
    intro text
    have htext : text = _ := text_given_some p [] value
    rw [htext]
    split_ifs
    · exact ⟨List.not_mem_nil, (by decide : 0 < LOC_MAX_PARAM_STRING)⟩
    · refine ⟨fun hzero => zero_notMem_of_valueIn hline (mem_of_mem_trim (List.mem_of_mem_take hzero)),
        ?_⟩
      rw [List.length_take]
      exact (min_le_left _ _).trans_lt (by decide)

/-- The names in a list that fits its buffer are its first fields. -/
theorem names_eq {list : List UInt8} (hzero : 0 ∉ list) (hfit : list.length < LOC_MAX_PARAM_STRING) :
    names list = (list.splitOn (byte ' ')).take MAX_NUM_STRINGS := by
  have hctext : ctext (list ++ [0]) = list := TrimSpace.ctext_append hzero []
  have hlength : (ctext (list ++ [0])).length + 1 < 2 ^ 31 := by
    rw [hctext]
    exact Nat.lt_of_lt_of_le (Nat.succ_lt_succ hfit) (by decide)
  have hdone : SplitString.Done (byte ' ') MAX_NUM_STRINGS 0 [] (ctext (list ++ [0])) [] [(0, 0)]
      (SplitString.loc_util_split_string (list ++ [0]) MAX_NUM_STRINGS (byte ' ')) :=
    SplitString.loc_util_split_string_done (by rw [hctext]) (by rwa [hctext]) (by decide) (by decide)
      hlength
  rw [hctext] at hdone
  exact hdone.pieces_eq

end Texts

/-! ### Tests -/

section Tests

/-- The names let a device pass: all of them, all but those that are excluded, or its own. -/
def NameTest (name : List UInt8) (also : List UInt8 → Bool) (list : List (List UInt8)) : Prop :=
  list = [cstring "all"] ∨ list = [cstring "all", cstring "exclude"] ∨
    (∃ others, others ≠ [] ∧ list = cstring "all" :: cstring "exclude" :: others ∧ name ∉ others) ∨
    list.head? ≠ some (cstring "all") ∧ ∃ s ∈ list, name = s ∨ also s

def HardwareTest (name : List UInt8) (list : List (List UInt8)) : Prop :=
  list.head? = some (cstring "all") ∨ name ∈ list

variable {all found : BitVec 8} {name : List UInt8} {also : List UInt8 → Bool}

theorem nameMask_mem (list : List (List UInt8)) :
    nameMask all found name also list ∈ [0, all, found] := by
  cases list with
  | nil => exact List.mem_cons_self
  | cons first rest =>
    unfold nameMask
    dsimp only
    split_ifs <;> simp

theorem nameMask_ne_zero_iff (hall : all ≠ 0) (hfound : found ≠ 0) (list : List (List UInt8)) :
    nameMask all found name also list ≠ 0 ↔ NameTest name also list := by
  unfold NameTest
  cases list with
  | nil => exact iff_of_false (fun h => h rfl) (by simp)
  | cons first rest =>
    unfold nameMask
    dsimp only
    by_cases hfirst : first = cstring "all"
    · subst hfirst
      rw [if_pos rfl]
      have hhead : ¬ (cstring "all" :: rest).head? ≠ some (cstring "all") := fun h => h rfl
      cases rest with
      | nil =>
        rw [if_pos (.inl rfl)]
        exact iff_of_true hall (.inl rfl)
      | cons second others =>
        by_cases hsecond : second = cstring "exclude"
        · subst hsecond
          cases others with
          | nil =>
            rw [if_pos (.inr rfl)]
            exact iff_of_true hall (.inr (.inl rfl))
          | cons third others =>
            rw [if_neg (by simp), List.head?_cons, if_pos rfl, List.tail_cons]
            by_cases hmem : name ∈ third :: others
            · rw [if_pos hmem]
              refine iff_of_false (fun h => h rfl) ?_
              rintro (h | h | ⟨others', -, h, hnot⟩ | ⟨h, -⟩)
              · cases h
              · cases h
              · cases h
                exact hnot hmem
              · exact hhead h
            · rw [if_neg hmem]
              exact iff_of_true hfound (.inr (.inr (.inl ⟨_, List.cons_ne_nil _ _, rfl, hmem⟩)))
        · rw [if_neg (by simp [hsecond]), List.head?_cons,
            if_neg fun h => hsecond (Option.some.inj h)]
          refine iff_of_false (fun h => h rfl) ?_
          rintro (h | h | ⟨others', -, h, -⟩ | ⟨h, -⟩)
          · cases h
          · exact hsecond (List.cons.inj (List.cons.inj h).2).1
          · exact hsecond (List.cons.inj (List.cons.inj h).2).1
          · exact hhead h
    · rw [if_neg hfirst]
      have hhead : (first :: rest).head? ≠ some (cstring "all") := fun h =>
        hfirst (Option.some.inj h)
      have hany : ((first :: rest).any fun s => name == s || also s) = true ↔
          ∃ s ∈ first :: rest, name = s ∨ also s := by
        simp [List.any_eq_true]
      split_ifs with hfound'
      · exact iff_of_true hfound (.inr (.inr (.inr ⟨hhead, hany.1 hfound'⟩)))
      · refine iff_of_false (fun h => h rfl) ?_
        rintro (h | h | ⟨others', -, h, -⟩ | ⟨-, h⟩)
        · exact hfirst (List.cons.inj h).1
        · exact hfirst (List.cons.inj h).1
        · exact hfirst (List.cons.inj h).1
        · exact hfound' (hany.2 h)

theorem autoMask_mem (list : List (List UInt8)) : autoMask name list ∈
    [0, CONFIG_MASK_AUTOPLATFORM_ALL, CONFIG_MASK_AUTOPLATFORM_FOUND] := by
  cases list with
  | nil => exact List.mem_cons_self
  | cons first rest =>
    unfold autoMask
    dsimp only
    split_ifs <;> simp

theorem autoMask_ne_zero_iff (list : List (List UInt8)) :
    autoMask name list ≠ 0 ↔ HardwareTest name list := by
  unfold HardwareTest
  cases list with
  | nil => exact iff_of_false (fun h => h rfl) (by simp)
  | cons first rest =>
    unfold autoMask
    dsimp only
    split_ifs with hfirst hmem
    · exact iff_of_true (by decide) (.inl (congrArg some hfirst))
    · exact iff_of_true (by decide) (.inr hmem)
    · refine iff_of_false (fun h => h rfl) ?_
      rintro (hhead | hmem')
      · exact hfirst (Option.some.inj hhead)
      · exact hmem hmem'

/-- Each test has its own bits. -/
theorem check_ne_zero_iff : ∀ target ∈ [0, CONFIG_MASK_TARGET_ALL, CONFIG_MASK_TARGET_FOUND],
    ∀ baseband ∈ [0, CONFIG_MASK_BASEBAND_ALL, CONFIG_MASK_BASEBAND_FOUND],
    ∀ auto ∈ [0, CONFIG_MASK_AUTOPLATFORM_ALL, CONFIG_MASK_AUTOPLATFORM_FOUND],
      ((target ||| baseband ||| auto) &&& CONFIG_MASK_TARGET_CHECK ≠ 0 ↔ target ≠ 0) ∧
      ((target ||| baseband ||| auto) &&& CONFIG_MASK_BASEBAND_CHECK ≠ 0 ↔ baseband ≠ 0) ∧
      ((target ||| baseband ||| auto) &&& CONFIG_MASK_AUTOPLATFORM_CHECK ≠ 0 ↔ auto ≠ 0) := by
  decide +kernel

end Tests

namespace Launcher

variable {device : Launcher} {loc_service_mask : BitVec 32} {conf : loc_launcher_conf}

/-- The values that a process must have. -/
def Required (conf : loc_launcher_conf) : Prop :=
  conf.proc_name ≠ [] ∧ conf.group_list ≠ [] ∧ conf.platform_list ≠ [] ∧ conf.baseband ≠ [] ∧
    conf.proc_status ≠ [] ∧ conf.auto_platform ≠ []

def fields (list : List UInt8) : List (List UInt8) :=
  (list.splitOn (byte ' ')).take MAX_NUM_STRINGS

/-- The tests that a process has to pass, but for its state. -/
structure Passes (device : Launcher) (loc_service_mask : BitVec 32) (conf : loc_launcher_conf) :
    Prop where
  required : Required conf
  xtra : conf.proc_name = cstring "xtra-daemon" → device.isXtraDaemonEnabled
  vendor : conf.vendor_enhanced_process ≠ 0 → device.isVendorEnhanced
  platform : NameTest device.platform_name (fun _ => false) (fields conf.platform_list)
  baseband : NameTest device.baseband_name
    (fun s => s == cstring "sglte" && conf.sglte_target != 0) (fields conf.baseband)
  hardware : HardwareTest device.autoplatform_name (fields conf.auto_platform)
  feature : conf.premium_feature ≠ 0 → conf.loc_feature_mask &&& loc_service_mask ≠ 0

/-- The texts of the record have been read. -/
structure Texts (conf : loc_launcher_conf) : Prop where
  name : conf.proc_name.length < LOC_MAX_PARAM_STRING
  platform : names conf.platform_list = fields conf.platform_list
  baseband : names conf.baseband = fields conf.baseband
  hardware : names conf.auto_platform = fields conf.auto_platform

theorem texts_filled (atof : List UInt8 → CDouble) (block : List (List UInt8)) :
    Texts (conf.bare.filled atof block) := by
  have hnames (p : String) :
      names ((ofText p []).cleared.given atof ((ofText p []).lastValue block)).text =
        fields ((ofText p []).cleared.given atof ((ofText p []).lastValue block)).text :=
    names_eq text_given.1 text_given.2
  exact ⟨text_given.2, hnames "PLATFORMS", hnames "BASEBAND", hnames "HARDWARE_TYPE"⟩

theorem launch_proc_status : (device.launch conf loc_service_mask).proc_status =
    if device.config_mask conf &&& CONFIG_MASK_TARGET_CHECK ≠ 0 ∧
        device.config_mask conf &&& CONFIG_MASK_BASEBAND_CHECK ≠ 0 ∧
        device.config_mask conf &&& CONFIG_MASK_AUTOPLATFORM_CHECK ≠ 0 ∧
        (conf.premium_feature ≠ 0 → conf.loc_feature_mask &&& loc_service_mask ≠ 0) then .ENABLED
    else .DISABLED := by
  unfold launch
  dsimp only
  by_cases hpremium : conf.premium_feature = 0
  · simp only [hpremium, ne_eq, not_true_eq_false, false_and, if_false, false_implies, and_true]
    split_ifs <;> rfl
  · by_cases hfeature : conf.loc_feature_mask &&& loc_service_mask = 0
    · simp only [hpremium, hfeature, ne_eq, not_true_eq_false, not_false_eq_true, and_false, if_false,
        if_true, true_implies]
      split_ifs <;> rfl
    · simp only [hpremium, hfeature, ne_eq, not_false_eq_true, and_true, if_true, true_implies]
      split_ifs <;> rfl

theorem launch_enabled_iff (htexts : Texts conf) :
    (device.launch conf loc_service_mask).proc_status = .ENABLED ↔
      NameTest device.platform_name (fun _ => false) (fields conf.platform_list) ∧
      NameTest device.baseband_name (fun s => s == cstring "sglte" && conf.sglte_target != 0)
        (fields conf.baseband) ∧
      HardwareTest device.autoplatform_name (fields conf.auto_platform) ∧
      (conf.premium_feature ≠ 0 → conf.loc_feature_mask &&& loc_service_mask ≠ 0) := by
  obtain ⟨htarget, hbaseband, hauto⟩ := check_ne_zero_iff _ (nameMask_mem (names conf.platform_list))
    _ (nameMask_mem (names conf.baseband)) _ (autoMask_mem (names conf.auto_platform))
  rw [nameMask_ne_zero_iff (by decide) (by decide)] at htarget hbaseband
  rw [autoMask_ne_zero_iff] at hauto
  rw [← htexts.platform, ← htexts.baseband, ← htexts.hardware, ← htarget, ← hbaseband, ← hauto,
    launch_proc_status]
  split_ifs with hpass
  · exact iff_of_true rfl hpass
  · exact iff_of_false nofun hpass

/-- A process without a value that it must have stays disabled. -/
theorem process_of_not_required (h : ¬ Required conf) :
    (device.process conf loc_service_mask).1 = ⟨.DISABLED, [], [], [], []⟩ := by
  unfold process
  dsimp only
  rw [if_pos]
  by_contra hnot
  simp only [not_or] at hnot
  exact h hnot

theorem process_enabled_iff (htexts : Texts conf) :
    (device.process conf loc_service_mask).1.proc_status = .ENABLED ↔
      conf.proc_status ≠ cstring "DISABLED" ∧ Passes device loc_service_mask conf := by
  by_cases hrequired : Required conf
  · have hgiven : ¬ (conf.proc_name = [] ∨ conf.group_list = [] ∨ conf.platform_list = [] ∨
        conf.baseband = [] ∨ conf.proc_status = [] ∨ conf.auto_platform = []) := by
      simp only [not_or]
      exact hrequired
    have hfit : ¬ LOC_MAX_PARAM_STRING < conf.proc_name.length + 1 := Nat.not_lt.2 htexts.name
    unfold process
    dsimp only
    rw [if_neg hgiven]
    by_cases hxtra : conf.proc_name = cstring "xtra-daemon" ∧ ¬device.isXtraDaemonEnabled
    · rw [if_pos hxtra]
      exact iff_of_false nofun fun h => hxtra.2 (h.2.xtra hxtra.1)
    rw [if_neg hxtra]
    by_cases hvendor : ¬device.isVendorEnhanced ∧ conf.vendor_enhanced_process ≠ 0
    · rw [if_pos hvendor]
      exact iff_of_false nofun fun h => hvendor.1 (h.2.vendor hvendor.2)
    rw [if_neg hvendor]
    by_cases hstate : conf.proc_status = cstring "DISABLED"
    · rw [if_pos hstate]
      exact iff_of_false nofun fun h => h.1 hstate
    rw [if_neg hstate, if_neg hfit, launch_enabled_iff htexts]
    constructor
    · rintro ⟨hplatform, hbaseband, hhardware, hfeature⟩
      exact ⟨hstate, hrequired, fun hname => by_contra fun hnot => hxtra ⟨hname, hnot⟩,
        fun hprocess => by_contra fun hnot => hvendor ⟨hnot, hprocess⟩,
        hplatform, hbaseband, hhardware, hfeature⟩
    · rintro ⟨-, hpasses⟩
      exact ⟨hpasses.platform, hpasses.baseband, hpasses.hardware, hpasses.feature⟩
  · rw [process_of_not_required hrequired]
    exact iff_of_false nofun fun h => hrequired h.2.required

/-! ### The file -/

section File

variable (device) (record : loc_launcher_conf)

/-- The values in a block. -/
def values (block : List (List UInt8)) : loc_launcher_conf := record.bare.filled device.atof block

/-- The process of the block is enabled exactly if its state says so and it passes its tests. -/
def EnabledRight (block : List (List UInt8)) : Prop :=
  (device.alone record.loc_service_mask record block).proc_status = .ENABLED ↔
    (device.values record block).proc_status = cstring "ENABLED" ∧
      Passes device record.loc_service_mask (device.values record block)

/-- The state of the block is one of the two, or the block does not pass its tests. -/
def StateKnown (block : List (List UInt8)) : Prop :=
  (device.values record block).proc_status = cstring "ENABLED" ∨
    (device.values record block).proc_status = cstring "DISABLED" ∨
    ¬ Passes device record.loc_service_mask (device.values record block)

/-- What the function should do: there is an entry for each block, which the block describes alone; a
block without a value that it must have is disabled, and the others are enabled as they should. -/
structure ReadsBlocks (blocks : List (List (List UInt8))) (r : ProcessConf) : Prop where
  ret : r.ret = 0
  count : r.process_count.toNat = blocks.length
  entries : r.process_info_table = blocks.map (device.alone record.loc_service_mask record)
  lacking : ∀ block ∈ blocks, ¬ Required (device.values record block) →
    (device.alone record.loc_service_mask record block).proc_status = .DISABLED
  enabled : ∀ block ∈ blocks, device.EnabledRight record block

/-- The condition on the blocks: their number is an `unsigned char`, they are read one by one, and
their states are known. -/
structure BlocksKeep (blocks : List (List (List UInt8))) : Prop where
  few : blocks.length < 256
  separate : Separate device.atof record blocks
  states : ∀ block ∈ blocks, device.StateKnown record block

variable {device record}

theorem enabledRight_iff (block : List (List UInt8)) :
    device.EnabledRight record block ↔ device.StateKnown record block := by
  have henabled : (device.alone record.loc_service_mask record block).proc_status = .ENABLED ↔
      (device.values record block).proc_status ≠ cstring "DISABLED" ∧
        Passes device record.loc_service_mask (device.values record block) :=
    process_enabled_iff (texts_filled device.atof block)
  have hne : cstring "ENABLED" ≠ cstring "DISABLED" := by decide
  unfold EnabledRight StateKnown
  rw [henabled, and_congr_left_iff]
  constructor
  · intro h
    by_cases hpasses : Passes device record.loc_service_mask (device.values record block)
    · by_cases hstate : (device.values record block).proc_status = cstring "DISABLED"
      · exact .inr (.inl hstate)
      · exact .inl ((h hpasses).1 hstate)
    · exact .inr (.inr hpasses)
  · rintro (hstate | hstate | hnot) hpasses
    · rw [hstate]
      exact iff_of_true hne rfl
    · rw [hstate]
      exact iff_of_false (fun h => h rfl) hne.symm
    · exact absurd hpasses hnot

/-- A file that has been opened can be read. -/
theorem isSome_readProcesses (loc_service_mask : BitVec 32) (left : ℕ) (conf : loc_launcher_conf)
    (fp : List UInt8) :
    (device.readProcesses loc_service_mask left conf (some fp)).isSome := by
  induction left generalizing conf fp with
  | zero => rfl
  | succ left ih =>
    rw [readProcesses]
    dsimp only
    rw [if_neg (fun h => h rfl), Option.isSome_map]
    exact ih _ _

/-- The static record when the processes in the file have been counted. -/
def counted (device : Launcher) (gps_conf : Option (List UInt8)) (file : List UInt8)
    (conf : loc_launcher_conf) : loc_launcher_conf :=
  { device.readFeatures gps_conf (some file) conf with proc_name := [] }

/-- The parameters of the processes are not read with the features. -/
theorem table_readFeatures (device : Launcher) (gps_conf conf_file : Option (List UInt8))
    (conf : loc_launcher_conf) :
    { device.readFeatures gps_conf conf_file conf with proc_name := [] }.loc_process_conf_parameter_table =
      { conf with proc_name := [] }.loc_process_conf_parameter_table := by
  unfold readFeatures withFeatures withGps
  dsimp only
  split <;> split <;> rfl

theorem length_le_length_flatten {blocks : List (List (List UInt8))}
    (h : ∀ block ∈ blocks, block ≠ []) : blocks.length ≤ blocks.flatten.length := by
  induction blocks with
  | nil => exact le_rfl
  | cons block blocks ih =>
    have hpos := List.length_pos_iff.2 (h block List.mem_cons_self)
    have hrest := ih fun b hb => h b (List.mem_cons_of_mem _ hb)
    rw [List.length_cons, List.flatten_cons, List.length_append]
    omega

/-- The function when the file can be read and there is memory. -/
theorem loc_read_process_conf_eq {device : Launcher} {gps_conf : Option (List UInt8)}
    {conf record : loc_launcher_conf} {file : List UInt8} {proc_list_length : BitVec 8}
    {table : List loc_process_info_s_type}
    (hcount : device.countProcesses (file.length + 1)
      (device.readFeatures gps_conf (some file) conf) (some file) 0 = some (record, proc_list_length))
    (htable : device.readProcesses (device.readFeatures gps_conf (some file) conf).loc_service_mask
      proc_list_length.toNat record (some file) = some table) :
    device.loc_read_process_conf true gps_conf (some file) conf = ⟨0, proc_list_length, table⟩ := by
  unfold loc_read_process_conf
  dsimp only
  rw [hcount]
  dsimp only
  rw [if_neg (fun h => h rfl), htable]

/-- A device with nothing special about it. -/
def plainDevice : Launcher where
  atof _ := ⟨0⟩
  platform_name := cstring "sdm"
  baseband_name := cstring "msm"
  autoplatform_name := []
  isXtraDaemonEnabled := true
  isVendorEnhanced := true
  getgrnam _ := none

def emptyConf : loc_launcher_conf :=
  ⟨[], [], [], [], 0, 0, [], [], 0, [], [], [], [], [], [], [], [], 0⟩

def confLine (s : String) : List UInt8 := cstring s ++ [newline]

/-- What a process must have, for the process `a`. -/
def requiredBlock : List (List UInt8) :=
  [confLine "PROCESS_NAME=a", confLine "PROCESS_STATE=ENABLED", confLine "PROCESS_GROUPS=g",
    confLine "PLATFORMS=all", confLine "BASEBAND=all", confLine "HARDWARE_TYPE=all"]

theorem block_requiredBlock : Block requiredBlock :=
  ⟨⟨_, _, cstring "a" ++ [newline], rfl, by decide, by decide, by decide⟩, by decide +kernel⟩

theorem proc_status_requiredBlock (record : loc_launcher_conf) :
    (plainDevice.values record requiredBlock).proc_status = cstring "ENABLED" := by
  have hlast : (ofText "PROCESS_STATE" []).lastValue requiredBlock =
      some (cstring "ENABLED" ++ [newline]) := by decide +kernel
  change ((ofText "PROCESS_STATE" []).cleared.given plainDevice.atof
    ((ofText "PROCESS_STATE" []).lastValue requiredBlock)).text = _
  rw [hlast, text_given_some]
  decide

end File

end Launcher

end GpsHal
