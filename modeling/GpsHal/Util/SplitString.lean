import Mathlib.Algebra.Group.Nat.Defs
import GpsHal.Util.TrimSpace

/-!
# `loc_util_split_string`

The delimiters of a string are replaced by NULs where they stand, and the positions of the pieces are
stored for the caller (`utils/loc_misc_utils.cpp`).  Positions in the string are of the type `int`.

## Main definitions

* `SplitString.loc_util_split_string` : the function on the memory from the start of the string.
* `SplitString.pieces` : the texts that the caller finds.

## Main results

* `SplitString.loc_util_split_string_fields` : the pieces are the first fields of the string.
-/

namespace GpsHal

/-- The state of the function.  `split_strings_ptr` records what has been stored: at which index, and
which position in the string. -/
structure SplitString where
  raw_string : List UInt8
  num_split_strings : ℕ
  split_strings_ptr : List (ℕ × ℕ)
  deriving DecidableEq, Repr

namespace SplitString

/-- The loop, with as many turns as there are bytes. -/
def loop (raw_string_length : ℤ) (max_num_substrings : ℤ) (delimiter : UInt8) :
    ℕ → ℕ → SplitString → SplitString
  | 0, _, t => t
  | turns + 1, i, t =>
    if i < raw_string_length then
      let c := t.raw_string.getD i 0
      if c = delimiter ∨ c = 0 then
        let t : SplitString :=
          { t with
            raw_string := t.raw_string.set i 0
            num_split_strings := t.num_split_strings + 1 }
        if (i : ℤ) + 1 < raw_string_length ∧ t.num_split_strings < max_num_substrings then
          let t : SplitString :=
            { t with split_strings_ptr := t.split_strings_ptr ++ [(t.num_split_strings, i + 1)] }
          if c = 0 then t else loop raw_string_length max_num_substrings delimiter turns (i + 1) t
        else t
      else loop raw_string_length max_num_substrings delimiter turns (i + 1) t
    else t

/-- The length with the NUL is converted to an `int`. -/
def loc_util_split_string (raw_string : List UInt8) (max_num_substrings : ℤ) (delimiter : UInt8) :
    SplitString :=
  let raw_string_length := (BitVec.ofNat 32 ((ctext raw_string).length + 1)).toInt
  loop raw_string_length max_num_substrings delimiter raw_string.length 0 ⟨raw_string, 0, [(0, 0)]⟩

/-- The texts that start at the positions that have been stored. -/
def pieces (t : SplitString) : List (List UInt8) :=
  t.split_strings_ptr.map fun p => ctext (t.raw_string.drop p.2)

/-- What the function should do to a string with a maximum `n`: it counts the pieces that it has
stored, which are the first fields of the string and all of them if there was room for another one,
and it writes to nothing but the string. -/
structure Splits (mem : List UInt8) (n : ℕ) (d : UInt8) (t : SplitString) : Prop where
  one_le : 1 ≤ t.num_split_strings
  le : t.num_split_strings ≤ n
  stored : t.split_strings_ptr.map Prod.fst = List.range t.num_split_strings
  within : ∀ p ∈ t.split_strings_ptr, p.2 ≤ (ctext mem).length
  fields : t.pieces = ((ctext mem).splitOn d).take t.num_split_strings
  all : t.num_split_strings < n → t.pieces = (ctext mem).splitOn d
  joined : [d].intercalate t.pieces <+: ctext mem
  joined_all : t.num_split_strings < n → [d].intercalate t.pieces = ctext mem
  frame : t.raw_string.drop ((ctext mem).length + 1) = mem.drop ((ctext mem).length + 1)

example : let t := loc_util_split_string (cstring "hello new user" ++ [0]) 25 (byte ' ')
    t.num_split_strings = 3 ∧ t.split_strings_ptr = [(0, 0), (1, 6), (2, 10)] ∧
      t.pieces = [cstring "hello", cstring "new", cstring "user"] := by decide

/-! ### Fields -/

section

variable {d : UInt8} {text : List UInt8}

/-- Some first fields, joined again, are what the text starts with. -/
theorem intercalate_take_prefix (fields : List (List UInt8)) (k : ℕ) :
    [d].intercalate (fields.take k) <+: [d].intercalate fields := by
  induction fields generalizing k with
  | nil =>
    have htake : ([] : List (List UInt8)).take k = [] := List.take_nil
    exact htake.symm ▸ List.prefix_rfl
  | cons field fields ih =>
    cases k with
    | zero => exact List.nil_prefix
    | succ k =>
      rw [List.take_succ_cons]
      cases hfields : fields with
      | nil =>
        have htake : ([] : List (List UInt8)).take k = [] := List.take_nil
        exact htake.symm ▸ List.prefix_rfl
      | cons field' fields' =>
        cases k with
        | zero =>
          rw [List.take_zero, List.intercalate_singleton, List.intercalate_cons_cons]
          exact (List.prefix_append _ _).trans (List.prefix_append _ _)
        | succ k =>
          have hrest := ih (k + 1)
          rw [hfields, List.take_succ_cons] at hrest
          rw [List.take_succ_cons, List.intercalate_cons_cons, List.intercalate_cons_cons]
          exact (List.prefix_append_right_inj _).2 hrest

/-- The first field of a text goes up to a delimiter, behind which the others stand, or is all of
it. -/
theorem splitOn_cases (d : UInt8) (text : List UInt8) :
    (d ∉ text ∧ text.splitOn d = [text]) ∨
      ∃ field rest, d ∉ field ∧ text = field ++ d :: rest ∧
        text.splitOn d = field :: rest.splitOn d := by
  by_cases h : d ∈ text
  · obtain ⟨field, rest, htext, hfield⟩ := List.eq_append_cons_of_mem h
    refine .inr ⟨field, rest, hfield, htext, ?_⟩
    rw [htext, List.splitOn_append_cons_self_of_not_mem hfield]
  · exact .inl ⟨h, List.splitOn_eq_singleton h⟩

end

/-! ### The loop -/

section

variable {d : UInt8} {L : ℤ} {n turns i : ℕ} {t : SplitString}

/-- Other characters than delimiters are passed over. -/
theorem loop_append {field rest : List UInt8} (hfield : d ∉ field) (hzero : 0 ∉ field)
    (ht : t.raw_string.drop i = field ++ rest) (hL : (i : ℤ) + field.length ≤ L) (turns : ℕ) :
    loop L n d (field.length + turns) i t = loop L n d turns (i + field.length) t := by
  induction field generalizing i with
  | nil => rw [List.length_nil, Nat.zero_add, Nat.add_zero]
  | cons c field ih =>
    have hc : t.raw_string.getD i 0 = c := by
      have hget := congrArg (·.getD 0 0) ht
      simpa [List.getD_eq_getElem?_getD] using hget
    have hdrop : t.raw_string.drop (i + 1) = field ++ rest := by
      rw [← List.drop_drop, ht]
      rfl
    rw [List.length_cons] at hL ⊢
    have hplain : ¬(c = d ∨ c = 0) := by
      rintro (rfl | rfl)
      · exact hfield List.mem_cons_self
      · exact hzero List.mem_cons_self
    rw [Nat.add_right_comm, loop, if_pos (by omega), hc]
    dsimp only
    rw [if_neg hplain, ih (fun h => hfield (List.mem_cons_of_mem _ h))
      (fun h => hzero (List.mem_cons_of_mem _ h)) hdrop (by omega)]
    congr 1
    omega

/-- What the loop does from the start of a piece: `num` pieces have been ended in front of it, and the
text from there on is still the old one. -/
structure Done (d : UInt8) (n num : ℕ) (before text behind : List UInt8) (ptrs : List (ℕ × ℕ))
    (t : SplitString) : Prop where
  count : t.num_split_strings = num + min (n - num) (text.splitOn d).length
  stored : ∃ offsets, t.split_strings_ptr = ptrs ++ (List.range' (num + 1) offsets.length).zip offsets ∧
    (before.length :: offsets).map (fun o => ctext (t.raw_string.drop o)) =
      (text.splitOn d).take (n - num) ∧
    ∀ o ∈ offsets, o ≤ before.length + text.length
  before_eq : t.raw_string.take before.length = before
  behind_eq : t.raw_string.drop (before.length + text.length) = 0 :: behind

/-- A delimiter, or the NUL, is overwritten. -/
theorem set_zero (before : List UInt8) (c : UInt8) (rest : List UInt8) :
    (before ++ c :: rest).set before.length 0 = before ++ 0 :: rest := by
  rw [List.set_append_right _ _ le_rfl, Nat.sub_self, List.set_cons_zero]

theorem getD_append (before : List UInt8) (c : UInt8) (rest : List UInt8) :
    (before ++ c :: rest).getD before.length 0 = c := by
  rw [List.getD_eq_getElem?_getD, List.getElem?_append_right le_rfl, Nat.sub_self,
    List.getElem?_cons_zero, Option.getD_some]

/-- The turn at the NUL is the last. -/
theorem loop_nul {s behind : List UInt8} {num : ℕ} {ptrs : List (ℕ × ℕ)} (hL : L = s.length + 1) :
    loop L n d (turns + 1) s.length ⟨s ++ 0 :: behind, num, ptrs⟩ =
      ⟨s ++ 0 :: behind, num + 1, ptrs⟩ := by
  rw [loop, if_pos (by omega)]
  dsimp only
  rw [getD_append, if_pos (Or.inr rfl), if_neg (by omega), set_zero]

/-- The turn at a delimiter ends a piece, and is the last if that was the piece that the caller still
had room for. -/
theorem loop_delimiter {s rest : List UInt8} {num : ℕ} {ptrs : List (ℕ × ℕ)} (hd : d ≠ 0)
    (hL : (s.length : ℤ) + 1 < L) :
    loop L n d (turns + 1) s.length ⟨s ++ d :: rest, num, ptrs⟩ =
      if num + 1 < n then
        loop L n d turns (s.length + 1)
          ⟨s ++ 0 :: rest, num + 1, ptrs ++ [(num + 1, s.length + 1)]⟩
      else ⟨s ++ 0 :: rest, num + 1, ptrs⟩ := by
  rw [loop, if_pos (by omega)]
  dsimp only
  rw [getD_append, if_pos (Or.inl rfl), set_zero, if_neg hd]
  by_cases hroom : num + 1 < n
  · rw [if_pos hroom, if_pos ⟨hL, by exact_mod_cast hroom⟩]
  · rw [if_neg hroom, if_neg (fun h => hroom (by exact_mod_cast h.2))]

theorem drop_length_append (before rest : List UInt8) : (before ++ rest).drop before.length = rest :=
  List.drop_left

/-- By induction on the text that is left, field by field. -/
theorem loop_done {before text behind : List UInt8} {num : ℕ} {ptrs : List (ℕ × ℕ)} (hd : d ≠ 0)
    (hnum : num < n) (hzero : 0 ∉ text) (hL : L = before.length + text.length + 1)
    (hturns : text.length < turns) :
    Done d n num before text behind ptrs
      (loop L n d turns before.length ⟨before ++ (text ++ 0 :: behind), num, ptrs⟩) := by
  induction hlength : text.length using Nat.strong_induction_on generalizing before text num ptrs turns
    with
  | _ len ih =>
    rcases splitOn_cases d text with ⟨hnot, hsplit⟩ | ⟨field, rest, hfield, htext, hsplit⟩
    · -- the last field ends at the NUL
      obtain ⟨k, rfl⟩ : ∃ k, turns = text.length + (k + 1) := ⟨turns - text.length - 1, by omega⟩
      rw [loop_append hnot hzero (drop_length_append _ _) (by omega), ← List.append_assoc,
        ← List.length_append, loop_nul (by rw [List.length_append]; omega)]
      have htake : (text.splitOn d).take (n - num) = [text] := by
        rw [hsplit, List.take_of_length_le]
        rw [List.length_singleton]
        omega
      refine ⟨?_, ⟨[], ?_, ?_, nofun⟩, ?_, ?_⟩
      · rw [hsplit, List.length_singleton]
        dsimp only
        omega
      · exact (List.append_nil _).symm
      · rw [htake]
        dsimp only
        rw [List.map_singleton, List.append_assoc, drop_length_append, TrimSpace.ctext_append hzero]
      · dsimp only
        rw [List.append_assoc, List.take_left]
      · dsimp only
        rw [← List.length_append, drop_length_append]
    · -- this field ends at a delimiter
      subst htext
      have hzero' : 0 ∉ field := fun h => hzero (List.mem_append_left _ h)
      have hrest : 0 ∉ rest := fun h =>
        hzero (List.mem_append_right _ (List.mem_cons_of_mem _ h))
      rw [List.length_append, List.length_cons] at hL hturns hlength
      obtain ⟨k, rfl⟩ : ∃ k, turns = field.length + (k + 1) := ⟨turns - field.length - 1, by omega⟩
      rw [List.append_assoc, loop_append hfield hzero' (drop_length_append _ _) (by omega),
        ← List.append_assoc, ← List.length_append, List.cons_append,
        loop_delimiter hd (by rw [List.length_append]; omega)]
      have hended : before ++ field ++ 0 :: (rest ++ 0 :: behind) =
          (before ++ field ++ [0]) ++ (rest ++ 0 :: behind) := by
        simp only [List.append_assoc, List.singleton_append]
      have hended_length : (before ++ field ++ [0]).length = (before ++ field).length + 1 := by
        rw [List.length_append, List.length_singleton]
      have hsum : (before ++ field).length = before.length + field.length := List.length_append
      by_cases hroom : num + 1 < n
      · rw [if_pos hroom, hended, ← hended_length]
        have hdone : Done d n (num + 1) (before ++ field ++ [0]) rest behind
            (ptrs ++ [(num + 1, (before ++ field ++ [0]).length)])
            (loop L n d k (before ++ field ++ [0]).length
              ⟨(before ++ field ++ [0]) ++ (rest ++ 0 :: behind), num + 1,
                ptrs ++ [(num + 1, (before ++ field ++ [0]).length)]⟩) :=
          ih rest.length (by omega) hroom hrest (by rw [hended_length, hsum]; push_cast; omega)
            (by omega) rfl
        generalize loop L n d k _ _ = t at hdone ⊢
        obtain ⟨hcount, ⟨offsets, hptrs, hpieces, hwithin⟩, hbefore, hbehind⟩ := hdone
        have hstart : t.raw_string = before ++ (field ++ 0 :: t.raw_string.drop
            (before ++ field ++ [0]).length) := by
          conv_lhs => rw [← List.take_append_drop (before ++ field ++ [0]).length t.raw_string, hbefore]
          simp only [List.append_assoc, List.singleton_append]
        refine ⟨?_, ⟨(before ++ field ++ [0]).length :: offsets, ?_, ?_, ?_⟩, ?_, ?_⟩
        · rw [hcount, hsplit, List.length_cons]
          omega
        · rw [hptrs, List.append_assoc, List.length_cons, List.range'_succ]
          rfl
        · have htake : n - num = n - (num + 1) + 1 := by omega
          rw [List.map_cons, hpieces, hsplit, htake, List.take_succ_cons, hstart, drop_length_append,
            TrimSpace.ctext_append hzero']
        · intro o ho
          rw [List.length_append, List.length_cons]
          rcases List.mem_cons.1 ho with rfl | ho
          · omega
          · have hle := hwithin o ho
            omega
        · rw [hstart, List.take_left]
        · rw [hended_length, hsum] at hbehind
          rw [← hbehind, List.length_append, List.length_cons]
          congr 1
          omega
      · rw [if_neg hroom]
        have htake : (field :: rest.splitOn d).take (n - num) = [field] := by
          have hone : n - num = 1 := by omega
          rw [hone, List.take_succ_cons, List.take_zero]
        refine ⟨?_, ⟨[], ?_, ?_, nofun⟩, ?_, ?_⟩
        · rw [hsplit, List.length_cons]
          dsimp only
          omega
        · exact (List.append_nil _).symm
        · rw [hsplit, htake]
          dsimp only
          rw [List.map_singleton, List.append_assoc, drop_length_append,
            TrimSpace.ctext_append hzero']
        · dsimp only
          rw [List.append_assoc, List.take_left]
        · dsimp only
          have hpos : before.length + (field ++ d :: rest).length =
              (before ++ field ++ [0] ++ rest).length := by
            simp only [List.length_append, List.length_cons, List.length_nil]
            omega
          rw [hended, ← List.append_assoc, hpos, drop_length_append]

end

/-! ### The function -/

/-- The function does what its loop does from the start of the string. -/
theorem loc_util_split_string_done {mem behind : List UInt8} {n : ℕ} {d : UInt8}
    (heq : mem = ctext mem ++ 0 :: behind) (hzero : 0 ∉ ctext mem) (hd : d ≠ 0) (hn : 1 ≤ n)
    (hfit : (ctext mem).length + 1 < 2 ^ 31) :
    Done d n 0 [] (ctext mem) behind [(0, 0)] (loc_util_split_string mem n d) := by
  have hint : (BitVec.ofNat 32 ((ctext mem).length + 1)).toInt = ([] : List UInt8).length +
      (ctext mem).length + 1 := by
    rw [BitVec.toInt_ofNat', Int.bmod_eq_of_le (by omega) (by omega), List.length_nil]
    push_cast
    omega
  have hlength := congrArg List.length heq
  rw [List.length_append, List.length_cons] at hlength
  have hstart : loc_util_split_string mem n d =
      loop (BitVec.ofNat 32 ((ctext mem).length + 1)).toInt n d mem.length ([] : List UInt8).length
        ⟨[] ++ (ctext mem ++ 0 :: behind), 0, [(0, 0)]⟩ := by
    rw [List.nil_append, ← heq]
    rfl
  rw [hstart]
  exact loop_done hd hn hzero hint (by omega)

/-- The positions that have been stored are those of the first fields. -/
theorem Done.pieces_eq {d : UInt8} {n : ℕ} {text behind : List UInt8} {t : SplitString}
    (h : Done d n 0 [] text behind [(0, 0)] t) : t.pieces = (text.splitOn d).take n := by
  obtain ⟨offsets, hptrs, hpieces, -⟩ := h.stored
  have hsnd : ((List.range' (0 + 1) offsets.length).zip offsets).map Prod.snd = offsets :=
    List.map_snd_zip (List.length_range' ..).ge
  rw [Nat.sub_zero, List.length_nil] at hpieces
  rw [← hpieces, pieces, hptrs, List.map_append, List.map_singleton, List.singleton_append,
    List.map_cons]
  conv_rhs => rw [← hsnd, List.map_map]
  rfl

/-- **Splitting.**  A string whose length with the NUL is an `int` is split into its first fields, up
to the maximum. -/
theorem loc_util_split_string_splits {mem : List UInt8} {n : ℕ} {d : UInt8} (hmem : 0 ∈ mem)
    (hd : d ≠ 0) (hn : 1 ≤ n) (hfit : (ctext mem).length + 1 < 2 ^ 31) :
    Splits mem n d (loc_util_split_string mem n d) := by
  obtain ⟨hzero, behind, heq⟩ := TrimSpace.eq_ctext_append hmem
  have hloop := loc_util_split_string_done heq hzero hd hn hfit
  generalize loc_util_split_string mem n d = t at hloop
  have hpieces' := hloop.pieces_eq
  obtain ⟨hcount, ⟨offsets, hptrs, hpieces, hwithin⟩, -, hbehind⟩ := hloop
  rw [Nat.sub_zero] at hcount hpieces
  rw [Nat.zero_add] at hcount hptrs
  rw [List.length_nil] at hpieces hwithin hbehind
  rw [Nat.zero_add] at hwithin hbehind
  have hfields : 0 < ((ctext mem).splitOn d).length :=
    List.length_pos_iff.2 (List.splitOn_ne_nil _ _)
  have hfst : ((List.range' 1 offsets.length).zip offsets).map Prod.fst =
      List.range' 1 offsets.length := List.map_fst_zip (List.length_range' ..).le
  have hlength_pieces : offsets.length + 1 = t.num_split_strings := by
    have hlength := congrArg List.length hpieces
    rw [List.length_map, List.length_cons, List.length_take] at hlength
    rw [hlength, hcount]
  have hfirst : ((ctext mem).splitOn d).take n =
      ((ctext mem).splitOn d).take t.num_split_strings := by
    rw [hcount, List.take_eq_take_iff]
    omega
  have hall (hlt : t.num_split_strings < n) : t.pieces = (ctext mem).splitOn d := by
    rw [hpieces', List.take_of_length_le]
    omega
  have hjoin : [d].intercalate ((ctext mem).splitOn d) = ctext mem :=
    List.intercalate_splitOn d
  refine ⟨by omega, by omega, ?_, ?_, hpieces'.trans hfirst, hall, ?_, ?_, ?_⟩
  · rw [hptrs, List.map_append, hfst, ← hlength_pieces, List.range_eq_range', List.range'_succ]
    rfl
  · intro p hp
    rw [hptrs] at hp
    rcases List.mem_cons.1 hp with rfl | hp
    · exact Nat.zero_le _
    · exact hwithin _ (List.of_mem_zip hp).2
  · rw [hpieces']
    conv_rhs => rw [← hjoin]
    exact intercalate_take_prefix _ n
  · intro hlt
    rw [hall hlt, hjoin]
  · have hold : mem.drop (ctext mem).length = 0 :: behind :=
      (congrArg (List.drop (ctext mem).length) heq).trans (drop_length_append _ _)
    rw [← List.drop_drop, ← List.drop_drop, hbehind, hold]

/-- `hello new user` has two pieces for a caller with room for two. -/
theorem loc_util_split_string_splits_two :
    Splits (cstring "hello new user" ++ [0]) 2 (byte ' ')
      (loc_util_split_string (cstring "hello new user" ++ [0]) (2 : ℕ) (byte ' ')) :=
  loc_util_split_string_splits (by decide) (by decide) (by decide) (by decide)

/-- A string whose length with the NUL is no `int` has no pieces at all. -/
theorem loc_util_split_string_long {mem : List UInt8} (max_num_substrings : ℤ) (d : UInt8)
    (hlow : 2 ^ 31 ≤ (ctext mem).length + 1) (hhigh : (ctext mem).length + 1 < 2 ^ 32) :
    (loc_util_split_string mem max_num_substrings d).num_split_strings = 0 := by
  have hneg : (BitVec.ofNat 32 ((ctext mem).length + 1)).toInt < 0 := by
    rw [BitVec.toInt_ofNat', Int.bmod_def]
    split_ifs <;> omega
  unfold loc_util_split_string
  dsimp only
  cases mem with
  | nil => rfl
  | cons c mem =>
    rw [List.length_cons, loop, if_neg]
    omega

/-- 2 GiB of one character are not one piece. -/
theorem not_splits_long : ¬ Splits (List.replicate (2 ^ 31 - 1) (byte 'a') ++ [0]) 1 (byte ' ')
    (loc_util_split_string (List.replicate (2 ^ 31 - 1) (byte 'a') ++ [0]) (1 : ℕ) (byte ' ')) := by
  intro h
  have hnot : (0 : UInt8) ∉ List.replicate (2 ^ 31 - 1) (byte 'a') := fun hmem =>
    absurd (List.eq_of_mem_replicate hmem) (by decide)
  have hlength : (ctext (List.replicate (2 ^ 31 - 1) (byte 'a') ++ [0])).length = 2 ^ 31 - 1 := by
    rw [TrimSpace.ctext_append hnot, List.length_replicate]
  have hzero := loc_util_split_string_long (1 : ℕ) (byte ' ')
    (show 2 ^ 31 ≤ (ctext (List.replicate (2 ^ 31 - 1) (byte 'a') ++ [0])).length + 1 by omega)
    (by omega)
  have hone := h.one_le
  omega

end SplitString

end GpsHal
