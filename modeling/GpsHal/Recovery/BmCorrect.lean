import GpsHal.Recovery.BmTables
import Mathlib.Data.Nat.Find

/-!
# When the search for a string finds it

Neither table moves the pattern over an occurrence, except for the prefixes: `bm_make_delta2` moves
the pattern one character too far where what follows a mismatch does not occur again and ends in a
prefix of the pattern.

## Main definitions

* `Skips` : a mismatch moves the pattern over an occurrence.
* `SkipFree` : no text of a length is long enough for that.

## Main results

* `Moves.le` : no other occurrence is moved over.
* `skipFree_iff` : which patterns without a zero byte this is about.
* `searches_iff` : which patterns are found in every text of a length.
-/

namespace GpsHal

variable {pat str : List UInt8} {delta1 delta2 : IntArray} {a j : ℕ}

/-- A mismatch at `j` moves the pattern by `q + 1` characters where it might occur `q` characters
further on. -/
structure Skips (pat : List UInt8) (j q : ℕ) : Prop where
  lt : j < q
  lt_length : q < pat.length
  border : Border pat q
  first : ∀ p, j ≤ p → p < q → prefixAt pat p = false
  once : ∀ t, ¬ Recurs pat t j

/-- No text of length `n` has room for an occurrence that is moved over. -/
def SkipFree (pat : List UInt8) (n : ℕ) : Prop := ∀ j q, Skips pat j q → n < q + pat.length

/-- What the tables say of a mismatch at `j`, where the text has the character `c`. -/
structure Moves (pat : List UInt8) (j : ℕ) (c : UInt8) (d s : ℕ) : Prop where
  bad : BadChar pat (pat.length - 1) c d
  good : GoodSuffix pat j s

/-- How far the pattern is moved then. -/
def moved (pat : List UInt8) (j d s : ℕ) : ℕ := max s (d - (pat.length - 1 - j))

/-! ### No occurrence is moved over -/

section Shift

variable {c : UInt8} {d s t : ℕ}

theorem Moves.pos (h : Moves pat j c d s) (hj : j < pat.length) : 0 < moved pat j d s :=
  Nat.lt_of_lt_of_le (h.good.bounds hj).1 (Nat.le_max_left _ _)

theorem Moves.le_length (h : Moves pat j c d s) (hj : j < pat.length) :
    moved pat j d s ≤ pat.length := by
  have hd := h.bad.le
  exact Nat.max_le.mpr ⟨(h.good.bounds hj).2, by omega⟩

/-- The second table does not move the pattern over an occurrence that it should not miss. -/
theorem GoodSuffix.le_of_occursAt (h : GoodSuffix pat j s) (hm : Mismatch pat str a j)
    (hfree : SkipFree pat str.length) (ho : OccursAt pat str (a + t)) (ht : 0 < t) : s ≤ t := by
  have hj := hm.lt
  have hpat : pat ≠ [] := List.ne_nil_of_length_pos (Nat.zero_lt_of_lt hj)
  by_cases htj : t ≤ j
  · -- what follows the mismatch occurs again, with the occurrence
    have hr := hm.recurs_of_occursAt ho ht htj
    rcases h with ⟨-, hmin⟩ | ⟨hnone, -⟩
    · exact hmin t hr
    · exact absurd hr (hnone t)
  · by_cases htm : t < pat.length
    · -- the occurrence starts with how the text goes on
      have hb := hm.border_of_occursAt ho (Nat.lt_of_not_le htj)
      have hp := prefixAt_of_border hb
      rcases h with ⟨hr, -⟩ | ⟨hnone, ⟨q, hle, hq, hpre, rfl, hmin⟩ | ⟨rfl, hno⟩⟩
      · have hle := hr.le
        omega
      · have hqt : q ≤ t := by
          by_contra hlt
          exact absurd (hp.symm.trans (hmin t (by omega) (by omega))) (by decide)
        rcases Nat.lt_or_eq_of_le hqt with hlt | rfl
        · exact hlt
        · have hroom := hfree j q ⟨by omega, hq, hb, hmin, hnone⟩
          have hend := ho.add_length_le hpat
          omega
      · exact absurd (hp.symm.trans (hno t (by omega) htm)) (by decide)
    · have hle := (h.bounds hj).2
      omega

/-- Neither does the first table. -/
theorem BadChar.le_of_occursAt (h : BadChar pat (pat.length - 1) c d) (hm : Mismatch pat str a j)
    (hc : str[a + j]? = some c) (ho : OccursAt pat str (a + t)) (ht : 0 < t) :
    d - (pat.length - 1 - j) ≤ t := by
  have hj := hm.lt
  by_cases htj : t ≤ j
  · have hchar := (hm.char_of_occursAt ho htj).trans hc
    have hd := h.le_of_char (j - t) (by omega) hchar
    omega
  · have hd := h.le
    omega

theorem Moves.le (h : Moves pat j c d s) (hm : Mismatch pat str a j) (hc : str[a + j]? = some c)
    (hfree : SkipFree pat str.length) {n : ℕ} (ho : OccursAt pat str n) (hn : a < n) :
    a + moved pat j d s ≤ n := by
  obtain ⟨t, rfl⟩ := Nat.exists_eq_add_of_lt hn
  have ho : OccursAt pat str (a + (t + 1)) := ho
  have hs := h.good.le_of_occursAt hm hfree ho (Nat.succ_pos t)
  have hd := h.bad.le_of_occursAt hm hc ho (Nat.succ_pos t)
  have hmax : moved pat j d s ≤ t + 1 := Nat.max_le.mpr ⟨hs, hd⟩
  omega

end Shift

/-! ### The loops -/

theorem sizeToInt_of_lt {n : ℕ} (h : n < 2 ^ 31) : sizeToInt n = n := by
  have hnat : (BitVec.ofNat 32 n).toNat = n := by
    rw [BitVec.toNat_ofNat]
    exact Nat.mod_eq_of_lt (by omega)
  rw [sizeToInt, BitVec.toInt_eq_toNat_of_lt (by rw [hnat]; omega), hnat]

/-- Two comparisons find the same. -/
theorem Mismatch.unique {j' : ℕ} (h : Mismatch pat str a j) (h' : Mismatch pat str a j') :
    j = j' := by
  rcases Nat.lt_trichotomy j j' with hlt | heq | hgt
  · exact absurd (h.suffix j' hlt h'.lt) h'.char
  · exact heq
  · exact absurd (h'.suffix j hgt h.lt) h.char

/-- The inner loop compares the pattern with the text at `a`. -/
theorem compareBack_spec {n : ℕ} (hn : n ≤ pat.length) (ha : a + pat.length ≤ str.length)
    (hsame : ∀ x, n ≤ x → x < pat.length → str[a + x]? = pat[x]?) :
    (compareBack str pat n (a + n - 1) = .ok (a - 1, -1) ∧ OccursAt pat str a) ∨
      ∃ j : ℕ, compareBack str pat n (a + n - 1) = .ok (a + j, j) ∧ Mismatch pat str a j := by
  induction n with
  | zero =>
    refine .inl ⟨?_, occursAt_iff.mpr fun x hx => hsame x (Nat.zero_le x) hx⟩
    rw [Int.natCast_zero, Int.add_zero]
    rfl
  | succ n ih =>
    obtain ⟨c, hc⟩ := exists_char (show a + n < str.length by omega)
    obtain ⟨c', hc'⟩ := exists_char (show n < pat.length by omega)
    have hi : (a : ℤ) + (n + 1 : ℕ) - 1 = ((a + n : ℕ) : ℤ) := by omega
    rw [hi, compareBack, charAt_natCast hc, charAt_natCast hc']
    show ((if c = c' then _ else _) = _ ∧ _) ∨ ∃ j : ℕ, (if c = c' then _ else _) = _ ∧ _
    by_cases hcc : c = c'
    · rw [if_pos hcc, Int.natCast_add]
      refine ih (by omega) fun x hle hx => ?_
      rcases Nat.eq_or_lt_of_le hle with rfl | hlt
      · rw [hc, hc', hcc]
      · exact hsame x hlt hx
    · rw [if_neg hcc]
      refine .inr ⟨n, rfl, by omega, fun x hlt hx => hsame x hlt hx, fun heq => hcc ?_⟩
      rw [hc, hc'] at heq
      exact Option.some.inj heq

theorem exists_mismatch (ha : a + pat.length ≤ str.length) (hno : ¬ OccursAt pat str a) :
    ∃ j, Mismatch pat str a j := by
  rcases compareBack_spec (Nat.le_refl _) ha fun x hle hx => absurd hx (Nat.not_lt.mpr hle) with
    ⟨-, ho⟩ | ⟨j, -, hm⟩
  · exact absurd ho hno
  · exact ⟨j, hm⟩

/-- The tables of the pattern. -/
structure BmTables (pat : List UInt8) (delta1 delta2 : IntArray) : Prop where
  size₁ : delta1.size = ALPHABET_LEN
  entry₁ : ∀ c : UInt8, ∃ d, delta1.entry c.toNat = sizeToInt d ∧
    BadChar pat (pat.length - 1) c d
  size₂ : delta2.size = pat.length
  entry₂ : ∀ j < pat.length, ∃ s, delta2.entry j = sizeToInt (s + (pat.length - 1 - j)) ∧
    GoodSuffix pat j s

theorem bm_search_eq (hpat : pat ≠ []) : ∃ delta1 delta2, BmTables pat delta1 delta2 ∧
    ∀ fuel str, bm_search fuel str pat =
      searchFrom str pat delta1 delta2 fuel (sizeToInt (pat.length - 1)) := by
  obtain ⟨delta1, h₁, hsize₁, hentry₁⟩ := bm_make_delta1_spec pat
  obtain ⟨delta2, h₂, hsize₂, hentry₂⟩ := bm_make_delta2_spec pat
  refine ⟨delta1, delta2, ⟨hsize₁, hentry₁, hsize₂, hentry₂⟩, fun fuel str => ?_⟩
  have hlen : ¬ pat.length = 0 := fun h => hpat (List.length_eq_zero_iff.mp h)
  rw [bm_search, h₁, h₂]
  exact if_neg hlen

section Search

variable (hstr : str.length < 2 ^ 31)

include hstr

/-- Where the pattern occurs, it is found. -/
theorem searchFrom_occursAt (ha : a + pat.length ≤ str.length) (ho : OccursAt pat str a)
    (hpat : pat ≠ []) (fuel : ℕ) :
    searchFrom str pat delta1 delta2 (fuel + 1) (a + pat.length - 1) = some (.ok (some (a : ℤ))) := by
  have hi : (a : ℤ) + pat.length - 1 < sizeToInt str.length := by
    rw [sizeToInt_of_lt hstr]
    have hpos := List.length_pos_of_ne_nil hpat
    omega
  have hcompare : compareBack str pat pat.length (a + pat.length - 1) = .ok ((a : ℤ) - 1, -1) := by
    rcases compareBack_spec (Nat.le_refl _) ha fun x hle hx => absurd hx (Nat.not_lt.mpr hle) with
      ⟨h, -⟩ | ⟨j, -, hm⟩
    · exact h
    · exact absurd ho hm.not_occursAt
  have hstep : searchStep str pat delta1 delta2 (a + pat.length - 1) = .ok (.inl (a : ℤ)) := by
    rw [searchStep, hcompare]
    show Except.ok (Sum.inl ((a : ℤ) - 1 + 1)) = _
    rw [Int.sub_add_cancel]
  rw [searchFrom, if_pos hi, hstep]

/-- At a mismatch, the pattern is moved by the larger of the two entries. -/
theorem searchFrom_mismatch (ht : BmTables pat delta1 delta2) (ha : a + pat.length ≤ str.length) (hm : Mismatch pat str a j) :
    ∃ c d s, str[a + j]? = some c ∧ Moves pat j c d s ∧ ∀ fuel,
      searchFrom str pat delta1 delta2 (fuel + 1) (a + pat.length - 1) =
        if (a + j : ℤ) + max (sizeToInt d) (sizeToInt (s + (pat.length - 1 - j))) < 2 ^ 31 then
          searchFrom str pat delta1 delta2 fuel
            ((a + j : ℤ) + max (sizeToInt d) (sizeToInt (s + (pat.length - 1 - j))))
        else some (.error .overflow) := by
  have hj := hm.lt
  obtain ⟨c, hc⟩ := exists_char (show a + j < str.length by omega)
  obtain ⟨d, hd, hbad⟩ := ht.entry₁ c
  obtain ⟨s, hs, hgood⟩ := ht.entry₂ j hj
  refine ⟨c, d, s, hc, ⟨hbad, hgood⟩, fun fuel => ?_⟩
  have hi : (a : ℤ) + pat.length - 1 < sizeToInt str.length := by
    rw [sizeToInt_of_lt hstr]
    omega
  have hcompare : compareBack str pat pat.length (a + pat.length - 1) = .ok ((a : ℤ) + j, (j : ℤ)) := by
    rcases compareBack_spec (Nat.le_refl _) ha fun x hle hx => absurd hx (Nat.not_lt.mpr hle) with
      ⟨-, ho⟩ | ⟨j', h, hm'⟩
    · exact absurd ho hm.not_occursAt
    · rw [h, hm.unique hm']
  have hchar : charAt str ((a : ℤ) + j) = .ok c := charAt_natCast (k := a + j) hc
  have hget₁ : delta1.get (c.toNat : ℤ) = .ok (sizeToInt d) := by
    rw [IntArray.get_natCast (ht.size₁ ▸ c.toNat_lt), hd]
  have hget₂ : delta2.get (j : ℤ) = .ok (sizeToInt (s + (pat.length - 1 - j))) := by
    rw [IntArray.get_natCast (ht.size₂ ▸ hj), hs]
  have hnonneg : ¬ (j : ℤ) < 0 := Int.not_lt.mpr (Int.natCast_nonneg j)
  have hstep : searchStep str pat delta1 delta2 (a + pat.length - 1) =
      if (a + j : ℤ) + max (sizeToInt d) (sizeToInt (s + (pat.length - 1 - j))) < 2 ^ 31 then
        .ok (.inr ((a + j : ℤ) + max (sizeToInt d) (sizeToInt (s + (pat.length - 1 - j)))))
      else .error .overflow := by
    rw [searchStep, hcompare]
    simp only [bind, Except.bind, if_neg hnonneg, hchar, hget₁, hget₂]
    rfl
  rw [searchFrom, if_pos hi, hstep]
  generalize (a + j : ℤ) + max (sizeToInt d) (sizeToInt (s + (pat.length - 1 - j))) = i
  by_cases hbelow : i < 2 ^ 31
  · rw [if_pos hbelow, if_pos hbelow]
  · rw [if_neg hbelow, if_neg hbelow]

/-- A pattern that is not too long has entries that fit. -/
theorem searchFrom_moved (ht : BmTables pat delta1 delta2) (hlen : pat.length ≤ 2 ^ 30)
    (ha : a + pat.length ≤ str.length) (hm : Mismatch pat str a j) :
    ∃ c d s, str[a + j]? = some c ∧ Moves pat j c d s ∧ ∀ fuel,
      searchFrom str pat delta1 delta2 (fuel + 1) (a + pat.length - 1) =
        if a + moved pat j d s + pat.length ≤ 2 ^ 31 then
          searchFrom str pat delta1 delta2 fuel ((a + moved pat j d s : ℕ) + pat.length - 1)
        else some (.error .overflow) := by
  obtain ⟨c, d, s, hc, hmoves, hsearch⟩ := searchFrom_mismatch hstr ht ha hm
  refine ⟨c, d, s, hc, hmoves, fun fuel => ?_⟩
  have hj := hm.lt
  have hd := hmoves.bad.le
  have hs := hmoves.good.bounds hj
  have hnext : (a + j : ℤ) + max (sizeToInt d) (sizeToInt (s + (pat.length - 1 - j))) =
      (a + moved pat j d s : ℕ) + pat.length - 1 := by
    rw [sizeToInt_of_lt (by omega), sizeToInt_of_lt (by omega), moved]
    omega
  rw [hsearch fuel, hnext]
  refine if_congr ?_ rfl rfl
  omega

end Search

theorem searchFrom_succ {fuel : ℕ} {i : ℤ} {r : Except Fault (Option ℤ)}
    (h : searchFrom str pat delta1 delta2 fuel i = some r) :
    searchFrom str pat delta1 delta2 (fuel + 1) i = some r := by
  induction fuel generalizing i with
  | zero => cases h
  | succ fuel ih =>
    rw [searchFrom] at h ⊢
    split at h
    · rename_i hi
      rw [if_pos hi]
      cases hstep : searchStep str pat delta1 delta2 i with
      | error f => rw [hstep] at h; exact h
      | ok next =>
        rw [hstep] at h
        cases next with
        | inl k => exact h
        | inr i => exact ih h
    · rename_i hi
      rw [if_neg hi]
      exact h

theorem searchFrom_add {fuel : ℕ} {i : ℤ} {r : Except Fault (Option ℤ)}
    (h : searchFrom str pat delta1 delta2 fuel i = some r) (n : ℕ) :
    searchFrom str pat delta1 delta2 (fuel + n) i = some r := by
  induction n with
  | zero => exact h
  | succ n ih => exact searchFrom_succ ih

/-- The result does not depend on how often the loop may be run. -/
theorem bm_search_unique (hpat : pat ≠ []) {fuel fuel' : ℕ} {r r' : Except Fault (Option ℤ)}
    (h : bm_search fuel str pat = some r) (h' : bm_search fuel' str pat = some r') : r = r' := by
  obtain ⟨delta1, delta2, -, heq⟩ := bm_search_eq hpat
  rw [heq] at h h'
  have hlong := searchFrom_add h fuel'
  rw [Nat.add_comm, searchFrom_add h' fuel] at hlong
  exact (Option.some.inj hlong).symm

/-! ### Patterns that are found -/

section Found

variable (ht : BmTables pat delta1 delta2) (hpat : pat ≠ [])
  (hroom : str.length + pat.length ≤ 2 ^ 31) (hfit : pat.length ≤ str.length)

include ht hpat hroom hfit

/-- From `a` on, before which the pattern does not occur, the search goes on to its end. -/
theorem search_finds (hfree : SkipFree pat str.length) {n : ℕ} (hn : str.length < a + n)
    (hbefore : ∀ k < a, ¬ OccursAt pat str k) :
    ∃ fuel r, searchFrom str pat delta1 delta2 fuel (a + pat.length - 1) = some (.ok r) ∧
      Finds str pat r := by
  have hpos := List.length_pos_of_ne_nil hpat
  have hstr : str.length < 2 ^ 31 := by omega
  induction n generalizing a with
  | zero =>
    have hi : ¬ (a : ℤ) + pat.length - 1 < sizeToInt str.length := by
      rw [sizeToInt_of_lt hstr]
      omega
    refine ⟨1, none, if_neg hi, fun k ho => ?_⟩
    exact hbefore k (by have hend := ho.add_length_le hpat; omega) ho
  | succ n ih =>
    by_cases hend : a + pat.length ≤ str.length
    · by_cases ho : OccursAt pat str a
      · exact ⟨1, _, searchFrom_occursAt hstr hend ho hpat 0, a, rfl, ho, hbefore⟩
      · obtain ⟨j, hm⟩ := exists_mismatch hend ho
        obtain ⟨c, d, s, hc, hmoves, hsearch⟩ := searchFrom_moved hstr ht (by omega) hend hm
        have hmpos := hmoves.pos hm.lt
        have hmle := hmoves.le_length hm.lt
        -- what has been moved over is no occurrence
        have hover : ∀ k < a + moved pat j d s, ¬ OccursAt pat str k := fun k hk hok => by
          rcases Nat.lt_trichotomy k a with hlt | rfl | hgt
          · exact hbefore k hlt hok
          · exact ho hok
          · have hle := hmoves.le hm hc hfree hok hgt
            omega
        obtain ⟨fuel, r, hr, hfinds⟩ := ih (by omega) hover
        refine ⟨fuel + 1, r, ?_, hfinds⟩
        rw [hsearch fuel, if_pos (by omega)]
        exact hr
    · have hi : ¬ (a : ℤ) + pat.length - 1 < sizeToInt str.length := by
        rw [sizeToInt_of_lt hstr]
        omega
      refine ⟨1, none, if_neg hi, fun k ho => ?_⟩
      exact hbefore k (by have hlast := ho.add_length_le hpat; omega) ho

end Found

/-! ### Patterns that are not found -/

section Missed

variable (ht : BmTables pat delta1 delta2) (hstr : str.length < 2 ^ 31)

include ht hstr

/-- The search does not come back. -/
theorem searchFrom_ge (hpat : pat ≠ []) (hlen : pat.length ≤ 2 ^ 30) {fuel : ℕ} {k : ℤ}
    (h : searchFrom str pat delta1 delta2 fuel (a + pat.length - 1) = some (.ok (some k))) :
    (a : ℤ) ≤ k := by
  induction fuel generalizing a with
  | zero => cases h
  | succ fuel ih =>
    by_cases hend : a + pat.length ≤ str.length
    · by_cases ho : OccursAt pat str a
      · rw [searchFrom_occursAt hstr hend ho hpat] at h
        exact Int.le_of_eq (Option.some.inj (Except.ok.inj (Option.some.inj h)))
      · obtain ⟨j, hm⟩ := exists_mismatch hend ho
        obtain ⟨c, d, s, -, -, hsearch⟩ := searchFrom_moved hstr ht hlen hend hm
        rw [hsearch fuel] at h
        split at h
        · have hle := ih h
          omega
        · cases h
    · have hpos := List.length_pos_of_ne_nil hpat
      have hi : ¬ (a : ℤ) + pat.length - 1 < sizeToInt str.length := by
        rw [sizeToInt_of_lt hstr]
        omega
      rw [searchFrom, if_neg hi] at h
      cases h

end Missed

/-- A text of length `n` in which the pattern is moved over an occurrence. -/
def skippedText (pat : List UInt8) (j q n : ℕ) (c : UInt8) : List UInt8 :=
  (pat.take q).set j c ++ (pat ++ List.replicate (n - (q + pat.length)) 0)

section Skipped

variable {q n : ℕ} {c : UInt8}

theorem length_skippedText (h : q < pat.length) (hn : q + pat.length ≤ n) :
    (skippedText pat j q n c).length = n := by
  simp only [skippedText, List.length_append, List.length_set, List.length_take,
    List.length_replicate]
  omega

theorem occursAt_skippedText (h : q < pat.length) : OccursAt pat (skippedText pat j q n c) q := by
  have hlen : ((pat.take q).set j c).length = q := by
    rw [List.length_set, List.length_take]
    omega
  rw [OccursAt, skippedText, List.drop_left' hlen]
  exact List.prefix_append _ _

theorem mismatch_skippedText (h : Skips pat j q) (hc : pat[j]? ≠ some c) :
    Mismatch pat (skippedText pat j q n c) 0 j := by
  have hlen : ((pat.take q).set j c).length = q := by
    have hq := h.lt_length
    rw [List.length_set, List.length_take]
    omega
  have hq := h.lt_length
  have hjq := h.lt
  refine ⟨by omega, fun x hx hlt => ?_, ?_⟩
  · rw [Nat.zero_add]
    by_cases hxq : x < q
    · rw [skippedText, List.getElem?_append_left (by omega), List.getElem?_set_ne (by omega),
        List.getElem?_take_of_lt hxq]
    · -- the occurrence goes on like the pattern
      rw [skippedText, List.getElem?_append_right (by omega), hlen,
        List.getElem?_append_left (by omega)]
      exact border_iff.mp h.border x (by omega) hlt
  · rw [Nat.zero_add, skippedText, List.getElem?_append_left (by omega), List.getElem?_set_self]
    · exact fun heq => hc heq.symm
    · rw [List.length_take]
      omega

end Skipped

/-- What the entry says where an occurrence is moved over. -/
theorem Skips.eq_of_goodSuffix {q s : ℕ} (h : Skips pat j q) (hs : GoodSuffix pat j s) :
    s = q + 1 := by
  have hp := prefixAt_of_border h.border
  rcases hs with ⟨hr, -⟩ | ⟨-, ⟨q', hle, -, hpre, rfl, hmin⟩ | ⟨-, hno⟩⟩
  · exact absurd hr (h.once s)
  · rcases Nat.lt_trichotomy q' q with hlt | rfl | hgt
    · exact absurd (hpre.symm.trans (h.first q' hle hlt)) (by decide)
    · rfl
    · exact absurd (hp.symm.trans (hmin q (Nat.le_of_lt h.lt) hgt)) (by decide)
  · exact absurd (hp.symm.trans (hno q (Nat.le_of_lt h.lt) h.lt_length)) (by decide)

/-- A pattern that can be moved over an occurrence is missed in some text. -/
theorem not_searches_of_skips {q n : ℕ} (h : Skips pat j q) (hn : q + pat.length ≤ n)
    (hmax : n < 2 ^ 31) (hlen : pat.length ≤ 2 ^ 30) :
    ∃ str, str.length = n ∧ ¬ Searches str pat := by
  have hpat : pat ≠ [] := List.ne_nil_of_length_pos (Nat.zero_lt_of_lt h.lt_length)
  obtain ⟨c₀, hc₀⟩ := exists_char (Nat.lt_trans h.lt h.lt_length)
  obtain ⟨c, hc⟩ : ∃ c, c₀ ≠ c := ⟨c₀ + 1, by simp⟩
  have hchar : pat[j]? ≠ some c := fun heq => hc (Option.some.inj (hc₀.symm.trans heq))
  refine ⟨skippedText pat j q n c, length_skippedText h.lt_length hn, ?_⟩
  have hstr := length_skippedText (j := j) (c := c) h.lt_length hn
  have hm := mismatch_skippedText (n := n) h hchar
  have ho := occursAt_skippedText (j := j) (n := n) (c := c) h.lt_length
  generalize skippedText pat j q n c = str at hstr hm ho
  subst hstr
  rintro ⟨fuel, r, hr, hfinds⟩
  obtain ⟨delta1, delta2, ht, heq⟩ := bm_search_eq hpat
  have hstart : sizeToInt (pat.length - 1) = (0 : ℕ) + pat.length - 1 := by
    have hpos := List.length_pos_of_ne_nil hpat
    rw [sizeToInt_of_lt (by omega)]
    omega
  rw [heq, hstart] at hr
  cases fuel with
  | zero => cases hr
  | succ fuel =>
    obtain ⟨c', d, s, -, hmoves, hsearch⟩ := searchFrom_moved hmax ht hlen (by omega) hm
    rw [hsearch fuel] at hr
    split at hr
    · cases r with
      | none => exact hfinds q ho
      | some k =>
        obtain ⟨k, rfl, hok, hfirst⟩ := hfinds
        have hge := searchFrom_ge ht hmax hpat hlen hr
        have hs : moved pat j d s ≥ q + 1 := by
          rw [← h.eq_of_goodSuffix hmoves.good]
          exact Nat.le_max_left _ _
        exact hfirst q (by omega) ho
    · cases hr

/-! ### Overflow -/

section Overflow

variable {n : ℕ} {c : UInt8}

/-- A text with a character that is not in the pattern at its end. -/
def lastChanged (pat : List UInt8) (n : ℕ) (c : UInt8) : List UInt8 :=
  List.replicate (n - pat.length) c ++ (pat.dropLast ++ [c])

theorem length_lastChanged (hpat : pat ≠ []) (hn : pat.length ≤ n) :
    (lastChanged pat n c).length = n := by
  have hpos := List.length_pos_of_ne_nil hpat
  simp only [lastChanged, List.length_append, List.length_replicate, List.length_dropLast,
    List.length_singleton]
  omega

theorem lastChanged_of_lt {x : ℕ} (hx : x < n - pat.length) :
    (lastChanged pat n c)[x]? = some c := by
  rw [lastChanged, List.getElem?_append_left (by rw [List.length_replicate]; exact hx),
    List.getElem?_replicate, if_pos hx]

theorem lastChanged_last (hpat : pat ≠ []) (hn : pat.length ≤ n) :
    (lastChanged pat n c)[n - 1]? = some c := by
  have hpos := List.length_pos_of_ne_nil hpat
  have hidx : n - 1 - (n - pat.length) = pat.length - 1 := by omega
  rw [lastChanged, List.getElem?_append_right (by rw [List.length_replicate]; omega),
    List.length_replicate, hidx, List.getElem?_append_right (Nat.le_of_eq List.length_dropLast),
    List.length_dropLast, Nat.sub_self]
  rfl

/-- Before its end, it is the text with the pattern there. -/
theorem lastChanged_eq {x : ℕ} (hx : x < n - 1) (hn : pat.length ≤ n) :
    (lastChanged pat n c)[x]? = (List.replicate (n - pat.length) c ++ pat)[x]? := by
  by_cases hlt : x < n - pat.length
  · rw [lastChanged_of_lt hlt, List.getElem?_append_left (by rw [List.length_replicate]; exact hlt),
      List.getElem?_replicate, if_pos hlt]
  · have hrep : (List.replicate (n - pat.length) c).length ≤ x := by
      rw [List.length_replicate]
      omega
    have hdrop : x - (n - pat.length) < pat.dropLast.length := by
      rw [List.length_dropLast]
      omega
    rw [lastChanged, List.getElem?_append_right hrep, List.getElem?_append_right hrep,
      List.length_replicate, List.getElem?_append_left hdrop, List.dropLast_eq_take,
      List.getElem?_take_of_lt (by omega)]

/-- A character that is not in the pattern is a mismatch with its last one, and moves it by its
length. -/
theorem searchFrom_absent (ht : BmTables pat delta1 delta2) (hpat : pat ≠ [])
    (hlen : pat.length < 2 ^ 31) (hstr : str.length < 2 ^ 31) (ha : a + pat.length ≤ str.length)
    (hlast : str[a + (pat.length - 1)]? = some c) (habs : c ∉ pat)
    (hover : 2 ^ 31 < a + (pat.length + pat.length)) (fuel : ℕ) :
    searchFrom str pat delta1 delta2 (fuel + 1) (a + pat.length - 1) =
      some (.error .overflow) := by
  have hpos := List.length_pos_of_ne_nil hpat
  have hm : Mismatch pat str a (pat.length - 1) := by
    refine ⟨by omega, fun x hx hlt => by omega, fun heq => habs ?_⟩
    exact List.mem_of_getElem? (heq.symm.trans hlast)
  obtain ⟨c', d, s, hc', hmoves, hsearch⟩ := searchFrom_mismatch hstr ht ha hm
  obtain rfl : c = c' := Option.some.inj (hlast.symm.trans hc')
  have hd : d = pat.length :=
    hmoves.bad.absent fun i _ heq => habs (List.mem_of_getElem? heq)
  rw [hsearch fuel, hd, sizeToInt_of_lt hlen]
  refine if_neg ?_
  have hle : (pat.length : ℤ) ≤ max (pat.length : ℤ)
      (sizeToInt (s + (pat.length - 1 - (pat.length - 1)))) := Int.le_max_left _ _
  omega

/-- The search gets to the end of that text, and beyond what an `int` can be. -/
theorem searchFrom_lastChanged (ht : BmTables pat delta1 delta2) (hpat : pat ≠ [])
    (hlen : pat.length ≤ 2 ^ 30) (hn : n < 2 ^ 31) (hfit : pat.length ≤ n)
    (hover : 2 ^ 31 < n + pat.length) (hfree : SkipFree pat n) (habs : c ∉ pat) {fuel : ℕ}
    {r : Option ℤ} (ha : a ≤ n - pat.length) :
    searchFrom (lastChanged pat n c) pat delta1 delta2 fuel (a + pat.length - 1) ≠
      some (.ok r) := by
  have hpos := List.length_pos_of_ne_nil hpat
  have hstr : (lastChanged pat n c).length = n := length_lastChanged hpat hfit
  induction fuel generalizing a with
  | zero => nofun
  | succ fuel ih =>
    have hend : a + pat.length ≤ (lastChanged pat n c).length := by omega
    rcases Nat.lt_or_eq_of_le ha with hlt | rfl
    · have hno : ¬ OccursAt pat (lastChanged pat n c) a := fun ho => by
        have hfirst := occursAt_iff.mp ho 0 hpos
        rw [Nat.add_zero, lastChanged_of_lt hlt] at hfirst
        exact habs (List.mem_of_getElem? hfirst.symm)
      obtain ⟨j, hm⟩ := exists_mismatch hend hno
      have hj := hm.lt
      obtain ⟨c', d, s, hc, hmoves, hsearch⟩ := searchFrom_moved (by omega) ht hlen hend hm
      -- as far as the search has looked, the text is the one with the pattern at its end
      let text := List.replicate (n - pat.length) c ++ pat
      have htext : text.length = n := by
        rw [List.length_append, List.length_replicate]
        omega
      have hm' : Mismatch pat text a j := by
        refine ⟨hj, fun x hx hlt => ?_, ?_⟩
        · rw [← lastChanged_eq (by omega) hfit]
          exact hm.suffix x hx hlt
        · rw [← lastChanged_eq (by omega) hfit]
          exact hm.char
      have hc' : text[a + j]? = some c' := (lastChanged_eq (by omega) hfit).symm.trans hc
      have hdrop : text.drop (n - pat.length) = pat := List.drop_left' List.length_replicate
      have ho : OccursAt pat text (n - pat.length) := ⟨[], (List.append_nil pat).trans hdrop.symm⟩
      have hle := hmoves.le hm' hc' (htext.symm ▸ hfree) ho hlt
      rw [hsearch fuel, if_pos (by omega)]
      exact ih hle
    · have hidx : n - pat.length + (pat.length - 1) = n - 1 := by omega
      have hlast : (lastChanged pat n c)[n - pat.length + (pat.length - 1)]? = some c := by
        rw [hidx]
        exact lastChanged_last hpat hfit
      intro hfound
      have habsent := searchFrom_absent ht hpat (by omega) (by omega) hend hlast habs (by omega) fuel
      cases habsent.symm.trans hfound

end Overflow

/-! ### Which patterns are found -/

section Zero

variable {n : ℕ}

/-- A pattern of one character ends as it starts, everywhere. -/
theorem border_of_one (h : Border pat 1) : ∀ q, Border pat q := by
  intro q
  induction q with
  | zero => exact List.prefix_refl pat
  | succ q ih =>
    refine border_iff.mpr fun x hq hx => ?_
    have hone := border_iff.mp h x (by omega) hx
    have hrest := border_iff.mp ih (x - 1) (by omega) (by omega)
    have hidx : x - (q + 1) = x - 1 - q := by omega
    rw [hidx, hrest, hone]

/-- What follows the second character does not occur again if the pattern ends as it starts. -/
theorem not_recurs_one {q t : ℕ} (hq : 2 ≤ q) (hlt : q < pat.length) (hb : Border pat q) :
    ¬ Recurs pat t 1 := by
  intro h
  have hpos := h.pos
  have hle := h.le
  obtain rfl : t = 1 := by omega
  -- all characters but the first are the same
  have hsame : ∀ x, x + 1 < pat.length → pat[x + 1]? = pat[1]? := by
    intro x
    induction x with
    | zero => exact fun _ => rfl
    | succ x ih => exact fun hx => (h.suffix (x + 2) (by omega) hx).symm.trans (ih (by omega))
  have hstart := border_iff.mp hb q (Nat.le_refl q) hlt
  rw [Nat.sub_self] at hstart
  have hq' := hsame (q - 1) (by omega)
  rw [Nat.sub_add_cancel (by omega)] at hq'
  exact h.char (hstart.trans hq')

/-- A pattern without a zero byte is moved over an occurrence only if it ends as it starts, and
does not consist of one character. -/
theorem skipFree_iff (hzero : 0 ∉ pat) :
    SkipFree pat n ↔ Border pat 1 ∨
      ∀ q, 0 < q → q < pat.length → Border pat q → n < q + pat.length := by
  constructor
  · intro h
    by_cases hone : Border pat 1
    · exact .inl hone
    · refine .inr fun q hpos hlt hb => ?_
      -- the second character, and the first place where the pattern starts again
      have hex : ∃ q, 0 < q ∧ q < pat.length ∧ Border pat q := ⟨q, hpos, hlt, hb⟩
      obtain ⟨hfpos, hflt, hfb⟩ := Nat.find_spec hex
      have hfle : Nat.find hex ≤ q := Nat.find_min' hex ⟨hpos, hlt, hb⟩
      have hfne : Nat.find hex ≠ 1 := fun heq => hone (heq ▸ hfb)
      have hskip : Skips pat 1 (Nat.find hex) := by
        refine ⟨by omega, hflt, hfb, fun p hp hpf => ?_, fun t => not_recurs_one (by omega) hflt hfb⟩
        refine (Bool.not_eq_true _).mp fun hpre => Nat.find_min hex hpf ?_
        exact ⟨hp, by omega, border_of_prefixAt hzero hpre⟩
      have hroom := h 1 _ hskip
      omega
  · rintro (hone | hroom) j q hskip
    · have hpre := prefixAt_of_border (border_of_one hone j)
      exact absurd (hpre.symm.trans (hskip.first j (Nat.le_refl j) hskip.lt)) (by decide)
    · exact hroom q (Nat.zero_lt_of_lt hskip.lt) hskip.lt_length hskip.border

end Zero

/-- **Search for a string.**  A pattern is found, by a search that terminates and reads within its
arrays, in every text of length `n` if that leaves no room for an occurrence that is moved over, and
none for an overflow; and only then, if there is a character that is not in the pattern. -/
theorem searches_iff (hpat : pat ≠ []) (hlen : pat.length < 2 ^ 31) {n : ℕ} (hn : n < 2 ^ 31) :
    ((n < pat.length ∨ SkipFree pat n ∧ n + pat.length ≤ 2 ^ 31) →
      ∀ str, str.length = n → Searches str pat) ∧
    ((∃ c, c ∉ pat) → (∀ str, str.length = n → Searches str pat) →
      n < pat.length ∨ SkipFree pat n ∧ n + pat.length ≤ 2 ^ 31) := by
  obtain ⟨delta1, delta2, ht, heq⟩ := bm_search_eq hpat
  have hpos := List.length_pos_of_ne_nil hpat
  have hstart : sizeToInt (pat.length - 1) = (0 : ℕ) + pat.length - 1 := by
    rw [sizeToInt_of_lt (by omega)]
    omega
  constructor
  · rintro (hshort | ⟨hfree, hroom⟩) str rfl
    · refine ⟨1, none, ?_, fun k ho => ?_⟩
      · rw [heq, hstart]
        refine if_neg ?_
        rw [sizeToInt_of_lt hn]
        omega
      · have hend := ho.add_length_le hpat
        omega
    · by_cases hfit : pat.length ≤ str.length
      · obtain ⟨fuel, r, hr, hfinds⟩ := search_finds (a := 0) (n := str.length + 1) ht hpat hroom hfit
          hfree (by omega) nofun
        exact ⟨fuel, r, by rw [heq, hstart, hr], hfinds⟩
      · refine ⟨1, none, ?_, fun k ho => ?_⟩
        · rw [heq, hstart]
          refine if_neg ?_
          rw [sizeToInt_of_lt hn]
          omega
        · have hend := ho.add_length_le hpat
          omega
  · rintro ⟨c, habs⟩ hall
    by_contra hnot
    have hfit : pat.length ≤ n := by
      by_contra hlt
      exact hnot (.inl (Nat.lt_of_not_le hlt))
    by_cases hbig : pat.length ≤ 2 ^ 30
    · by_cases hfree : SkipFree pat n
      · have hover : 2 ^ 31 < n + pat.length := by
          by_contra hroom
          exact hnot (.inr ⟨hfree, Nat.le_of_not_lt hroom⟩)
        obtain ⟨fuel, r, hr, -⟩ := hall _ (length_lastChanged (c := c) hpat hfit)
        rw [heq, hstart] at hr
        exact searchFrom_lastChanged ht hpat hbig hn hfit hover hfree habs (Nat.zero_le _) hr
      · simp only [SkipFree, not_forall, Nat.not_lt] at hfree
        obtain ⟨j, q, hskip, hroom⟩ := hfree
        obtain ⟨str, hstr, hmiss⟩ := not_searches_of_skips hskip hroom hn hbig
        exact hmiss (hall str hstr)
    · -- the first move is too far already
      obtain ⟨fuel, r, hr, -⟩ := hall (List.replicate n c) List.length_replicate
      rw [heq, hstart] at hr
      cases fuel with
      | zero => cases hr
      | succ fuel =>
        have hlast : (List.replicate n c)[0 + (pat.length - 1)]? = some c := by
          rw [List.getElem?_replicate, if_pos (by omega)]
        have hlen' : (List.replicate n c).length = n := List.length_replicate
        rw [searchFrom_absent ht hpat hlen (by omega) (by omega) hlast habs (by omega) fuel] at hr
        cases hr

/-! ### Patterns on fixed inputs -/

/-- `MODEM_VER_STR` : `Time_Stamp": "` -/
def MODEM_VER_STR : List UInt8 :=
  [0x54, 0x69, 0x6D, 0x65, 0x5F, 0x53, 0x74, 0x61, 0x6D, 0x70, 0x22, 0x3A, 0x20, 0x22]

/-- The version of the modem is found at the end of an image of two gigabytes less its own length. -/
theorem searches_modem_ver :
    Searches (List.replicate (2 ^ 31 - 28) 0 ++ MODEM_VER_STR) MODEM_VER_STR := by
  have hfree : SkipFree MODEM_VER_STR (2 ^ 31 - 14) := by
    refine (skipFree_iff (by decide)).mpr (.inr fun q hpos hlt hb => ?_)
    have hnone : ∀ q < MODEM_VER_STR.length, 0 < q → ¬ Border MODEM_VER_STR q := by decide
    exact absurd hb (hnone q hlt hpos)
  have hlength : (List.replicate (2 ^ 31 - 28) 0 ++ MODEM_VER_STR).length = 2 ^ 31 - 14 := by
    rw [List.length_append, List.length_replicate]
    rfl
  exact (searches_iff (by decide) (by decide) (by decide)).1 (.inr ⟨hfree, by decide⟩) _ hlength

/-- `aba` is not found in `aaaba`. -/
theorem aba_not_found :
    bm_search 3 [0x61, 0x61, 0x61, 0x62, 0x61] [0x61, 0x62, 0x61] = some (.ok none) ∧
      ¬ Searches [0x61, 0x61, 0x61, 0x62, 0x61] [0x61, 0x62, 0x61] := by
  have hnone : bm_search 3 [0x61, 0x61, 0x61, 0x62, 0x61] [0x61, 0x62, 0x61] = some (.ok none) := by
    decide
  have hoccurs : OccursAt ([0x61, 0x62, 0x61] : List UInt8) [0x61, 0x61, 0x61, 0x62, 0x61] 2 := by
    decide
  refine ⟨hnone, fun ⟨fuel, r, hr, hfinds⟩ => ?_⟩
  obtain rfl : r = none := Except.ok.inj (bm_search_unique (by nofun) hr hnone)
  exact hfinds 2 hoccurs

end GpsHal
