import GpsHal.Recovery.BmSearch
import GpsHal.Util.Fold

/-!
# The tables of the search for a string

What `bm_make_delta1` and `bm_make_delta2` leave in their tables, for every pattern.  The
comparisons with `strncmp` stop at a zero byte, and the position of a prefix that they find is taken
one too far to the right.

## Main definitions

* `BadChar`, `LastPrefix`, `GoodSuffix` : the entries of the tables.

## Main results

* `bm_make_delta1_spec`, `bm_make_delta2_spec` : the tables are made without a read or a write
  outside, and have these entries.
-/

namespace GpsHal

variable {pat : List UInt8}

/-! ### Reads and writes -/

theorem charAt_natCast {str : List UInt8} {k : ℕ} {c : UInt8} (h : str[k]? = some c) :
    charAt str k = .ok c := by
  rw [charAt, if_pos (Int.natCast_nonneg k), Int.toNat_natCast, h]

theorem charAt_sub {str : List UInt8} {k l : ℕ} {c : UInt8} (hl : l ≤ k)
    (h : str[k - l]? = some c) : charAt str ((k : ℤ) - l) = .ok c := by
  rw [← Int.ofNat_sub hl]
  exact charAt_natCast h

/-- Reading the last character but `l`. -/
theorem charAt_last {str : List UInt8} {l : ℕ} {c : UInt8} (hl : l < str.length)
    (h : str[str.length - 1 - l]? = some c) : charAt str ((str.length : ℤ) - 1 - l) = .ok c := by
  have hcast : (str.length : ℤ) - 1 - l = ((str.length - 1 - l : ℕ) : ℤ) := by omega
  rw [hcast]
  exact charAt_natCast h

theorem IntArray.set_natCast {a : IntArray} {k : ℕ} (hk : k < a.size) (v : ℤ) :
    a.set k v = .ok { a with entry := Function.update a.entry k v } := by
  rw [IntArray.set, if_pos ⟨Int.natCast_nonneg k, Int.ofNat_lt.mpr hk⟩, Int.toNat_natCast]

theorem IntArray.get_natCast {a : IntArray} {k : ℕ} (hk : k < a.size) :
    a.get k = .ok (a.entry k) := by
  rw [IntArray.get, if_pos ⟨Int.natCast_nonneg k, Int.ofNat_lt.mpr hk⟩, Int.toNat_natCast]

theorem exists_char {str : List UInt8} {k : ℕ} (hk : k < str.length) : ∃ c, str[k]? = some c :=
  ⟨str[k], List.getElem?_eq_getElem hk⟩

/-! ### The rightmost occurrences -/

/-- The distance `d` to the rightmost `c` among the first `n` characters. -/
structure BadChar (pat : List UInt8) (n : ℕ) (c : UInt8) (d : ℕ) : Prop where
  le : d ≤ pat.length
  le_of_char : ∀ i < n, pat[i]? = some c → d ≤ pat.length - 1 - i
  absent : (∀ i < n, pat[i]? ≠ some c) → d = pat.length

theorem BadChar.succ {n d : ℕ} {c c' : UInt8} (h : BadChar pat n c d) (hn : pat[n]? = some c')
    (hc : c' ≠ c) : BadChar pat (n + 1) c d := by
  have hother {i : ℕ} (hi : i < n + 1) (hchar : pat[i]? = some c) : i < n := by
    refine Nat.lt_of_le_of_ne (Nat.le_of_lt_succ hi) ?_
    rintro rfl
    exact hc (Option.some.inj (hn.symm.trans hchar))
  exact ⟨h.le, fun i hi hchar => h.le_of_char i (hother hi hchar) hchar,
    fun habs => h.absent fun i hi => habs i (Nat.lt_succ_of_lt hi)⟩

theorem BadChar.last {n : ℕ} {c : UInt8} (hn : pat[n]? = some c) :
    BadChar pat (n + 1) c (pat.length - 1 - n) :=
  ⟨by omega, fun i hi _ => by omega, fun habs => absurd hn (habs n (Nat.lt_succ_self n))⟩

theorem bm_make_delta1_spec (pat : List UInt8) :
    ∃ delta1, bm_make_delta1 pat = .ok delta1 ∧ delta1.size = ALPHABET_LEN ∧
      ∀ c : UInt8, ∃ d, delta1.entry c.toNat = sizeToInt d ∧ BadChar pat (pat.length - 1) c d := by
  refine foldlM_range (I := fun n (t : IntArray) => t.size = ALPHABET_LEN ∧
    ∀ c : UInt8, ∃ d, t.entry c.toNat = sizeToInt d ∧ BadChar pat n c d) ?_ ?_
  · exact ⟨rfl, fun c => ⟨pat.length, rfl, Nat.le_refl _, nofun, fun _ => rfl⟩⟩
  · intro i hi t ⟨hsize, ht⟩
    obtain ⟨c, hc⟩ := exists_char (show i < pat.length by omega)
    have hidx : c.toNat < t.size := hsize ▸ c.toNat_lt
    refine ⟨{ t with
      entry := Function.update t.entry c.toNat (sizeToInt (pat.length - 1 - i)) }, ?_, hsize, ?_⟩
    · rw [charAt_natCast hc]
      exact IntArray.set_natCast hidx _
    · intro c'
      by_cases hcc : c = c'
      · subst hcc
        exact ⟨_, Function.update_self .., .last hc⟩
      · obtain ⟨d, hd, hbad⟩ := ht c'
        have hne : c'.toNat ≠ c.toNat := fun h => hcc (UInt8.toNat_inj.mp h.symm)
        exact ⟨d, (Function.update_of_ne hne ..).trans hd, hbad.succ hc hcc⟩

/-! ### The prefixes -/

/-- `strncmp` finds that the pattern starts with what follows its first `p` characters. -/
def prefixAt (pat : List UInt8) (p : ℕ) : Bool :=
  strncmpEq (pat.length - p) (pat.drop p) pat = .ok true

theorem strncmpEq_ok {n : ℕ} {a b : List UInt8} (ha : n ≤ a.length) (hb : n ≤ b.length) :
    ∃ r, strncmpEq n a b = .ok r := by
  induction n generalizing a b with
  | zero => exact ⟨true, by cases a <;> rfl⟩
  | succ n ih =>
    cases a with
    | nil => cases ha
    | cons x a =>
      cases b with
      | nil => cases hb
      | cons y b =>
        rw [strncmpEq]
        split
        · exact ⟨false, rfl⟩
        · split
          · exact ⟨true, rfl⟩
          · exact ih (Nat.le_of_succ_le_succ ha) (Nat.le_of_succ_le_succ hb)

theorem strncmpEq_of_prefix {a b : List UInt8} (h : a <+: b) : strncmpEq a.length a b = .ok true := by
  induction a generalizing b with
  | nil => rfl
  | cons x a ih =>
    obtain ⟨b', rfl⟩ := h
    rw [List.length_cons, List.cons_append, strncmpEq, if_neg (not_not.mpr rfl)]
    split
    · rfl
    · exact ih (List.prefix_append a b')

/-- Without a zero byte, there is nothing that `strncmp` stops at. -/
theorem prefix_of_strncmpEq {a b : List UInt8} (hzero : 0 ∉ a)
    (h : strncmpEq a.length a b = .ok true) : a <+: b := by
  induction a generalizing b with
  | nil => exact List.nil_prefix
  | cons x a ih =>
    cases b with
    | nil => cases h
    | cons y b =>
      rw [List.length_cons, strncmpEq] at h
      split at h
      · cases h
      · rename_i hxy
        obtain rfl : x = y := not_not.mp hxy
        have hx : x ≠ 0 := fun hx => hzero (hx ▸ List.mem_cons_self)
        rw [if_neg hx] at h
        exact (List.prefix_cons_inj x).mpr (ih (fun hmem => hzero (List.mem_cons_of_mem _ hmem)) h)

theorem prefixAt_of_border {q : ℕ} (h : Border pat q) : prefixAt pat q = true := by
  have hlen := strncmpEq_of_prefix h
  rw [List.length_drop] at hlen
  exact decide_eq_true hlen

theorem border_of_prefixAt {q : ℕ} (hzero : 0 ∉ pat) (h : prefixAt pat q = true) :
    Border pat q := by
  have hlen := of_decide_eq_true h
  rw [← List.length_drop] at hlen
  exact prefix_of_strncmpEq (fun hmem => hzero (List.mem_of_mem_drop hmem)) hlen

/-- The value of `last_prefix` once the loop is down at `j`. -/
def LastPrefix (pat : List UInt8) (j v : ℕ) : Prop :=
  (∃ q, j ≤ q ∧ q < pat.length ∧ prefixAt pat q = true ∧ v = q + 1 ∧
    ∀ p, j ≤ p → p < q → prefixAt pat p = false) ∨
  v = pat.length - 1 ∧ ∀ p, j ≤ p → p < pat.length → prefixAt pat p = false

theorem LastPrefix.step {j v : ℕ} (h : LastPrefix pat (j + 1) v) (hj : j < pat.length) :
    LastPrefix pat j (if prefixAt pat j then j + 1 else v) := by
  have hfrom {p : ℕ} (hp : prefixAt pat j = false) (hle : j ≤ p)
      (hrest : j + 1 ≤ p → prefixAt pat p = false) : prefixAt pat p = false := by
    rcases Nat.eq_or_lt_of_le hle with rfl | hlt
    · exact hp
    · exact hrest hlt
  split
  · rename_i hp
    exact .inl ⟨j, Nat.le_refl j, hj, hp, rfl, fun p hle hlt => absurd hlt (by omega)⟩
  · rename_i hp
    have hp : prefixAt pat j = false := (Bool.not_eq_true _).mp hp
    rcases h with ⟨q, hq, hlt, hpre, rfl, hmin⟩ | ⟨rfl, hnone⟩
    · exact .inl ⟨q, by omega, hlt, hpre, rfl, fun p hle hpq => hfrom hp hle fun h => hmin p h hpq⟩
    · exact .inr ⟨rfl, fun p hle hlt => hfrom hp hle fun h => hnone p h hlt⟩

/-- `last_prefix` and the table once the first loop is down at `i`. -/
structure PrefixTable (pat : List UInt8) (i : ℕ) (s : ℕ × IntArray) : Prop where
  last : LastPrefix pat i s.1
  size : s.2.size = pat.length
  entry : ∀ j, i ≤ j → j < pat.length →
    ∃ v, s.2.entry j = sizeToInt (v + (pat.length - 1 - j)) ∧ LastPrefix pat j v

theorem delta2Prefixes_spec (pat : List UInt8) {delta2 : IntArray}
    (hsize : delta2.size = pat.length) :
    ∃ s, delta2Prefixes pat delta2 = .ok s ∧ PrefixTable pat 0 s := by
  refine foldlM_range_reverse (I := PrefixTable pat) ?_ ?_
  · exact ⟨.inr ⟨rfl, fun p hle hlt => absurd hlt (Nat.not_lt.mpr hle)⟩, hsize,
      fun j hle hlt => absurd hlt (Nat.not_lt.mpr hle)⟩
  · intro p hp s hs
    obtain ⟨isPrefix, hpre⟩ := strncmpEq_ok (n := pat.length - p) (a := pat.drop p) (b := pat)
      (Nat.le_of_eq List.length_drop.symm) (Nat.sub_le _ _)
    have hat : prefixAt pat p = isPrefix := by
      rw [prefixAt, hpre]
      cases isPrefix <;> rfl
    have hlast := hs.last.step hp
    rw [hat] at hlast
    refine ⟨(if isPrefix then p + 1 else s.1, { s.2 with
      entry := Function.update s.2.entry p
        (sizeToInt ((if isPrefix then p + 1 else s.1) + (pat.length - 1 - p))) }), ?_, hlast, hs.size,
      fun j hle hlt => ?_⟩
    · rw [hpre]
      show (s.2.set p _ >>= _) = _
      rw [IntArray.set_natCast (hs.size ▸ hp)]
      rfl
    · by_cases hjp : j = p
      · subst hjp
        exact ⟨_, Function.update_self .., hlast⟩
      · obtain ⟨v, hv, hlast⟩ := hs.entry j (by omega) hlt
        exact ⟨v, (Function.update_of_ne hjp ..).trans hv, hlast⟩

/-! ### The suffixes -/

/-- What `max_suffix_len` returns: the characters before those that it counts differ, unless it has
come to the start of the pattern. -/
structure SuffixLen (pat : List UInt8) (p suf : ℕ) : Prop where
  le : suf ≤ p
  same : ∀ x < suf, pat[p - x]? = pat[pat.length - 1 - x]?
  stop : suf < p → pat[p - suf]? ≠ pat[pat.length - 1 - suf]?

theorem maxSuffixLenFrom_spec {p n i : ℕ} (hp : p < pat.length) (hn : n + i = p)
    (hsame : ∀ x < i, pat[p - x]? = pat[pat.length - 1 - x]?) :
    ∃ suf, maxSuffixLenFrom pat p n i = .ok suf ∧ SuffixLen pat p suf := by
  induction n generalizing i with
  | zero =>
    obtain rfl : i = p := (Nat.zero_add i).symm.trans hn
    obtain ⟨c, hc⟩ := exists_char (show i - i < pat.length by omega)
    obtain ⟨c', hc'⟩ := exists_char (show pat.length - 1 - i < pat.length by omega)
    refine ⟨i, ?_, Nat.le_refl i, hsame, fun h => absurd h (Nat.lt_irrefl i)⟩
    rw [maxSuffixLenFrom, charAt_sub (Nat.le_refl i) hc, charAt_last hp hc']
    rfl
  | succ n ih =>
    obtain ⟨c, hc⟩ := exists_char (show p - i < pat.length by omega)
    obtain ⟨c', hc'⟩ := exists_char (show pat.length - 1 - i < pat.length by omega)
    rw [maxSuffixLenFrom, charAt_sub (by omega) hc, charAt_last (by omega) hc']
    show ∃ suf, (if c = c' then _ else _) = _ ∧ _
    split
    · rename_i hcc
      refine ih (by omega) fun x hx => ?_
      rcases Nat.lt_or_eq_of_le (Nat.le_of_lt_succ hx) with hlt | rfl
      · exact hsame x hlt
      · rw [hc, hc', hcc]
    · rename_i hcc
      refine ⟨i, rfl, by omega, hsame, fun _ heq => hcc ?_⟩
      rw [hc, hc'] at heq
      exact Option.some.inj heq

theorem max_suffix_len_spec {p : ℕ} (hp : p < pat.length) :
    ∃ suf, max_suffix_len pat p = .ok suf ∧ SuffixLen pat p suf :=
  maxSuffixLenFrom_spec hp rfl nofun

/-- The second loop writes the entries of the places whose continuation occurs again. -/
theorem SuffixLen.recurs_iff {p suf j : ℕ} (h : SuffixLen pat p suf) (hp : p < pat.length - 1)
    (hj : j < pat.length) :
    (pat[p - suf]? ≠ pat[pat.length - 1 - suf]? ∧ j = pat.length - 1 - suf) ↔
      Recurs pat (pat.length - 1 - p) j := by
  constructor
  · rintro ⟨hchar, rfl⟩
    have hle := h.le
    refine ⟨by omega, by omega, fun x hx hlt => ?_, ?_⟩
    · have hsame := h.same (pat.length - 1 - x) (by omega)
      have hl : p - (pat.length - 1 - x) = x - (pat.length - 1 - p) := by omega
      have hr : pat.length - 1 - (pat.length - 1 - x) = x := by omega
      rw [hl, hr] at hsame
      exact hsame
    · have hl : pat.length - 1 - suf - (pat.length - 1 - p) = p - suf := by omega
      rw [hl]
      exact hchar
  · intro hr
    have hle := hr.le
    have hsame {x : ℕ} (hx : x < pat.length - 1 - j) : pat[p - x]? = pat[pat.length - 1 - x]? := by
      have hs := hr.suffix (pat.length - 1 - x) (by omega) (by omega)
      have hl : pat.length - 1 - x - (pat.length - 1 - p) = p - x := by omega
      rw [hl] at hs
      exact hs
    have hchar : pat[p - (pat.length - 1 - j)]? ≠ pat[pat.length - 1 - (pat.length - 1 - j)]? := by
      have hl : p - (pat.length - 1 - j) = j - (pat.length - 1 - p) := by omega
      have hr' : pat.length - 1 - (pat.length - 1 - j) = j := by omega
      rw [hl, hr']
      exact hr.char
    have hsuf : suf = pat.length - 1 - j := by
      rcases Nat.lt_trichotomy suf (pat.length - 1 - j) with hlt | heq | hgt
      · exact absurd (hsame hlt) (h.stop (by omega))
      · exact heq
      · exact absurd (h.same _ hgt) hchar
    exact ⟨hsuf ▸ hchar, by omega⟩

/-- An entry `v` after `n` steps of the second loop, which has found `v₀` there. -/
def SuffixEntry (pat : List UInt8) (v₀ : ℤ) (n j : ℕ) (v : ℤ) : Prop :=
  (∃ s, v = sizeToInt (s + (pat.length - 1 - j)) ∧ Recurs pat s j ∧
    ∀ s', Recurs pat s' j → pat.length - 1 - s' < n → s ≤ s') ∨
  v = v₀ ∧ ∀ s', Recurs pat s' j → n ≤ pat.length - 1 - s'

/-- A step that finds no continuation at `j` leaves its entry. -/
theorem SuffixEntry.succ {v₀ v : ℤ} {n j : ℕ} (h : SuffixEntry pat v₀ n j v)
    (hj : j < pat.length) (hnot : ¬ Recurs pat (pat.length - 1 - n) j) :
    SuffixEntry pat v₀ (n + 1) j v := by
  have hne {s' : ℕ} (hr : Recurs pat s' j) : pat.length - 1 - s' ≠ n := fun heq => by
    have hle := hr.le
    have hs : pat.length - 1 - n = s' := by omega
    exact hnot (hs.symm ▸ hr)
  refine h.imp (fun ⟨s, hs, hr, hmin⟩ => ⟨s, hs, hr, fun s' hr' hlt => ?_⟩)
    fun ⟨heq, hnone⟩ => ⟨heq, fun s' hr' => ?_⟩
  · exact hmin s' hr' (Nat.lt_of_le_of_ne (Nat.le_of_lt_succ hlt) (hne hr'))
  · exact Nat.lt_of_le_of_ne (hnone s' hr') (hne hr').symm

/-- The table `t` after `n` steps of the second loop, which has started with `t₀`. -/
structure SuffixTable (pat : List UInt8) (t₀ : IntArray) (n : ℕ) (t : IntArray) : Prop where
  size : t.size = pat.length
  entry : ∀ j < pat.length, SuffixEntry pat (t₀.entry j) n j (t.entry j)

theorem SuffixTable.step {t₀ t : IntArray} {p : ℕ} (h : SuffixTable pat t₀ p t)
    (hp : p < pat.length - 1) :
    ∃ t', (do
      let suf_len ← max_suffix_len pat p
      let c ← charAt pat (p - suf_len)
      let c' ← charAt pat (pat.length - 1 - suf_len)
      if c ≠ c' then t.set (pat.length - 1 - suf_len) (sizeToInt (pat.length - 1 - p + suf_len))
      else return t) = .ok t' ∧ SuffixTable pat t₀ (p + 1) t' := by
  obtain ⟨suf, hsuf, hspec⟩ := max_suffix_len_spec (show p < pat.length by omega)
  have hle := hspec.le
  obtain ⟨c, hc⟩ := exists_char (show p - suf < pat.length by omega)
  obtain ⟨c', hc'⟩ := exists_char (show pat.length - 1 - suf < pat.length by omega)
  have hrecurs {j : ℕ} (hj : j < pat.length) :
      c ≠ c' ∧ j = pat.length - 1 - suf ↔ Recurs pat (pat.length - 1 - p) j := by
    rw [← hspec.recurs_iff hp hj, hc, hc']
    exact and_congr_left' (not_congr ⟨congrArg some, Option.some.inj⟩)
  rw [hsuf]
  show ∃ t', (charAt pat (p - suf) >>= _) = _ ∧ _
  rw [charAt_sub hle hc]
  show ∃ t', (charAt pat (pat.length - 1 - suf) >>= _) = _ ∧ _
  rw [charAt_last (by omega) hc']
  show ∃ t', (if c ≠ c' then _ else _) = _ ∧ _
  by_cases hcc : c ≠ c'
  · have hcast : (pat.length : ℤ) - 1 - suf = ((pat.length - 1 - suf : ℕ) : ℤ) := by omega
    rw [if_pos hcc, hcast, IntArray.set_natCast (by rw [h.size]; omega)]
    refine ⟨_, rfl, h.size, fun j hj => ?_⟩
    by_cases hjs : j = pat.length - 1 - suf
    · left
      have hr := (hrecurs hj).mp ⟨hcc, hjs⟩
      refine ⟨pat.length - 1 - p, ?_, hr, fun s' hr' hlt => by omega⟩
      subst hjs
      refine (Function.update_self ..).trans (congrArg sizeToInt ?_)
      omega
    · show SuffixEntry pat _ _ j (Function.update t.entry _ _ j)
      rw [Function.update_of_ne hjs]
      exact (h.entry j hj).succ hj fun hr => hjs ((hrecurs hj).mpr hr).2
  · rw [if_neg hcc]
    exact ⟨t, rfl, h.size, fun j hj => (h.entry j hj).succ hj fun hr => hcc ((hrecurs hj).mpr hr).1⟩

/-- How far a mismatch at `j` moves the pattern, by the second table. -/
def GoodSuffix (pat : List UInt8) (j s : ℕ) : Prop :=
  (Recurs pat s j ∧ ∀ s', Recurs pat s' j → s ≤ s') ∨
  (∀ s', ¬ Recurs pat s' j) ∧ LastPrefix pat j s

theorem bm_make_delta2_spec (pat : List UInt8) :
    ∃ delta2, bm_make_delta2 pat = .ok delta2 ∧ delta2.size = pat.length ∧
      ∀ j < pat.length, ∃ s, delta2.entry j = sizeToInt (s + (pat.length - 1 - j)) ∧
        GoodSuffix pat j s := by
  have hsize : (⟨pat.length, fun _ => 0⟩ : IntArray).size = pat.length := rfl
  obtain ⟨s₀, hs₀, hpre⟩ := delta2Prefixes_spec pat hsize
  have hloop : ∃ t, delta2Suffixes pat s₀.2 = .ok t ∧
      SuffixTable pat s₀.2 (pat.length - 1) t := by
    refine foldlM_range (I := SuffixTable pat s₀.2) ?_ fun p hp t ht => ht.step hp
    exact ⟨hpre.size, fun j hj => .inr ⟨rfl, fun s' _ => Nat.zero_le _⟩⟩
  obtain ⟨t, ht, htable⟩ := hloop
  refine ⟨t, ?_, htable.size, fun j hj => ?_⟩
  · rw [bm_make_delta2, hs₀]
    exact ht
  · rcases htable.entry j hj with ⟨s, hs, hr, hmin⟩ | ⟨heq, hnone⟩
    · refine ⟨s, hs, .inl ⟨hr, fun s' hr' => hmin s' hr' ?_⟩⟩
      have hle := hr'.le
      have hpos := hr'.pos
      omega
    · obtain ⟨v, hv, hlast⟩ := hpre.entry j (Nat.zero_le j) hj
      refine ⟨v, heq.trans hv, .inr ⟨fun s' hr' => ?_, hlast⟩⟩
      have hge := hnone s' hr'
      have hle := hr'.le
      have hpos := hr'.pos
      omega

/-- The pattern is moved on, and not by more than its length. -/
theorem GoodSuffix.bounds {j s : ℕ} (h : GoodSuffix pat j s) (hj : j < pat.length) :
    0 < s ∧ s ≤ pat.length := by
  rcases h with ⟨hr, -⟩ | ⟨-, ⟨q, -, hq, -, rfl, -⟩ | ⟨rfl, hnone⟩⟩
  · have hle := hr.le
    exact ⟨hr.pos, by omega⟩
  · exact ⟨Nat.succ_pos q, hq⟩
  · refine ⟨?_, Nat.sub_le _ _⟩
    by_contra hzero
    -- a pattern of one character starts with its last one
    obtain rfl : j = 0 := by omega
    have hborder : prefixAt pat 0 = true := prefixAt_of_border (List.prefix_refl pat)
    exact absurd (hborder.symm.trans (hnone 0 (Nat.le_refl 0) hj)) (by decide)

end GpsHal
