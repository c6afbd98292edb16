import GpsHal.Transition.Basic
import Mathlib.Data.List.AList
import Mathlib.Data.List.Induction

/-!
# `SystemStatusOsObserver` : turning modules on and off

Clients ask for a module to be turned on and off, and the observer counts the requests for each data
item in an `int` of the map `mActiveRequestCount`.  It sends a message to the framework for the first
of them and when the last is taken back.  An `int` that overflows has no value.

## Main definitions

* `ItemPower` : one item for itself, with its references and the messages about it.
* `ModulePower` : the map and what has been sent; `ModulePower.turnOn`, `ModulePower.turnOff`.
* `ModulePower.PowerLaw` : what is expected after a sequence of calls.

## Main results

* `ItemPower.lt_references_iff` : the references of an item, from the sequence of its calls.
* `ModulePower.refines_item` : the observer does with each item what the item for itself does.
* `ModulePower.powerLaw_iff` : the sequences after which the law holds.
-/

namespace GpsHal

/-! ### One item -/

/-- One item: how many references there are, and the messages about it, `true` to turn it on. -/
structure ItemPower where
  references : ℕ
  messages : List Bool
  deriving DecidableEq

namespace ItemPower

def init : ItemPower := ⟨0, []⟩

/-- A call to turn the item on or off. -/
def call (p : ItemPower) : Bool → ItemPower
  | true =>
    if p.references = 0 then ⟨1, p.messages ++ [true]⟩ else ⟨p.references + 1, p.messages⟩
  | false =>
    if p.references = 1 then ⟨0, p.messages ++ [false]⟩ else ⟨p.references - 1, p.messages⟩

def after (calls : List Bool) : ItemPower := calls.foldl call init

theorem after_concat (calls : List Bool) (b : Bool) :
    after (calls ++ [b]) = (after calls).call b := by
  unfold after
  rw [List.foldl_append, List.foldl_cons, List.foldl_nil]

/-- Messages alternate, the first one turning the item on. -/
def Alternates (messages : List Bool) : Prop :=
  ∀ i b, messages[i]? = some b → b = decide (i % 2 = 0)

theorem Alternates.concat {messages : List Bool} {b : Bool} (h : Alternates messages)
    (hb : b = decide (messages.length % 2 = 0)) : Alternates (messages ++ [b]) := by
  intro i c hc
  rcases lt_trichotomy i messages.length with hlt | rfl | hgt
  · rw [List.getElem?_append_left hlt] at hc
    exact h i c hc
  · rw [List.getElem?_concat_length] at hc
    rw [← Option.some.inj hc, hb]
  · rw [List.getElem?_eq_none (by rw [List.length_append, List.length_singleton]; omega)] at hc
    cases hc

/-- What holds after any calls: the messages alternate, and the last one has turned the item on
exactly if there are references. -/
structure Sound (p : ItemPower) : Prop where
  alternates : Alternates p.messages
  parity : p.messages.length % 2 = 1 ↔ 0 < p.references

theorem Sound.call {p : ItemPower} (h : p.Sound) (b : Bool) : (p.call b).Sound := by
  obtain ⟨halternates, hparity⟩ := h
  cases b with
  | true =>
    unfold ItemPower.call
    simp only
    split_ifs with hzero
    · refine ⟨halternates.concat (by simp; omega), ?_⟩
      simp only [List.length_append, List.length_singleton]
      omega
    · exact ⟨halternates, by simp only; omega⟩
  | false =>
    unfold ItemPower.call
    simp only
    split_ifs with hone
    · refine ⟨halternates.concat (by simp; omega), ?_⟩
      simp only [List.length_append, List.length_singleton]
      omega
    · exact ⟨halternates, by simp only; omega⟩

theorem sound_after (calls : List Bool) : (after calls).Sound := by
  induction calls using List.reverseRecOn with
  | nil => exact ⟨fun i b h => (by cases h), by decide⟩
  | append_singleton calls b ih =>
    rw [after_concat]
    exact ih.call b

/-- The last message has turned the item on. -/
theorem Sound.getLast?_iff {p : ItemPower} (h : p.Sound) :
    p.messages.getLast? = some true ↔ 0 < p.references := by
  rw [← h.parity, List.getLast?_eq_getElem?]
  constructor
  · intro hlast
    have heven := h.alternates _ _ hlast
    have hlt := (List.getElem?_eq_some_iff.1 hlast).1
    simp only [true_eq_decide_iff] at heven
    omega
  · intro hodd
    have hlt : p.messages.length - 1 < p.messages.length := by omega
    rw [List.getElem?_eq_getElem hlt]
    have heven := h.alternates _ _ (List.getElem?_eq_getElem hlt)
    rw [heven]
    simp only [Option.some.injEq, decide_eq_true_eq]
    omega

/-- The calls from some point on have more than `n` references left over. -/
theorem lt_references_iff (calls : List Bool) (n : ℕ) :
    n < (after calls).references ↔
      ∃ post, post <:+ calls ∧ post.count false + n < post.count true := by
  induction calls using List.reverseRecOn generalizing n with
  | nil => simp [after, init]
  | append_singleton calls b ih =>
    -- a suffix of the calls is empty, or it ends with the last one
    have hsuffix : (∃ post, post <:+ calls ++ [b] ∧ post.count false + n < post.count true) ↔
        ∃ post, post <:+ calls ∧
          (post ++ [b]).count false + n < (post ++ [b]).count true := by
      constructor
      · rintro ⟨post, hpost, hlt⟩
        rcases List.suffix_concat_iff.1 hpost with rfl | ⟨rest, rfl, hrest⟩
        · simp at hlt
        · exact ⟨rest, hrest, hlt⟩
      · rintro ⟨post, hpost, hlt⟩
        exact ⟨post ++ [b], List.suffix_concat_iff.2 (.inr ⟨post, rfl, hpost⟩), hlt⟩
    rw [hsuffix, after_concat]
    cases b with
    | true =>
      have hreferences : ((after calls).call true).references = (after calls).references + 1 := by
        unfold call
        simp only
        split_ifs with hzero
        · rw [hzero]
        · rfl
      rw [hreferences]
      cases n with
      | zero =>
        refine iff_of_true (Nat.succ_pos _) ⟨[], List.nil_suffix, by decide⟩
      | succ n =>
        rw [Nat.add_lt_add_iff_right, ih n]
        refine exists_congr fun post => and_congr_right fun _ => ?_
        simp
        omega
    | false =>
      have hreferences : ((after calls).call false).references = (after calls).references - 1 := by
        unfold call
        simp only
        split_ifs with hone
        · rw [hone]
        · rfl
      rw [hreferences, Nat.lt_sub_iff_add_lt, ih (n + 1)]
      refine exists_congr fun post => and_congr_right fun _ => ?_
      simp
      omega

end ItemPower

/-! ### The observer -/

/-- A call to the observer, and a message to the framework. -/
inductive PowerRequest (D : Type*) where
  | turnOn (dit : D) (timeOut : ℤ)
  | turnOff (dit : D)

namespace PowerRequest

variable {D : Type*}

def item : PowerRequest D → D
  | turnOn dit _ => dit
  | turnOff dit => dit

/-- It turns the item on. -/
def isOn : PowerRequest D → Bool
  | turnOn _ _ => true
  | turnOff _ => false

/-- What the requests about one item are. -/
def about [DecidableEq D] (d : D) (l : List (PowerRequest D)) : List Bool :=
  l.filterMap fun r => if r.item = d then some r.isOn else none

variable [DecidableEq D] {d : D} {l : List (PowerRequest D)} {r : PowerRequest D}

theorem about_concat_self : about r.item (l ++ [r]) = about r.item l ++ [r.isOn] := by
  simp [about]

theorem about_concat_of_ne (h : r.item ≠ d) : about d (l ++ [r]) = about d l := by
  simp [about, h]

end PowerRequest

/-- `SystemStatusOsObserver`, as far as it turns modules on and off, with the messages that it has
sent to the framework. -/
structure ModulePower (D : Type*) where
  mFrameworkActionReqObj : Bool
  mActiveRequestCount : AList fun _ : D => ℤ
  sent : List (PowerRequest D)

namespace ModulePower

variable {D : Type*} [DecidableEq D]

section Functions

variable (s : ModulePower D)

/-- The count of an item, and a message about it. -/
def setCount (dit : D) (count : ℤ) : ModulePower D :=
  { s with mActiveRequestCount := s.mActiveRequestCount.insert dit count }

def eraseCount (dit : D) : ModulePower D :=
  { s with mActiveRequestCount := s.mActiveRequestCount.erase dit }

def send (message : PowerRequest D) : ModulePower D := { s with sent := s.sent ++ [message] }

def turnOn (dit : D) (timeOut : ℤ) : Option (ModulePower D) :=
  if s.mFrameworkActionReqObj then
    match s.mActiveRequestCount.lookup dit with
    | none => some ((s.setCount dit 1).send (.turnOn dit timeOut))
    | some count => if count < 2147483647 then some (s.setCount dit (count + 1)) else none
  else some s

def turnOff (dit : D) : Option (ModulePower D) :=
  if s.mFrameworkActionReqObj then
    match s.mActiveRequestCount.lookup dit with
    | none => some s
    | some count =>
      if -2147483648 < count then
        if count - 1 = 0 then
          -- if this was last reference, remove item from map and turn off module
          some ((s.eraseCount dit).send (.turnOff dit))
        else some (s.setCount dit (count - 1))
      else none
  else some s

def step : PowerRequest D → Option (ModulePower D)
  | .turnOn dit timeOut => s.turnOn dit timeOut
  | .turnOff dit => s.turnOff dit

end Functions

/-- The calls, with the framework object set. -/
def system (D : Type*) [DecidableEq D] : System (ModulePower D) (PowerRequest D) :=
  .ofPartial ⟨true, ∅, []⟩ step

/-- The last message about the item has turned it on. -/
def On (s : ModulePower D) (d : D) : Prop := (PowerRequest.about d s.sent).getLast? = some true

/-- What is expected after the calls `es`. -/
structure PowerLaw (es : List (PowerRequest D)) (s : ModulePower D) : Prop where
  /-- The messages about an item alternate, and the first one turns it on. -/
  alternates : ∀ d i b, (PowerRequest.about d s.sent)[i]? = some b → b = decide (i % 2 = 0)
  /-- An item is on if from some point on more calls have turned it on than off. -/
  on_iff : ∀ d, s.On d ↔ ∃ post, post <:+ es ∧
    (PowerRequest.about d post).count false < (PowerRequest.about d post).count true
  /-- The messages about an item and its count depend on the calls about it only. -/
  unaffected : ∀ d es' s', PowerRequest.about d es' = PowerRequest.about d es →
    (system D).Run System.Free es' s' →
      PowerRequest.about d s'.sent = PowerRequest.about d s.sent ∧
        s'.mActiveRequestCount.lookup d = s.mActiveRequestCount.lookup d

/-- At no time have the last calls turned an item on `2 ^ 31` times more than off. -/
def Within (es : List (PowerRequest D)) : Prop :=
  ∀ d post, post <:+: es → (PowerRequest.about d post).count true ≤
    (PowerRequest.about d post).count false + 2147483647

section Runs

variable {s s' : ModulePower D} {es : List (PowerRequest D)} {e : PowerRequest D}

/-- An item after the calls, for itself. -/
abbrev itemAfter (d : D) (es : List (PowerRequest D)) : ItemPower :=
  ItemPower.after (PowerRequest.about d es)

/-- What the map has for a number of references. -/
def stored (references : ℕ) : Option ℤ := if references = 0 then none else some references

/-- Each item is as it would be for itself. -/
structure Tracks (es : List (PowerRequest D)) (s : ModulePower D) : Prop where
  obj : s.mFrameworkActionReqObj = true
  messages : ∀ d, PowerRequest.about d s.sent = (itemAfter d es).messages
  count : ∀ d, s.mActiveRequestCount.lookup d = stored (itemAfter d es).references

theorem itemAfter_concat_self :
    itemAfter e.item (es ++ [e]) = (itemAfter e.item es).call e.isOn := by
  unfold itemAfter
  rw [PowerRequest.about_concat_self, ItemPower.after_concat]

theorem itemAfter_concat_of_ne {d : D} (h : e.item ≠ d) :
    itemAfter d (es ++ [e]) = itemAfter d es := by
  unfold itemAfter
  rw [PowerRequest.about_concat_of_ne h]

/-- The references of an item are what some last calls leave over. -/
theorem lt_references_itemAfter_iff (d : D) (es : List (PowerRequest D)) (n : ℕ) :
    n < (itemAfter d es).references ↔ ∃ post, post <:+ es ∧
      (PowerRequest.about d post).count false + n < (PowerRequest.about d post).count true := by
  rw [itemAfter, ItemPower.lt_references_iff]
  constructor
  · rintro ⟨post, hpost, hlt⟩
    obtain ⟨post, hpost', rfl⟩ := List.suffix_filterMap_iff.1 hpost
    exact ⟨post, hpost', hlt⟩
  · rintro ⟨post, hpost, hlt⟩
    exact ⟨_, List.suffix_filterMap_iff.2 ⟨post, hpost, rfl⟩, hlt⟩

theorem Within.references_le (h : Within es) (d : D) :
    (itemAfter d es).references ≤ 2147483647 := by
  rw [← not_lt, lt_references_itemAfter_iff]
  rintro ⟨post, hpost, hlt⟩
  exact absurd (h d post hpost.isInfix) (not_le.2 hlt)

theorem within_concat : Within (es ++ [e]) ↔
    Within es ∧ (itemAfter e.item (es ++ [e])).references ≤ 2147483647 := by
  constructor
  · exact fun h => ⟨fun d post hpost => h d post (List.infix_concat_iff.2 (.inr hpost)),
      h.references_le e.item⟩
  · rintro ⟨hearlier, hnow⟩ d post hpost
    rcases List.infix_concat_iff.1 hpost with hpost | hpost
    · have hle : (itemAfter d (es ++ [e])).references ≤ 2147483647 := by
        by_cases hd : e.item = d
        · rwa [← hd]
        · rw [itemAfter_concat_of_ne hd]
          exact hearlier.references_le d
      rw [← not_lt, lt_references_itemAfter_iff] at hle
      exact not_lt.1 fun hlt => hle ⟨post, hpost, hlt⟩
    · exact hearlier d post hpost

/-- A call changes its own item as it should, and no other. -/
theorem Tracks.update (h : Tracks es s) (hobj : s'.mFrameworkActionReqObj = true)
    (hmessages : PowerRequest.about e.item s'.sent = ((itemAfter e.item es).call e.isOn).messages)
    (hcount : s'.mActiveRequestCount.lookup e.item =
      stored ((itemAfter e.item es).call e.isOn).references)
    (hother : ∀ d, e.item ≠ d → PowerRequest.about d s'.sent = PowerRequest.about d s.sent ∧
      s'.mActiveRequestCount.lookup d = s.mActiveRequestCount.lookup d) :
    Tracks (es ++ [e]) s' := by
  refine ⟨hobj, fun d => ?_, fun d => ?_⟩
  · by_cases hd : e.item = d
    · subst hd
      rw [itemAfter_concat_self, hmessages]
    · rw [itemAfter_concat_of_ne hd, (hother d hd).1, h.messages]
  · by_cases hd : e.item = d
    · subst hd
      rw [itemAfter_concat_self, hcount]
    · rw [itemAfter_concat_of_ne hd, (hother d hd).2, h.count]

/-- A call either does what it should or takes the count out of the `int`. -/
theorem Tracks.step (h : Tracks es s) (e : PowerRequest D)
    (hle : (itemAfter e.item es).references ≤ 2147483647) :
    (∃ s', s.step e = some s' ∧ Tracks (es ++ [e]) s' ∧
        (itemAfter e.item (es ++ [e])).references ≤ 2147483647) ∨
      s.step e = none ∧ 2147483647 < (itemAfter e.item (es ++ [e])).references := by
  rw [itemAfter_concat_self]
  have hcount := h.count e.item
  have hmessages := h.messages e.item
  cases e with
  | turnOn dit timeOut =>
    simp only [PowerRequest.item, PowerRequest.isOn] at hcount hmessages hle ⊢
    by_cases hzero : (itemAfter dit es).references = 0
    · -- the first reference
      left
      rw [hzero] at hcount
      refine ⟨(s.setCount dit 1).send (.turnOn dit timeOut), ?_, h.update h.obj ?_ ?_ ?_, ?_⟩
      · simp only [ModulePower.step, turnOn, h.obj, if_true, hcount, stored]
      · simp only [ItemPower.call, PowerRequest.isOn, PowerRequest.item, hzero, if_true]
        rw [← hmessages]
        exact PowerRequest.about_concat_self (r := .turnOn dit timeOut)
      · simp only [ItemPower.call, PowerRequest.isOn, PowerRequest.item, hzero, if_true, stored]
        exact AList.lookup_insert _
      · intro d hd
        exact ⟨PowerRequest.about_concat_of_ne hd, AList.lookup_insert_ne (Ne.symm hd)⟩
      · simp only [ItemPower.call, hzero, if_true]
        omega
    · have hreferences : ((itemAfter dit es).call true) =
          ⟨(itemAfter dit es).references + 1, (itemAfter dit es).messages⟩ := by
        simp only [ItemPower.call, hzero, if_false]
      rw [stored, if_neg hzero] at hcount
      rw [hreferences]
      by_cases hmax : (itemAfter dit es).references < 2147483647
      · left
        refine ⟨s.setCount dit ((itemAfter dit es).references + 1), ?_,
          h.update h.obj ?_ ?_ ?_, hmax⟩
        · simp only [ModulePower.step, turnOn, h.obj, if_true, hcount]
          rw [if_pos (by omega)]
        · simp only [PowerRequest.isOn, PowerRequest.item, hreferences]
          exact hmessages
        · simp only [PowerRequest.isOn, PowerRequest.item, hreferences, stored]
          rw [if_neg (Nat.succ_ne_zero _)]
          exact AList.lookup_insert _
        · intro d hd
          exact ⟨rfl, AList.lookup_insert_ne (Ne.symm hd)⟩
      · -- `citer->second++` of the greatest `int`
        right
        refine ⟨?_, by simp only; omega⟩
        simp only [ModulePower.step, turnOn, h.obj, if_true, hcount]
        rw [if_neg (by omega)]
  | turnOff dit =>
    left
    simp only [PowerRequest.item, PowerRequest.isOn] at hcount hmessages hle ⊢
    by_cases hzero : (itemAfter dit es).references = 0
    · -- the item is off
      have hreferences : ((itemAfter dit es).call false) =
          ⟨0, (itemAfter dit es).messages⟩ := by
        simp only [ItemPower.call, hzero]
        rfl
      rw [hzero] at hcount
      refine ⟨s, ?_, h.update h.obj ?_ ?_ fun d _ => ⟨rfl, rfl⟩, ?_⟩
      · simp only [ModulePower.step, turnOff, h.obj, if_true, hcount, stored]
      · simp only [PowerRequest.isOn, PowerRequest.item, hreferences]
        exact hmessages
      · simp only [PowerRequest.isOn, PowerRequest.item, hreferences]
        exact hcount
      · rw [hreferences]
        exact Nat.zero_le _
    · rw [stored, if_neg hzero] at hcount
      by_cases hone : (itemAfter dit es).references = 1
      · -- the last reference
        have hreferences : ((itemAfter dit es).call false) =
            ⟨0, (itemAfter dit es).messages ++ [false]⟩ := by
          simp only [ItemPower.call, hone, if_true]
        rw [hone] at hcount
        refine ⟨(s.eraseCount dit).send (.turnOff dit), ?_, h.update h.obj ?_ ?_ ?_, ?_⟩
        · simp only [ModulePower.step, turnOff, h.obj, if_true, hcount]
          rfl
        · simp only [PowerRequest.isOn, PowerRequest.item, hreferences]
          rw [← hmessages]
          exact PowerRequest.about_concat_self (r := .turnOff dit)
        · simp only [PowerRequest.isOn, PowerRequest.item, hreferences]
          exact AList.lookup_erase _ _
        · intro d hd
          exact ⟨PowerRequest.about_concat_of_ne hd, AList.lookup_erase_ne (Ne.symm hd)⟩
        · rw [hreferences]
          exact Nat.zero_le _
      · have hreferences : ((itemAfter dit es).call false) =
            ⟨(itemAfter dit es).references - 1, (itemAfter dit es).messages⟩ := by
          simp only [ItemPower.call, hone, if_false]
        refine ⟨s.setCount dit ((itemAfter dit es).references - 1), ?_, h.update h.obj ?_ ?_ ?_, ?_⟩
        · simp only [ModulePower.step, turnOff, h.obj, if_true, hcount]
          rw [if_pos (by omega), if_neg (by omega)]
        · simp only [PowerRequest.isOn, PowerRequest.item, hreferences]
          exact hmessages
        · simp only [PowerRequest.isOn, PowerRequest.item, hreferences, stored]
          have hsub : (((itemAfter dit es).references - 1 : ℕ) : ℤ) =
              (itemAfter dit es).references - 1 := by omega
          rw [if_neg (by omega), hsub]
          exact AList.lookup_insert _
        · intro d hd
          exact ⟨rfl, AList.lookup_insert_ne (Ne.symm hd)⟩
        · rw [hreferences]
          simp only
          omega

/-- **The observer does with each item what the item for itself does**, and the counts have stayed
in their range. -/
theorem refines_item (h : (system D).Run System.Free es s) : Tracks es s ∧ Within es := by
  induction h with
  | nil =>
    refine ⟨⟨rfl, fun d => rfl, fun d => rfl⟩, fun d post hpost => ?_⟩
    rw [List.infix_nil.1 hpost]
    exact Nat.zero_le _
  | @snoc es s s' e _ _ hstep ih =>
    obtain ⟨htracks, hwithin⟩ := ih
    have hsome : s.step e = some s' := hstep
    rcases htracks.step e (hwithin.references_le e.item) with ⟨t, ht, htracks', hle⟩ | ⟨hnone, -⟩
    · obtain rfl : t = s' := Option.some.inj (ht.symm.trans hsome)
      exact ⟨htracks', within_concat.2 ⟨hwithin, hle⟩⟩
    · rw [hnone] at hsome
      cases hsome

/-- In the range of the counts no call is left without an outcome. -/
theorem exists_run (h : Within es) : ∃ s, (system D).Run System.Free es s := by
  induction es using List.reverseRecOn with
  | nil => exact ⟨_, .nil⟩
  | append_singleton es e ih =>
    obtain ⟨hwithin, hle⟩ := within_concat.1 h
    obtain ⟨s, hs⟩ := ih hwithin
    rcases (refines_item hs).1.step e (hwithin.references_le e.item) with ⟨t, ht, -⟩ | ⟨-, hlt⟩
    · exact ⟨t, hs.snoc trivial ht⟩
    · exact absurd hlt (not_lt.2 hle)

theorem powerLaw_of_run (h : (system D).Run System.Free es s) : PowerLaw es s := by
  have htracks := (refines_item h).1
  refine ⟨fun d => ?_, fun d => ?_, fun d es' s' hsame hrun => ?_⟩
  · rw [htracks.messages d]
    exact (ItemPower.sound_after _).alternates
  · rw [On, htracks.messages d, (ItemPower.sound_after _).getLast?_iff]
    exact lt_references_itemAfter_iff d es 0
  · have htracks' := (refines_item hrun).1
    rw [htracks'.messages, htracks.messages, htracks'.count, htracks.count, itemAfter, itemAfter,
      hsame]
    exact ⟨rfl, rfl⟩

/-- **Turning modules on and off.**  The messages follow the calls as they should exactly if no
count overflows. -/
theorem powerLaw_iff (es : List (PowerRequest D)) :
    (∃ s, (system D).Run System.Free es s ∧ PowerLaw es s) ↔ Within es := by
  constructor
  · rintro ⟨s, hrun, -⟩
    exact (refines_item hrun).2
  · intro h
    obtain ⟨s, hrun⟩ := exists_run h
    exact ⟨s, hrun, powerLaw_of_run hrun⟩

/-- `2 ^ 31` calls that turn one module on. -/
theorem count_overflows :
    ¬ ∃ s, (system ℕ).Run System.Free (List.replicate 2147483648 (.turnOn 3 0)) s ∧
      PowerLaw (List.replicate 2147483648 (.turnOn 3 0)) s := by
  have habout : ∀ n, PowerRequest.about 3 (List.replicate n (.turnOn 3 0)) =
      List.replicate n true := by
    intro n
    exact List.filterMap_replicate_of_some (if_pos rfl)
  rintro ⟨s, hrun, -⟩
  have hle := (refines_item hrun).2 3 _ List.infix_rfl
  rw [habout, List.count_replicate, List.count_replicate] at hle
  exact absurd hle (by decide)

end Runs

end ModulePower

end GpsHal
