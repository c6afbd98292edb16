import Mathlib.Logic.Relation
import Mathlib.Data.List.Basic

/-!
# Runs of labelled transition systems

Every stateful component of the development is a `System`: an initial state and a labelled step
relation.  The properties proved about them hold of whole runs, and most of them hold under a
*guard*, a condition on each step of the run that looks at the state before the step and at the
label.  This file names nothing of any component.

## Main definitions

* `System S E` : an initial state and a step relation `S → E → S → Prop`.
* `System.Run G es s` : the labels `es`, oldest first, lead from the initial state to `s`, and
  every one of them was taken in a state where the guard `G` allows it.
* `System.Always I es s` : the labels `es` lead to `s` and every state on the way, the first and
  the last included, satisfies `I`.
* `System.ofFun`, `System.ofPartial` : the system of a step function.

## Main results

* `Run.invariant` : what holds initially and is kept by the allowed steps holds after every run.
* `Run.refine` : a run of one system is matched, label by label, by a run of another.
* `always_iff_run` : when the allowed steps keep an invariant and every other step breaks the
  property `I` at once, the runs that satisfy `I` throughout are exactly the guarded ones.
* `run_congr` : guards that agree on the states of an invariant allow the same runs.
-/

namespace GpsHal

/-- A labelled transition system with an initial state. -/
structure System (S : Type*) (E : Type*) where
  /-- The initial state. -/
  init : S
  /-- `step s e s'` : the system can move from `s` to `s'` under the label `e`. -/
  step : S → E → S → Prop

namespace System

variable {S E T F : Type*}

/-- The system of a total step function. -/
def ofFun (init : S) (f : S → E → S) : System S E := ⟨init, fun s e s' => s' = f s e⟩

/-- The system of a partial step function: `none` means that the label is not possible. -/
def ofPartial (init : S) (f : S → E → Option S) : System S E := ⟨init, fun s e s' => f s e = some s'⟩

variable (A : System S E)

/-- The labels `es` lead from the initial state to `s`, each taken where `G` allows it. -/
inductive Run (G : S → E → Prop) : List E → S → Prop
  | nil : Run G [] A.init
  | snoc {es : List E} {s s' : S} {e : E} :
      Run G es s → G s e → A.step s e s' → Run G (es ++ [e]) s'

/-- The guard that allows every step. -/
def Free : S → E → Prop := fun _ _ => True

/-- The labels `es` lead to `s` and every state on the way satisfies `I`. -/
def Always (I : S → Prop) (es : List E) (s : S) : Prop := A.Run (fun s _ => I s) es s ∧ I s

/-- A state reached by some run. -/
def Reachable (s : S) : Prop := ∃ es, A.Run Free es s

variable {A}

namespace Run

variable {G H : S → E → Prop} {es : List E} {s s' : S} {e : E}

theorem mono (h : A.Run G es s) (hGH : ∀ s e, G s e → H s e) : A.Run H es s := by
  induction h with
  | nil => exact nil
  | snoc _ hg hst ih => exact snoc ih (hGH _ _ hg) hst

theorem free (h : A.Run G es s) : A.Run Free es s := h.mono fun _ _ _ => trivial

/-- The last step of a run. -/
theorem last (h : A.Run G (es ++ [e]) s') : ∃ s, A.Run G es s ∧ G s e ∧ A.step s e s' := by
  generalize hl : es ++ [e] = l at h
  cases h with
  | nil => simp at hl
  | snoc hr hg hst =>
    obtain ⟨rfl, rfl⟩ := List.append_inj' hl rfl |>.imp_right List.singleton_inj.1
    exact ⟨_, hr, hg, hst⟩

/-- **Invariant rule.** -/
theorem invariant {I : S → Prop} (h : A.Run G es s) (h₀ : I A.init)
    (hstep : ∀ s e s', I s → G s e → A.step s e s' → I s') : I s := by
  induction h with
  | nil => exact h₀
  | snoc _ hg hst ih => exact hstep _ _ _ ih hg hst

/-- An invariant of the guarded runs may be added to their guard. -/
theorem strengthen {I : S → Prop} (h : A.Run G es s) (h₀ : I A.init)
    (hstep : ∀ s e s', I s → G s e → A.step s e s' → I s') :
    A.Run (fun s e => I s ∧ G s e) es s := by
  induction h with
  | nil => exact nil
  | snoc hr hg hst ih => exact snoc ih ⟨hr.invariant h₀ hstep, hg⟩ hst

/-- **Refinement rule.**  A relation that holds initially and is kept by matching steps matches
every run of `A` by a run of `B` with the same labels. -/
theorem refine {B : System T E} {K : T → E → Prop} {R : S → T → Prop} (h : A.Run G es s)
    (h₀ : R A.init B.init)
    (hstep : ∀ s e s' t, R s t → G s e → A.step s e s' → ∃ t', R s' t' ∧ K t e ∧ B.step t e t') :
    ∃ t, R s t ∧ B.Run K es t := by
  induction h with
  | nil => exact ⟨_, h₀, nil⟩
  | snoc _ hg hst ih =>
    obtain ⟨t, hR, hrun⟩ := ih
    obtain ⟨t', hR', hK, hst'⟩ := hstep _ _ _ _ hR hg hst
    exact ⟨t', hR', snoc hrun hK hst'⟩

end Run

/-- **Exactness rule.**  Let `J` be kept by the allowed steps and imply `I`, and let every step
that the guard forbids lead from `J` out of `I`.  Then the runs that satisfy `I` throughout are
exactly the runs whose steps are all allowed. -/
theorem always_iff_run {G : S → E → Prop} {I J : S → Prop} (h₀ : J A.init) (hJI : ∀ s, J s → I s)
    (hkeep : ∀ s e s', J s → G s e → A.step s e s' → J s')
    (hbreak : ∀ s e s', J s → ¬ G s e → A.step s e s' → ¬ I s') {es : List E} {s : S} :
    A.Always I es s ↔ A.Run G es s := by
  constructor
  · rintro ⟨h, hI⟩
    have key : ∀ {es s}, A.Run (fun s _ => I s) es s → I s → A.Run G es s := by
      intro es s h
      induction h with
      | nil => exact fun _ => .nil
      | @snoc es s s' e _ hIs hst ih =>
        intro hI'
        have hrun : A.Run G es s := ih hIs
        have hJ : J s := hrun.invariant h₀ hkeep
        by_cases hg : G s e
        · exact .snoc hrun hg hst
        · exact absurd hI' (hbreak _ _ _ hJ hg hst)
    exact key h hI
  · intro h
    have hI : I s := hJI _ (h.invariant h₀ hkeep)
    exact ⟨(h.strengthen h₀ hkeep).mono fun s _ hs => hJI s hs.1, hI⟩

/-- **Exactness rule for steps.**  Two guards that agree on the states of an invariant allow the
same runs. -/
theorem run_congr {G H : S → E → Prop} {J : S → Prop} (h₀ : J A.init)
    (hkeep : ∀ s e s', J s → H s e → A.step s e s' → J s')
    (hiff : ∀ s e s', J s → A.step s e s' → (G s e ↔ H s e)) {es : List E} {s : S} :
    A.Run G es s ↔ A.Run H es s := by
  constructor
  · intro h
    suffices A.Run H es s ∧ J s from this.1
    induction h with
    | nil => exact ⟨.nil, h₀⟩
    | snoc _ hg hst ih =>
      have hH := (hiff _ _ _ ih.2 hst).1 hg
      exact ⟨.snoc ih.1 hH hst, hkeep _ _ _ ih.2 hH hst⟩
  · intro h
    suffices A.Run G es s ∧ J s from this.1
    induction h with
    | nil => exact ⟨.nil, h₀⟩
    | snoc _ hH hst ih =>
      exact ⟨.snoc ih.1 ((hiff _ _ _ ih.2 hst).2 hH) hst, hkeep _ _ _ ih.2 hH hst⟩

/-! ### Runs of step functions -/

section Functions

variable {init : S} {f : S → E → S} {G : S → E → Prop}

theorem ofPartial_step {g : S → E → Option S} {s s' : S} {e : E} :
    (ofPartial init g).step s e s' ↔ g s e = some s' := Iff.rfl

/-- Every step of the input list `es` from `s` is allowed. -/
def Allowed (f : S → E → S) (G : S → E → Prop) : S → List E → Prop
  | _, [] => True
  | s, e :: es => G s e ∧ Allowed f G (f s e) es

instance Allowed.decidable (f : S → E → S) (G : S → E → Prop) [∀ s e, Decidable (G s e)] :
    ∀ s es, Decidable (Allowed f G s es)
  | _, [] => inferInstanceAs (Decidable True)
  | s, e :: es =>
    have := Allowed.decidable f G (f s e) es
    inferInstanceAs (Decidable (G s e ∧ Allowed f G (f s e) es))

theorem Allowed.run {es₀ es : List E} {s : S} (h : (ofFun init f).Run G es₀ s)
    (ha : Allowed f G s es) : (ofFun init f).Run G (es₀ ++ es) (es.foldl f s) := by
  induction es generalizing es₀ s with
  | nil => simpa using h
  | cons e es ih => simpa using ih (h.snoc ha.1 rfl) ha.2

/-- The run of a step function on an input list. -/
theorem run_foldl {es : List E} (ha : Allowed f G init es) :
    (ofFun init f).Run G es (es.foldl f init) := by
  have h : (ofFun init f).Run G ([] ++ es) (es.foldl f init) := Allowed.run .nil ha
  simpa using h

/-- The run of a partial step function on an input list. -/
theorem run_foldlM {g : S → E → Option S} {es : List E} {s : S} (h : es.foldlM g init = some s) :
    (ofPartial init g).Run Free es s := by
  suffices key : ∀ {es₀ es : List E} {s₀ : S}, (ofPartial init g).Run Free es₀ s₀ →
      es.foldlM g s₀ = some s → (ofPartial init g).Run Free (es₀ ++ es) s by
    have h' : (ofPartial init g).Run Free ([] ++ es) s := key .nil h
    simpa using h'
  intro es₀ es s₀ hrun h
  induction es generalizing es₀ s₀ with
  | nil =>
    obtain rfl : s₀ = s := Option.some.inj h
    simpa using hrun
  | cons e es ih =>
    rw [List.foldlM_cons] at h
    obtain ⟨s₁, hs₁, h⟩ := Option.bind_eq_some_iff.1 h
    have hrun' := ih (hrun.snoc trivial hs₁) h
    simpa using hrun'

/-- The run of a partial step function on an input list, with the guard tested at each step. -/
theorem run_guarded {g : S → E → Option S} [∀ s e, Decidable (G s e)] {es : List E} {s : S}
    (h : es.foldlM (fun s e => if G s e then g s e else none) init = some s) :
    (ofPartial init g).Run G es s := by
  have hrun := run_foldlM h
  clear h
  induction hrun with
  | nil => exact .nil
  | snoc _ _ hst ih =>
    obtain ⟨hG, hg⟩ := Option.ite_none_right_eq_some.1 hst
    exact ih.snoc hG hg

end Functions

end System

end GpsHal
