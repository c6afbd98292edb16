import GpsHal.Transition.Basic
import GpsHal.Util.RefCount

/-!
# Threads

`LocThread` starts a thread that runs a `LocRunnable` until it has had enough or the thread is
stopped.  What the two threads share is a `LocThreadDelegate`.  It is freed by whichever thread
gives it up last, after a joinable thread has been joined, and the new thread deletes the runnable.
This takes that the new thread gets hold of the runnable before `stop()` hides it, and that it has
not already finished by the time `create()` looks whether it runs.

## Main definitions

* `LocThread.parentStep`, `LocThread.threadStep` : the two threads, a field of the delegate at a
  time.
* `LocThread.Owned` : delegate, runnable and thread are disposed of, once.
* `LocThread.InTime` : the two races that must not be lost.

## Main results

* `sound_of_run` : whatever the order, nothing is used after it is freed, or freed twice.
* `progress` : the threads do not wait for each other in vain.
* `owned_iff_inTime` : in which runs everything is disposed of.
-/

namespace GpsHal

/-- The two threads that use a delegate. -/
inductive Party where
  | parent | thread
  deriving DecidableEq, Repr

instance : Fintype Party := ⟨{.parent, .thread}, fun i => by cases i <;> decide⟩

/-- How far a thread is in `destroy()`. -/
inductive Destroy where
  | test | lock | decrement
  | unlock (callDelete : Bool)
  | delete (callDelete : Bool)
  deriving DecidableEq, Repr

/-- How far the parent is: in the constructor, in `create()`, and later on in `~LocThread()`,
`stop()` or `destroy()`. -/
inductive Parent where
  | creator
  | thandle (created : Bool)
  | testThandle
  | setName | detach
  | failRunnable | failJoinable | failRefCount
  | check
  /-- `start()` has returned `true`. -/
  | started
  | bye
  | stop | stopRunnable | testJoinable | clearJoinable | join
  | destroy (d : Destroy)
  | done
  deriving DecidableEq, Repr

/-- How far the new thread is in `threadMain`. -/
inductive Thread where
  /-- There is none. -/
  | unborn
  | read
  | prerun | run | postrun
  | clear
  | deleteRunnable
  | destroy (d : Destroy)
  | done
  deriving DecidableEq, Repr

def Parent.ofDestroy : Option Destroy → Parent
  | some d => .destroy d
  | none => .done

def Thread.ofDestroy : Option Destroy → Thread
  | some d => .destroy d
  | none => .done

structure LocThreadDelegate where
  /-- `mRunnable` is not `NULL`. -/
  mRunnable : Bool
  mJoinable : Bool
  /-- `mThandle` is not `NULL`. -/
  mThandle : Bool
  /-- Who has locked `mMutex`. -/
  mMutex : Option Party
  mRefCount : ℕ
  deriving DecidableEq, Repr

/-- A delegate with the threads that use it, and what has become of it. -/
structure LocThread extends LocThreadDelegate where
  /-- The argument of `start()`. -/
  joinable : Bool
  parent : Parent
  thread : Thread
  /-- How often the delegate has been freed, -/
  freed : ℕ
  /-- the runnable deleted, -/
  deleted : ℕ
  /-- and the thread joined. -/
  joined : ℕ
  /-- The delegate has been used after it was freed, or the runnable after it was deleted. -/
  fault : Bool
  deriving DecidableEq, Repr

namespace LocThread

/-- The delegate is read or written. -/
def access (s : LocThread) : LocThread := { s with fault := s.fault || s.freed != 0 }

/-- The runnable is called or deleted. -/
def use (s : LocThread) : LocThread := { s with fault := s.fault || s.deleted != 0 }

/-- A step of `destroy()`, and how far the thread is then if it is not through. -/
def destroy (s : LocThread) (i : Party) : Destroy → Option (LocThread × Option Destroy)
  | .test => some (s.access, if s.mRefCount > 0 then some .lock else none)
  | .lock =>
    if s.mMutex = none then some ({ s.access with mMutex := some i }, some .decrement) else none
  | .decrement =>
    some ({ s.access with mRefCount := s.mRefCount - 1 }, some (.unlock (s.mRefCount == 1)))
  | .unlock callDelete => some ({ s.access with mMutex := none }, some (.delete callDelete))
  | .delete callDelete =>
    some ({ s with freed := s.freed + if callDelete then 1 else 0 }, none)

/-- A step of the parent that is not the choice of its caller. -/
def parentStep (s : LocThread) : Option LocThread :=
  match s.parent with
  | .creator | .started | .done => none
  | .thandle created => some { s.access with mThandle := created, parent := .testThandle }
  | .testThandle =>
    some { s.access with parent := if s.mThandle then .setName else .failRunnable }
  | .setName => some { s.access with parent := if s.joinable then .check else .detach }
  | .detach => some { s.access with parent := .check }
  | .failRunnable => some { s.access with mRunnable := false, parent := .failJoinable }
  | .failJoinable => some { s.access with mJoinable := false, parent := .failRefCount }
  | .failRefCount => some { s.access with mRefCount := 1, parent := .check }
  | .check => some { s.access with parent := if s.mRunnable then .started else .destroy .test }
  | .bye => some { s.access with parent := if s.mJoinable then .stop else .destroy .test }
  | .stop => some { s.access with parent := if s.mRunnable then .stopRunnable else .testJoinable }
  | .stopRunnable => some { s.access with mRunnable := false, parent := .testJoinable }
  | .testJoinable =>
    some { s.access with parent := if s.mJoinable then .clearJoinable else .destroy .test }
  | .clearJoinable => some { s.access with mJoinable := false, parent := .join }
  | .join =>
    if s.thread = .done then
      some { s.access with joined := s.joined + 1, parent := .destroy .test }
    else none
  | .destroy d => (s.destroy .parent d).map fun p => { p.1 with parent := .ofDestroy p.2 }

/-- A step of the new thread; `again` is what `run()` returns. -/
def threadStep (s : LocThread) (again : Bool) : Option LocThread :=
  match s.thread with
  | .unborn | .done => none
  | .read => some { s.access with thread := if s.mRunnable then .prerun else .destroy .test }
  | .prerun => some { (if s.mRunnable then s.access.use else s.access) with thread := .run }
  | .run =>
    if s.mRunnable then some { s.access.use with thread := if again then .run else .postrun }
    else some { s.access with thread := .postrun }
  | .postrun => some { (if s.mRunnable then s.access.use else s.access) with thread := .clear }
  | .clear => some { s.access with mRunnable := false, thread := .deleteRunnable }
  | .deleteRunnable => some { s.use with deleted := s.deleted + 1, thread := .destroy .test }
  | .destroy d => (s.destroy .thread d).map fun p => { p.1 with thread := .ofDestroy p.2 }

/-- What can happen. -/
inductive Input where
  /-- `pthread_create` returns. -/
  | created (created : Bool)
  /-- The client calls `stop()`, or deletes the `LocThread`. -/
  | release (stop : Bool)
  | parent
  | thread (again : Bool)
  deriving DecidableEq, Repr

def step (s : LocThread) : Input → Option LocThread
  | .created created =>
    if s.parent = .creator then
      some { s with
        parent := .thandle created
        thread := if created then .read else .unborn }
    else none
  | .release stop =>
    if s.parent = .started then some { s with parent := if stop then .stop else .bye } else none
  | .parent => s.parentStep
  | .thread again => s.threadStep again

/-- What the initializers of the constructor leave. -/
def init (joinable : Bool) : LocThread where
  mRunnable := true
  mJoinable := joinable
  mThandle := false
  mMutex := none
  mRefCount := 2
  joinable := joinable
  parent := .creator
  thread := .unborn
  freed := 0
  deleted := 0
  joined := 0
  fault := false

def system (joinable : Bool) : System LocThread Input := .ofPartial (init joinable) step

/-- Both threads are through with the delegate. -/
def Finished (s : LocThread) : Prop :=
  s.parent = .done ∧ (s.thread = .unborn ∨ s.thread = .done)

/-- Nothing is used after it has been freed, nothing is freed or joined twice, a joinable thread is
joined before the delegate is freed; and in the end all of this has been done. -/
structure Owned (s : LocThread) : Prop where
  faultless : s.fault = false
  freed : s.freed ≤ 1
  deleted : s.deleted ≤ 1
  joined : s.joined ≤ if s.joinable then 1 else 0
  joinedFirst : s.thread ≠ .unborn → s.joinable = true → s.freed = 1 → s.joined = 1
  finished : s.Finished → s.freed = 1 ∧ (s.thread ≠ .unborn →
    s.deleted = 1 ∧ s.joined = if s.joinable then 1 else 0)

/-- `stop()` hides the runnable after the new thread has got hold of it; and `create()` looks at a
joinable thread before that has hidden the runnable on its way out. -/
def InTime (s : LocThread) : Input → Prop
  | .parent =>
    (s.parent = .stopRunnable → s.thread ≠ .read) ∧
      (s.parent = .check → s.joinable = true → s.thread ≠ .unborn → s.mRunnable = true)
  | .created _ | .release _ | .thread _ => True

/-! ### The references -/

end LocThread

def Destroy.ref : Destroy → Ref
  | .test | .lock => .held
  | .decrement => .locked
  | .unlock callDelete => .unlocking callDelete
  | .delete callDelete => .deleting callDelete

/-- The new thread has done with the runnable. -/
def Thread.through : Thread → Bool
  | .destroy _ | .done => true
  | .unborn | .read | .prerun | .run | .postrun | .clear | .deleteRunnable => false

/-- The parent is giving up the delegate, or has given it up. -/
def Parent.leaving : Parent → Bool
  | .destroy _ | .done => true
  | _ => false

theorem Parent.leaving_ofDestroy (d : Option Destroy) : (Parent.ofDestroy d).leaving = true := by
  cases d <;> rfl

theorem Thread.through_ofDestroy (d : Option Destroy) : (Thread.ofDestroy d).through = true := by
  cases d <;> rfl

theorem Thread.ofDestroy_ne_unborn (d : Option Destroy) : Thread.ofDestroy d ≠ .unborn := by
  cases d <;> nofun

/-- What is left of the reference after a step of `destroy()`. -/
def Destroy.refAfter : Option Destroy → Ref
  | some d => d.ref
  | none => .gone

/-- The reference of the parent. -/
def Parent.ref : Parent → Ref
  | .destroy d => d.ref
  | .done => .gone
  | _ => .held

/-- The constructor has not written that there is no new thread, if there is none. -/
def Parent.constructing : Parent → Bool
  | .creator | .thandle _ | .testThandle | .failRunnable | .failJoinable | .failRefCount => true
  | _ => false

/-- The reference of the new thread. -/
def Thread.ref (constructing : Bool) : Thread → Ref
  | .unborn => if constructing then .held else .gone
  | .destroy d => d.ref
  | .done => .gone
  | _ => .held

theorem Parent.ref_ofDestroy (d : Option Destroy) :
    (Parent.ofDestroy d).ref = Destroy.refAfter d := by
  cases d <;> rfl

theorem Parent.constructing_ofDestroy (d : Option Destroy) :
    (Parent.ofDestroy d).constructing = false := by
  cases d <;> rfl

theorem Thread.ref_ofDestroy (constructing : Bool) (d : Option Destroy) :
    (Thread.ofDestroy d).ref constructing = Destroy.refAfter d := by
  cases d <;> rfl

namespace LocThread

def ref (s : LocThread) : Party → Ref
  | .parent => s.parent.ref
  | .thread => s.thread.ref s.parent.constructing

/-- The delegate as an object with a count of its references. -/
def counted (s : LocThread) : Counted Party := ⟨s.mMutex, s.mRefCount, s.freed⟩

variable {s s' : LocThread}

theorem access_eq (hf : s.freed = 0) : s.access = s := by
  have hfault : (s.fault || s.freed != 0) = s.fault := by rw [hf]; exact Bool.or_false _
  rw [access, hfault]

theorem use_eq (hd : s.deleted = 0) : s.use = s := by
  have hfault : (s.fault || s.deleted != 0) = s.fault := by rw [hd]; exact Bool.or_false _
  rw [use, hfault]

theorem ref_parent (s : LocThread) (p : Parent) (hp : p.constructing = s.parent.constructing) :
    ref { s with parent := p } = Function.update s.ref .parent p.ref := by
  funext i
  cases i with
  | parent => rw [Function.update_self]; rfl
  | thread =>
    rw [Function.update_of_ne (show Party.thread ≠ .parent by decide)]
    show s.thread.ref p.constructing = s.thread.ref s.parent.constructing
    rw [hp]

theorem ref_thread (s : LocThread) (t : Thread) :
    ref { s with thread := t } = Function.update s.ref .thread (t.ref s.parent.constructing) := by
  funext i
  cases i with
  | parent => rw [Function.update_of_ne (show Party.parent ≠ .thread by decide)]; rfl
  | thread => rw [Function.update_self]; rfl

/-- A step of `destroy()` finds the delegate there, and does its part. -/
theorem destroy_spec (hv : s.counted.Valid s.ref) {i : Party} {d : Destroy}
    (hi : s.ref i = d.ref) {t : LocThread} {d' : Option Destroy}
    (h : s.destroy i d = some (t, d')) :
    ∃ mutex refCount freed,
      t = { s with mMutex := mutex, mRefCount := refCount, freed := freed } ∧
      t.counted.Valid (Function.update s.ref i (Destroy.refAfter d')) := by
  have hsame (r : Ref) (hr : s.ref i = r) : Function.update s.ref i r = s.ref := by
    rw [← hr, Function.update_eq_self]
  cases d with
  | test =>
    have hf : s.freed = 0 := hv.not_freed (by rw [hi]; nofun) (by rw [hi]; nofun)
    have hpos : s.mRefCount > 0 := by
      have hone := hv.count_le i
      rw [hi] at hone
      exact hone
    obtain ⟨rfl, rfl⟩ := Prod.mk.inj (Option.some.inj h)
    rw [if_pos hpos, access_eq hf]
    exact ⟨_, _, _, rfl, (hsame .held hi).symm ▸ hv⟩
  | lock =>
    have hf : s.freed = 0 := hv.not_freed (by rw [hi]; nofun) (by rw [hi]; nofun)
    rw [destroy, access_eq hf] at h
    split at h
    · rename_i hm
      obtain ⟨rfl, rfl⟩ := Prod.mk.inj (Option.some.inj h)
      exact ⟨_, _, _, rfl, hv.lock hi hm⟩
    · cases h
  | decrement =>
    have hf : s.freed = 0 := hv.not_freed (by rw [hi]; nofun) (by rw [hi]; nofun)
    rw [destroy, access_eq hf] at h
    obtain ⟨rfl, rfl⟩ := Prod.mk.inj (Option.some.inj h)
    exact ⟨_, _, _, rfl, hv.decrement hi⟩
  | unlock callDelete =>
    have hf : s.freed = 0 := hv.not_freed (by rw [hi]; nofun) (by rw [hi]; nofun)
    rw [destroy, access_eq hf] at h
    obtain ⟨rfl, rfl⟩ := Prod.mk.inj (Option.some.inj h)
    exact ⟨_, _, _, rfl, hv.unlock hi⟩
  | delete callDelete =>
    obtain ⟨rfl, rfl⟩ := Prod.mk.inj (Option.some.inj h)
    exact ⟨_, _, _, rfl, hv.delete hi⟩

/-! ### The invariant -/

/-- What holds where the parent is. -/
def Fits (s : LocThread) : Prop :=
  match s.parent with
  | .creator =>
    s.thread = .unborn ∧ s.mRunnable = true ∧ s.mRefCount = 2 ∧ s.mJoinable = s.joinable ∧
      s.joined = 0
  | .thandle created =>
    (s.thread = .unborn ↔ created = false) ∧ (created = false → s.mRefCount = 2) ∧
      s.mJoinable = s.joinable ∧ s.joined = 0
  | .testThandle =>
    (s.thread = .unborn ↔ s.mThandle = false) ∧ (s.mThandle = false → s.mRefCount = 2) ∧
      s.mJoinable = s.joinable ∧ s.joined = 0
  | .failRunnable => s.thread = .unborn ∧ s.mRefCount = 2 ∧ s.joined = 0
  | .failJoinable | .failRefCount =>
    s.thread = .unborn ∧ s.mRefCount = 2 ∧ s.mRunnable = false ∧ s.joined = 0
  | .check =>
    (s.thread = .unborn → s.mRunnable = false) ∧
      (s.thread ≠ .unborn → s.mJoinable = s.joinable) ∧ s.joined = 0
  | .setName | .detach | .started | .bye | .stop | .stopRunnable | .testJoinable =>
    s.thread ≠ .unborn ∧ s.mJoinable = s.joinable ∧ s.joined = 0
  | .clearJoinable | .join => s.thread ≠ .unborn ∧ s.joinable = true ∧ s.joined = 0
  | .destroy _ | .done => s.joined = 0 ∨ s.joined = 1 ∧ s.joinable = true ∧ s.thread = .done

/-- What holds whatever the order of the steps. -/
structure Sound (s : LocThread) : Prop where
  counted : s.counted.Valid s.ref
  fits : s.Fits
  faultless : s.fault = false
  undeleted : s.thread.through = false → s.deleted = 0
  deleted : s.deleted ≤ 1

theorem sound_init (joinable : Bool) : (init joinable).Sound := by
  refine ⟨⟨fun i => ?_, rfl, rfl, fun i hi => ?_⟩, ⟨rfl, rfl, rfl, rfl, rfl⟩, rfl, fun _ => rfl,
    Nat.zero_le _⟩
  · cases i <;> exact ⟨nofun, nofun⟩
  · cases i <;> cases hi

/-- A step of the new thread is none of the parent's business. -/
theorem Fits.threadStep (h : s.Fits) (hborn : s.thread ≠ .unborn) (hdone : s.thread ≠ .done)
    (hborn' : s'.thread ≠ .unborn) (hparent : s'.parent = s.parent)
    (hjoinable : s'.joinable = s.joinable) (hmJoinable : s'.mJoinable = s.mJoinable)
    (hmThandle : s'.mThandle = s.mThandle) (hjoined : s'.joined = s.joined) : s'.Fits := by
  unfold Fits at h ⊢
  rw [hparent, hjoinable, hmJoinable, hmThandle, hjoined]
  cases hp : s.parent with
  | creator | failRunnable | failJoinable | failRefCount =>
    rw [hp] at h
    exact absurd h.1 hborn
  | thandle created =>
    rw [hp] at h
    obtain ⟨hcreated, -, hrest⟩ := h
    have htrue : created ≠ false := fun hc => hborn (hcreated.mpr hc)
    exact ⟨⟨fun hu => absurd hu hborn', fun hc => absurd hc htrue⟩, fun hc => absurd hc htrue, hrest⟩
  | testThandle =>
    rw [hp] at h
    obtain ⟨hthandle, -, hrest⟩ := h
    have htrue : s.mThandle ≠ false := fun hc => hborn (hthandle.mpr hc)
    exact ⟨⟨fun hu => absurd hu hborn', fun hc => absurd hc htrue⟩, fun hc => absurd hc htrue, hrest⟩
  | check =>
    rw [hp] at h
    exact ⟨fun hu => absurd hu hborn', fun _ => h.2.1 hborn, h.2.2⟩
  | setName | detach | started | bye | stop | stopRunnable | testJoinable | clearJoinable | join =>
    rw [hp] at h
    exact ⟨hborn', h.2⟩
  | destroy d | done =>
    rw [hp] at h
    rcases h with hzero | ⟨-, -, hd⟩
    · exact .inl hzero
    · exact absurd hd hdone

/-- The runnable is not going to be deleted by the new thread. -/
def Lost (s : LocThread) : Prop :=
  s.thread = .read ∧ s.mRunnable = false ∨ s.thread.through = true ∧ s.deleted = 0

/-- The thread is joinable, and it is not going to be joined. -/
def Unjoined (s : LocThread) : Prop :=
  s.joinable = true ∧ s.thread ≠ .unborn ∧ s.parent.leaving = true ∧ s.joined = 0

/-! ### The new thread -/

/-- The new thread goes on and keeps its reference. -/
theorem Sound.goOn (h : s.Sound) {m : Bool} {t : Thread} {n : ℕ} (hborn : s.thread ≠ .unborn)
    (hdone : s.thread ≠ .done) (href : s.ref .thread = .held)
    (ht : t.ref s.parent.constructing = .held) (hborn' : t ≠ .unborn)
    (hundeleted : t.through = false → n = 0) (hdeleted : n ≤ 1) :
    Sound { s with mRunnable := m, thread := t, deleted := n } := by
  refine ⟨?_, h.fits.threadStep hborn hdone hborn' rfl rfl rfl rfl rfl, h.faultless, hundeleted,
    hdeleted⟩
  have hsame : ref { s with mRunnable := m, thread := t, deleted := n } = s.ref := by
    refine (ref_thread _ t).trans ?_
    rw [ht, ← href]
    exact Function.update_eq_self _ _
  rw [hsame]
  exact h.counted

theorem Sound.threadStep (h : s.Sound) {again : Bool} (hst : s.threadStep again = some s') :
    s'.Sound ∧ (s'.Lost ↔ s.Lost) ∧ (s'.Unjoined ↔ s.Unjoined) := by
  have hunjoined (hborn : s.thread ≠ .unborn) {m : Bool} {t : Thread} {n : ℕ}
      (hborn' : t ≠ .unborn) :
      Unjoined { s with mRunnable := m, thread := t, deleted := n } ↔ s.Unjoined := by
    unfold Unjoined
    exact ⟨fun hu => ⟨hu.1, hborn, hu.2.2⟩, fun hu => ⟨hu.1, hborn', hu.2.2⟩⟩
  have hfree (href : s.ref .thread = .held) : s.freed = 0 :=
    h.counted.not_freed (by rw [href]; nofun) (by rw [href]; nofun)
  unfold LocThread.threadStep at hst
  cases ht : s.thread with
  | unborn | done => rw [ht] at hst; cases hst
  | read =>
    have href : s.ref .thread = .held := by rw [ref, ht]; rfl
    rw [ht, access_eq (hfree href)] at hst
    obtain rfl := Option.some.inj hst
    have hzero : s.deleted = 0 := h.undeleted (by rw [ht]; rfl)
    cases hm : s.mRunnable with
    | true =>
      refine ⟨h.goOn (by rw [ht]; nofun) (by rw [ht]; nofun) href rfl nofun (fun _ => hzero) h.deleted,
        ?_, hunjoined (by rw [ht]; nofun) nofun⟩
      simp [Lost, ht, hm, Thread.through]
    | false =>
      refine ⟨h.goOn (by rw [ht]; nofun) (by rw [ht]; nofun) href rfl nofun (fun _ => hzero) h.deleted,
        ?_, hunjoined (by rw [ht]; nofun) nofun⟩
      simp [Lost, ht, hm, Thread.through, hzero]
  | prerun =>
    have href : s.ref .thread = .held := by rw [ref, ht]; rfl
    have hzero : s.deleted = 0 := h.undeleted (by rw [ht]; rfl)
    rw [ht, access_eq (hfree href), use_eq hzero] at hst
    simp only [ite_self] at hst
    obtain rfl := Option.some.inj hst
    refine ⟨h.goOn (by rw [ht]; nofun) (by rw [ht]; nofun) href rfl nofun (fun _ => hzero) h.deleted,
      ?_, hunjoined (by rw [ht]; nofun) nofun⟩
    simp [Lost, ht, Thread.through]
  | run =>
    have href : s.ref .thread = .held := by rw [ref, ht]; rfl
    have hzero : s.deleted = 0 := h.undeleted (by rw [ht]; rfl)
    rw [ht, access_eq (hfree href), use_eq hzero] at hst
    have hgo (t : Thread) (hr : t = .run ∨ t = .postrun) :
        Sound { s with thread := t } ∧ (Lost { s with thread := t } ↔ s.Lost) ∧
          (Unjoined { s with thread := t } ↔ s.Unjoined) := by
      rcases hr with rfl | rfl
      · refine ⟨h.goOn (by rw [ht]; nofun) (by rw [ht]; nofun) href rfl nofun (fun _ => hzero)
          h.deleted, ?_, hunjoined (by rw [ht]; nofun) nofun⟩
        simp [Lost, ht, Thread.through]
      · refine ⟨h.goOn (by rw [ht]; nofun) (by rw [ht]; nofun) href rfl nofun (fun _ => hzero)
          h.deleted, ?_, hunjoined (by rw [ht]; nofun) nofun⟩
        simp [Lost, ht, Thread.through]
    cases hm : s.mRunnable with
    | true =>
      rw [hm] at hst
      obtain rfl := Option.some.inj hst
      exact hgo (if again then .run else .postrun) (by cases again <;> simp)
    | false =>
      rw [hm] at hst
      obtain rfl := Option.some.inj hst
      exact hgo _ (.inr rfl)
  | postrun =>
    have href : s.ref .thread = .held := by rw [ref, ht]; rfl
    have hzero : s.deleted = 0 := h.undeleted (by rw [ht]; rfl)
    rw [ht, access_eq (hfree href), use_eq hzero] at hst
    simp only [ite_self] at hst
    obtain rfl := Option.some.inj hst
    refine ⟨h.goOn (by rw [ht]; nofun) (by rw [ht]; nofun) href rfl nofun (fun _ => hzero) h.deleted,
      ?_, hunjoined (by rw [ht]; nofun) nofun⟩
    simp [Lost, ht, Thread.through]
  | clear =>
    have href : s.ref .thread = .held := by rw [ref, ht]; rfl
    have hzero : s.deleted = 0 := h.undeleted (by rw [ht]; rfl)
    rw [ht, access_eq (hfree href)] at hst
    obtain rfl := Option.some.inj hst
    refine ⟨h.goOn (by rw [ht]; nofun) (by rw [ht]; nofun) href rfl nofun (fun _ => hzero) h.deleted,
      ?_, hunjoined (by rw [ht]; nofun) nofun⟩
    simp [Lost, ht, Thread.through]
  | deleteRunnable =>
    have href : s.ref .thread = .held := by rw [ref, ht]; rfl
    have hzero : s.deleted = 0 := h.undeleted (by rw [ht]; rfl)
    rw [ht, use_eq hzero] at hst
    obtain rfl := Option.some.inj hst
    refine ⟨h.goOn (by rw [ht]; nofun) (by rw [ht]; nofun) href rfl nofun nofun
      (by rw [hzero]), ?_, hunjoined (by rw [ht]; nofun) nofun⟩
    simp [Lost, ht, Thread.through]
  | destroy d =>
    rw [ht] at hst
    obtain ⟨⟨t, d'⟩, hd, rfl⟩ := Option.map_eq_some_iff.mp hst
    have href : s.ref .thread = d.ref := by rw [ref, ht]; rfl
    obtain ⟨mutex, refCount, freed, rfl, hvalid⟩ := destroy_spec h.counted href hd
    refine ⟨⟨?_, ?_, h.faultless, ?_, h.deleted⟩, ?_, ?_⟩
    · rw [← Thread.ref_ofDestroy s.parent.constructing d'] at hvalid
      exact (ref_thread _ (.ofDestroy d')).symm ▸ hvalid
    · exact h.fits.threadStep (by rw [ht]; nofun) (by rw [ht]; nofun) (Thread.ofDestroy_ne_unborn d')
        rfl rfl rfl rfl rfl
    · intro hnot
      rw [Thread.through_ofDestroy] at hnot
      cases hnot
    · have hread : Thread.ofDestroy d' ≠ .read := by cases d' <;> nofun
      have hthrough := Thread.through_ofDestroy d'
      unfold Lost
      simp only [hthrough, ht, true_and]
      exact ⟨fun hl => hl.elim (fun hr => absurd hr.1 hread) fun hz => .inr ⟨rfl, hz⟩,
        fun hl => hl.elim (fun hr => by cases hr.1) fun hz => .inr hz.2⟩
    · exact ⟨fun hu => ⟨hu.1, by rw [ht]; nofun, hu.2.2⟩,
        fun hu => ⟨hu.1, Thread.ofDestroy_ne_unborn d', hu.2.2⟩⟩

/-! ### The parent -/

/-- Neither has been lost: the runnable is going to be deleted, and the thread joined. -/
def Kept (s : LocThread) : Prop := ¬ s.Lost ∧ ¬ s.Unjoined

theorem kept_iff {e : Input} (hlost : s'.Lost ↔ s.Lost) (hunjoined : s'.Unjoined ↔ s.Unjoined)
    (hin : s.InTime e) : s'.Kept ↔ s.Kept ∧ s.InTime e := by
  unfold Kept
  rw [hlost, hunjoined]
  exact (and_iff_left hin).symm

/-- The parent goes on and keeps its reference. -/
theorem Sound.parentOn (h : s.Sound) {m j th : Bool} {p : Parent} {n : ℕ}
    (href : s.parent.ref = .held) (hp : p.ref = .held)
    (hcon : s.thread = .unborn → p.constructing = s.parent.constructing)
    (hfits : Fits { s with mRunnable := m, mJoinable := j, mThandle := th, parent := p, joined := n }) :
    Sound { s with mRunnable := m, mJoinable := j, mThandle := th, parent := p, joined := n } := by
  refine ⟨?_, hfits, h.faultless, h.undeleted, h.deleted⟩
  have hsame : ref { s with mRunnable := m, mJoinable := j, mThandle := th, parent := p, joined := n }
      = s.ref := by
    funext i
    cases i with
    | parent => exact hp.trans href.symm
    | thread =>
      show s.thread.ref p.constructing = s.thread.ref s.parent.constructing
      cases ht : s.thread with
      | unborn => rw [hcon ht]
      | read | prerun | run | postrun | clear | deleteRunnable | destroy _ | done => rfl
  rw [hsame]
  exact h.counted

theorem not_unjoined (hp : s.parent.leaving = false) : ¬ s.Unjoined := fun hu => by
  rw [hu.2.2.1] at hp
  cases hp

/-- A step that leads to no other race. -/
theorem Sound.parentKeeps (h : s.Sound) {j th : Bool} {p : Parent} (href : s.parent.ref = .held)
    (hp : p.ref = .held) (hcon : s.thread = .unborn → p.constructing = s.parent.constructing)
    (hfits : Fits { s with mJoinable := j, mThandle := th, parent := p })
    (hleaving : s.parent.leaving = false) (hleaving' : p.leaving = false)
    (hin : s.InTime .parent) :
    Sound { s with mJoinable := j, mThandle := th, parent := p } ∧
      (Kept { s with mJoinable := j, mThandle := th, parent := p } ↔
        s.Kept ∧ s.InTime .parent) :=
  ⟨h.parentOn href hp hcon hfits, kept_iff Iff.rfl
    (iff_of_false (not_unjoined hleaving') (not_unjoined hleaving)) hin⟩

/-- The parent gives the delegate up; a thread that is joinable has been joined. -/
theorem Sound.parentLeaves (h : s.Sound) {n : ℕ} (href : s.parent.ref = .held)
    (hcon : s.thread = .unborn → s.parent.constructing = false)
    (hfits : Fits { s with parent := .destroy .test, joined := n })
    (hleaving : s.parent.leaving = false) (hjoined : s.joinable = true → n ≠ 0)
    (hin : s.InTime .parent) :
    Sound { s with parent := .destroy .test, joined := n } ∧
      (Kept { s with parent := .destroy .test, joined := n } ↔ s.Kept ∧ s.InTime .parent) :=
  ⟨h.parentOn href rfl (fun hu => (hcon hu).symm) hfits, kept_iff Iff.rfl
    (iff_of_false (fun hu => hjoined hu.1 hu.2.2.2) (not_unjoined hleaving)) hin⟩

/-- The parent notices that there is no new thread. -/
theorem Sound.failRefCount (h : s.Sound) (hp : s.parent = .failRefCount) :
    Sound { s with mRefCount := 1, parent := .check } := by
  have hfits := h.fits
  rw [Fits, hp] at hfits
  obtain ⟨hborn, htwo, hnull, hjoined⟩ := hfits
  have href : s.ref .thread = .held := by rw [ref, hborn, hp]; rfl
  have hvalid := h.counted.forgo href (show 1 < s.mRefCount by omega)
  refine ⟨?_, ⟨fun _ => hnull, fun hnot => absurd hborn hnot, hjoined⟩, h.faultless, h.undeleted,
    h.deleted⟩
  have hone : s.mRefCount - 1 = 1 := by rw [htwo]
  have hnew : ref { s with mRefCount := 1, parent := .check } =
      Function.update s.ref .thread .gone := by
    funext i
    cases i with
    | parent =>
      rw [Function.update_of_ne (show Party.parent ≠ .thread by decide), ref, ref, hp]
      rfl
    | thread =>
      rw [Function.update_self, ref, hborn]
      rfl
  rw [hnew]
  rw [LocThread.counted, hone] at hvalid
  exact hvalid

theorem Sound.parentStep (h : s.Sound) (hst : s.parentStep = some s') :
    s'.Sound ∧ (s'.Kept ↔ s.Kept ∧ s.InTime .parent) := by
  have hfits := h.fits
  have hfree (href : s.parent.ref = .held) : s.access = s :=
    access_eq (h.counted.not_freed (i := .parent) (by rw [ref, href]; nofun)
      (by rw [ref, href]; nofun))
  unfold LocThread.parentStep at hst
  unfold Fits at hfits
  cases hp : s.parent with
  | creator | started | done => rw [hp] at hst; cases hst
  | thandle created =>
    have hin : s.InTime .parent := by rw [InTime, hp]; exact ⟨nofun, nofun⟩
    rw [hp, hfree (by rw [hp]; rfl)] at hst
    rw [hp] at hfits
    obtain rfl := Option.some.inj hst
    exact h.parentKeeps (by rw [hp]; rfl) rfl (fun _ => by rw [hp]; rfl) hfits (by rw [hp]; rfl) rfl hin
  | testThandle =>
    have hin : s.InTime .parent := by rw [InTime, hp]; exact ⟨nofun, nofun⟩
    rw [hp, hfree (by rw [hp]; rfl)] at hst
    rw [hp] at hfits
    obtain ⟨hborn, htwo, hjoinable, hjoined⟩ := hfits
    obtain rfl := Option.some.inj hst
    cases hth : s.mThandle with
    | true =>
      have hnot : s.thread ≠ .unborn := fun hu => by
        rw [hborn.mp hu] at hth
        cases hth
      exact h.parentKeeps (by rw [hp]; rfl) rfl (fun hu => absurd hu hnot) ⟨hnot, hjoinable, hjoined⟩
        (by rw [hp]; rfl) rfl hin
    | false =>
      exact h.parentKeeps (by rw [hp]; rfl) rfl (fun _ => by rw [hp]; rfl)
        ⟨hborn.mpr hth, htwo hth, hjoined⟩ (by rw [hp]; rfl) rfl hin
  | setName =>
    have hin : s.InTime .parent := by rw [InTime, hp]; exact ⟨nofun, nofun⟩
    rw [hp, hfree (by rw [hp]; rfl)] at hst
    rw [hp] at hfits
    obtain rfl := Option.some.inj hst
    cases hj : s.joinable with
    | true =>
      exact h.parentKeeps (by rw [hp]; rfl) rfl (fun _ => by rw [hp]; rfl)
        ⟨fun hu => absurd hu hfits.1, fun _ => hfits.2.1, hfits.2.2⟩ (by rw [hp]; rfl) rfl hin
    | false =>
      exact h.parentKeeps (by rw [hp]; rfl) rfl (fun _ => by rw [hp]; rfl) hfits (by rw [hp]; rfl)
        rfl hin
  | detach =>
    have hin : s.InTime .parent := by rw [InTime, hp]; exact ⟨nofun, nofun⟩
    rw [hp, hfree (by rw [hp]; rfl)] at hst
    rw [hp] at hfits
    obtain rfl := Option.some.inj hst
    exact h.parentKeeps (by rw [hp]; rfl) rfl (fun _ => by rw [hp]; rfl)
      ⟨fun hu => absurd hu hfits.1, fun _ => hfits.2.1, hfits.2.2⟩ (by rw [hp]; rfl) rfl hin
  | failRunnable =>
    have hin : s.InTime .parent := by rw [InTime, hp]; exact ⟨nofun, nofun⟩
    rw [hp, hfree (by rw [hp]; rfl)] at hst
    rw [hp] at hfits
    obtain rfl := Option.some.inj hst
    refine ⟨h.parentOn (by rw [hp]; rfl) rfl (fun _ => by rw [hp]; rfl)
      ⟨hfits.1, hfits.2.1, rfl, hfits.2.2⟩, kept_iff ?_ ?_ hin⟩
    · simp [Lost, hfits.1]
    · exact iff_of_false (fun hu => hu.2.1 hfits.1) fun hu => hu.2.1 hfits.1
  | failJoinable =>
    have hin : s.InTime .parent := by rw [InTime, hp]; exact ⟨nofun, nofun⟩
    rw [hp, hfree (by rw [hp]; rfl)] at hst
    rw [hp] at hfits
    obtain rfl := Option.some.inj hst
    exact h.parentKeeps (by rw [hp]; rfl) rfl (fun _ => by rw [hp]; rfl) hfits (by rw [hp]; rfl) rfl hin
  | failRefCount =>
    have hin : s.InTime .parent := by rw [InTime, hp]; exact ⟨nofun, nofun⟩
    rw [hp, hfree (by rw [hp]; rfl)] at hst
    rw [hp] at hfits
    obtain rfl := Option.some.inj hst
    exact ⟨h.failRefCount hp, kept_iff Iff.rfl
      (iff_of_false (fun hu => hu.2.1 hfits.1) fun hu => hu.2.1 hfits.1) hin⟩
  | check =>
    rw [hp, hfree (by rw [hp]; rfl)] at hst
    rw [hp] at hfits
    obtain ⟨hborn, hjoinable, hjoined⟩ := hfits
    obtain rfl := Option.some.inj hst
    cases hm : s.mRunnable with
    | true =>
      have hnot : s.thread ≠ .unborn := fun hu => by
        rw [hborn hu] at hm
        cases hm
      have hin : s.InTime .parent := ⟨fun hs => (by rw [hp] at hs; cases hs), fun _ _ _ => hm⟩
      exact h.parentKeeps (by rw [hp]; rfl) rfl (fun hu => absurd hu hnot)
        ⟨hnot, hjoinable hnot, hjoined⟩ (by rw [hp]; rfl) rfl hin
    | false =>
      refine ⟨h.parentOn (by rw [hp]; rfl) rfl (fun _ => by rw [hp]; rfl) (.inl hjoined), ?_⟩
      -- a joinable thread is not joined any more
      have hin : s.InTime .parent ↔ ¬ (s.joinable = true ∧ s.thread ≠ .unborn) := by
        rw [InTime, hp, hm]
        exact ⟨fun hi hu => absurd (hi.2 rfl hu.1 hu.2) (by decide),
          fun hu => ⟨nofun, fun _ hj hb => absurd ⟨hj, hb⟩ hu⟩⟩
      rw [hin]
      have hun : ¬ s.Unjoined := not_unjoined (by rw [hp]; rfl)
      exact ⟨fun hk => ⟨⟨hk.1, hun⟩, fun hu => hk.2 ⟨hu.1, hu.2, rfl, hjoined⟩⟩,
        fun hk => ⟨hk.1.1, fun hu => hk.2 ⟨hu.1, hu.2.1⟩⟩⟩
  | bye =>
    have hin : s.InTime .parent := by rw [InTime, hp]; exact ⟨nofun, nofun⟩
    rw [hp, hfree (by rw [hp]; rfl)] at hst
    rw [hp] at hfits
    obtain rfl := Option.some.inj hst
    cases hj : s.mJoinable with
    | true =>
      exact h.parentKeeps (by rw [hp]; rfl) rfl (fun _ => by rw [hp]; rfl) hfits (by rw [hp]; rfl)
        rfl hin
    | false =>
      refine h.parentLeaves (by rw [hp]; rfl) (fun _ => by rw [hp]; rfl) (.inl hfits.2.2)
        (by rw [hp]; rfl) (fun hjoin => ?_) hin
      rw [← hfits.2.1, hj] at hjoin
      cases hjoin
  | stop =>
    have hin : s.InTime .parent := by rw [InTime, hp]; exact ⟨nofun, nofun⟩
    rw [hp, hfree (by rw [hp]; rfl)] at hst
    rw [hp] at hfits
    obtain rfl := Option.some.inj hst
    cases hm : s.mRunnable with
    | true =>
      exact h.parentKeeps (by rw [hp]; rfl) rfl (fun _ => by rw [hp]; rfl) hfits (by rw [hp]; rfl)
        rfl hin
    | false =>
      exact h.parentKeeps (by rw [hp]; rfl) rfl (fun _ => by rw [hp]; rfl) hfits (by rw [hp]; rfl)
        rfl hin
  | stopRunnable =>
    rw [hp, hfree (by rw [hp]; rfl)] at hst
    rw [hp] at hfits
    obtain rfl := Option.some.inj hst
    refine ⟨h.parentOn (by rw [hp]; rfl) rfl (fun _ => by rw [hp]; rfl) hfits, ?_⟩
    -- what the new thread has not read yet it does not get any more
    have hin : s.InTime .parent ↔ s.thread ≠ .read := by
      rw [InTime, hp]
      exact ⟨fun hi => hi.1 rfl, fun hread => ⟨fun _ => hread, nofun⟩⟩
    have hun : ¬ s.Unjoined := not_unjoined (by rw [hp]; rfl)
    rw [hin]
    refine ⟨fun hk => ⟨⟨fun hl => ?_, hun⟩, fun hread => hk.1 (.inl ⟨hread, rfl⟩)⟩,
      fun hk => ⟨fun hl => ?_, not_unjoined rfl⟩⟩
    · exact hk.1 (hl.imp (fun hr => ⟨hr.1, rfl⟩) id)
    · exact hl.elim (fun hr => hk.2 hr.1) fun hz => hk.1.1 (.inr hz)
  | testJoinable =>
    have hin : s.InTime .parent := by rw [InTime, hp]; exact ⟨nofun, nofun⟩
    rw [hp, hfree (by rw [hp]; rfl)] at hst
    rw [hp] at hfits
    obtain rfl := Option.some.inj hst
    cases hj : s.mJoinable with
    | true =>
      exact h.parentKeeps (by rw [hp]; rfl) rfl (fun _ => by rw [hp]; rfl)
        ⟨hfits.1, hfits.2.1.symm.trans hj, hfits.2.2⟩ (by rw [hp]; rfl) rfl hin
    | false =>
      refine h.parentLeaves (by rw [hp]; rfl) (fun _ => by rw [hp]; rfl) (.inl hfits.2.2)
        (by rw [hp]; rfl) (fun hjoin => ?_) hin
      rw [← hfits.2.1, hj] at hjoin
      cases hjoin
  | clearJoinable =>
    have hin : s.InTime .parent := by rw [InTime, hp]; exact ⟨nofun, nofun⟩
    rw [hp, hfree (by rw [hp]; rfl)] at hst
    rw [hp] at hfits
    obtain rfl := Option.some.inj hst
    exact h.parentKeeps (by rw [hp]; rfl) rfl (fun _ => by rw [hp]; rfl) hfits (by rw [hp]; rfl) rfl hin
  | join =>
    have hin : s.InTime .parent := by rw [InTime, hp]; exact ⟨nofun, nofun⟩
    rw [hp, hfree (by rw [hp]; rfl)] at hst
    rw [hp] at hfits
    obtain ⟨hdone, hst⟩ := Option.ite_none_right_eq_some.mp hst
    obtain rfl := Option.some.inj hst
    rw [hfits.2.2]
    exact h.parentLeaves (by rw [hp]; rfl) (fun _ => by rw [hp]; rfl)
      (.inr ⟨rfl, hfits.2.1, hdone⟩) (by rw [hp]; rfl) (fun _ => Nat.one_ne_zero) hin
  | destroy d =>
    have hin : s.InTime .parent := by rw [InTime, hp]; exact ⟨nofun, nofun⟩
    rw [hp] at hst hfits
    obtain ⟨⟨t, d'⟩, hd, rfl⟩ := Option.map_eq_some_iff.mp hst
    have href : s.ref .parent = d.ref := by rw [ref, hp]; rfl
    obtain ⟨mutex, refCount, freed, rfl, hvalid⟩ := destroy_spec h.counted href hd
    have hcon : (Parent.ofDestroy d').constructing = s.parent.constructing := by
      rw [Parent.constructing_ofDestroy, hp]
      rfl
    refine ⟨⟨?_, ?_, h.faultless, h.undeleted, h.deleted⟩, kept_iff Iff.rfl ?_ hin⟩
    · rw [← Parent.ref_ofDestroy d'] at hvalid
      exact (ref_parent _ (.ofDestroy d') hcon).symm ▸ hvalid
    · cases d' <;> exact hfits
    · unfold Unjoined
      rw [Parent.leaving_ofDestroy, hp]
      rfl

/-! ### Runs -/

theorem Sound.step (h : s.Sound) {e : Input} (hst : s.step e = some s') :
    s'.Sound ∧ (s'.Kept ↔ s.Kept ∧ s.InTime e) := by
  cases e with
  | created created =>
    obtain ⟨hp, hst⟩ := Option.ite_none_right_eq_some.mp hst
    obtain rfl := Option.some.inj hst
    have hfits := h.fits
    rw [Fits, hp] at hfits
    obtain ⟨hborn, hm, htwo, hjoinable, hjoined⟩ := hfits
    have hsame : ref { s with
        parent := .thandle created
        thread := if created then .read else .unborn } = s.ref := by
      funext i
      cases i with
      | parent => rw [ref, ref, hp]; rfl
      | thread =>
        rw [ref, ref, hp, hborn]
        cases created <;> rfl
    refine ⟨⟨hsame.symm ▸ h.counted, ?_, h.faultless, fun _ => h.undeleted (by rw [hborn]; rfl),
      h.deleted⟩, kept_iff ?_ ?_ trivial⟩
    · cases created with
      | true => exact ⟨⟨nofun, nofun⟩, nofun, hjoinable, hjoined⟩
      | false => exact ⟨⟨fun _ => rfl, fun _ => rfl⟩, fun _ => htwo, hjoinable, hjoined⟩
    · cases created <;> simp [Lost, hborn, hm, Thread.through]
    · exact iff_of_false (not_unjoined rfl) (not_unjoined (by rw [hp]; rfl))
  | release stop =>
    obtain ⟨hp, hst⟩ := Option.ite_none_right_eq_some.mp hst
    obtain rfl := Option.some.inj hst
    have hfits := h.fits
    rw [Fits, hp] at hfits
    have hgo (p : Parent) (hstop : p = .stop ∨ p = .bye) :
        Sound { s with parent := p } ∧
          (Kept { s with parent := p } ↔ s.Kept ∧ s.InTime (.release stop)) := by
      rcases hstop with rfl | rfl
      all_goals
        refine ⟨h.parentOn (by rw [hp]; rfl) rfl (fun _ => by rw [hp]; rfl) hfits,
          kept_iff Iff.rfl (iff_of_false (not_unjoined rfl) (not_unjoined (by rw [hp]; rfl)))
          trivial⟩
    cases stop with
    | true => exact hgo .stop (.inl rfl)
    | false => exact hgo .bye (.inr rfl)
  | parent => exact h.parentStep hst
  | thread again =>
    obtain ⟨hsound, hlost, hunjoined⟩ := h.threadStep hst
    exact ⟨hsound, kept_iff hlost hunjoined trivial⟩

variable {joinable : Bool} {es : List Input}

theorem sound_of_run (h : (system joinable).Run System.Free es s) : s.Sound :=
  h.invariant (sound_init joinable) fun _ _ _ hs _ hst => (Sound.step hs hst).1

theorem kept_init (joinable : Bool) : (init joinable).Kept := by
  refine ⟨fun hl => ?_, not_unjoined rfl⟩
  rcases hl with ⟨hread, -⟩ | ⟨hthrough, -⟩
  · cases hread
  · cases hthrough

/-- What has been lost stays lost: the runs without a lost race are those in which nothing is. -/
theorem kept_iff_run (h : (system joinable).Run System.Free es s) :
    s.Kept ↔ (system joinable).Run InTime es s := by
  constructor
  · induction h with
    | nil => exact fun _ => .nil
    | snoc hrun _ hst ih =>
      intro hk
      obtain ⟨hk, hin⟩ := ((sound_of_run hrun).step hst).2.mp hk
      exact .snoc (ih hk) hin hst
  · intro hrun
    refine (hrun.invariant (I := fun s => s.Sound ∧ s.Kept) ⟨sound_init joinable, kept_init joinable⟩
      fun s e s' hI hin hst => ?_).2
    obtain ⟨hsound, hkept⟩ := hI.1.step hst
    exact ⟨hsound, hkept.mpr ⟨hI.2, hin⟩⟩

/-- Nobody waits for a mutex that is not going to be unlocked, and the new thread does not wait for
the parent. -/
theorem progress (h : (system joinable).Run System.Free es s) (hnot : ¬ s.Finished) :
    ∃ e s', s.step e = some s' := by
  have hs := sound_of_run h
  by_cases hthrough : s.thread = .unborn ∨ s.thread = .done
  · -- the parent is on its own
    have hout (i : Party) (hi : s.mMutex = some i) : (s.ref i).inside = true :=
      (hs.counted.mutex i).mpr hi
    have hthread : (s.ref .thread).inside = false := by
      rcases hthrough with hu | hd
      · rw [ref, hu, Thread.ref]
        split <;> rfl
      · rw [ref, hd]
        rfl
    cases hp : s.parent with
    | creator => exact ⟨.created true, _, if_pos hp⟩
    | started => exact ⟨.release true, _, if_pos hp⟩
    | done => exact absurd ⟨hp, hthrough⟩ hnot
    | join =>
      have hfits := hs.fits
      rw [Fits, hp] at hfits
      have hdone : s.thread = .done := hthrough.resolve_left hfits.1
      refine ⟨.parent, { s.access with joined := s.joined + 1, parent := .destroy .test }, ?_⟩
      rw [LocThread.step, parentStep, hp]
      exact if_pos hdone
    | destroy d =>
      have hgo (q : LocThread × Option Destroy) (hd : s.destroy .parent d = some q) :
          ∃ e s', s.step e = some s' := by
        refine ⟨.parent, { q.1 with parent := .ofDestroy q.2 }, ?_⟩
        rw [LocThread.step, parentStep, hp]
        exact congrArg (Option.map _) hd
      cases d with
      | lock =>
        refine hgo _ (if_pos (Option.eq_none_iff_forall_ne_some.mpr fun i hi => ?_))
        have hin := hout i hi
        cases i with
        | parent => rw [ref, hp] at hin; cases hin
        | thread => rw [hthread] at hin; cases hin
      | test | decrement | unlock _ | delete _ => exact hgo _ rfl
    | thandle _ | testThandle | setName | detach | failRunnable | failJoinable | failRefCount | check
    | bye | stop | stopRunnable | testJoinable | clearJoinable =>
      refine ⟨.parent, ?_⟩
      rw [LocThread.step, parentStep, hp]
      exact ⟨_, rfl⟩
  · cases ht : s.thread with
    | unborn => exact absurd (.inl ht) hthrough
    | done => exact absurd (.inr ht) hthrough
    | read | prerun | postrun | clear | deleteRunnable =>
      refine ⟨.thread true, ?_⟩
      rw [LocThread.step, threadStep, ht]
      exact ⟨_, rfl⟩
    | run =>
      refine ⟨.thread true, ?_⟩
      rw [LocThread.step, threadStep, ht]
      simp only
      split <;> exact ⟨_, rfl⟩
    | destroy d =>
      have hgo (q : LocThread × Option Destroy) (hd : s.destroy .thread d = some q) :
          ∃ e s', s.step e = some s' := by
        refine ⟨.thread true, { q.1 with thread := .ofDestroy q.2 }, ?_⟩
        rw [LocThread.step, threadStep, ht]
        exact congrArg (Option.map _) hd
      cases d with
      | lock =>
        by_cases hm : s.mMutex = none
        · exact hgo _ (if_pos hm)
        · -- the parent is in the critical section, and can leave it
          obtain ⟨i, hi⟩ := Option.ne_none_iff_exists'.mp hm
          have hin : (s.ref i).inside = true := (hs.counted.mutex i).mpr hi
          cases i with
          | thread => rw [ref, ht] at hin; cases hin
          | parent =>
            cases hp : s.parent with
            | destroy d' =>
              rw [ref, hp] at hin
              have hd : ∃ q, s.destroy .parent d' = some q := by
                cases d' with
                | test | lock | delete _ => cases hin
                | decrement | unlock _ => exact ⟨_, rfl⟩
              obtain ⟨q, hd⟩ := hd
              refine ⟨.parent, { q.1 with parent := .ofDestroy q.2 }, ?_⟩
              rw [LocThread.step, parentStep, hp]
              exact congrArg (Option.map _) hd
            | creator | thandle _ | testThandle | setName | detach | failRunnable | failJoinable
            | failRefCount | check | started | bye | stop | stopRunnable | testJoinable
            | clearJoinable | join | done => rw [ref, hp] at hin; cases hin
      | test | decrement | unlock _ | delete _ => exact hgo _ rfl

/-! ### What becomes of it all -/

/-- The thread is joined at most once, and only one that is joinable. -/
theorem Sound.joined (h : s.Sound) :
    s.joined = 0 ∨ s.joined = 1 ∧ s.joinable = true := by
  have hfits := h.fits
  unfold Fits at hfits
  cases hp : s.parent with
  | creator => rw [hp] at hfits; exact .inl hfits.2.2.2.2
  | thandle _ | testThandle | failJoinable | failRefCount =>
    rw [hp] at hfits
    exact .inl hfits.2.2.2
  | failRunnable | check | setName | detach | started | bye | stop | stopRunnable | testJoinable
  | clearJoinable | join =>
    rw [hp] at hfits
    exact .inl hfits.2.2
  | destroy _ | done =>
    rw [hp] at hfits
    exact hfits.imp id fun hj => ⟨hj.1, hj.2.1⟩

/-- A thread that is going to be joined has been joined, once the parent leaves. -/
theorem Sound.joined_of_leaving (h : s.Sound) (hk : s.Kept) (hjoinable : s.joinable = true)
    (hborn : s.thread ≠ .unborn) (hleaving : s.parent.leaving = true) : s.joined = 1 :=
  h.joined.elim (fun hz => absurd ⟨hjoinable, hborn, hleaving, hz⟩ hk.2) And.left

/-- Who has freed the delegate has done so after the parent was through with it. -/
theorem Sound.leaving_of_freed (h : s.Sound) (hfreed : s.freed = 1) : s.parent.leaving = true := by
  by_contra hnot
  have href : s.ref .parent = .held := by
    rw [ref]
    cases hp : s.parent with
    | destroy _ | done => rw [hp] at hnot; exact absurd rfl hnot
    | creator | thandle _ | testThandle | setName | detach | failRunnable | failJoinable
    | failRefCount | check | started | bye | stop | stopRunnable | testJoinable | clearJoinable
    | join => rfl
  have hzero : s.freed = 0 := h.counted.not_freed (i := .parent) (by rw [href]; nofun)
    (by rw [href]; nofun)
  omega

theorem Sound.freed_of_finished (h : s.Sound) (hfin : s.Finished) : s.freed = 1 := by
  refine h.counted.freed_of_gone fun i => ?_
  cases i with
  | parent => rw [ref, hfin.1]; rfl
  | thread =>
    rw [ref, hfin.1]
    rcases hfin.2 with ht | ht <;> rw [ht] <;> rfl

theorem Sound.owned (h : s.Sound) (hk : s.Kept) : s.Owned := by
  have hjoined : s.joined ≤ if s.joinable then 1 else 0 := by
    rcases h.joined with hz | ⟨hone, hjoinable⟩
    · rw [hz]
      exact Nat.zero_le _
    · rw [hone, hjoinable, if_pos rfl]
  refine ⟨h.faultless, h.counted.freed_le_one, h.deleted, hjoined, fun hborn hjoinable hfreed => ?_,
    fun hfin => ⟨h.freed_of_finished hfin, fun hborn => ⟨?_, ?_⟩⟩⟩
  · exact h.joined_of_leaving hk hjoinable hborn (h.leaving_of_freed hfreed)
  · have hdone : s.thread = .done := hfin.2.resolve_left hborn
    have hne : s.deleted ≠ 0 := fun hz => hk.1 (.inr ⟨by rw [hdone]; rfl, hz⟩)
    have hle := h.deleted
    omega
  · cases hjoinable : s.joinable with
    | true => exact h.joined_of_leaving hk hjoinable hborn (by rw [hfin.1]; rfl)
    | false =>
      rw [hjoinable] at hjoined
      exact Nat.le_zero.mp hjoined

/-- In the end it shows what has been lost. -/
theorem Owned.kept (h : s.Owned) (hfin : s.Finished) : s.Kept := by
  constructor
  · rintro (⟨hread, -⟩ | ⟨hthrough, hz⟩)
    · rcases hfin.2 with ht | ht <;> rw [ht] at hread <;> cases hread
    · have hborn : s.thread ≠ .unborn := fun hu => by
        rw [hu] at hthrough
        cases hthrough
      have hone := ((h.finished hfin).2 hborn).1
      omega
  · rintro ⟨hjoinable, hborn, -, hz⟩
    have hone := ((h.finished hfin).2 hborn).2
    rw [hjoinable, hz] at hone
    cases hone

/-- **Ownership.**  In a run without a lost race, delegate, runnable and thread are disposed of as
they should be; a run that is finished and in which they are has lost no race. -/
theorem owned_iff_inTime (h : (system joinable).Run System.Free es s) :
    ((system joinable).Run InTime es s → s.Owned) ∧
      (s.Finished → (s.Owned ↔ (system joinable).Run InTime es s)) := by
  have hs := sound_of_run h
  have hkeeps : (system joinable).Run InTime es s → s.Owned := fun hrun =>
    hs.owned ((kept_iff_run h).mpr hrun)
  exact ⟨hkeeps, fun hfin => ⟨fun howned => (kept_iff_run h).mp (howned.kept hfin), hkeeps⟩⟩

/-! ### Runs on fixed inputs -/

instance (s : LocThread) : ∀ e, Decidable (s.InTime e)
  | .parent => inferInstanceAs (Decidable (_ ∧ _))
  | .created _ | .release _ | .thread _ => inferInstanceAs (Decidable True)

/-- A joinable thread is created, runs the runnable twice and is stopped. -/
def stoppedRun : List Input :=
  [.created true, .thread true, .parent, .parent, .parent, .parent, .thread true, .thread true,
    .release true, .parent, .parent, .thread true, .thread true, .thread true, .thread true,
    .thread true, .thread true, .thread true, .thread true, .thread true, .parent, .parent, .parent,
    .parent, .parent, .parent, .parent, .parent]

theorem owned_stopped : ∃ s, (system true).Run System.Free stoppedRun s ∧ s.Finished ∧ s.Owned := by
  have hrun : (system true).Run InTime stoppedRun _ := System.run_guarded rfl
  exact ⟨_, hrun.free, ⟨rfl, .inr rfl⟩, (owned_iff_inTime hrun.free).1 hrun⟩

/-- The parent stops the thread before that has got hold of the runnable, which nobody deletes. -/
theorem runnable_not_deleted :
    ∃ s, (system true).Run System.Free [.created true, .parent, .parent, .parent, .parent,
        .release true, .parent, .parent, .thread true, .thread true, .thread true, .thread true,
        .thread true, .thread true, .parent, .parent, .parent, .parent, .parent, .parent, .parent,
        .parent] s ∧ s.Finished ∧ s.freed = 1 ∧ s.deleted = 0 ∧ ¬ s.Owned := by
  refine ⟨_, System.run_foldlM rfl, ⟨rfl, .inr rfl⟩, rfl, rfl, fun h => ?_⟩
  have hone := ((h.finished ⟨rfl, .inr rfl⟩).2 nofun).1
  cases hone

end LocThread

end GpsHal
