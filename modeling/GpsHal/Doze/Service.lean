import GpsHal.Transition.Basic
import Mathlib.Data.Int.Notation
import Mathlib.Logic.Function.Basic

/-!
# `DozeService` : gestures while the display is off

While it runs, the service listens to the proximity sensor and to the tilt sensor as long as the
display is off and a gesture that needs them is enabled, and a gesture wakes the device or launches a
pulse (`doze/src/org/lineageos/settings/doze`).  A sensor object is made with the service; it registers
and unregisters its listener by tasks of an executor of its own, which may run late, even after the
service has been destroyed and another one made.  Sensor objects are told apart by numbers.

## Main definitions

* `DozePrefs`, `SensorListener`, `ProximitySensor`, `TiltSensor` : the preferences and the sensors.
* `DozeSystem.step`, `DozeSystem.system` : settings, service, display, executors and sensor events.
* `DozeSystem.Matches` : the listeners will be registered exactly when they should.
* `ProximityEvent.launched` : what a sequence of events of the proximity sensor should launch.
-/

namespace GpsHal

/-! ### Preferences -/

/-- What `DozeUtils` reads from the settings. -/
structure DozePrefs where
  dozeEnabled : Bool
  wakeOnGesture : Bool
  pickUp : Bool
  handwave : Bool
  pocket : Bool
  deriving DecidableEq, Repr

inductive DozeOutput
  | wakeUp
  | launchDozePulse
  deriving DecidableEq, Repr

inductive SensorKind
  | proximity
  | tilt
  deriving DecidableEq, Repr

namespace DozePrefs

def sensorsEnabled (p : DozePrefs) : Bool := p.pickUp || p.handwave || p.pocket

def wakeOrLaunchDozePulse (p : DozePrefs) : DozeOutput :=
  if p.wakeOnGesture then .wakeUp else .launchDozePulse

/-- A gesture that needs the sensor is enabled. -/
def needs (p : DozePrefs) : SensorKind → Bool
  | .proximity => p.handwave || p.pocket
  | .tilt => p.pickUp

end DozePrefs

/-! ### Sensors -/

/-- A task of the executor: the body of `enable` or of `disable`. -/
inductive SensorTask
  | enable
  | disable
  deriving DecidableEq, Repr

/-- The tasks that have been submitted, and whether the listener is registered now. -/
structure SensorListener where
  tasks : List SensorTask
  registered : Bool
  deriving DecidableEq, Repr

namespace SensorListener

def new : SensorListener := ⟨[], false⟩

def submit (l : SensorListener) (task : SensorTask) : SensorListener :=
  { l with tasks := l.tasks ++ [task] }

/-- The listener is registered when its tasks have been run. -/
def settled (l : SensorListener) : Bool :=
  l.tasks.foldl (fun _ task => match task with | .enable => true | .disable => false) l.registered

end SensorListener

def HANDWAVE_MAX_DELTA_NS : ℤ := 1000 * 1000 * 1000

def POCKET_MIN_DELTA_NS : ℤ := 2000 * 1000 * 1000

def MIN_PULSE_INTERVAL_MS : ℤ := 2500

/-- The difference of two numbers of type `long`. -/
def longSub (a b : ℤ) : ℤ := (a - b).bmod (0x10000000000000000)

structure ProximitySensor where
  mSawNear : Bool
  mInPocketTime : ℤ
  deriving DecidableEq, Repr

namespace ProximitySensor

def new : ProximitySensor := ⟨false, 0⟩

def shouldPulse (s : ProximitySensor) (prefs : DozePrefs) (timestamp : ℤ) : Bool :=
  let delta := longSub timestamp s.mInPocketTime
  if prefs.handwave && prefs.pocket then true
  else if prefs.handwave then decide (delta < HANDWAVE_MAX_DELTA_NS)
  else if prefs.pocket then decide (POCKET_MIN_DELTA_NS ≤ delta)
  else false

/-- `onSensorChanged`, with what it launches. -/
def onSensorChanged (s : ProximitySensor) (prefs : DozePrefs) (isNear : Bool) (timestamp : ℤ) :
    ProximitySensor × Option DozeOutput :=
  if s.mSawNear && !isNear then
    ({ s with mSawNear := isNear },
      if s.shouldPulse prefs timestamp then some prefs.wakeOrLaunchDozePulse else none)
  else (⟨isNear, timestamp⟩, none)

end ProximitySensor

/-- How far the executor is in the body of `enable`. -/
inductive TiltThread
  | idle
  | registered
  /-- `SystemClock.elapsedRealtime()` has been read. -/
  | read (now : ℕ)
  deriving DecidableEq, Repr

structure TiltSensor where
  mEntryTimestamp : ℕ
  thread : TiltThread
  deriving DecidableEq, Repr

namespace TiltSensor

def new : TiltSensor := ⟨0, .idle⟩

/-- `onSensorChanged`, with what it launches.  The clock is read at `now` and again at `later`. -/
def onSensorChanged (s : TiltSensor) (prefs : DozePrefs) (tilted : Bool) (now later : ℕ) :
    TiltSensor × Option DozeOutput :=
  if (now : ℤ) - s.mEntryTimestamp < MIN_PULSE_INTERVAL_MS then (s, none)
  else ({ s with mEntryTimestamp := later }, if tilted then some prefs.wakeOrLaunchDozePulse else none)

end TiltSensor

/-! ### The system -/

/-- An event of the proximity sensor, with the preferences that it found. -/
structure ProximityEvent where
  isNear : Bool
  timestamp : ℤ
  prefs : DozePrefs
  deriving DecidableEq, Repr

/-- The tilt sensor has been enabled, or it has launched something. -/
inductive TiltTime
  | enabled (time : ℕ)
  | launched (time : ℕ)
  deriving DecidableEq, Repr

def TiltTime.time : TiltTime → ℕ
  | enabled time => time
  | launched time => time

/-- `wanted` is the last that `checkDozeService` asked for, and `service` the number of the sensors of
the service when it runs.  `displayOff` tells that the last screen broadcast that the service has
received was `ACTION_SCREEN_OFF`.  The last three fields are records for each sensor object: the events
of the proximity sensor, what they launched, and when the tilt sensor was enabled or launched something. -/
structure DozeSystem where
  prefs : DozePrefs
  elapsedRealtime : ℕ
  wanted : Bool
  service : Option ℕ
  sensors : ℕ
  displayOff : Bool
  listener : SensorKind → ℕ → SensorListener
  proximity : ℕ → ProximitySensor
  tilt : ℕ → TiltSensor
  proximityEvents : ℕ → List ProximityEvent
  proximityOutputs : ℕ → List DozeOutput
  tiltTimes : ℕ → List TiltTime

inductive DozeEvent
  | setPreferences (prefs : DozePrefs)
  | checkDozeService
  | bootCompleted
  | onCreate
  | onDestroy
  | screen (off : Bool)
  /-- An executor takes its next task, or goes on in the body of `enable` of the tilt sensor. -/
  | runTask (kind : SensorKind) (n : ℕ)
  | tiltThread (n : ℕ)
  | proximityChanged (n : ℕ) (isNear : Bool) (timestamp : ℤ)
  | tiltChanged (n : ℕ) (tilted : Bool) (wait : ℕ)
  | tick (n : ℕ)

namespace DozeSystem

def init (prefs : DozePrefs) : DozeSystem where
  prefs
  elapsedRealtime := 0
  wanted := false
  service := none
  sensors := 0
  displayOff := false
  listener _ _ := .new
  proximity _ := .new
  tilt _ := .new
  proximityEvents _ := []
  proximityOutputs _ := []
  tiltTimes _ := []

variable (s : DozeSystem)

def checkDozeService : DozeSystem :=
  { s with wanted := s.prefs.dozeEnabled && s.prefs.sensorsEnabled }

/-- `BootCompletedReceiver.onReceive` -/
def bootCompleted : DozeSystem :=
  if s.prefs.dozeEnabled && s.prefs.sensorsEnabled then s.checkDozeService else s

def setListener (kind : SensorKind) (n : ℕ) (l : SensorListener) : DozeSystem :=
  { s with listener := Function.update s.listener kind (Function.update (s.listener kind) n l) }

def submit (kind : SensorKind) (n : ℕ) (task : SensorTask) : DozeSystem :=
  s.setListener kind n ((s.listener kind n).submit task)

def onCreate : DozeSystem :=
  { s with service := some s.sensors, sensors := s.sensors + 1, displayOff := false }

def onDestroy (n : ℕ) : DozeSystem :=
  ({ s with service := none }.submit .proximity n .disable).submit .tilt n .disable

def onDisplayOn (n : ℕ) : DozeSystem :=
  let s := if s.prefs.needs .tilt then s.submit .tilt n .disable else s
  if s.prefs.needs .proximity then s.submit .proximity n .disable else s

def onDisplayOff (n : ℕ) : DozeSystem :=
  let s := if s.prefs.needs .tilt then s.submit .tilt n .enable else s
  if s.prefs.needs .proximity then s.submit .proximity n .enable else s

/-- `onReceive` of the service's receiver. -/
def onReceive (n : ℕ) (off : Bool) : DozeSystem :=
  let s := { s with displayOff := off }
  if off then s.onDisplayOff n else s.onDisplayOn n

/-- The broadcast of the screen state reaches the service that runs. -/
def screen (off : Bool) : DozeSystem :=
  match s.service with
  | none => s
  | some n => s.onReceive n off

def setTilt (n : ℕ) (tilt : TiltSensor) : DozeSystem := { s with tilt := Function.update s.tilt n tilt }

/-- The executor is not in the body of a task. -/
def idle : SensorKind → ℕ → Bool
  | .proximity, _ => true
  | .tilt, n => decide ((s.tilt n).thread = .idle)

/-- The body of a task up to the registration. -/
def startTask (kind : SensorKind) (n : ℕ) : SensorTask → List SensorTask → DozeSystem
  | .disable, tasks => s.setListener kind n ⟨tasks, false⟩
  | .enable, tasks =>
    let s := s.setListener kind n ⟨tasks, true⟩
    match kind with
    | .proximity => s
    | .tilt => s.setTilt n { s.tilt n with thread := .registered }

def runTask (kind : SensorKind) (n : ℕ) : Option DozeSystem :=
  match (s.listener kind n).tasks with
  | [] => none
  | task :: tasks => if s.idle kind n then some (s.startTask kind n task tasks) else none

/-- The rest of the body of `enable` of the tilt sensor. -/
def tiltThread (n : ℕ) : Option DozeSystem :=
  match (s.tilt n).thread with
  | .idle => none
  | .registered => some (s.setTilt n { s.tilt n with thread := .read s.elapsedRealtime })
  | .read now =>
    some { s.setTilt n ⟨now, .idle⟩ with
      tiltTimes := Function.update s.tiltTimes n (s.tiltTimes n ++ [.enabled now]) }

def proximityChanged (n : ℕ) (isNear : Bool) (timestamp : ℤ) : DozeSystem :=
  let r := (s.proximity n).onSensorChanged s.prefs isNear timestamp
  { s with
    proximity := Function.update s.proximity n r.1
    proximityEvents :=
      Function.update s.proximityEvents n (s.proximityEvents n ++ [⟨isNear, timestamp, s.prefs⟩])
    proximityOutputs := Function.update s.proximityOutputs n (s.proximityOutputs n ++ r.2.toList) }

def tiltChanged (n : ℕ) (tilted : Bool) (wait : ℕ) : DozeSystem :=
  let later := s.elapsedRealtime + wait
  let r := (s.tilt n).onSensorChanged s.prefs tilted s.elapsedRealtime later
  { s with
    elapsedRealtime := later
    tilt := Function.update s.tilt n r.1
    tiltTimes :=
      Function.update s.tiltTimes n (s.tiltTimes n ++ (r.2.map fun _ => .launched later).toList) }

/-- One event.  A sensor object exists when it has been made with a service, and only a registered
listener gets events. -/
def step : DozeEvent → Option DozeSystem
  | .setPreferences prefs => some { s with prefs }
  | .checkDozeService => some s.checkDozeService
  | .bootCompleted => some s.bootCompleted
  | .onCreate => if s.wanted ∧ s.service = none then some s.onCreate else none
  | .onDestroy =>
    match s.service with
    | none => none
    | some n => if s.wanted then none else some (s.onDestroy n)
  | .screen off => some (s.screen off)
  | .runTask kind n => s.runTask kind n
  | .tiltThread n => s.tiltThread n
  | .proximityChanged n isNear timestamp =>
    if (s.listener .proximity n).registered then some (s.proximityChanged n isNear timestamp) else none
  | .tiltChanged n tilted wait =>
    if (s.listener .tilt n).registered then some (s.tiltChanged n tilted wait) else none
  | .tick n => some { s with elapsedRealtime := s.elapsedRealtime + n }

def system (prefs : DozePrefs) : System DozeSystem DozeEvent := .ofPartial (init prefs) step

/-! ### What should be -/

/-- The listeners that are registered when all tasks have been run: those of the service that runs, when
the display is off for it and a gesture needs the sensor. -/
def Matches : Prop := ∀ kind n, (s.listener kind n).settled = true ↔
  s.service = some n ∧ s.displayOff = true ∧ s.prefs.needs kind = true

/-- The condition on a step: while the service runs with the display off, no gesture is enabled or
disabled for the sake of which a sensor is needed or no longer needed. -/
def KeepsPrefs : DozeEvent → Prop
  | .setPreferences prefs => s.service ≠ none → s.displayOff = true →
    ∀ kind, prefs.needs kind = s.prefs.needs kind
  | _ => True

/-- The condition on a step for the pace of the tilt sensor: an event does not come between the
registration of the listener and the end of `enable`. -/
def KeepsTilt : DozeEvent → Prop
  | .tiltChanged n _ _ => (s.tilt n).thread = .idle
  | _ => True

instance : DecidablePred s.KeepsTilt
  | .tiltChanged .. => inferInstanceAs (Decidable (_ = _))
  | .setPreferences _ | .checkDozeService | .bootCompleted | .onCreate | .onDestroy | .screen _ |
    .runTask .. | .tiltThread _ | .proximityChanged .. | .tick _ => inferInstanceAs (Decidable True)

end DozeSystem

/-- The time that the sensor was covered suits an enabled gesture. -/
def DozePrefs.gesture (p : DozePrefs) (delta : ℤ) : Bool :=
  if p.handwave && p.pocket then true
  else p.handwave && decide (delta < HANDWAVE_MAX_DELTA_NS) ||
    p.pocket && decide (POCKET_MIN_DELTA_NS ≤ delta)

/-- A far event launches something if the event before it was a near one, and suits a gesture. -/
def ProximityEvent.launches (e far : ProximityEvent) : Option DozeOutput :=
  if e.isNear && !far.isNear && far.prefs.gesture (longSub far.timestamp e.timestamp) then
    some far.prefs.wakeOrLaunchDozePulse
  else none

/-- What a sequence of events should launch. -/
def ProximityEvent.launched : List ProximityEvent → List DozeOutput
  | e :: far :: events => (e.launches far).toList ++ launched (far :: events)
  | _ => []

/-- A launch comes late enough behind what was before it. -/
def TiltTime.Spaced (a : TiltTime) : TiltTime → Prop
  | launched time => (a.time : ℤ) + MIN_PULSE_INTERVAL_MS ≤ time
  | enabled _ => True

end GpsHal
