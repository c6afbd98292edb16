import GpsHal.Transition.Basic
import GpsHal.Util.CNumber

/-!
# Lights

Three lights share one breath light: a bit mask says who wants it, and after each request it shows
the most important one of them (`lights/Light.cpp`).

## Main definitions

* `Lights.setLightState` : the service.
* `LightHistory.Shows` : what the breath light should show.
* `LightHistory.Keeps` : the requests after which it does.

## Main results

* `getBrightness_lt` : no brightness is outside of the table for the backlight.
* `Lights.shows_of_run` : after requests of that kind the breath light shows what it should.
-/

namespace GpsHal

def BLINK_MODE_ON : ℤ := 3
def BLINK_MODE_CONST : ℤ := 1
def BLINK_MODE_OFF : ℤ := 0

def NUBIA_LED_DISABLE : ℤ := 16
def NUBIA_LED_RED : ℤ := 48
def NUBIA_LED_GREEN : ℤ := 64

def BREATH_SOURCE_NOTIFICATION : BitVec 32 := 0x01
def BREATH_SOURCE_BATTERY : BitVec 32 := 0x02
def BREATH_SOURCE_ATTENTION : BitVec 32 := 0x08

def MAX_LED_BRIGHTNESS : ℕ := 255
def MAX_LCD_BRIGHTNESS : ℕ := 4095

def brightness_table : List ℕ :=
  [0, 1, 17, 65, 97, 146, 178, 226, 436, 597, 758, 887, 968, 1080, 1161, 1258, 1338, 1371, 1451,
   1532, 1580, 1661, 1709, 1741, 1822, 1870, 1902, 1983, 2031, 2080, 2112, 2160, 2193, 2241, 2273,
   2322, 2322, 2322, 2322, 2450, 2450, 2483, 2531, 2531, 2563, 2563, 2612, 2612, 2644, 2644, 2692,
   2692, 2724, 2724, 2773, 2773, 2805, 2805, 2853, 2853, 2853, 2902, 2902, 2902, 2934, 2934, 2934,
   2982, 2982, 2982, 3015, 3015, 3015, 3063, 3063, 3063, 3063, 3095, 3095, 3095, 3095, 3144, 3144,
   3176, 3176, 3176, 3176, 3176, 3224, 3224, 3224, 3272, 3272, 3272, 3272, 3272, 3305, 3305, 3305,
   3305, 3305, 3353, 3353, 3353, 3353, 3353, 3385, 3385, 3385, 3385, 3385, 3434, 3434, 3434, 3434,
   3434, 3466, 3466, 3466, 3466, 3466, 3466, 3466, 3466, 3514, 3514, 3514, 3514, 3546, 3546, 3546,
   3546, 3546, 3546, 3595, 3595, 3595, 3595, 3595, 3595, 3595, 3595, 3595, 3595, 3627, 3627, 3627,
   3627, 3627, 3627, 3627, 3675, 3675, 3675, 3675, 3675, 3675, 3675, 3724, 3724, 3724, 3724, 3724,
   3724, 3724, 3724, 3724, 3724, 3756, 3756, 3756, 3756, 3756, 3756, 3756, 3756, 3756, 3804, 3804,
   3804, 3804, 3804, 3804, 3804, 3804, 3804, 3837, 3837, 3837, 3837, 3837, 3837, 3837, 3837, 3837,
   3837, 3885, 3885, 3885, 3885, 3885, 3885, 3885, 3885, 3885, 3885, 3917, 3917, 3917, 3917, 3917,
   3917, 3917, 3917, 3917, 3917, 3917, 3917, 3966, 3966, 3966, 3966, 3966, 3966, 3966, 3966, 3966,
   3966, 3966, 3998, 3998, 3998, 3998, 3998, 3998, 3998, 3998, 3998, 3998, 3998, 3998, 4046, 4046,
   4046, 4046, 4046, 4046, 4046, 4046, 4046, 4046, 4046, 4046, 4046, 4095, 4095]

inductive BatteryStatus
  | BATTERY_UNKNOWN
  | BATTERY_LOW
  | BATTERY_FREE
  | BATTERY_CHARGING
  | BATTERY_FULL
  deriving DecidableEq, Repr

/-- The files of the battery at the time of a request; `none` is a file that cannot be opened.
`stack` is what `status_str` holds before it is read, and `capacity` the number in its file. -/
structure BatteryFiles where
  status : Option (List UInt8)
  stack : List UInt8
  capacity : Option ℤ
  deriving DecidableEq, Repr

/-- What has been written to the files of the breath light last. -/
structure NubiaLed where
  outn : ℤ
  blink_mode : ℤ
  grade_parameter : String
  fade_parameter : String
  deriving DecidableEq, Repr

/-- The state of the service, with what has been written to the file of the backlight. -/
structure Lights where
  active_status : BitVec 32
  led : NubiaLed
  lcd : Option ℕ
  deriving DecidableEq, Repr

/-! ### Brightness -/

def getBrightness (color : BitVec 32) : BitVec 32 :=
  let alpha := color.sshiftRight 24 &&& 0xFF
  let red := color.sshiftRight 16 &&& 0xFF
  let green := color.sshiftRight 8 &&& 0xFF
  let blue := color &&& 0xFF
  let scale (c : BitVec 32) : BitVec 32 := if alpha ≠ 0xFF then c * alpha / 0xFF else c
  (77 * scale red + 150 * scale green + 29 * scale blue) >>> 8

def scaleBrightness (brightness : BitVec 32) (maxBrightness : ℕ) : ℕ :=
  if maxBrightness = MAX_LCD_BRIGHTNESS then brightness_table.getD brightness.toNat 0
  else brightness.toNat

def getScaledBrightness (color : BitVec 32) (maxBrightness : ℕ) : ℕ :=
  scaleBrightness (getBrightness color) maxBrightness

theorem and_0xFF_le (x : BitVec 32) : (x &&& 0xFF).toNat ≤ 255 := by
  rw [BitVec.toNat_and]
  exact Nat.and_le_right

/-- A colour that is scaled is a byte still. -/
theorem scaled_le {alpha c : BitVec 32} (halpha : alpha.toNat ≤ 255) (hc : c.toNat ≤ 255) :
    (if alpha ≠ 0xFF then c * alpha / 0xFF else c).toNat ≤ 255 := by
  have hmul : c.toNat * alpha.toNat ≤ 255 * 255 := Nat.mul_le_mul hc halpha
  split_ifs
  · calc (c * alpha / 0xFF).toNat = c.toNat * alpha.toNat % 2 ^ 32 / 255 := by
          rw [BitVec.toNat_udiv, BitVec.toNat_mul]
          rfl
      _ = c.toNat * alpha.toNat / 255 := by rw [Nat.mod_eq_of_lt (by omega)]
      _ ≤ 255 * 255 / 255 := Nat.div_le_div_right hmul
      _ = 255 := by decide
  · exact hc

set_option maxRecDepth 2000 in
theorem length_brightness_table : brightness_table.length = 256 := rfl

/-- No brightness is outside of the table for the backlight. -/
theorem getBrightness_lt (color : BitVec 32) :
    (getBrightness color).toNat < brightness_table.length := by
  have halpha := and_0xFF_le (color.sshiftRight 24)
  have hred := scaled_le halpha (and_0xFF_le (color.sshiftRight 16))
  have hgreen := scaled_le halpha (and_0xFF_le (color.sshiftRight 8))
  have hblue := scaled_le halpha (and_0xFF_le color)
  unfold getBrightness
  dsimp only
  generalize (if color.sshiftRight 24 &&& 0xFF ≠ 0xFF then _ else
    color.sshiftRight 16 &&& 0xFF) = red at hred ⊢
  generalize (if color.sshiftRight 24 &&& 0xFF ≠ 0xFF then _ else
    color.sshiftRight 8 &&& 0xFF) = green at hgreen ⊢
  generalize (if color.sshiftRight 24 &&& 0xFF ≠ 0xFF then _ else color &&& 0xFF) = blue at hblue ⊢
  rw [length_brightness_table, BitVec.toNat_ushiftRight, BitVec.toNat_add, BitVec.toNat_add,
    BitVec.toNat_mul, BitVec.toNat_mul, BitVec.toNat_mul, Nat.shiftRight_eq_div_pow]
  have hsum : (77 * red.toNat % 2 ^ 32 + 150 * green.toNat % 2 ^ 32) % 2 ^ 32 +
      29 * blue.toNat % 2 ^ 32 ≤ 77 * red.toNat + 150 * green.toNat + 29 * blue.toNat :=
    Nat.add_le_add (Nat.le_trans (Nat.mod_le _ _) (Nat.add_le_add (Nat.mod_le _ _) (Nat.mod_le _ _)))
      (Nat.mod_le _ _)
  refine Nat.div_lt_of_lt_mul (Nat.lt_of_le_of_lt (Nat.le_trans (Nat.mod_le _ _) hsum) ?_)
  omega

/-! ### The battery -/

/-- `strncmp` finds no difference in the first `n` characters. -/
def sameUpTo (n : ℕ) (s t : List UInt8) : Bool :=
  (s.take n).takeWhile (· != 0) == (t.take n).takeWhile (· != 0)

/-- `readStr` into a buffer of 16 bytes, which is not ended with a NUL. -/
def readStatus (f : BatteryFiles) : Option (List UInt8) :=
  f.status.map fun content => content.take 16 ++ f.stack.drop (content.take 16).length

def getBatteryStatus (f : BatteryFiles) : BatteryStatus :=
  match readStatus f with
  | none => .BATTERY_UNKNOWN
  | some status_str =>
    let capacity := f.capacity.getD 0
    if sameUpTo 4 status_str (cstring "Full") then .BATTERY_FULL
    else if sameUpTo 11 status_str (cstring "Discharging") then .BATTERY_FREE
    else if sameUpTo 8 status_str (cstring "Charging") then
      if capacity < 90 then .BATTERY_CHARGING else .BATTERY_FULL
    else if capacity < 10 then .BATTERY_LOW else .BATTERY_FREE

/-! ### The breath light -/

namespace NubiaLed

def setColor (led : NubiaLed) (value : ℤ) : NubiaLed := { led with outn := value }

def setMode (led : NubiaLed) (value : ℤ) : NubiaLed := { led with blink_mode := value }

def setGrade (led : NubiaLed) (value : String) : NubiaLed := { led with grade_parameter := value }

def setFade (led : NubiaLed) (value : String) : NubiaLed := { led with fade_parameter := value }

/-- What is written for a battery. -/
def setBattery (led : NubiaLed) : BatteryStatus → NubiaLed
  | .BATTERY_CHARGING =>
    (((led.setColor NUBIA_LED_RED).setFade "0 0 0").setGrade "100 255").setMode BLINK_MODE_CONST
  | .BATTERY_LOW =>
    (((led.setColor NUBIA_LED_RED).setFade "3 0 4").setGrade "0 100").setMode BLINK_MODE_ON
  | .BATTERY_FULL =>
    (((led.setColor NUBIA_LED_GREEN).setFade "0 0 0").setGrade "100 255").setMode BLINK_MODE_CONST
  | .BATTERY_FREE => led.setMode BLINK_MODE_OFF
  | .BATTERY_UNKNOWN => led

def setNotification (led : NubiaLed) : NubiaLed :=
  (((led.setColor NUBIA_LED_GREEN).setFade "3 0 4").setGrade "0 100").setMode BLINK_MODE_ON

/-- One colour after the other is switched off. -/
def closeAll (led : NubiaLed) : NubiaLed :=
  let led := (led.setColor NUBIA_LED_GREEN).setMode BLINK_MODE_OFF
  let led := (led.setColor NUBIA_LED_RED).setMode BLINK_MODE_OFF
  let led := (led.setColor NUBIA_LED_DISABLE).setMode BLINK_MODE_OFF
  (led.setFade "0 0 0").setGrade "100 255"

end NubiaLed

namespace Lights

def setBatteryBreathLight (f : BatteryFiles) (s : Lights) : Lights :=
  if s.active_status = BREATH_SOURCE_BATTERY then
    { s with led := s.led.setBattery (getBatteryStatus f) }
  else s

def setNotificationBreathLight (s : Lights) : Lights := { s with led := s.led.setNotification }

/-- A status with a notification in it. -/
def notified (status : BitVec 32) : Bool :=
  status &&& BREATH_SOURCE_NOTIFICATION != 0 || status &&& BREATH_SOURCE_ATTENTION != 0

def setBreathLightLocked (f : BatteryFiles) (event_source color : BitVec 32) (s : Lights) :
    Lights :=
  let brightness := getScaledBrightness color MAX_LED_BRIGHTNESS
  let s : Lights :=
    if 0 < brightness then { s with active_status := s.active_status ||| event_source }
    else { s with active_status := s.active_status &&& ~~~event_source }
  if s.active_status = 0 then { s with led := s.led.closeAll }
  else if s.active_status &&& BREATH_SOURCE_BATTERY ≠ 0 ∧ ¬notified s.active_status then
    s.setBatteryBreathLight f
  else
    -- the battery is paused, and its status saved
    let saved_status := if s.active_status &&& BREATH_SOURCE_BATTERY ≠ 0 then s.active_status else 0
    let s : Lights :=
      if s.active_status &&& BREATH_SOURCE_BATTERY ≠ 0 then
        { s with active_status := s.active_status &&& ~~~BREATH_SOURCE_BATTERY }
      else s
    let s := if notified s.active_status then s.setNotificationBreathLight else s
    if saved_status &&& BREATH_SOURCE_BATTERY ≠ 0 then
      let s : Lights := { s with active_status := s.active_status ||| BREATH_SOURCE_BATTERY }
      let saved_status := saved_status &&& ~~~BREATH_SOURCE_BATTERY
      if saved_status ≠ 0 ∧ notified saved_status then s.setNotificationBreathLight else s
    else s

def handleNotification (f : BatteryFiles) (color : BitVec 32) (s : Lights) : Lights :=
  s.setBreathLightLocked f BREATH_SOURCE_NOTIFICATION color

def handleBattery (f : BatteryFiles) (color : BitVec 32) (s : Lights) : Lights :=
  s.setBreathLightLocked f BREATH_SOURCE_BATTERY color

def handleBacklight (color : BitVec 32) (s : Lights) : Lights :=
  { s with lcd := some (getScaledBrightness color MAX_LCD_BRIGHTNESS) }

end Lights

/-! ### Requests -/

/-- The lights that can be asked for. -/
inductive LightType
  | ATTENTION
  | BACKLIGHT
  | BATTERY
  | NOTIFICATIONS
  | other (id : ℤ)
  deriving DecidableEq, Repr

/-- A call of `setLightState`, with what the battery is like then. -/
structure LightRequest where
  id : LightType
  color : BitVec 32
  battery : BatteryFiles
  deriving DecidableEq, Repr

inductive LightStatus
  | ok
  | EX_UNSUPPORTED_OPERATION
  deriving DecidableEq, Repr

def Lights.setLightState (s : Lights) (r : LightRequest) : Lights × LightStatus :=
  match r.id with
  | .ATTENTION => (s.handleNotification r.battery r.color, .ok)
  | .BACKLIGHT => (s.handleBacklight r.color, .ok)
  | .BATTERY => (s.handleBattery r.battery r.color, .ok)
  | .NOTIFICATIONS => (s.handleNotification r.battery r.color, .ok)
  | .other _ => (s, .EX_UNSUPPORTED_OPERATION)

/-- What has been asked for last, and what the battery was like when the breath light was last asked
for, if it has been. -/
structure LightHistory where
  attention : BitVec 32
  notifications : BitVec 32
  battery : BitVec 32
  status : Option BatteryStatus
  deriving DecidableEq, Repr

namespace LightHistory

def init : LightHistory := ⟨0, 0, 0, none⟩

def record (h : LightHistory) (r : LightRequest) : LightHistory :=
  match r.id with
  | .ATTENTION => { h with attention := r.color, status := some (getBatteryStatus r.battery) }
  | .NOTIFICATIONS =>
    { h with notifications := r.color, status := some (getBatteryStatus r.battery) }
  | .BATTERY => { h with battery := r.color, status := some (getBatteryStatus r.battery) }
  | .BACKLIGHT => h
  | .other _ => h

/-- A colour that is not dark. -/
def lit (color : BitVec 32) : Bool := 0 < getScaledBrightness color MAX_LED_BRIGHTNESS

end LightHistory

namespace NubiaLed

/-- A green light that breathes. -/
def showsNotification (led : NubiaLed) : Prop :=
  led = ⟨NUBIA_LED_GREEN, BLINK_MODE_ON, "0 100", "3 0 4"⟩

/-- A red light while charging, one that breathes when the battery is low, a green one when it is
full, and none without a charger.  There is nothing to show for a battery that is not known. -/
def showsBattery (led : NubiaLed) : BatteryStatus → Prop
  | .BATTERY_CHARGING => led = ⟨NUBIA_LED_RED, BLINK_MODE_CONST, "100 255", "0 0 0"⟩
  | .BATTERY_LOW => led = ⟨NUBIA_LED_RED, BLINK_MODE_ON, "0 100", "3 0 4"⟩
  | .BATTERY_FULL => led = ⟨NUBIA_LED_GREEN, BLINK_MODE_CONST, "100 255", "0 0 0"⟩
  | .BATTERY_FREE => led.blink_mode = BLINK_MODE_OFF
  | .BATTERY_UNKNOWN => False

def isOff (led : NubiaLed) : Prop := led = ⟨NUBIA_LED_DISABLE, BLINK_MODE_OFF, "100 255", "0 0 0"⟩

end NubiaLed

namespace LightHistory

/-- After the first request the breath light shows the most important one of those that are lit. -/
structure Shows (h : LightHistory) (led : NubiaLed) : Prop where
  notification : h.status.isSome →
    (led.showsNotification ↔ lit h.attention ∨ lit h.notifications)
  battery : ∀ status, h.status = some status → ¬(lit h.attention ∨ lit h.notifications) →
    lit h.battery → led.showsBattery status
  off : h.status.isSome → ¬(lit h.attention ∨ lit h.notifications) → ¬lit h.battery → led.isOff

/-- The requests that the service handles: neither of the two notification lights is made dark while
the other one is lit, and the battery is known whenever it alone is lit. -/
structure Keeps (h : LightHistory) (r : LightRequest) : Prop where
  attention : r.id = .ATTENTION → ¬lit r.color → ¬lit h.notifications
  notifications : r.id = .NOTIFICATIONS → ¬lit r.color → ¬lit h.attention
  known : ¬(lit (h.record r).attention ∨ lit (h.record r).notifications) →
    lit (h.record r).battery → (h.record r).status ≠ some .BATTERY_UNKNOWN

end LightHistory

/-- The service and what it has been asked for, from the start of the process.  The files have been
written to before, with `led`. -/
def lightSystem (led : NubiaLed) : System (Lights × LightHistory) LightRequest :=
  .ofFun (⟨0, led, none⟩, .init) fun s r => ((s.1.setLightState r).1, s.2.record r)

/-! ### One request -/

open LightHistory

/-- The bits for a notification and for the battery. -/
def sourceBits (notification battery : Bool) : BitVec 32 :=
  (if notification then BREATH_SOURCE_NOTIFICATION else 0) |||
    (if battery then BREATH_SOURCE_BATTERY else 0)

section

variable (n b : Bool)

@[simp] theorem sourceBits_or_notification :
    sourceBits n b ||| BREATH_SOURCE_NOTIFICATION = sourceBits true b := by
  cases n <;> cases b <;> rfl

@[simp] theorem sourceBits_or_battery :
    sourceBits n b ||| BREATH_SOURCE_BATTERY = sourceBits n true := by
  cases n <;> cases b <;> rfl

@[simp] theorem sourceBits_and_not_notification :
    sourceBits n b &&& ~~~BREATH_SOURCE_NOTIFICATION = sourceBits false b := by
  cases n <;> cases b <;> rfl

@[simp] theorem sourceBits_and_not_battery :
    sourceBits n b &&& ~~~BREATH_SOURCE_BATTERY = sourceBits n false := by
  cases n <;> cases b <;> rfl

@[simp] theorem sourceBits_eq_zero : sourceBits n b = 0#32 ↔ n = false ∧ b = false := by
  cases n <;> cases b <;> decide

@[simp] theorem sourceBits_eq_battery :
    sourceBits n b = BREATH_SOURCE_BATTERY ↔ n = false ∧ b = true := by
  cases n <;> cases b <;> decide

@[simp] theorem sourceBits_and_battery :
    sourceBits n b &&& BREATH_SOURCE_BATTERY = 0#32 ↔ b = false := by
  cases n <;> cases b <;> decide

@[simp] theorem notified_sourceBits : Lights.notified (sourceBits n b) = n := by
  cases n <;> cases b <;> rfl

end

/-- What is written to the breath light, by who wants it. -/
def NubiaLed.primary (led : NubiaLed) (notification battery : Bool) (status : BatteryStatus) :
    NubiaLed :=
  if notification then led.setNotification
  else if battery then led.setBattery status
  else led.closeAll

namespace Lights

/-- A request from either source sets or clears its bit, and writes for those that are left. -/
theorem setBreathLightLocked_spec (n b : Bool) (led : NubiaLed) (lcd : Option ℕ) (f : BatteryFiles)
    (color : BitVec 32) :
    (⟨sourceBits n b, led, lcd⟩ : Lights).setBreathLightLocked f BREATH_SOURCE_NOTIFICATION color =
        ⟨sourceBits (lit color) b, led.primary (lit color) b (getBatteryStatus f), lcd⟩ ∧
      (⟨sourceBits n b, led, lcd⟩ : Lights).setBreathLightLocked f BREATH_SOURCE_BATTERY color =
        ⟨sourceBits n (lit color), led.primary n (lit color) (getBatteryStatus f), lcd⟩ := by
  unfold setBreathLightLocked lit
  by_cases hlit : 0 < getScaledBrightness color MAX_LED_BRIGHTNESS
  · simp only [hlit, if_true, decide_true]
    cases n <;> cases b <;>
      simp [setBatteryBreathLight, setNotificationBreathLight, NubiaLed.primary] <;> rfl
  · simp only [hlit, if_false, decide_false]
    cases n <;> cases b <;>
      simp [setBatteryBreathLight, setNotificationBreathLight, NubiaLed.primary]

end Lights

namespace NubiaLed

variable {led : NubiaLed} {status : BatteryStatus}

/-- No pattern of a battery is that of a notification. -/
theorem not_showsNotification_of_battery (h : led.showsBattery status) :
    ¬led.showsNotification := by
  intro hnotification
  unfold showsNotification at hnotification
  subst hnotification
  cases status with
  | BATTERY_UNKNOWN => exact h
  | BATTERY_FREE => exact absurd (show BLINK_MODE_ON = BLINK_MODE_OFF from h) (by decide)
  | BATTERY_FULL => exact absurd (congrArg blink_mode h) (by decide)
  | BATTERY_LOW => exact absurd (congrArg outn h) (by decide)
  | BATTERY_CHARGING => exact absurd (congrArg outn h) (by decide)

theorem not_showsNotification_of_off (h : led.isOff) : ¬led.showsNotification := by
  intro hnotification
  exact absurd (congrArg outn (h.symm.trans hnotification)) (by decide)

theorem showsBattery_setBattery (led : NubiaLed) (h : status ≠ .BATTERY_UNKNOWN) :
    (led.setBattery status).showsBattery status := by
  cases status with
  | BATTERY_UNKNOWN => exact absurd rfl h
  | _ => rfl

end NubiaLed

/-- What is written is what should be shown, if the battery is known when it is needed. -/
theorem shows_primary {h : LightHistory} {status : BatteryStatus} (led : NubiaLed)
    (hstatus : h.status = some status)
    (hknown : ¬(lit h.attention ∨ lit h.notifications) → lit h.battery →
      status ≠ .BATTERY_UNKNOWN) :
    h.Shows (led.primary (lit h.attention || lit h.notifications) (lit h.battery) status) := by
  have hboth : (lit h.attention || lit h.notifications) = true ↔
      lit h.attention ∨ lit h.notifications := Bool.or_eq_true_iff
  by_cases hlit : lit h.attention ∨ lit h.notifications
  · rw [hboth.2 hlit]
    exact ⟨fun _ => iff_of_true rfl hlit, fun _ _ hdark => absurd hlit hdark,
      fun _ hdark => absurd hlit hdark⟩
  · rw [Bool.eq_false_iff.2 (mt hboth.1 hlit)]
    cases hbattery : lit h.battery with
    | true =>
      have hshows := led.showsBattery_setBattery (hknown hlit hbattery)
      refine ⟨fun _ => iff_of_false (NubiaLed.not_showsNotification_of_battery hshows) hlit,
        fun status' hstatus' _ _ => ?_, fun _ _ hdark => absurd hbattery hdark⟩
      rw [hstatus] at hstatus'
      obtain rfl := Option.some.inj hstatus'
      exact hshows
    | false =>
      have hshows : led.closeAll.isOff := rfl
      refine ⟨fun _ => iff_of_false (NubiaLed.not_showsNotification_of_off hshows) hlit,
        fun _ _ _ hlit' => ?_, fun _ _ _ => hshows⟩
      rw [hbattery] at hlit'
      cases hlit'

/-! ### Any requests -/

/-- The bits are those of the lights that are lit, and the breath light shows what it should. -/
structure Tracks (s : Lights × LightHistory) : Prop where
  active : s.1.active_status =
    sourceBits (lit s.2.attention || lit s.2.notifications) (lit s.2.battery)
  shows : s.2.Shows s.1.led

variable {s : Lights × LightHistory} {r : LightRequest}

theorem tracks_init (led : NubiaLed) : Tracks (lightSystem led).init := by
  have hdark : lit 0 = false := by decide
  refine ⟨?_, nofun, nofun, nofun⟩
  change (0 : BitVec 32) = sourceBits (lit 0 || lit 0) (lit 0)
  rw [hdark]
  rfl

/-- After a request that has written for the bits that it has left. -/
theorem tracks_of_primary {h : LightHistory} {status : BatteryStatus} {led : NubiaLed}
    {lcd : Option ℕ} {n b : Bool} (hstatus : h.status = some status)
    (hn : n = (lit h.attention || lit h.notifications)) (hb : b = lit h.battery)
    (hknown : ¬(lit h.attention ∨ lit h.notifications) → lit h.battery →
      h.status ≠ some .BATTERY_UNKNOWN) :
    Tracks (⟨sourceBits n b, led.primary n b status, lcd⟩, h) := by
  subst hn hb
  refine ⟨rfl, shows_primary led hstatus fun hdark hlit heq => hknown hdark hlit ?_⟩
  rw [hstatus, heq]

theorem Tracks.step (h : Tracks s) (hr : s.2.Keeps r) :
    Tracks ((s.1.setLightState r).1, s.2.record r) := by
  obtain ⟨⟨active, led, lcd⟩, history⟩ := s
  obtain ⟨hactive, hshows⟩ := h
  obtain ⟨hattention, hnotifications, hknown⟩ := hr
  obtain ⟨id, color, battery⟩ := r
  dsimp only at hactive hshows hattention hnotifications
  subst hactive
  have hspec (n b : Bool) := Lights.setBreathLightLocked_spec n b led lcd battery color
  cases id with
  | ATTENTION =>
    change Tracks (Lights.setBreathLightLocked _ _ _ _, _)
    rw [(hspec _ _).1]
    refine tracks_of_primary rfl ?_ rfl hknown
    -- if this one is made dark, the other one is dark
    change lit color = (lit color || lit history.notifications)
    cases hcolor : lit color with
    | true => rfl
    | false =>
      have hdark := hattention rfl (by rw [hcolor]; exact Bool.false_ne_true)
      rw [Bool.false_or, Bool.eq_false_iff.2 hdark]
  | BACKLIGHT => exact ⟨rfl, hshows⟩
  | BATTERY =>
    change Tracks (Lights.setBreathLightLocked _ _ _ _, _)
    rw [(hspec _ _).2]
    exact tracks_of_primary rfl rfl rfl hknown
  | NOTIFICATIONS =>
    change Tracks (Lights.setBreathLightLocked _ _ _ _, _)
    rw [(hspec _ _).1]
    refine tracks_of_primary rfl ?_ rfl hknown
    change lit color = (lit history.attention || lit color)
    cases hcolor : lit color with
    | true => rw [Bool.or_true]
    | false =>
      have hdark := hnotifications rfl (by rw [hcolor]; exact Bool.false_ne_true)
      rw [Bool.or_false, Bool.eq_false_iff.2 hdark]
  | other id => exact ⟨rfl, hshows⟩

/-- **Priority.**  After requests that the service handles the breath light shows the most important
light that is lit. -/
theorem Lights.shows_of_run (led : NubiaLed) {requests : List LightRequest}
    (h : (lightSystem led).Run (fun s r => s.2.Keeps r) requests s) : s.2.Shows s.1.led :=
  (h.invariant (tracks_init led) fun _ _ _ hs hr hstep => hstep ▸ hs.step hr).shows

instance (h : LightHistory) (r : LightRequest) : Decidable (h.Keeps r) :=
  decidable_of_iff
    ((r.id = .ATTENTION → ¬lit r.color → ¬lit h.notifications) ∧
      (r.id = .NOTIFICATIONS → ¬lit r.color → ¬lit h.attention) ∧
      (¬(lit (h.record r).attention ∨ lit (h.record r).notifications) → lit (h.record r).battery →
        (h.record r).status ≠ some .BATTERY_UNKNOWN))
    ⟨fun h => ⟨h.1, h.2.1, h.2.2⟩, fun h => ⟨h.1, h.2, h.3⟩⟩

/-- A phone that is charging has a notification for some time. -/
theorem Lights.shows_of_run_charging :
    let charging : BatteryFiles := ⟨some (cstring "Charging" ++ [10]), [], some 50⟩
    let led : NubiaLed := ⟨0, 0, "", ""⟩
    let requests : List LightRequest := [⟨.BATTERY, 0xFFFF0000, charging⟩,
      ⟨.NOTIFICATIONS, 0xFFFFFFFF, charging⟩, ⟨.NOTIFICATIONS, 0, charging⟩]
    let s := requests.foldl (fun (s : Lights × LightHistory) r =>
      ((s.1.setLightState r).1, s.2.record r)) (lightSystem led).init
    s.1.led = ⟨NUBIA_LED_RED, BLINK_MODE_CONST, "100 255", "0 0 0"⟩ ∧ s.2.Shows s.1.led := by
  intro charging led requests s
  have hrun : (lightSystem led).Run (fun s r => s.2.Keeps r) requests s :=
    System.run_foldl (by decide)
  exact ⟨by decide, Lights.shows_of_run led hrun⟩

/-- A notification that is made dark takes away the light of an attention. -/
theorem not_shows_attention :
    let led : NubiaLed := ⟨0, 0, "", ""⟩
    ¬∀ (requests : List LightRequest) (s : Lights × LightHistory),
      (∀ r ∈ requests, r.id = .ATTENTION ∨ r.id = .NOTIFICATIONS ∨ r.id = .BATTERY) →
        (lightSystem led).Run System.Free requests s → s.2.Shows s.1.led := by
  intro led h
  let unplugged : BatteryFiles := ⟨some (cstring "Discharging" ++ [10]), [], some 50⟩
  let requests : List LightRequest := [⟨.ATTENTION, 0xFFFFFFFF, unplugged⟩,
    ⟨.NOTIFICATIONS, 0, unplugged⟩]
  have hrun : (lightSystem led).Run System.Free requests _ :=
    System.run_foldl ⟨trivial, trivial, trivial⟩
  have hshows := h requests _ (by decide) hrun
  have hpattern := (hshows.notification (by decide)).2 (by decide)
  exact absurd (congrArg NubiaLed.outn hpattern) (by decide)

end GpsHal
