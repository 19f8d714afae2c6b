import DeviceHal.Lib.Run

/-! # The notification LED

The light service of `liblight/Light.cpp`. Three stored states compete for one
RGB LED: each call stores a state and writes the first one that is lit to the
nodes of the LED. The nodes keep what was written last, and each branch writes
a different subset of them; turning the LED off leaves `rgb_blink` alone. -/
namespace DeviceHal.Liblight.NotificationLed
open DeviceHal.Lib.Run

/-! ## States of lights -/

inductive Flash where
  | NONE
  | TIMED
  | HARDWARE
deriving DecidableEq

structure LightState where
  /-- AARRGGBB -/
  color : UInt32
  flashMode : Flash
  flashOnMs : Int32
  flashOffMs : Int32
deriving DecidableEq

namespace LightState

def isLit (state : LightState) : Bool := state.color &&& (0x00ffffff : UInt32) ≠ 0

/-- The byte of the colour behind the shift. -/
def component (state : LightState) (shift : UInt32) : UInt32 := (state.color >>> shift) &&& 0xff

def alpha (state : LightState) : Nat := (state.component 24).toNat

/-- A colour, scaled if the user has applied a brightness. -/
def scaled (state : LightState) (colour : Nat) : Nat :=
  if state.alpha ≠ 0xff then colour * state.alpha / 0xff else colour

def red (state : LightState) : Nat := state.scaled (state.component 16).toNat
def green (state : LightState) : Nat := state.scaled (state.component 8).toNat
def blue (state : LightState) : Nat := state.scaled (state.component 0).toNat

def onMs (state : LightState) : Int :=
  match state.flashMode with
  | .TIMED => state.flashOnMs.toInt
  | _ => 0

def offMs (state : LightState) : Int :=
  match state.flashMode with
  | .TIMED => state.flashOffMs.toInt
  | _ => 0

/-- The state is timed with positive on and off times. -/
def blink (state : LightState) : Bool := 0 < state.onMs && 0 < state.offMs

def rgbToBrightness (state : LightState) : UInt32 :=
  (77 * state.component 16 + 150 * state.component 8 + 29 * state.component 0) >>> 8

end LightState

/-! ## Nodes -/

def RAMP_SIZE : Nat := 8
def RAMP_STEP_DURATION : Int := 50
def BRIGHTNESS_RAMP : List Nat := [0, 12, 25, 37, 50, 72, 85, 100]
def DEFAULT_MAX_BRIGHTNESS : UInt32 := 255

def getScaledDutyPcts (brightness : Nat) : String :=
  String.intercalate "," (BRIGHTNESS_RAMP.map fun i => toString (i * brightness / 255))

/-- What was last written to the nodes of one colour, if anything was. -/
structure Channel where
  led : Option Int
  dutyPcts : Option String
  startIdx : Option Int
  pauseLo : Option Int
  pauseHi : Option Int
  rampStepMs : Option Int
  blink : Option Int

def Channel.unwritten : Channel := ⟨none, none, none, none, none, none, none⟩

structure Light where
  /-- The node and the largest brightness of the panel. -/
  mLcdBacklight : Option UInt32 × UInt32
  mButtonBacklight : List (Option UInt32)
  mRed : Channel
  mGreen : Channel
  mBlue : Channel
  mRgbBlink : Option Int
  mAttentionState : LightState
  mBatteryState : LightState
  mNotificationState : LightState

/-- The constructor; the stored states hold what the memory held. -/
def Light.new (lcd_max : UInt32) (buttons : Nat) (attention battery notification : LightState) :
    Light where
  mLcdBacklight := (none, lcd_max)
  mButtonBacklight := List.replicate buttons none
  mRed := .unwritten
  mGreen := .unwritten
  mBlue := .unwritten
  mRgbBlink := none
  mAttentionState := attention
  mBatteryState := battery
  mNotificationState := notification

/-! ## Calls -/

/-- The types of the interface. -/
inductive LightType where
  | BACKLIGHT
  | KEYBOARD
  | BUTTONS
  | BATTERY
  | NOTIFICATIONS
  | ATTENTION
  | BLUETOOTH
  | WIFI
deriving DecidableEq

inductive Status where
  | SUCCESS
  | LIGHT_NOT_SUPPORTED
deriving DecidableEq

namespace Light

/-- One colour of a blinking state. -/
def startBlink (c : Channel) (startIdx : Nat) (brightness : Nat)
    (offMs pauseHi stepDuration : Int) : Channel :=
  { c with
    startIdx := some startIdx
    dutyPcts := some (getScaledDutyPcts brightness)
    pauseLo := some offMs
    pauseHi := some pauseHi
    rampStepMs := some stepDuration }

def setSpeakerLightLocked (l : Light) (state : LightState) : Light :=
  -- all blinking is disabled to start
  let l := { l with mRgbBlink := some 0 }
  if state.blink then
    let ramp := RAMP_STEP_DURATION * RAMP_SIZE * 2
    let stepDuration := if ramp > state.onMs then state.onMs / (RAMP_SIZE * 2)
      else RAMP_STEP_DURATION
    let pauseHi := if ramp > state.onMs then 0 else state.onMs - ramp
    { l with
      mRed := startBlink l.mRed 0 state.red state.offMs pauseHi stepDuration
      mGreen := startBlink l.mGreen RAMP_SIZE state.green state.offMs pauseHi stepDuration
      mBlue := startBlink l.mBlue (RAMP_SIZE * 2) state.blue state.offMs pauseHi stepDuration
      mRgbBlink := some 1 }
  else
    let l := if state.red = 0 ∧ state.green = 0 ∧ state.blue = 0 then
      { l with
        mRed := { l.mRed with blink := some 0 }
        mGreen := { l.mGreen with blink := some 0 }
        mBlue := { l.mBlue with blink := some 0 } }
      else l
    { l with
      mRed := { l.mRed with led := some state.red }
      mGreen := { l.mGreen with led := some state.green }
      mBlue := { l.mBlue with led := some state.blue } }

/-- Lights off. -/
def turnOff (c : Channel) : Channel := { c with led := some 0, blink := some 0 }

def setSpeakerBatteryLightLocked (l : Light) : Light :=
  if l.mNotificationState.isLit then l.setSpeakerLightLocked l.mNotificationState
  else if l.mAttentionState.isLit then l.setSpeakerLightLocked l.mAttentionState
  else if l.mBatteryState.isLit then l.setSpeakerLightLocked l.mBatteryState
  else { l with mRed := turnOff l.mRed, mGreen := turnOff l.mGreen, mBlue := turnOff l.mBlue }

def setAttentionLight (l : Light) (state : LightState) : Light :=
  { l with mAttentionState := state }.setSpeakerBatteryLightLocked

def setBatteryLight (l : Light) (state : LightState) : Light :=
  { l with mBatteryState := state }.setSpeakerBatteryLightLocked

def setNotificationLight (l : Light) (state : LightState) : Light :=
  { l with mNotificationState := state }.setSpeakerBatteryLightLocked

def setLcdBacklight (l : Light) (state : LightState) : Light :=
  let max := l.mLcdBacklight.2
  let brightness := state.rgbToBrightness
  let brightness := if max ≠ DEFAULT_MAX_BRIGHTNESS then brightness * max / DEFAULT_MAX_BRIGHTNESS
    else brightness
  { l with mLcdBacklight := (some brightness, max) }

def setButtonsBacklight (l : Light) (state : LightState) : Light :=
  { l with mButtonBacklight := l.mButtonBacklight.map fun _ => some state.rgbToBrightness }

def setLight (l : Light) (type : LightType) (state : LightState) : Light × Status :=
  match type with
  | .ATTENTION => (l.setAttentionLight state, .SUCCESS)
  | .BACKLIGHT => (l.setLcdBacklight state, .SUCCESS)
  | .BATTERY => (l.setBatteryLight state, .SUCCESS)
  | .BUTTONS => (l.setButtonsBacklight state, .SUCCESS)
  | .NOTIFICATIONS => (l.setNotificationLight state, .SUCCESS)
  | _ => (l, .LIGHT_NOT_SUPPORTED)

/-! ## What is shown -/

/-- The first stored state that is lit. -/
def shown (l : Light) : Option LightState :=
  [l.mNotificationState, l.mAttentionState, l.mBatteryState].find? (·.isLit)

/-- The nodes have what the stored states ask for. -/
structure Shows (l : Light) : Prop where
  off : l.shown = none →
    (∀ c ∈ [l.mRed, l.mGreen, l.mBlue], c.led = some 0 ∧ c.blink = some 0) ∧ l.mRgbBlink = some 0
  lit : ∀ state, l.shown = some state → l.mRgbBlink = some (if state.blink then 1 else 0) ∧
    (state.blink = false → l.mRed.led = some state.red ∧ l.mGreen.led = some state.green ∧
      l.mBlue.led = some state.blue)

theorem setSpeakerBatteryLightLocked_eq (l : Light) :
    l.setSpeakerBatteryLightLocked = match l.shown with
      | some state => l.setSpeakerLightLocked state
      | none =>
        { l with mRed := turnOff l.mRed, mGreen := turnOff l.mGreen, mBlue := turnOff l.mBlue } := by
  unfold setSpeakerBatteryLightLocked shown
  cases hn : l.mNotificationState.isLit with
  | true => simp [hn]
  | false =>
    cases ha : l.mAttentionState.isLit with
    | true => simp [hn, ha]
    | false => cases hb : l.mBatteryState.isLit <;> simp [hn, ha, hb]

/-- Writing to the nodes stores nothing. -/
theorem shown_setSpeakerLightLocked (l : Light) (state : LightState) :
    (l.setSpeakerLightLocked state).shown = l.shown := by
  unfold setSpeakerLightLocked
  split
  · rfl
  · dsimp only
    split <;> rfl

theorem shows_setSpeakerLightLocked {l : Light} {state : LightState}
    (hshown : l.shown = some state) : Shows (l.setSpeakerLightLocked state) := by
  constructor
  · intro hnone
    rw [shown_setSpeakerLightLocked, hshown] at hnone
    cases hnone
  · intro other hother
    rw [shown_setSpeakerLightLocked, hshown] at hother
    obtain rfl := Option.some.inj hother
    unfold setSpeakerLightLocked
    cases hblink : state.blink with
    | true => exact ⟨rfl, fun h => (by cases h)⟩
    | false =>
      refine ⟨?_, fun _ => ?_⟩
      · rw [if_neg Bool.false_ne_true, if_neg Bool.false_ne_true]
        dsimp only
        split <;> rfl
      · rw [if_neg Bool.false_ne_true]
        exact ⟨rfl, rfl, rfl⟩

/-- With nothing lit the nodes are right exactly if `rgb_blink` was zero already. -/
theorem shows_iff_of_off {l : Light} (hshown : l.shown = none) :
    Shows l.setSpeakerBatteryLightLocked ↔ l.mRgbBlink = some 0 := by
  rw [setSpeakerBatteryLightLocked_eq, hshown]
  constructor
  · intro h
    exact (h.off hshown).2
  · intro hrgb
    refine ⟨fun _ => ⟨?_, hrgb⟩, fun state hstate => ?_⟩
    · simp [turnOff]
    · have hnone : l.shown = some state := hstate
      rw [hshown] at hnone
      cases hnone

/-! ## Runs -/

/-- The types that share the LED. -/
def speakerTypes : List LightType := [.ATTENTION, .BATTERY, .NOTIFICATIONS]

structure SpeakerCall where
  type : LightType
  state : LightState
  speaker : type ∈ speakerTypes

def call (l : Light) (c : SpeakerCall) : Light := (l.setLight c.type c.state).1

/-- The other lights leave the LED alone. -/
theorem setLight_frame (l : Light) {type : LightType} (htype : type ∉ speakerTypes)
    (state : LightState) :
    (l.setLight type state).1.shown = l.shown ∧ (l.setLight type state).1.mRed = l.mRed ∧
      (l.setLight type state).1.mGreen = l.mGreen ∧ (l.setLight type state).1.mBlue = l.mBlue ∧
      (l.setLight type state).1.mRgbBlink = l.mRgbBlink := by
  cases type with
  | ATTENTION | BATTERY | NOTIFICATIONS => exact absurd (by decide) htype
  | _ => exact ⟨rfl, rfl, rfl, rfl, rfl⟩

/-- The call stores its state. -/
def store (l : Light) (c : SpeakerCall) : Light :=
  match c.type with
  | .ATTENTION => { l with mAttentionState := c.state }
  | .BATTERY => { l with mBatteryState := c.state }
  | _ => { l with mNotificationState := c.state }

theorem call_eq (l : Light) (c : SpeakerCall) :
    l.call c = (l.store c).setSpeakerBatteryLightLocked := by
  obtain ⟨type, state, hspeaker⟩ := c
  have hcases : type = .ATTENTION ∨ type = .BATTERY ∨ type = .NOTIFICATIONS := by
    simpa [speakerTypes] using hspeaker
  rcases hcases with rfl | rfl | rfl <;> rfl

/-- A call that leaves nothing lit is not the first one, and finds a state that does not
blink, or none. -/
def TurnsOffSteady (l : Light) (c : SpeakerCall) : Prop :=
  (l.store c).shown = none → l.mRgbBlink ≠ none ∧ ∀ state ∈ l.shown, state.blink = false

theorem mRgbBlink_store (l : Light) (c : SpeakerCall) : (l.store c).mRgbBlink = l.mRgbBlink := by
  unfold store
  split <;> rfl

/-- What the nodes have been written, they show. -/
def Kept (l : Light) : Prop := l.mRgbBlink ≠ none → Shows l

theorem shows_call_iff {l : Light} (h : Kept l) (c : SpeakerCall) :
    Shows (l.call c) ↔ TurnsOffSteady l c := by
  rw [call_eq]
  unfold TurnsOffSteady
  cases hshown : (l.store c).shown with
  | some state =>
    rw [setSpeakerBatteryLightLocked_eq, hshown]
    exact iff_of_true (shows_setSpeakerLightLocked hshown) fun hnone => (by cases hnone)
  | none =>
    rw [shows_iff_of_off hshown, mRgbBlink_store]
    constructor
    · intro hrgb _
      have hwritten : l.mRgbBlink ≠ none := by rw [hrgb]; exact Option.some_ne_none 0
      refine ⟨hwritten, fun state hstate => ?_⟩
      have hnow := ((h hwritten).lit state hstate).1
      rw [hrgb] at hnow
      cases hblink : state.blink with
      | true =>
        rw [hblink] at hnow
        cases hnow
      | false => rfl
    · intro hguard
      obtain ⟨hwritten, hsteady⟩ := hguard rfl
      cases hbefore : l.shown with
      | none => exact ((h hwritten).off hbefore).2
      | some state =>
        have hnow := ((h hwritten).lit state hbefore).1
        rw [hsteady state hbefore] at hnow
        exact hnow

/-- **The notification LED.** After each call of a run the nodes show the first lit state
exactly if no call turns a blinking LED off, and the first call leaves something lit. -/
theorem led_shows_iff (lcd_max : UInt32) (buttons : Nat)
    (attention battery notification : LightState) (calls : List SpeakerCall) :
    Steps call (fun l c => Shows (l.call c)) (new lcd_max buttons attention battery notification)
        calls ↔
      Steps call TurnsOffSteady (new lcd_max buttons attention battery notification) calls :=
  steps_iff_guard (I := Kept) (A := fun _ _ => True) (fun _ c hkept _ => shows_call_iff hkept c)
    (fun _ _ _ _ hshows _ => hshows) (fun hwritten => absurd rfl hwritten)
    (steps_of_forall (fun _ _ => trivial) _ _)

/-- A blinking notification that goes away. -/
theorem blinking_not_turned_off :
    let dark : LightState := ⟨0, .NONE, 0, 0⟩
    let l := run call (new 255 1 dark dark dark)
      [⟨.NOTIFICATIONS, ⟨0xffff0000, .TIMED, 1000, 500⟩, by decide⟩,
        ⟨.NOTIFICATIONS, dark, by decide⟩]
    l.shown = none ∧ l.mRgbBlink = some 1 ∧ ¬ Shows l := by
  intro dark l
  have hoff : l.shown = none := by decide
  have hrgb : l.mRgbBlink = some 1 := by decide
  refine ⟨hoff, hrgb, fun h => ?_⟩
  have hzero := (h.off hoff).2
  rw [hrgb] at hzero
  cases hzero

end Light

end DeviceHal.Liblight.NotificationLed
