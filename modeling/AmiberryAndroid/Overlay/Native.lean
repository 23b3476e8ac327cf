import AmiberryAndroid.Overlay.Touch

/-!
# The native side of the joystick overlay

`serial_stub.cpp` keeps the overlay's state in statics: `s_overlay_state`, and the flags
`s_dpad_up`, `s_dpad_down`, `s_dpad_left`, `s_dpad_right`, `s_button_a` and `s_button_b`. The
overlay's `native` methods set them through JNI and pass the joystick input on to the emulator
through `android_vjoystick_set_axis` and `android_vjoystick_set_button`, whose calls the model
records in `axes` and `buttons`. What those two do with the device (the lookup of the virtual
joystick, `setjoystickstate`, `setjoybuttonstate`) is left out, and so are the SDL key events
pushed for GUI navigation, which only follow the changes of the flags.

**Theorem (`NativeState.DeviceAgrees`).** Every native call keeps what the emulator last got in
step with the flags: the last value sent for each axis is the one the d-pad flags give (centred
before any call), and the last value sent for each button is its flag (released before any call).

The two sides number the overlay's states differently: the native `AndroidOverlayState` has
`OVERLAY_MOUSE = 1` and `OVERLAY_JOYSTICK = 2`, while the overlay passes its own
`STATE_JOYSTICK = 1` and `STATE_KEYBOARD = 2` unchanged.
-/

namespace Overlay

/-- `OVERLAY_OFF` -/
def overlayOff : Int := 0
/-- `OVERLAY_MOUSE` -/
def overlayMouse : Int := 1
/-- `OVERLAY_JOYSTICK` -/
def overlayJoystick : Int := 2
/-- `OVERLAY_KEYBOARD` -/
def overlayKeyboard : Int := 3

/-- A d-pad state, as the four flags `up`, `down`, `left`, `right`. -/
structure Dpad where
  up : Bool
  down : Bool
  left : Bool
  right : Bool
  deriving DecidableEq, Repr

namespace Dpad

/-- No direction held. -/
def none : Dpad := ⟨false, false, false, false⟩

/-- `horiz` of `nativeSetJoystick`: `-1` left, `0` centre, `1` right. -/
def horiz (d : Dpad) : Int := if d.left ∧ ¬d.right then -1 else if d.right ∧ ¬d.left then 1 else 0

/-- `vert` of `nativeSetJoystick`: `-1` up, `0` centre, `1` down. -/
def vert (d : Dpad) : Int := if d.up ∧ ¬d.down then -1 else if d.down ∧ ¬d.up then 1 else 0

@[simp] theorem horiz_none : none.horiz = 0 := rfl

@[simp] theorem vert_none : none.vert = 0 := rfl

end Dpad

/-- The statics of `serial_stub.cpp` that the overlay sets, and the calls it made to the
device. -/
structure NativeState where
  /-- `s_overlay_state` -/
  sOverlayState : Int
  /-- `s_dpad_up`, `s_dpad_down`, `s_dpad_left`, `s_dpad_right` -/
  sDpad : Dpad
  /-- `s_button_a` -/
  sButtonA : Bool
  /-- `s_button_b` -/
  sButtonB : Bool
  /-- The calls `android_vjoystick_set_axis(axis, value)`, oldest first. -/
  axes : List (Int × Int)
  /-- The calls `android_vjoystick_set_button(button, pressed)`, oldest first. -/
  buttons : List (Int × Bool)
  deriving DecidableEq, Repr

namespace NativeState

/-- The statics' initial values, before any call. -/
def initial : NativeState := ⟨overlayOff, .none, false, false, [], []⟩

/-- `nativeSetJoystick(up, down, left, right)`: both axes go to the device, and the `s_dpad_*`
flags take the new values (comparing them only decides which SDL key events are pushed). -/
def nativeSetJoystick (n : NativeState) (d : Dpad) : NativeState :=
  { n with axes := n.axes ++ [(0, d.horiz), (1, d.vert)], sDpad := d }

/-- `nativeSetButton(button, pressed)`: a button whose flag changes goes to the device. -/
def nativeSetButton (n : NativeState) (button : Int) (pressed : Bool) : NativeState :=
  if button = 0 then
    if pressed ≠ n.sButtonA then
      { n with sButtonA := pressed, buttons := n.buttons ++ [(0, pressed)] }
    else n
  else if button = 1 then
    if pressed ≠ n.sButtonB then
      { n with sButtonB := pressed, buttons := n.buttons ++ [(1, pressed)] }
    else n
  else n

/-- `nativeSetOverlayState(state)`: leaving `OVERLAY_JOYSTICK` centres both axes, releases both
buttons and clears every flag. -/
def nativeSetOverlayState (n : NativeState) (state : Int) : NativeState :=
  let oldState := n.sOverlayState
  let n := { n with sOverlayState := state }
  if state ≠ overlayJoystick ∧ oldState = overlayJoystick then
    { n with
      axes := n.axes ++ [(0, 0), (1, 0)], buttons := n.buttons ++ [(0, false), (1, false)]
      sDpad := .none, sButtonA := false, sButtonB := false }
  else n

/-- `android_vjoystick_is_active()` -/
def androidVjoystickIsActive (n : NativeState) : Bool := n.sOverlayState = overlayJoystick

/-! ## What each call changes -/

variable (n : NativeState)

@[simp] theorem nativeSetJoystick_sOverlayState (d : Dpad) :
    (n.nativeSetJoystick d).sOverlayState = n.sOverlayState := rfl

@[simp] theorem nativeSetJoystick_sDpad (d : Dpad) : (n.nativeSetJoystick d).sDpad = d := rfl

@[simp] theorem nativeSetJoystick_sButtonA (d : Dpad) :
    (n.nativeSetJoystick d).sButtonA = n.sButtonA := rfl

@[simp] theorem nativeSetJoystick_sButtonB (d : Dpad) :
    (n.nativeSetJoystick d).sButtonB = n.sButtonB := rfl

@[simp] theorem nativeSetButton_sOverlayState (button : Int) (pressed : Bool) :
    (n.nativeSetButton button pressed).sOverlayState = n.sOverlayState := by
  unfold nativeSetButton; split_ifs <;> rfl

@[simp] theorem nativeSetButton_sDpad (button : Int) (pressed : Bool) :
    (n.nativeSetButton button pressed).sDpad = n.sDpad := by
  unfold nativeSetButton; split_ifs <;> rfl

@[simp] theorem nativeSetButton_sButtonA (pressed : Bool) :
    (n.nativeSetButton 0 pressed).sButtonA = pressed := by
  unfold nativeSetButton; split_ifs with h <;> simp_all

@[simp] theorem nativeSetButton_sButtonB (pressed : Bool) :
    (n.nativeSetButton 1 pressed).sButtonB = pressed := by
  unfold nativeSetButton; split_ifs with h <;> simp_all

@[simp] theorem nativeSetButton_zero_sButtonB (pressed : Bool) :
    (n.nativeSetButton 0 pressed).sButtonB = n.sButtonB := by
  unfold nativeSetButton; split_ifs <;> simp_all

@[simp] theorem nativeSetButton_one_sButtonA (pressed : Bool) :
    (n.nativeSetButton 1 pressed).sButtonA = n.sButtonA := by
  unfold nativeSetButton; split_ifs <;> simp_all

@[simp] theorem nativeSetOverlayState_sOverlayState (state : Int) :
    (n.nativeSetOverlayState state).sOverlayState = state := by
  unfold nativeSetOverlayState; dsimp only; split_ifs <;> rfl

/-- A change of state keeps the flags, or, leaving `OVERLAY_JOYSTICK`, clears them all. -/
theorem nativeSetOverlayState_flags (state : Int) :
    let n' := n.nativeSetOverlayState state
    (n'.sDpad = n.sDpad ∧ n'.sButtonA = n.sButtonA ∧ n'.sButtonB = n.sButtonB) ∨
      (n'.sDpad = .none ∧ n'.sButtonA = false ∧ n'.sButtonB = false) := by
  unfold nativeSetOverlayState; dsimp only; split_ifs <;> simp

/-- Outside `OVERLAY_JOYSTICK`, a change of state keeps the flags. -/
theorem nativeSetOverlayState_of_ne (h : n.sOverlayState ≠ overlayJoystick) (state : Int) :
    n.nativeSetOverlayState state = { n with sOverlayState := state } := by
  unfold nativeSetOverlayState; simp [h]

/-! ## The device follows the flags -/

/-- What the emulator last got through `android_vjoystick_set_axis` and
`android_vjoystick_set_button` matches the flags; before any call an axis is centred and a
button released. -/
structure DeviceAgrees (n : NativeState) : Prop where
  horiz : (lastSent n.axes 0).getD 0 = n.sDpad.horiz
  vert : (lastSent n.axes 1).getD 0 = n.sDpad.vert
  buttonA : (lastSent n.buttons 0).getD false = n.sButtonA
  buttonB : (lastSent n.buttons 1).getD false = n.sButtonB

namespace DeviceAgrees

variable {n}

theorem initial : initial.DeviceAgrees := ⟨rfl, rfl, rfl, rfl⟩

theorem nativeSetJoystick (h : n.DeviceAgrees) (d : Dpad) : (n.nativeSetJoystick d).DeviceAgrees :=
  ⟨by simp [NativeState.nativeSetJoystick], by simp [NativeState.nativeSetJoystick],
    h.buttonA, h.buttonB⟩

theorem nativeSetButton (h : n.DeviceAgrees) (button : Int) (pressed : Bool) :
    (n.nativeSetButton button pressed).DeviceAgrees := by
  unfold NativeState.nativeSetButton
  split_ifs
  · exact ⟨h.horiz, h.vert, by simp, by simpa using h.buttonB⟩
  · exact h
  · exact ⟨h.horiz, h.vert, by simpa using h.buttonA, by simp⟩
  all_goals exact h

theorem nativeSetOverlayState (h : n.DeviceAgrees) (state : Int) :
    (n.nativeSetOverlayState state).DeviceAgrees := by
  unfold NativeState.nativeSetOverlayState
  dsimp only
  split_ifs
  · -- the literal pairs are rewritten before Mathlib's simp set can fold (0, 0) into 0
    constructor <;> simp only [lastSent_append_pair] <;> simp
  · exact ⟨h.horiz, h.vert, h.buttonA, h.buttonB⟩

end DeviceAgrees

end NativeState

end Overlay
