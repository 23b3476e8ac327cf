import AmiberryAndroid.Overlay.Native
import Mathlib.Algebra.Order.Ring.Unbundled.Rat
import Mathlib.Tactic.Linarith

/-!
# The virtual joystick

`VirtualJoystickOverlay` (in `LauncherActivity.kt`) draws a d-pad, two fire buttons and a row of
small buttons: the toggle, which cycles `overlayState` through off, joystick and keyboard, the
scale buttons, and F12. In the joystick state a finger that goes down on the d-pad or on a free
button takes it (`dpadPointerId`, `buttonAPointerId`, `buttonBPointerId`), and the pointer's
end releases every role it holds. Each change of the d-pad or of a button goes to the native
side (`Overlay.Native`). The layout at each scale factor and the d-pad's direction test are
parameters (`Screen`), so every result holds for every geometry.

**Theorem (`native_mirrors_overlay`).** After any touch input whatever, the native flags are the
overlay's flags, the native overlay state is `overlayState`, and the emulator last got the axes
and buttons the flags give. In particular `android_vjoystick_is_active()` holds exactly in
`STATE_KEYBOARD` (`vjoystick_active_iff_keyboard_state`): the overlay's `STATE_KEYBOARD = 2` is
the native `OVERLAY_JOYSTICK`.

**Theorem (`joystick_releases_all_without_cancel`).** For every geometry and every well-formed
touch stream whose gestures all end with `ACTION_UP`, whenever no finger is down no role is
held, no flag is set on either side, both axes are centred and both buttons released.

The `ACTION_CANCEL` branch is the `ACTION_UP` branch: it releases the roles of the pointer at the
action index only. A cancelled gesture with one finger on the d-pad and one on fire button A
leaves A pressed on both sides, held by a pointer that is gone
(`joystick_cancel_leaves_button_held`).

**Theorem (`joystick_released_outside_joystick_state`).** For every geometry and every touch
stream whatever, `ACTION_CANCEL` included, whenever the overlay is not in `STATE_JOYSTICK`
nothing is held on either side. Only the toggle leaves the joystick state, leaving it frees every
role, and outside it no role can be taken (`Idle`). So a tap on the toggle releases a button that
a cancelled gesture left pressed.
-/

namespace Overlay

/-- `STATE_OFF` -/
def stateOff : Int := 0
/-- `STATE_JOYSTICK` -/
def stateJoystick : Int := 1
/-- `STATE_KEYBOARD` -/
def stateKeyboard : Int := 2

/-- `MIN_SCALE` -/
def minScale : ℚ := 1 / 2
/-- `MAX_SCALE` -/
def maxScale : ℚ := 2
/-- `SCALE_STEP` -/
def scaleStep : ℚ := 1 / 10

/-- The hit rectangles that `updateLayout` sets. -/
structure JoystickLayout where
  dpadRect : RectF
  buttonARect : RectF
  buttonBRect : RectF
  toggleRect : RectF
  plusRect : RectF
  minusRect : RectF
  f12Rect : RectF

/-- What the model takes as given: `updateLayout(width, height)` for the view's size at each
scale factor, and the direction test of `updateDpadState` (its dead zone and 45-degree sectors
of `atan2`) for a d-pad rectangle and a touch point. -/
structure Screen where
  layout : ℚ → JoystickLayout
  directions : RectF → ℚ → ℚ → Dpad

/-- A fire button: `buttonXPressed` and `buttonXPointerId`. -/
structure Button where
  pressed : Bool
  pointerId : Int
  deriving DecidableEq, Repr

/-- Some direction is held: the test of `clearDpadState`. -/
def Dpad.any (d : Dpad) : Bool := d.up || d.down || d.left || d.right

@[simp] theorem Dpad.any_none : Dpad.none.any = false := rfl

theorem Dpad.any_eq_false {d : Dpad} : d.any = false ↔ d = .none := by
  rcases d with ⟨_ | _, _ | _, _ | _, _ | _⟩ <;> decide

/-- The overlay's touch state, and the native statics its calls set. -/
structure VirtualJoystickOverlay where
  scaleFactor : ℚ
  overlayState : Int
  /-- `dpadUp`, `dpadDown`, `dpadLeft`, `dpadRight` -/
  dpad : Dpad
  dpadPointerId : Int
  buttonA : Button
  buttonB : Button
  native : NativeState
  deriving DecidableEq, Repr

namespace VirtualJoystickOverlay

/-- A new view, with the scale factor read from the preferences, in a fresh process. -/
def initial (scaleFactor : ℚ) : VirtualJoystickOverlay :=
  ⟨scaleFactor, stateOff, .none, -1, ⟨false, -1⟩, ⟨false, -1⟩, .initial⟩

/-- `updateDpadState(x, y)`: new directions go to the native side. -/
def updateDpadState (sc : Screen) (j : VirtualJoystickOverlay) (x y : ℚ) : VirtualJoystickOverlay :=
  let d := sc.directions (sc.layout j.scaleFactor).dpadRect x y
  if d ≠ j.dpad then { j with dpad := d, native := j.native.nativeSetJoystick d } else j

/-- `clearDpadState()` -/
def clearDpadState (j : VirtualJoystickOverlay) : VirtualJoystickOverlay :=
  if j.dpad.up || j.dpad.down || j.dpad.left || j.dpad.right then
    { j with dpad := .none, native := j.native.nativeSetJoystick .none }
  else j

/-- `setButtonXPressed(pressed)` for the button the native side numbers `button`. -/
def setButtonPressed (button : Int) (b : Button) (n : NativeState) (pressed : Bool) :
    Button × NativeState :=
  if b.pressed ≠ pressed then ({ b with pressed }, n.nativeSetButton button pressed) else (b, n)

/-- `setButtonAPressed(pressed)` -/
def setButtonAPressed (j : VirtualJoystickOverlay) (pressed : Bool) : VirtualJoystickOverlay :=
  let (b, n) := setButtonPressed 0 j.buttonA j.native pressed
  { j with buttonA := b, native := n }

/-- `setButtonBPressed(pressed)` -/
def setButtonBPressed (j : VirtualJoystickOverlay) (pressed : Bool) : VirtualJoystickOverlay :=
  let (b, n) := setButtonPressed 1 j.buttonB j.native pressed
  { j with buttonB := b, native := n }

/-- `cycleState()`: the native side learns the new state first; leaving the joystick state
then clears every role. -/
def cycleState (j : VirtualJoystickOverlay) : VirtualJoystickOverlay :=
  let overlayState :=
    if j.overlayState = stateOff then stateJoystick
    else if j.overlayState = stateJoystick then stateKeyboard
    else stateOff
  let j := { j with overlayState, native := j.native.nativeSetOverlayState overlayState }
  if overlayState ≠ stateJoystick then
    let j := (j.clearDpadState.setButtonAPressed false).setButtonBPressed false
    { j with dpadPointerId := -1, buttonA.pointerId := -1, buttonB.pointerId := -1 }
  else j

/-- `increaseScale()` -/
def increaseScale (j : VirtualJoystickOverlay) : VirtualJoystickOverlay :=
  if j.scaleFactor < maxScale then { j with scaleFactor := min (j.scaleFactor + scaleStep) maxScale }
  else j

/-- `decreaseScale()` -/
def decreaseScale (j : VirtualJoystickOverlay) : VirtualJoystickOverlay :=
  if j.scaleFactor > minScale then { j with scaleFactor := max (j.scaleFactor - scaleStep) minScale }
  else j

/-- The body of the `ACTION_MOVE` loop, for one pointer: the d-pad follows its finger. -/
def movePointer (sc : Screen) (j : VirtualJoystickOverlay) (q : Pointer) : VirtualJoystickOverlay :=
  if q.id = j.dpadPointerId then j.updateDpadState sc q.x q.y else j

/-- The `ACTION_UP`, `ACTION_POINTER_UP` and `ACTION_CANCEL` branch, for the pointer
`pointerId`: every role it holds is released, and the event is handled if it held one. -/
def releasePointer (j : VirtualJoystickOverlay) (pointerId : Int) : VirtualJoystickOverlay × Bool :=
  let j₁ := if pointerId = j.dpadPointerId then { j with dpadPointerId := -1 }.clearDpadState else j
  let j₂ := if pointerId = j₁.buttonA.pointerId then
      { j₁ with buttonA.pointerId := -1 }.setButtonAPressed false
    else j₁
  let j₃ := if pointerId = j₂.buttonB.pointerId then
      { j₂ with buttonB.pointerId := -1 }.setButtonBPressed false
    else j₂
  (j₃, pointerId = j.dpadPointerId || pointerId = j₁.buttonA.pointerId ||
    pointerId = j₂.buttonB.pointerId)

/-- The `ACTION_DOWN` and `ACTION_POINTER_DOWN` branch, for the pointer `pointerId` at
`(x, y)`: the small buttons first, then, in the joystick state, a free d-pad or button. -/
def pressPointer (sc : Screen) (j : VirtualJoystickOverlay) (pointerId : Int) (x y : ℚ) :
    VirtualJoystickOverlay × Bool :=
  let l := sc.layout j.scaleFactor
  if l.toggleRect.contains x y then (j.cycleState, true)
  else if l.plusRect.contains x y then (j.increaseScale, true)
  else if l.minusRect.contains x y then (j.decreaseScale, true)
  else if l.f12Rect.contains x y then (j, true)
  else if j.overlayState = stateJoystick then
    if l.dpadRect.contains x y ∧ j.dpadPointerId = -1 then
      ({ j with dpadPointerId := pointerId }.updateDpadState sc x y, true)
    else if l.buttonARect.contains x y ∧ j.buttonA.pointerId = -1 then
      ({ j with buttonA.pointerId := pointerId }.setButtonAPressed true, true)
    else if l.buttonBRect.contains x y ∧ j.buttonB.pointerId = -1 then
      ({ j with buttonB.pointerId := pointerId }.setButtonBPressed true, true)
    else (j, false)
  else (j, false)

/-- `onTouchEvent(event)`, with the value it returns. -/
def onTouchEvent (sc : Screen) (j : VirtualJoystickOverlay) (e : MotionEvent) :
    VirtualJoystickOverlay × Bool :=
  let pointerId := e.actionPointer.id
  let x := e.actionPointer.x
  let y := e.actionPointer.y
  match e.actionMasked with
  | .down | .pointerDown => j.pressPointer sc pointerId x y
  | .move =>
    if j.dpadPointerId ≠ -1 ∨ j.buttonA.pointerId ≠ -1 ∨ j.buttonB.pointerId ≠ -1 then
      (e.pointers.foldl (movePointer sc) j, true)
    else (j, false)
  | .up | .pointerUp | .cancel => j.releasePointer pointerId
  | .other => (j, false)

/-- The overlay after a stream of touch events. -/
def run (sc : Screen) (j : VirtualJoystickOverlay) : List MotionEvent → VirtualJoystickOverlay
  | [] => j
  | e :: es => run sc (onTouchEvent sc j e).1 es

/-! ## What each helper changes -/

section Spec

variable (sc : Screen) (j : VirtualJoystickOverlay)

@[simp] theorem updateDpadState_eq (x y : ℚ) : j.updateDpadState sc x y =
    { j with
      dpad := sc.directions (sc.layout j.scaleFactor).dpadRect x y
      native := if sc.directions (sc.layout j.scaleFactor).dpadRect x y ≠ j.dpad then
          j.native.nativeSetJoystick (sc.directions (sc.layout j.scaleFactor).dpadRect x y)
        else j.native } := by
  unfold updateDpadState
  dsimp only
  split_ifs with h
  · rfl
  · rw [not_not.1 h]

@[simp] theorem clearDpadState_eq : j.clearDpadState =
    { j with
      dpad := .none
      native := if j.dpad.any then j.native.nativeSetJoystick .none else j.native } := by
  unfold clearDpadState Dpad.any
  split_ifs with h
  · rfl
  · rw [← Dpad.any_eq_false.1 (by simpa [Dpad.any] using h)]

theorem setButtonPressed_eq (button : Int) (b : Button) (n : NativeState) (pressed : Bool) :
    setButtonPressed button b n pressed =
      ({ b with pressed }, if b.pressed ≠ pressed then n.nativeSetButton button pressed else n) := by
  unfold setButtonPressed
  split_ifs with h
  · rfl
  · rw [← not_not.1 h]

@[simp] theorem setButtonAPressed_eq (pressed : Bool) : j.setButtonAPressed pressed =
    { j with
      buttonA.pressed := pressed
      native := if j.buttonA.pressed ≠ pressed then j.native.nativeSetButton 0 pressed
        else j.native } := by
  rw [setButtonAPressed, setButtonPressed_eq]

@[simp] theorem setButtonBPressed_eq (pressed : Bool) : j.setButtonBPressed pressed =
    { j with
      buttonB.pressed := pressed
      native := if j.buttonB.pressed ≠ pressed then j.native.nativeSetButton 1 pressed
        else j.native } := by
  rw [setButtonBPressed, setButtonPressed_eq]

end Spec

/-! ## The native side mirrors the overlay, whatever the input -/

section Device

variable {j : VirtualJoystickOverlay}

theorem device_clearDpadState (h : j.native.DeviceAgrees) : j.clearDpadState.native.DeviceAgrees := by
  rw [clearDpadState_eq]
  split_ifs
  exacts [h.nativeSetJoystick _, h]

theorem device_setButtonAPressed (h : j.native.DeviceAgrees) (pressed : Bool) :
    (j.setButtonAPressed pressed).native.DeviceAgrees := by
  rw [setButtonAPressed_eq]
  split_ifs
  exacts [h.nativeSetButton 0 pressed, h]

theorem device_setButtonBPressed (h : j.native.DeviceAgrees) (pressed : Bool) :
    (j.setButtonBPressed pressed).native.DeviceAgrees := by
  rw [setButtonBPressed_eq]
  split_ifs
  exacts [h.nativeSetButton 1 pressed, h]

/-- Clearing every role, as `cycleState` does, when the native flags are the overlay's or
already cleared, leaves both sides cleared and the state as it was. -/
theorem clearRoles_cleared (hd : j.native.sDpad = j.dpad ∨ j.native.sDpad = .none)
    (ha : j.native.sButtonA = j.buttonA.pressed ∨ j.native.sButtonA = false)
    (hb : j.native.sButtonB = j.buttonB.pressed ∨ j.native.sButtonB = false) :
    let j' := (j.clearDpadState.setButtonAPressed false).setButtonBPressed false
    j'.dpad = .none ∧ j'.buttonA.pressed = false ∧ j'.buttonB.pressed = false ∧
      j'.native.sDpad = .none ∧ j'.native.sButtonA = false ∧ j'.native.sButtonB = false ∧
      j'.native.sOverlayState = j.native.sOverlayState ∧ j'.overlayState = j.overlayState := by
  simp only [clearDpadState_eq, setButtonAPressed_eq, setButtonBPressed_eq]
  cases e₁ : j.dpad.any <;> cases e₂ : j.buttonA.pressed <;> cases e₃ : j.buttonB.pressed <;>
    simp_all [Dpad.any_eq_false]

end Device

/-- The native flags and state are the overlay's, and the device agrees with them. -/
structure Consistent (j : VirtualJoystickOverlay) : Prop where
  sOverlayState_eq : j.native.sOverlayState = j.overlayState
  sDpad_eq : j.native.sDpad = j.dpad
  sButtonA_eq : j.native.sButtonA = j.buttonA.pressed
  sButtonB_eq : j.native.sButtonB = j.buttonB.pressed
  device : j.native.DeviceAgrees

namespace Consistent

variable {j : VirtualJoystickOverlay}

theorem initial (scaleFactor : ℚ) : (initial scaleFactor).Consistent :=
  ⟨rfl, rfl, rfl, rfl, .initial⟩

/-- Only the native side, the state, the d-pad and the buttons' flags take part. -/
theorem congr (h : j.Consistent) {j' : VirtualJoystickOverlay} (hn : j'.native = j.native)
    (ho : j'.overlayState = j.overlayState) (hd : j'.dpad = j.dpad)
    (ha : j'.buttonA.pressed = j.buttonA.pressed) (hb : j'.buttonB.pressed = j.buttonB.pressed) :
    j'.Consistent :=
  ⟨by rw [hn, ho, h.1], by rw [hn, hd, h.2], by rw [hn, ha, h.3], by rw [hn, hb, h.4], hn ▸ h.5⟩

theorem updateDpadState (h : j.Consistent) (sc : Screen) (x y : ℚ) :
    (j.updateDpadState sc x y).Consistent := by
  rw [updateDpadState_eq]
  split_ifs with hd
  · exact ⟨h.1, rfl, h.3, h.4, h.5.nativeSetJoystick _⟩
  · exact ⟨h.1, by rw [not_not.1 hd, h.2], h.3, h.4, h.5⟩

theorem clearDpadState (h : j.Consistent) : j.clearDpadState.Consistent := by
  rw [clearDpadState_eq]
  split_ifs with hd
  · exact ⟨h.1, rfl, h.3, h.4, h.5.nativeSetJoystick _⟩
  · exact ⟨h.1, h.2.trans (Dpad.any_eq_false.1 (by simpa using hd)), h.3, h.4, h.5⟩

theorem setButtonAPressed (h : j.Consistent) (pressed : Bool) :
    (j.setButtonAPressed pressed).Consistent := by
  rw [setButtonAPressed_eq]
  split_ifs with hp
  · exact ⟨by simpa using h.1, by simpa using h.2, by simp, by simpa using h.4,
      h.5.nativeSetButton 0 pressed⟩
  · exact ⟨h.1, h.2, by rw [h.3, not_not.1 hp], h.4, h.5⟩

theorem setButtonBPressed (h : j.Consistent) (pressed : Bool) :
    (j.setButtonBPressed pressed).Consistent := by
  rw [setButtonBPressed_eq]
  split_ifs with hp
  · exact ⟨by simpa using h.1, by simpa using h.2, by simpa using h.3, by simp,
      h.5.nativeSetButton 1 pressed⟩
  · exact ⟨h.1, h.2, h.3, by rw [h.4, not_not.1 hp], h.5⟩

/-- `cycleState` keeps the mirror. Leaving the joystick state, the native side may have cleared
its flags before the overlay clears its own; both sides end cleared. -/
theorem cycleState (h : j.Consistent) : j.cycleState.Consistent := by
  unfold VirtualJoystickOverlay.cycleState
  dsimp only
  generalize hs : (if j.overlayState = stateOff then stateJoystick
    else if j.overlayState = stateJoystick then stateKeyboard else stateOff) = s
  split_ifs with hj
  · have hf := j.native.nativeSetOverlayState_flags s
    obtain ⟨h1, h2, h3, h4, h5, h6, h7, h8⟩ :=
      clearRoles_cleared (j := { j with overlayState := s, native := j.native.nativeSetOverlayState s })
        (hf.imp (·.1.trans h.2) (·.1)) (hf.imp (·.2.1.trans h.3) (·.2.1))
        (hf.imp (·.2.2.trans h.4) (·.2.2))
    exact ⟨h7.trans ((j.native.nativeSetOverlayState_sOverlayState s).trans h8.symm),
      h4.trans h1.symm, h5.trans h2.symm, h6.trans h3.symm, device_setButtonBPressed
      (device_setButtonAPressed (device_clearDpadState (h.device.nativeSetOverlayState s)) _) _⟩
  · -- the joystick state is entered from off, where the native side keeps its flags
    have h0 : j.native.sOverlayState ≠ overlayJoystick := by
      rw [h.1]
      subst hs
      split_ifs at hj <;> simp_all [stateOff, stateJoystick, stateKeyboard, overlayJoystick]
    rw [j.native.nativeSetOverlayState_of_ne h0]
    exact ⟨rfl, h.2, h.3, h.4, ⟨h.5.1, h.5.2, h.5.3, h.5.4⟩⟩

theorem movePointer (h : j.Consistent) (sc : Screen) (q : Pointer) : (j.movePointer sc q).Consistent := by
  unfold VirtualJoystickOverlay.movePointer
  split_ifs
  exacts [h.updateDpadState sc _ _, h]

theorem releasePointer (h : j.Consistent) (p : Int) : (j.releasePointer p).1.Consistent := by
  unfold VirtualJoystickOverlay.releasePointer
  dsimp only
  -- each of the three steps keeps the mirror
  have h₁ : Consistent
      (if p = j.dpadPointerId then { j with dpadPointerId := -1 }.clearDpadState else j) := by
    split_ifs
    · apply Consistent.clearDpadState
      exact h.congr rfl rfl rfl rfl rfl
    · exact h
  have h₂ : ∀ j : VirtualJoystickOverlay, j.Consistent → Consistent (if p = j.buttonA.pointerId then
      { j with buttonA.pointerId := -1 }.setButtonAPressed false else j) := fun j h => by
    split_ifs
    · apply Consistent.setButtonAPressed
      exact h.congr rfl rfl rfl rfl rfl
    · exact h
  have h₃ : ∀ j : VirtualJoystickOverlay, j.Consistent → Consistent (if p = j.buttonB.pointerId then
      { j with buttonB.pointerId := -1 }.setButtonBPressed false else j) := fun j h => by
    split_ifs
    · apply Consistent.setButtonBPressed
      exact h.congr rfl rfl rfl rfl rfl
    · exact h
  exact h₃ _ (h₂ _ h₁)

end Consistent

/-! ## What one event does -/

section Events

variable (sc : Screen) (j : VirtualJoystickOverlay) {e : MotionEvent}

/-- A pointer going down: a tap on the toggle or on a scale button, a free d-pad or button
taken by the pointer, or nothing. -/
theorem pressPointer_cases (p : Int) (x y : ℚ) :
    (j.pressPointer sc p x y).1 = j.cycleState ∨ (j.pressPointer sc p x y).1 = j.increaseScale ∨
    (j.pressPointer sc p x y).1 = j.decreaseScale ∨
    (j.dpadPointerId = -1 ∧
      (j.pressPointer sc p x y).1 = { j with dpadPointerId := p }.updateDpadState sc x y) ∨
    (j.buttonA.pointerId = -1 ∧
      (j.pressPointer sc p x y).1 = { j with buttonA.pointerId := p }.setButtonAPressed true) ∨
    (j.buttonB.pointerId = -1 ∧
      (j.pressPointer sc p x y).1 = { j with buttonB.pointerId := p }.setButtonBPressed true) ∨
    (j.pressPointer sc p x y).1 = j := by
  generalize hr : (j.pressPointer sc p x y).1 = r
  unfold pressPointer at hr
  simp only [apply_ite Prod.fst, ite_eq_iff] at hr
  -- one case per branch, in the order of the code
  rcases hr with ⟨-, rfl⟩ | ⟨-, ⟨-, rfl⟩ | ⟨-, ⟨-, rfl⟩ | ⟨-, ⟨-, rfl⟩ | ⟨-, ⟨-, ⟨⟨-, h⟩, rfl⟩ |
    ⟨-, ⟨⟨-, h⟩, rfl⟩ | ⟨-, ⟨⟨-, h⟩, rfl⟩ | ⟨-, rfl⟩⟩⟩⟩ | ⟨-, rfl⟩⟩⟩⟩⟩
  · exact .inl rfl
  · exact .inr (.inl rfl)
  · exact .inr (.inr (.inl rfl))
  · exact .inr (.inr (.inr (.inr (.inr (.inr rfl)))))
  · exact .inr (.inr (.inr (.inl ⟨h, rfl⟩)))
  · exact .inr (.inr (.inr (.inr (.inl ⟨h, rfl⟩))))
  · exact .inr (.inr (.inr (.inr (.inr (.inl ⟨h, rfl⟩)))))
  all_goals exact .inr (.inr (.inr (.inr (.inr (.inr rfl)))))

theorem onTouchEvent_press (ha : e.actionMasked = .down ∨ e.actionMasked = .pointerDown) :
    j.onTouchEvent sc e = j.pressPointer sc e.actionPointer.id e.actionPointer.x e.actionPointer.y := by
  unfold onTouchEvent
  rcases ha with ha | ha <;> simp only [ha]

theorem onTouchEvent_move (ha : e.actionMasked = .move) :
    (j.onTouchEvent sc e).1 = j ∨ (j.onTouchEvent sc e).1 = e.pointers.foldl (movePointer sc) j := by
  unfold onTouchEvent
  simp only [ha]
  split_ifs <;> simp

theorem onTouchEvent_release
    (ha : e.actionMasked = .up ∨ e.actionMasked = .pointerUp ∨ e.actionMasked = .cancel) :
    j.onTouchEvent sc e = j.releasePointer e.actionPointer.id := by
  unfold onTouchEvent
  rcases ha with ha | ha | ha <;> simp only [ha]

theorem onTouchEvent_other (ha : e.actionMasked = .other) : j.onTouchEvent sc e = (j, false) := by
  unfold onTouchEvent
  simp only [ha]

end Events

theorem Consistent.onTouchEvent {j : VirtualJoystickOverlay} (h : j.Consistent) (sc : Screen)
    (e : MotionEvent) : (j.onTouchEvent sc e).1.Consistent := by
  cases ha : e.actionMasked
  case move =>
    rcases onTouchEvent_move sc j ha with h1 | h1 <;> rw [h1]
    exacts [h, List.foldlRecOn (motive := Consistent) e.pointers _ j h fun j h q _ => h.movePointer sc q]
  case other => rw [onTouchEvent_other sc j ha]; exact h
  case up | pointerUp | cancel =>
    rw [onTouchEvent_release sc j (by simp [ha])]
    exact h.releasePointer _
  case down | pointerDown =>
    rw [onTouchEvent_press sc j (by simp [ha])]
    rcases pressPointer_cases sc j e.actionPointer.id e.actionPointer.x e.actionPointer.y with
      h1 | h1 | h1 | ⟨-, h1⟩ | ⟨-, h1⟩ | ⟨-, h1⟩ | h1 <;> rw [h1]
    · exact h.cycleState
    · unfold increaseScale; split_ifs; exacts [h.congr rfl rfl rfl rfl rfl, h]
    · unfold decreaseScale; split_ifs; exacts [h.congr rfl rfl rfl rfl rfl, h]
    · apply Consistent.updateDpadState
      exact h.congr rfl rfl rfl rfl rfl
    · apply Consistent.setButtonAPressed
      exact h.congr rfl rfl rfl rfl rfl
    · apply Consistent.setButtonBPressed
      exact h.congr rfl rfl rfl rfl rfl
    · exact h

theorem Consistent.run {j : VirtualJoystickOverlay} (h : j.Consistent) (sc : Screen)
    (es : List MotionEvent) : (j.run sc es).Consistent := by
  induction es generalizing j with
  | nil => exact h
  | cons e es ih => exact ih (h.onTouchEvent sc e)

/-- After any touch input, the native flags and state are the overlay's, and the emulator last
got the axes and buttons the flags give. -/
theorem native_mirrors_overlay (sc : Screen) (scaleFactor : ℚ) (es : List MotionEvent) :
    ((initial scaleFactor).run sc es).Consistent :=
  (Consistent.initial scaleFactor).run sc es

/-- `android_vjoystick_is_active()` holds exactly while the overlay is in `STATE_KEYBOARD`. -/
theorem vjoystick_active_iff_keyboard_state (sc : Screen) (scaleFactor : ℚ) (es : List MotionEvent) :
    ((initial scaleFactor).run sc es).native.androidVjoystickIsActive = true ↔
      ((initial scaleFactor).run sc es).overlayState = stateKeyboard := by
  simp [NativeState.androidVjoystickIsActive, ((Consistent.initial scaleFactor).run sc es).1,
    overlayJoystick, stateKeyboard]

/-! ## What a well-formed stream adds -/

/-- A role (the d-pad or a button) with its pointer id and whether it is held: no pointer and
nothing held, or a pointer that is down. -/
def Tracked (down : List Int) (pointerId : Int) (held : Bool) : Prop :=
  (pointerId = -1 → held = false) ∧ (pointerId ≠ -1 → pointerId ∈ down)

namespace Tracked

variable {down : List Int} {pointerId : Int} {held : Bool}

theorem free (down : List Int) : Tracked down (-1) false := ⟨fun _ => rfl, fun h => absurd rfl h⟩

theorem taken {p : Int} (hp : p ∈ down) (hp0 : 0 ≤ p) (held : Bool) : Tracked down p held :=
  ⟨fun h => absurd h (by omega), fun _ => hp⟩

theorem mono (h : Tracked down pointerId held) {down' : List Int} (hd : ∀ p ∈ down, p ∈ down') :
    Tracked down' pointerId held :=
  ⟨h.1, fun hp => hd _ (h.2 hp)⟩

theorem erase (h : Tracked down pointerId held) {p : Int} (hp : pointerId ≠ p) :
    Tracked (down.erase p) pointerId held :=
  ⟨h.1, fun h' => (List.mem_erase_of_ne hp).2 (h.2 h')⟩

end Tracked

/-- With `down` the fingers that are down: the mirror holds, and each role is free or held by a
finger that is down. -/
structure Inv (down : List Int) (j : VirtualJoystickOverlay) extends j.Consistent : Prop where
  downNonneg : ∀ p ∈ down, 0 ≤ p
  dpadTracked : Tracked down j.dpadPointerId j.dpad.any
  buttonATracked : Tracked down j.buttonA.pointerId j.buttonA.pressed
  buttonBTracked : Tracked down j.buttonB.pointerId j.buttonB.pressed

/-- With no finger down, nothing is held on either side, both axes are centred and both
buttons released. -/
structure Released (j : VirtualJoystickOverlay) : Prop where
  dpadPointerId_eq : j.dpadPointerId = -1
  dpad_eq : j.dpad = .none
  buttonA_eq : j.buttonA = ⟨false, -1⟩
  buttonB_eq : j.buttonB = ⟨false, -1⟩
  sDpad_eq : j.native.sDpad = .none
  sButtonA_eq : j.native.sButtonA = false
  sButtonB_eq : j.native.sButtonB = false
  centred : (lastSent j.native.axes 0).getD 0 = 0 ∧ (lastSent j.native.axes 1).getD 0 = 0
  unpressed : (lastSent j.native.buttons 0).getD false = false ∧
    (lastSent j.native.buttons 1).getD false = false

/-- What `cycleState` does to the roles: nothing, or it frees them all. -/
theorem cycleState_roles (j : VirtualJoystickOverlay) :
    (j.cycleState.dpadPointerId = j.dpadPointerId ∧ j.cycleState.dpad = j.dpad ∧
      j.cycleState.buttonA = j.buttonA ∧ j.cycleState.buttonB = j.buttonB) ∨
    (j.cycleState.dpadPointerId = -1 ∧ j.cycleState.dpad = .none ∧
      j.cycleState.buttonA = ⟨false, -1⟩ ∧ j.cycleState.buttonB = ⟨false, -1⟩) := by
  unfold cycleState
  dsimp only
  generalize (if j.overlayState = stateOff then stateJoystick
    else if j.overlayState = stateJoystick then stateKeyboard else stateOff) = s
  by_cases hs : s ≠ stateJoystick
  · rw [if_pos hs]
    exact .inr ⟨rfl, by simp, by simp, by simp⟩
  · rw [if_neg hs]
    exact .inl ⟨rfl, rfl, rfl, rfl⟩

/-- What releasing a pointer does to the roles: each role it holds is freed. -/
theorem releasePointer_roles (j : VirtualJoystickOverlay) (p : Int) :
    (j.releasePointer p).1.dpadPointerId = (if p = j.dpadPointerId then -1 else j.dpadPointerId) ∧
    (j.releasePointer p).1.dpad.any = (if p = j.dpadPointerId then false else j.dpad.any) ∧
    (j.releasePointer p).1.buttonA = (if p = j.buttonA.pointerId then ⟨false, -1⟩ else j.buttonA) ∧
    (j.releasePointer p).1.buttonB = (if p = j.buttonB.pointerId then ⟨false, -1⟩ else j.buttonB) := by
  unfold releasePointer
  dsimp only
  simp only [apply_ite VirtualJoystickOverlay.dpadPointerId, apply_ite VirtualJoystickOverlay.dpad,
    apply_ite VirtualJoystickOverlay.buttonA, apply_ite VirtualJoystickOverlay.buttonB, ite_self,
    clearDpadState_eq, setButtonAPressed_eq, setButtonBPressed_eq]
  refine ⟨?_, ?_, ?_, ?_⟩ <;> (try split_ifs) <;> simp

theorem releasePointer_dpad (j : VirtualJoystickOverlay) (p : Int) :
    (j.releasePointer p).1.dpad = if p = j.dpadPointerId then .none else j.dpad := by
  unfold releasePointer
  dsimp only
  simp only [apply_ite VirtualJoystickOverlay.dpad, clearDpadState_eq, setButtonAPressed_eq,
    setButtonBPressed_eq, ite_self]

namespace Inv

variable {down down' : List Int} {j : VirtualJoystickOverlay}

theorem mono (h : Inv down j) (hd : ∀ p ∈ down, p ∈ down') (hd0 : ∀ p ∈ down', 0 ≤ p) :
    Inv down' j :=
  ⟨h.toConsistent, hd0, h.dpadTracked.mono hd, h.buttonATracked.mono hd, h.buttonBTracked.mono hd⟩

/-- A step that keeps the mirror and the roles. -/
theorem congr (h : Inv down j) {j' : VirtualJoystickOverlay} (hc : j'.Consistent)
    (hd : j'.dpadPointerId = j.dpadPointerId ∧ j'.dpad = j.dpad) (ha : j'.buttonA = j.buttonA)
    (hb : j'.buttonB = j.buttonB) : Inv down j' :=
  ⟨hc, h.downNonneg, hd.1 ▸ hd.2 ▸ h.dpadTracked, ha ▸ h.buttonATracked, hb ▸ h.buttonBTracked⟩

theorem cycleState (h : Inv down j) : Inv down j.cycleState := by
  rcases j.cycleState_roles with ⟨hd, hdp, ha, hb⟩ | ⟨hd, hdp, ha, hb⟩
  · exact h.congr h.toConsistent.cycleState ⟨hd, hdp⟩ ha hb
  · exact ⟨h.toConsistent.cycleState, h.downNonneg, by rw [hd, hdp]; exact .free down,
      by rw [ha]; exact .free down, by rw [hb]; exact .free down⟩

theorem increaseScale (h : Inv down j) : Inv down j.increaseScale := by
  unfold VirtualJoystickOverlay.increaseScale
  split_ifs
  exacts [h.congr (h.toConsistent.congr rfl rfl rfl rfl rfl) ⟨rfl, rfl⟩ rfl rfl, h]

theorem decreaseScale (h : Inv down j) : Inv down j.decreaseScale := by
  unfold VirtualJoystickOverlay.decreaseScale
  split_ifs
  exacts [h.congr (h.toConsistent.congr rfl rfl rfl rfl rfl) ⟨rfl, rfl⟩ rfl rfl, h]

section Take

variable {p : Int} (hp : p ∈ down) (hp0 : 0 ≤ p)
include hp hp0

/-- A finger that is down takes the free d-pad. -/
theorem takeDpad (h : Inv down j) (sc : Screen) (x y : ℚ) :
    Inv down ({ j with dpadPointerId := p }.updateDpadState sc x y) := by
  refine ⟨?_, h.downNonneg, by simp only [updateDpadState_eq]; exact .taken hp hp0 _,
    by simpa using h.buttonATracked, by simpa using h.buttonBTracked⟩
  apply Consistent.updateDpadState
  exact h.toConsistent.congr rfl rfl rfl rfl rfl

/-- A finger that is down takes the free button A. -/
theorem takeButtonA (h : Inv down j) :
    Inv down ({ j with buttonA.pointerId := p }.setButtonAPressed true) := by
  refine ⟨?_, h.downNonneg, by simpa using h.dpadTracked,
    by simp only [setButtonAPressed_eq]; exact .taken hp hp0 _, by simpa using h.buttonBTracked⟩
  apply Consistent.setButtonAPressed
  exact h.toConsistent.congr rfl rfl rfl rfl rfl

/-- A finger that is down takes the free button B. -/
theorem takeButtonB (h : Inv down j) :
    Inv down ({ j with buttonB.pointerId := p }.setButtonBPressed true) := by
  refine ⟨?_, h.downNonneg, by simpa using h.dpadTracked, by simpa using h.buttonATracked,
    by simp only [setButtonBPressed_eq]; exact .taken hp hp0 _⟩
  apply Consistent.setButtonBPressed
  exact h.toConsistent.congr rfl rfl rfl rfl rfl

end Take

/-- One round of the `ACTION_MOVE` loop, for a finger that is down. -/
theorem movePointer (h : Inv down j) (sc : Screen) {q : Pointer} (hq : q.id ∈ down) :
    Inv down (j.movePointer sc q) := by
  unfold VirtualJoystickOverlay.movePointer
  split_ifs with hd
  · refine ⟨h.toConsistent.updateDpadState sc _ _, h.downNonneg, ?_,
      by simpa using h.buttonATracked, by simpa using h.buttonBTracked⟩
    simpa [← hd] using Tracked.taken hq (h.downNonneg _ hq) _
  · exact h

/-- The end of a pointer: the roles it held are freed, and it is no longer down. -/
theorem releasePointer (h : Inv down j) (p : Int) : Inv (down.erase p) (j.releasePointer p).1 := by
  obtain ⟨hd, hdp, ha, hb⟩ := j.releasePointer_roles p
  refine ⟨h.toConsistent.releasePointer p, fun q hq => h.downNonneg q (List.mem_of_mem_erase hq),
    ?_, ?_, ?_⟩
  · rw [hd, hdp]
    split_ifs with e
    exacts [.free _, h.dpadTracked.erase (Ne.symm e)]
  · rw [ha]
    split_ifs with e
    exacts [.free _, h.buttonATracked.erase (Ne.symm e)]
  · rw [hb]
    split_ifs with e
    exacts [.free _, h.buttonBTracked.erase (Ne.symm e)]

/-- One event of a well-formed stream other than `ACTION_CANCEL`. -/
theorem onTouchEvent (h : Inv down j) {e : MotionEvent} (hn : e.next? down = some down')
    (hc : e.actionMasked ≠ .cancel) (sc : Screen) : Inv down' (j.onTouchEvent sc e).1 := by
  rcases next?_eq_some hn with ⟨ha, -, hp0, rfl⟩ | ⟨ha, hall, rfl⟩ | ⟨ha, -, rfl⟩ | ⟨ha, -⟩
  · -- a finger goes down
    have hp := List.mem_cons_self e.actionPointer.id down
    have h' := h.mono (fun _ => List.mem_cons_of_mem _) (List.forall_mem_cons.2 ⟨hp0, h.downNonneg⟩)
    rw [onTouchEvent_press sc j ha]
    rcases pressPointer_cases sc j e.actionPointer.id e.actionPointer.x e.actionPointer.y with
      h1 | h1 | h1 | ⟨-, h1⟩ | ⟨-, h1⟩ | ⟨-, h1⟩ | h1 <;> rw [h1]
    exacts [h'.cycleState, h'.increaseScale, h'.decreaseScale, h'.takeDpad hp hp0 sc _ _,
      h'.takeButtonA hp hp0, h'.takeButtonB hp hp0, h']
  · -- the d-pad follows its finger
    rcases onTouchEvent_move sc j ha with h1 | h1 <;> rw [h1]
    exacts [h, List.foldlRecOn (motive := Inv _) e.pointers _ j h
      fun j h q hq => h.movePointer sc (hall q hq)]
  · -- a finger goes up
    rw [onTouchEvent_release sc j (ha.elim .inl (.inr ∘ .inl))]
    exact h.releasePointer _
  · exact absurd ha hc

theorem run (h : Inv down j) (sc : Screen) {es : List MotionEvent}
    (hd : downAfter? down es = some down') (hc : NoCancel es) : Inv down' (j.run sc es) := by
  induction es generalizing down j with
  | nil => exact Option.some.inj hd ▸ h
  | cons e es ih =>
    obtain ⟨d, hn, hd⟩ := Option.bind_eq_some.1 hd
    exact ih (h.onTouchEvent hn (hc e (List.mem_cons_self _ _)) sc) hd
      fun e he => hc e (List.mem_cons_of_mem _ he)

/-- With no finger down, every role is free, and so nothing is held on either side. -/
theorem released (h : Inv [] j) : j.Released := by
  have free : ∀ {p : Int} {b : Bool}, Tracked [] p b → p = -1 ∧ b = false := fun {p b} ht =>
    have hp : p = -1 := by_contra fun hp => List.not_mem_nil _ (ht.2 hp)
    ⟨hp, ht.1 hp⟩
  obtain ⟨hd, hd'⟩ := free h.dpadTracked
  obtain ⟨ha, ha'⟩ := free h.buttonATracked
  obtain ⟨hb, hb'⟩ := free h.buttonBTracked
  have hdn := Dpad.any_eq_false.1 hd'
  obtain ⟨h1, h2, h3, h4, ⟨dh, dv, da, db⟩⟩ := h.toConsistent
  exact ⟨hd, hdn, by rw [← ha, ← ha'], by rw [← hb, ← hb'], by rw [h2, hdn], by rw [h3, ha'],
    by rw [h4, hb'], ⟨by rw [dh, h2, hdn]; rfl, by rw [dv, h2, hdn]; rfl⟩,
    ⟨by rw [da, h3, ha'], by rw [db, h4, hb']⟩⟩

end Inv

/-- For every geometry and every well-formed stream without `ACTION_CANCEL`, when no finger is
down nothing is held. -/
theorem joystick_releases_all_without_cancel (sc : Screen) (scaleFactor : ℚ) (es : List MotionEvent)
    (hd : downAfter? [] es = some []) (hc : NoCancel es) : ((initial scaleFactor).run sc es).Released :=
  (Inv.run ⟨.initial scaleFactor, fun _ h => absurd h (List.not_mem_nil _), .free _, .free _,
    .free _⟩ sc hd hc).released

/-- A small screen: the d-pad at the bottom left, the buttons at the bottom right, the row of
small buttons at the top; the d-pad reads the direction from fixed bands. -/
def sampleScreen : Screen where
  layout _ := ⟨⟨0, 50, 40, 90⟩, ⟨80, 70, 100, 90⟩, ⟨60, 50, 80, 70⟩, ⟨90, 0, 100, 10⟩,
    ⟨80, 0, 90, 10⟩, ⟨70, 0, 80, 10⟩, ⟨60, 0, 70, 10⟩⟩
  directions _ x y := ⟨y < 60, 80 < y, x < 10, 30 < x⟩

/-- A tap on the toggle turns the joystick on; one finger on the d-pad and one on button A; the
first lifts, then the second. -/
def dpadAndFireUp : List MotionEvent :=
  [⟨.down, 0, [⟨0, 95, 5⟩], by decide⟩,
   ⟨.up, 0, [⟨0, 95, 5⟩], by decide⟩,
   ⟨.down, 0, [⟨0, 20, 55⟩], by decide⟩,
   ⟨.pointerDown, 1, [⟨0, 20, 55⟩, ⟨1, 90, 80⟩], by decide⟩,
   ⟨.pointerUp, 0, [⟨0, 20, 55⟩, ⟨1, 90, 80⟩], by decide⟩,
   ⟨.up, 0, [⟨1, 90, 80⟩], by decide⟩]

theorem joystick_releases_all_dpadAndFireUp : downAfter? [] dpadAndFireUp = some [] ∧
    NoCancel dpadAndFireUp ∧ ((initial 1).run sampleScreen dpadAndFireUp).Released :=
  ⟨by decide, by decide,
    joystick_releases_all_without_cancel sampleScreen 1 dpadAndFireUp (by decide) (by decide)⟩

/-- The same start; the system cancels the gesture. -/
def dpadAndFireCancel : List MotionEvent :=
  [⟨.down, 0, [⟨0, 95, 5⟩], by decide⟩,
   ⟨.up, 0, [⟨0, 95, 5⟩], by decide⟩,
   ⟨.down, 0, [⟨0, 20, 55⟩], by decide⟩,
   ⟨.pointerDown, 1, [⟨0, 20, 55⟩, ⟨1, 90, 80⟩], by decide⟩,
   ⟨.cancel, 0, [⟨0, 20, 55⟩, ⟨1, 90, 80⟩], by decide⟩]

/-- `ACTION_CANCEL` releases the d-pad's finger only: after the well-formed stream no finger is
down, and button A is still pressed on both sides, held by pointer 1, the last value the device
got for it a press. -/
theorem joystick_cancel_leaves_button_held : downAfter? [] dpadAndFireCancel = some [] ∧
    ((initial 1).run sampleScreen dpadAndFireCancel).buttonA = ⟨true, 1⟩ ∧
    ((initial 1).run sampleScreen dpadAndFireCancel).native.sButtonA = true ∧
    lastSent ((initial 1).run sampleScreen dpadAndFireCancel).native.buttons 0 = some true := by
  decide

/-! ## The scale factor -/

/-- Only the scale buttons change the scale factor. -/
theorem scaleFactor_onTouchEvent (sc : Screen) (j : VirtualJoystickOverlay) (e : MotionEvent) :
    (j.onTouchEvent sc e).1.scaleFactor = j.scaleFactor ∨ (j.onTouchEvent sc e).1 = j.increaseScale ∨
      (j.onTouchEvent sc e).1 = j.decreaseScale := by
  cases ha : e.actionMasked
  case move =>
    refine .inl ?_
    rcases onTouchEvent_move sc j ha with h1 | h1 <;> rw [h1]
    refine List.foldlRecOn (motive := (·.scaleFactor = j.scaleFactor)) e.pointers _ j rfl
      fun j' h q _ => ?_
    unfold movePointer
    split_ifs
    · simpa only [updateDpadState_eq] using h
    · exact h
  case other => exact .inl (by rw [onTouchEvent_other sc j ha])
  case up | pointerUp | cancel =>
    rw [onTouchEvent_release sc j (by simp [ha])]
    refine .inl ?_
    unfold releasePointer
    simp only [apply_ite VirtualJoystickOverlay.scaleFactor, clearDpadState_eq, setButtonAPressed_eq,
      setButtonBPressed_eq, ite_self]
  case down | pointerDown =>
    rw [onTouchEvent_press sc j (by simp [ha])]
    rcases pressPointer_cases sc j e.actionPointer.id e.actionPointer.x e.actionPointer.y with
      h1 | h1 | h1 | ⟨-, h1⟩ | ⟨-, h1⟩ | ⟨-, h1⟩ | h1 <;> rw [h1]
    · refine .inl ?_
      unfold cycleState
      simp only [apply_ite VirtualJoystickOverlay.scaleFactor, clearDpadState_eq,
        setButtonAPressed_eq, setButtonBPressed_eq, ite_self]
    · exact .inr (.inl rfl)
    · exact .inr (.inr rfl)
    · exact .inl (by simp only [updateDpadState_eq])
    · exact .inl (by simp only [setButtonAPressed_eq])
    · exact .inl (by simp only [setButtonBPressed_eq])
    · exact .inl rfl

/-- The scale buttons keep the scale factor between `MIN_SCALE` and `MAX_SCALE`. -/
theorem scaleFactor_mem_range {j : VirtualJoystickOverlay}
    (h : minScale ≤ j.scaleFactor ∧ j.scaleFactor ≤ maxScale) (sc : Screen) (e : MotionEvent) :
    minScale ≤ (j.onTouchEvent sc e).1.scaleFactor ∧ (j.onTouchEvent sc e).1.scaleFactor ≤ maxScale := by
  have hstep : (0 : ℚ) ≤ scaleStep := by unfold scaleStep; norm_num
  rcases scaleFactor_onTouchEvent sc j e with h1 | h1 | h1 <;> rw [h1]
  · exact h
  · unfold increaseScale
    split_ifs
    · exact ⟨le_min (by linarith) (h.1.trans h.2), min_le_right _ _⟩
    · exact h
  · unfold decreaseScale
    split_ifs
    · exact ⟨le_max_right _ _, max_le (by linarith) (h.1.trans h.2)⟩
    · exact h

/-- A scale factor read from the preferences between `MIN_SCALE` and `MAX_SCALE` stays there
whatever the touch input. -/
theorem scale_stays_in_range (sc : Screen) {scaleFactor : ℚ}
    (h : minScale ≤ scaleFactor ∧ scaleFactor ≤ maxScale) (es : List MotionEvent) :
    minScale ≤ ((initial scaleFactor).run sc es).scaleFactor ∧
      ((initial scaleFactor).run sc es).scaleFactor ≤ maxScale := by
  suffices ∀ (j : VirtualJoystickOverlay), minScale ≤ j.scaleFactor ∧ j.scaleFactor ≤ maxScale →
      minScale ≤ (j.run sc es).scaleFactor ∧ (j.run sc es).scaleFactor ≤ maxScale from this _ h
  induction es with
  | nil => exact fun _ h => h
  | cons e es ih => exact fun j h => ih _ (scaleFactor_mem_range h sc e)

theorem scale_stays_in_range_dpadAndFireUp :
    (minScale ≤ 1 ∧ (1 : ℚ) ≤ maxScale) ∧
      minScale ≤ ((initial 1).run sampleScreen dpadAndFireUp).scaleFactor ∧
      ((initial 1).run sampleScreen dpadAndFireUp).scaleFactor ≤ maxScale :=
  have h : minScale ≤ 1 ∧ (1 : ℚ) ≤ maxScale := by unfold minScale maxScale; norm_num
  ⟨h, scale_stays_in_range sampleScreen h dpadAndFireUp⟩

/-! ## Outside the joystick state -/

/-- Outside `STATE_JOYSTICK`, every role is free and the d-pad centred. -/
def Idle (j : VirtualJoystickOverlay) : Prop :=
  j.overlayState ≠ stateJoystick →
    j.dpadPointerId = -1 ∧ j.dpad = .none ∧ j.buttonA = ⟨false, -1⟩ ∧ j.buttonB = ⟨false, -1⟩

section Idle

variable (sc : Screen) {j : VirtualJoystickOverlay}

/-- `cycleState` enters the joystick state, or frees every role. -/
theorem idle_cycleState (j : VirtualJoystickOverlay) : j.cycleState.Idle := by
  unfold cycleState
  dsimp only
  generalize (if j.overlayState = stateOff then stateJoystick
    else if j.overlayState = stateJoystick then stateKeyboard else stateOff) = s
  by_cases hs : s ≠ stateJoystick
  · rw [if_pos hs]
    exact fun _ => ⟨rfl, by simp, by simp, by simp⟩
  · rw [if_neg hs]
    exact fun h => absurd (not_not.1 hs) h

/-- Outside the joystick state a pointer going down can only hit a small button. -/
theorem pressPointer_of_ne (h : j.overlayState ≠ stateJoystick) (p : Int) (x y : ℚ) :
    (j.pressPointer sc p x y).1 = j.cycleState ∨ (j.pressPointer sc p x y).1 = j.increaseScale ∨
      (j.pressPointer sc p x y).1 = j.decreaseScale ∨ (j.pressPointer sc p x y).1 = j := by
  unfold pressPointer
  simp only [h, if_false]
  split_ifs <;> simp

/-- With every role free, `ACTION_MOVE` is not handled. -/
theorem onTouchEvent_move_of_free {e : MotionEvent} (ha : e.actionMasked = .move)
    (hd : j.dpadPointerId = -1) (hA : j.buttonA.pointerId = -1) (hB : j.buttonB.pointerId = -1) :
    j.onTouchEvent sc e = (j, false) := by
  unfold onTouchEvent
  simp only [ha, hd, hA, hB, ne_eq, not_true_eq_false, or_self, if_false]

theorem overlayState_releasePointer (p : Int) :
    (j.releasePointer p).1.overlayState = j.overlayState := by
  unfold releasePointer
  simp only [apply_ite VirtualJoystickOverlay.overlayState, clearDpadState_eq,
    setButtonAPressed_eq, setButtonBPressed_eq, ite_self]

/-- A pointer going down changes the state only through the toggle. -/
theorem overlayState_pressPointer (p : Int) (x y : ℚ) :
    (j.pressPointer sc p x y).1 = j.cycleState ∨
      (j.pressPointer sc p x y).1.overlayState = j.overlayState := by
  rcases pressPointer_cases sc j p x y with
    h1 | h1 | h1 | ⟨-, h1⟩ | ⟨-, h1⟩ | ⟨-, h1⟩ | h1 <;> rw [h1]
  · exact .inl rfl
  · exact .inr (by unfold increaseScale; split_ifs <;> rfl)
  · exact .inr (by unfold decreaseScale; split_ifs <;> rfl)
  · exact .inr (by simp only [updateDpadState_eq])
  · exact .inr (by simp only [setButtonAPressed_eq])
  · exact .inr (by simp only [setButtonBPressed_eq])
  · exact .inr rfl

/-- Only the toggle changes the state. -/
theorem onTouchEvent_overlayState (e : MotionEvent) :
    (j.onTouchEvent sc e).1 = j.cycleState ∨ (j.onTouchEvent sc e).1.overlayState = j.overlayState := by
  cases ha : e.actionMasked
  case move =>
    refine .inr ?_
    rcases onTouchEvent_move sc j ha with h1 | h1 <;> rw [h1]
    refine List.foldlRecOn (motive := (·.overlayState = j.overlayState)) e.pointers _ j rfl
      fun j' h q _ => ?_
    unfold movePointer
    split_ifs
    · simpa only [updateDpadState_eq] using h
    · exact h
  case other => exact .inr (by rw [onTouchEvent_other sc j ha])
  case up | pointerUp | cancel =>
    rw [onTouchEvent_release sc j (by simp [ha])]
    exact .inr (overlayState_releasePointer _)
  case down | pointerDown =>
    rw [onTouchEvent_press sc j (by simp [ha])]
    exact overlayState_pressPointer sc _ _ _

/-- Outside the joystick state, releasing a pointer frees the free roles again. -/
theorem idle_releasePointer (hs : j.overlayState ≠ stateJoystick) (h : j.Idle) (p : Int) :
    (j.releasePointer p).1.Idle := by
  obtain ⟨hd, hdn, hA, hB⟩ := h hs
  obtain ⟨h1, -, h3, h4⟩ := j.releasePointer_roles p
  exact fun _ => ⟨by rw [h1, hd, ite_self], by rw [releasePointer_dpad, hdn, ite_self],
    by rw [h3, hA, ite_self], by rw [h4, hB, ite_self]⟩

/-- Outside the joystick state, a pointer going down cycles the state or leaves the roles. -/
theorem idle_pressPointer (hs : j.overlayState ≠ stateJoystick) (h : j.Idle) (p : Int) (x y : ℚ) :
    (j.pressPointer sc p x y).1.Idle := by
  rcases pressPointer_of_ne sc hs p x y with h1 | h1 | h1 | h1 <;> rw [h1]
  · exact idle_cycleState j
  · unfold increaseScale; split_ifs <;> exact h
  · unfold decreaseScale; split_ifs <;> exact h
  · exact h

/-- Outside the joystick state, with every role free, an event frees them again or cycles the
state. -/
theorem idle_onTouchEvent_of_ne (hs : j.overlayState ≠ stateJoystick) (h : j.Idle)
    (e : MotionEvent) : (j.onTouchEvent sc e).1.Idle := by
  obtain ⟨hd, -, hA, hB⟩ := h hs
  cases ha : e.actionMasked
  case move => rwa [onTouchEvent_move_of_free sc ha hd (by rw [hA]) (by rw [hB])]
  case other => rwa [onTouchEvent_other sc j ha]
  case up | pointerUp | cancel =>
    rw [onTouchEvent_release sc j (by simp [ha])]
    exact idle_releasePointer hs h _
  case down | pointerDown =>
    rw [onTouchEvent_press sc j (by simp [ha])]
    exact idle_pressPointer sc hs h _ _ _

theorem Idle.onTouchEvent (h : j.Idle) (e : MotionEvent) : (j.onTouchEvent sc e).1.Idle := by
  by_cases hs : j.overlayState = stateJoystick
  · -- in the joystick state, only the toggle leaves it
    rcases onTouchEvent_overlayState sc e with h1 | h1
    · rw [h1]
      exact idle_cycleState j
    · exact fun hne => absurd (h1.trans hs) hne
  · exact idle_onTouchEvent_of_ne sc hs h e

theorem Idle.run (h : j.Idle) (es : List MotionEvent) : (j.run sc es).Idle := by
  induction es generalizing j with
  | nil => exact h
  | cons e es ih => exact ih (h.onTouchEvent sc e)

end Idle

/-- With the mirror, free roles and a centred d-pad release everything on both sides. -/
theorem Consistent.released_of_free {j : VirtualJoystickOverlay} (h : j.Consistent)
    (hd : j.dpadPointerId = -1) (hdn : j.dpad = .none) (hA : j.buttonA = ⟨false, -1⟩)
    (hB : j.buttonB = ⟨false, -1⟩) : j.Released := by
  obtain ⟨-, h2, h3, h4, ⟨dh, dv, da, db⟩⟩ := h
  exact ⟨hd, hdn, hA, hB, by rw [h2, hdn], by rw [h3, hA], by rw [h4, hB],
    ⟨by rw [dh, h2, hdn]; rfl, by rw [dv, h2, hdn]; rfl⟩, ⟨by rw [da, h3, hA], by rw [db, h4, hB]⟩⟩

/-- Outside `STATE_JOYSTICK` nothing is held on either side, whatever the touch input has been,
`ACTION_CANCEL` included. -/
theorem joystick_released_outside_joystick_state (sc : Screen) (scaleFactor : ℚ)
    (es : List MotionEvent) (hs : ((initial scaleFactor).run sc es).overlayState ≠ stateJoystick) :
    ((initial scaleFactor).run sc es).Released := by
  have hi : (initial scaleFactor).Idle := fun _ => ⟨rfl, rfl, rfl, rfl⟩
  obtain ⟨hd, hdn, hA, hB⟩ := hi.run sc es hs
  exact ((Consistent.initial scaleFactor).run sc es).released_of_free hd hdn hA hB

/-- The cancelled gesture that leaves button A held, then a tap on the toggle. -/
def cancelThenToggle : List MotionEvent :=
  dpadAndFireCancel ++ [⟨.down, 0, [⟨0, 95, 5⟩], by decide⟩, ⟨.up, 0, [⟨0, 95, 5⟩], by decide⟩]

theorem joystick_released_cancelThenToggle :
    ((initial 1).run sampleScreen cancelThenToggle).overlayState ≠ stateJoystick ∧
      ((initial 1).run sampleScreen cancelThenToggle).Released :=
  ⟨by decide, joystick_released_outside_joystick_state sampleScreen 1 cancelThenToggle (by decide)⟩

end VirtualJoystickOverlay

end Overlay
