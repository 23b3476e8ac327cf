import AmiberryAndroid.Overlay.JoystickLayout

/-!
# The d-pad's direction test

`updateDpadState(x, y)` measures the touch from the centre of the d-pad. Within the dead zone, a
quarter of the d-pad's radius, no direction is held. Outside it, the angle of the touch in
degrees, `Math.toDegrees(atan2(dy, dx))`, picks the directions: each direction covers 135
degrees, so neighbouring directions overlap in 45-degree diagonals. `hypot` and `atan2` are the
platform's, and the model takes both as parameters (`Trig`): no result assumes anything of them.
With `updateLayout` this gives the app's geometry, `appScreen`, for the joystick overlay.

**Direction test.** The test reports no direction exactly inside the dead zone
(`dpadDirections_eq_none_iff`). Every angle picks one direction or two neighbouring ones
(`Dpad.ofAngle_any`, `Dpad.eightWay_ofAngle`), so the d-pad behaves as an eight-way stick.

**Theorem (`dpad_eight_way`).** On the app's screen, after any touch input, the d-pad holds no
two opposite directions, on the overlay's side or the native side. The axes the emulator last
got are those of the held directions, so the `left && !right` tests of `nativeSetJoystick` never
decide anything. The run part is `dpad_run`: a property that the centred d-pad and every result
of the direction test have holds of the d-pad after any input.
-/

namespace Overlay

/-- `DPAD_DEADZONE` -/
def dpadDeadzone : ℚ := 25 / 100

/-- The platform's `hypot(dx, dy)`, and `Math.toDegrees(atan2(dy, dx))`. -/
structure Trig where
  hypot : ℚ → ℚ → ℚ
  atan2Deg : ℚ → ℚ → ℚ

/-- `RectF.centerX()` -/
def RectF.centerX (r : RectF) : ℚ := (r.left + r.right) * (1 / 2)

/-- `RectF.centerY()` -/
def RectF.centerY (r : RectF) : ℚ := (r.top + r.bottom) * (1 / 2)

/-- `RectF.width()` -/
def RectF.width (r : RectF) : ℚ := r.right - r.left

/-- The four sector tests of `updateDpadState` on the angle `deg`: up over
`(-157.5, -22.5)`, down over `(22.5, 157.5)`, left above `112.5` or below `-112.5`, right over
`(-67.5, 67.5)`. -/
def Dpad.ofAngle (deg : ℚ) : Dpad :=
  ⟨decide (-315 / 2 < deg ∧ deg < -45 / 2), decide (45 / 2 < deg ∧ deg < 315 / 2),
    decide (225 / 2 < deg ∨ deg < -225 / 2), decide (-135 / 2 < deg ∧ deg < 135 / 2)⟩

/-- The direction test of `updateDpadState(x, y)`, on the d-pad rectangle `r`. -/
def dpadDirections (trig : Trig) (r : RectF) (x y : ℚ) : Dpad :=
  let dx := x - r.centerX
  let dy := y - r.centerY
  let radius := r.width / 2
  let distance := trig.hypot dx dy
  let deadzone := radius * dpadDeadzone
  if distance < deadzone then .none else Dpad.ofAngle (trig.atan2Deg dy dx)

/-- The app's geometry for a view of `w` by `h`: `updateLayout` at each scale factor, and the
direction test. -/
def appScreen (w h : Int) (trig : Trig) : Screen := ⟨updateLayout w h, dpadDirections trig⟩

/-! ## An eight-way stick -/

/-- One of the nine positions of an eight-way stick: no two opposite directions held. -/
structure Dpad.EightWay (d : Dpad) : Prop where
  not_up_down : ¬(d.up ∧ d.down)
  not_left_right : ¬(d.left ∧ d.right)

theorem Dpad.eightWay_none : Dpad.none.EightWay := ⟨by decide, by decide⟩

theorem Dpad.eightWay_ofAngle (deg : ℚ) : (Dpad.ofAngle deg).EightWay := by
  constructor <;> simp only [Dpad.ofAngle, decide_eq_true_eq]
  · rintro ⟨⟨-, h1⟩, h2, -⟩
    exact absurd (h2.trans h1) (by norm_num)
  · rintro ⟨h1 | h1, h2, h3⟩
    · exact absurd (h1.trans h3) (by norm_num)
    · exact absurd (h2.trans h1) (by norm_num)

/-- Every angle picks some direction: the sectors cover the circle. -/
theorem Dpad.ofAngle_any (deg : ℚ) : (Dpad.ofAngle deg).any = true := by
  by_contra h
  simp only [Dpad.any, Dpad.ofAngle, Bool.or_eq_true, decide_eq_true_eq, not_or, not_and,
    not_lt] at h
  obtain ⟨⟨⟨hu, hd⟩, hl, hl'⟩, hr⟩ := h
  -- not left and not up puts the angle past `-22.5`; not right, past `67.5`; not down, past `157.5`
  have h1 := hu (lt_of_lt_of_le (by norm_num) hl')
  have h2 := hr (lt_of_lt_of_le (by norm_num) h1)
  exact absurd ((hd (lt_of_lt_of_le (by norm_num) h2)).trans hl) (by norm_num)

/-- Off the dead zone, the test picks the directions of the angle. -/
theorem dpadDirections_eq (trig : Trig) (r : RectF) (x y : ℚ) :
    dpadDirections trig r x y =
      if trig.hypot (x - r.centerX) (y - r.centerY) < r.width / 2 * dpadDeadzone then .none
      else Dpad.ofAngle (trig.atan2Deg (y - r.centerY) (x - r.centerX)) := rfl

theorem dpadDirections_eightWay (trig : Trig) (r : RectF) (x y : ℚ) :
    (dpadDirections trig r x y).EightWay := by
  rw [dpadDirections_eq]
  split_ifs
  exacts [Dpad.eightWay_none, Dpad.eightWay_ofAngle _]

/-- The d-pad is centred exactly when the touch is inside the dead zone. -/
theorem dpadDirections_eq_none_iff (trig : Trig) (r : RectF) (x y : ℚ) :
    dpadDirections trig r x y = .none ↔
      trig.hypot (x - r.centerX) (y - r.centerY) < r.width / 2 * dpadDeadzone := by
  rw [dpadDirections_eq]
  split_ifs with h
  · exact iff_of_true rfl h
  · refine iff_of_false (fun he => ?_) h
    simpa [he] using Dpad.ofAngle_any (trig.atan2Deg (y - r.centerY) (x - r.centerX))

namespace Dpad.EightWay

variable {d : Dpad}

/-- With no opposite directions, the horizontal axis is `-1` exactly for left and `1` exactly for
right. -/
theorem horiz (h : d.EightWay) : d.horiz = if d.left then -1 else if d.right then 1 else 0 := by
  obtain ⟨u, dn, l, r⟩ := d
  have := h.not_left_right
  cases l <;> cases r <;> simp_all [Dpad.horiz]

theorem vert (h : d.EightWay) : d.vert = if d.up then -1 else if d.down then 1 else 0 := by
  obtain ⟨u, dn, l, r⟩ := d
  have := h.not_up_down
  cases u <;> cases dn <;> simp_all [Dpad.vert]

end Dpad.EightWay

/-! ## What the d-pad can become -/

namespace VirtualJoystickOverlay

variable (sc : Screen) {j : VirtualJoystickOverlay}

section DpadRun

/- A property of the d-pad that holds when it is centred and of every result of the direction
test. -/
variable (P : Dpad → Prop) (hnone : P .none) (hdir : ∀ r x y, P (sc.directions r x y))
include hnone hdir

omit hnone in
theorem dpad_movePointer (h : P j.dpad) (q : Pointer) : P (j.movePointer sc q).dpad := by
  unfold movePointer
  split_ifs
  · simpa only [updateDpadState_eq] using hdir _ _ _
  · exact h

theorem dpad_pressPointer (h : P j.dpad) (p : Int) (x y : ℚ) :
    P (j.pressPointer sc p x y).1.dpad := by
  rcases pressPointer_cases sc j p x y with
    h1 | h1 | h1 | ⟨-, h1⟩ | ⟨-, h1⟩ | ⟨-, h1⟩ | h1 <;> rw [h1]
  · rcases j.cycleState_roles with ⟨-, hd, -⟩ | ⟨-, hd, -⟩ <;> rw [hd]
    exacts [h, hnone]
  · unfold increaseScale; split_ifs <;> exact h
  · unfold decreaseScale; split_ifs <;> exact h
  · simpa only [updateDpadState_eq] using hdir _ _ _
  · simpa only [setButtonAPressed_eq] using h
  · simpa only [setButtonBPressed_eq] using h
  · exact h

theorem dpad_onTouchEvent (h : P j.dpad) (e : MotionEvent) : P (j.onTouchEvent sc e).1.dpad := by
  cases ha : e.actionMasked
  case move =>
    rcases onTouchEvent_move sc j ha with h1 | h1 <;> rw [h1]
    exacts [h, List.foldlRecOn (motive := fun j => P j.dpad) e.pointers _ j h
      fun j h q _ => dpad_movePointer sc P hdir h q]
  case other => rwa [onTouchEvent_other sc j ha]
  case up | pointerUp | cancel =>
    rw [onTouchEvent_release sc j (by simp [ha]), releasePointer_dpad]
    split_ifs
    exacts [hnone, h]
  case down | pointerDown =>
    rw [onTouchEvent_press sc j (by simp [ha])]
    exact dpad_pressPointer sc P hnone hdir h _ _ _

/-- A property that the centred d-pad and every result of the direction test have holds of the
d-pad after any input. -/
theorem dpad_run (h : P j.dpad) (es : List MotionEvent) : P (j.run sc es).dpad := by
  induction es generalizing j with
  | nil => exact h
  | cons e es ih => exact ih (dpad_onTouchEvent sc P hnone hdir h e)

end DpadRun

/-- On the app's screen, after any touch input, no two opposite directions are held on either
side, and the emulator's axes are those of the held directions. -/
theorem dpad_eight_way (w h : Int) (trig : Trig) (scaleFactor : ℚ) (es : List MotionEvent) :
    let j := (initial scaleFactor).run (appScreen w h trig) es
    j.dpad.EightWay ∧ j.native.sDpad.EightWay ∧
      (lastSent j.native.axes 0).getD 0 = (if j.dpad.left then -1 else if j.dpad.right then 1 else 0) ∧
      (lastSent j.native.axes 1).getD 0 = (if j.dpad.up then -1 else if j.dpad.down then 1 else 0) := by
  intro j
  have hw : j.dpad.EightWay :=
    dpad_run _ Dpad.EightWay Dpad.eightWay_none (dpadDirections_eightWay trig) Dpad.eightWay_none es
  have hc : j.Consistent := (Consistent.initial scaleFactor).run _ es
  refine ⟨hw, hc.sDpad_eq ▸ hw, ?_, ?_⟩
  · rw [hc.device.horiz, hc.sDpad_eq, hw.horiz]
  · rw [hc.device.vert, hc.sDpad_eq, hw.vert]

end VirtualJoystickOverlay

end Overlay
