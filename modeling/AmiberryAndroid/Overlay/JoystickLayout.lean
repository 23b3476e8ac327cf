import AmiberryAndroid.Overlay.Joystick
import Mathlib.Data.Rat.Floor

/-!
# The joystick's layout

`updateLayout(w, h)` sizes the controls from the view's height: the d-pad (bottom left) and the
two fire buttons (bottom right, B above and left of A) grow with `scaleFactor`; the toggle (top
right) and the row of small buttons left of it (plus, minus, F12) do not. Each size goes through
`toInt()`, which truncates, and the corners are `Int`s.

**Theorem (`updateLayout_controls_apart`).** On a view at least 1.17 times as wide as high, at
every scale factor from `MIN_SCALE` to `MAX_SCALE`, no two of the seven controls share a point.
So the order in which `onTouchEvent` tests them never decides which control a touch lands on.
The small buttons lie in a band at the top and follow each other from right to left; the
d-pad and the fire buttons lie lower, the d-pad left of both buttons, B left of A.

**Theorem (`dpad_shadows_buttonB_portrait`).** The width bound is needed. In portrait,
`AmiberryActivity` resizes only the SDL surface, and the overlay still matches its parent. On a
view from a third to a half as wide as high, at the default scale factor and above, the d-pad
reaches into fire button B. `onTouchEvent` tests the d-pad first, so a finger going down where
they meet takes the d-pad and leaves B as it was.
-/

namespace Overlay

/-- `DPAD_SIZE_RATIO` -/
def dpadSizeRatio : ℚ := 30 / 100
/-- `BUTTON_SIZE_RATIO` -/
def buttonSizeRatio : ℚ := 12 / 100
/-- `TOGGLE_SIZE_RATIO` -/
def toggleSizeRatio : ℚ := 7 / 100
/-- `MARGIN_RATIO` -/
def marginRatio : ℚ := 3 / 100

/-- `Float.toInt()`: truncation toward zero. -/
def floatToInt (x : ℚ) : Int := if 0 ≤ x then ⌊x⌋ else ⌈x⌉

/-- `RectF.set(left.toFloat(), top.toFloat(), right.toFloat(), bottom.toFloat())` -/
def rectOf (left top right bottom : Int) : RectF := ⟨left, top, right, bottom⟩

/-- `updateLayout(w, h)`, at the scale factor it reads. -/
def updateLayout (w h : Int) (scaleFactor : ℚ) : JoystickLayout :=
  let margin := floatToInt (h * marginRatio)
  let dpadSize := floatToInt (h * dpadSizeRatio * scaleFactor)
  let buttonSize := floatToInt (h * buttonSizeRatio * scaleFactor)
  let toggleSize := floatToInt (h * toggleSizeRatio)
  let resizeButtonSize := floatToInt (toggleSize * (8 / 10))
  { dpadRect := rectOf margin (h - dpadSize - margin) (margin + dpadSize) (h - margin)
    buttonARect := rectOf (w - buttonSize - margin) (h - buttonSize - margin) (w - margin) (h - margin)
    buttonBRect := rectOf (w - buttonSize * 2 - margin * 2) (h - buttonSize * 2 - margin)
      (w - buttonSize - margin * 2) (h - buttonSize - margin)
    toggleRect := rectOf (w - toggleSize - margin) margin (w - margin) (margin + toggleSize)
    plusRect := rectOf (w - toggleSize - margin - resizeButtonSize - margin.tdiv 2) margin
      (w - toggleSize - margin - margin.tdiv 2) (margin + resizeButtonSize)
    minusRect := rectOf (w - toggleSize - margin - resizeButtonSize * 2 - margin) margin
      (w - toggleSize - margin - resizeButtonSize - margin) (margin + resizeButtonSize)
    f12Rect := rectOf (w - toggleSize - margin - resizeButtonSize * 3 - margin * 2) margin
      (w - toggleSize - margin - resizeButtonSize * 2 - margin * 2) (margin + resizeButtonSize) }

/-- The controls in the order `onTouchEvent` tests them. -/
def JoystickLayout.controls (l : JoystickLayout) : List RectF :=
  [l.toggleRect, l.plusRect, l.minusRect, l.f12Rect, l.dpadRect, l.buttonARect, l.buttonBRect]

/-- No point lies in both rectangles. -/
def RectF.Apart (a b : RectF) : Prop := ∀ x y, ¬(a.contains x y ∧ b.contains x y)

namespace RectF.Apart

variable {a b : RectF}

theorem of_right_le_left (h : a.right ≤ b.left) : a.Apart b := by
  intro x y
  simp only [RectF.contains, Bool.and_eq_true, decide_eq_true_eq]
  rintro ⟨⟨⟨⟨⟨⟨-, -⟩, -⟩, hax⟩, -⟩, -⟩, ⟨⟨⟨⟨⟨-, -⟩, hbx⟩, -⟩, -⟩, -⟩⟩
  linarith

theorem of_bottom_le_top (h : a.bottom ≤ b.top) : a.Apart b := by
  intro x y
  simp only [RectF.contains, Bool.and_eq_true, decide_eq_true_eq]
  rintro ⟨⟨⟨⟨⟨⟨-, -⟩, -⟩, -⟩, -⟩, hay⟩, ⟨⟨⟨⟨⟨-, -⟩, -⟩, -⟩, hby⟩, -⟩⟩
  linarith

theorem symm (h : a.Apart b) : b.Apart a := fun x y hab => h x y hab.symm

end RectF.Apart

section Apart

variable {l t r b l' t' r' b' : Int}

theorem rectOf_apart_of_right_le_left (h : r ≤ l') : (rectOf l t r b).Apart (rectOf l' t' r' b') :=
  RectF.Apart.of_right_le_left (show (r : ℚ) ≤ l' by exact_mod_cast h)

theorem rectOf_apart_of_right_le_left' (h : r' ≤ l) : (rectOf l t r b).Apart (rectOf l' t' r' b') :=
  (rectOf_apart_of_right_le_left h).symm

theorem rectOf_apart_of_bottom_le_top (h : b ≤ t') : (rectOf l t r b).Apart (rectOf l' t' r' b') :=
  RectF.Apart.of_bottom_le_top (show (b : ℚ) ≤ t' by exact_mod_cast h)

end Apart

/-- A touch at integer coordinates lies in a rectangle with integer corners exactly when the
endpoint inequalities hold. -/
theorem rectOf_contains {l t r b x y : Int} :
    (rectOf l t r b).contains x y = true ↔ l < r ∧ t < b ∧ l ≤ x ∧ x < r ∧ t ≤ y ∧ y < b := by
  simp only [RectF.contains, rectOf, Int.cast_lt, Int.cast_le, Bool.and_eq_true, decide_eq_true_eq,
    and_assoc]

theorem rectOf_not_contains_of_bottom_le {l t r b x y : Int} (h : b ≤ y) :
    ¬(rectOf l t r b).contains x y = true := by
  rw [rectOf_contains]
  omega

/-- The seven controls of `updateLayout`, for any sizes that leave the small buttons above the
d-pad and the fire buttons, and the d-pad left of both fire buttons. -/
theorem controls_apart {w h margin dpadSize buttonSize toggleSize resizeButtonSize : Int}
    (hm : 0 ≤ margin) (hr : 0 ≤ resizeButtonSize ∧ resizeButtonSize ≤ toggleSize)
    (hd : 0 ≤ dpadSize) (hb : 0 ≤ buttonSize)
    (hbelow : 2 * margin + toggleSize + dpadSize ≤ h ∧ 2 * margin + toggleSize + 2 * buttonSize ≤ h)
    (hfit : dpadSize + 2 * buttonSize + 3 * margin ≤ w) :
    [rectOf (w - toggleSize - margin) margin (w - margin) (margin + toggleSize),
      rectOf (w - toggleSize - margin - resizeButtonSize - margin.tdiv 2) margin
        (w - toggleSize - margin - margin.tdiv 2) (margin + resizeButtonSize),
      rectOf (w - toggleSize - margin - resizeButtonSize * 2 - margin) margin
        (w - toggleSize - margin - resizeButtonSize - margin) (margin + resizeButtonSize),
      rectOf (w - toggleSize - margin - resizeButtonSize * 3 - margin * 2) margin
        (w - toggleSize - margin - resizeButtonSize * 2 - margin * 2) (margin + resizeButtonSize),
      rectOf margin (h - dpadSize - margin) (margin + dpadSize) (h - margin),
      rectOf (w - buttonSize - margin) (h - buttonSize - margin) (w - margin) (h - margin),
      rectOf (w - buttonSize * 2 - margin * 2) (h - buttonSize * 2 - margin)
        (w - buttonSize - margin * 2) (h - buttonSize - margin)].Pairwise RectF.Apart := by
  have hq : 0 ≤ margin.tdiv 2 ∧ margin.tdiv 2 ≤ margin := by
    rw [Int.tdiv_eq_ediv hm (by norm_num)]
    exact ⟨Int.ediv_nonneg hm (by norm_num), Int.ediv_le_self 2 hm⟩
  simp only [List.pairwise_cons, List.mem_cons, List.mem_singleton, forall_eq_or_imp, forall_eq,
    List.not_mem_nil, or_false, List.Pairwise.nil, and_true, false_implies, implies_true]
  -- each pair is apart across or down; the later small button is the one further left
  refine ⟨⟨?_, ?_, ?_, ?_, ?_, ?_⟩, ⟨?_, ?_, ?_, ?_, ?_⟩, ⟨?_, ?_, ?_, ?_⟩, ⟨?_, ?_, ?_⟩, ⟨?_, ?_⟩, ?_⟩ <;>
    first
    | exact rectOf_apart_of_right_le_left' (by omega)
    | exact rectOf_apart_of_bottom_le_top (by omega)
    | exact rectOf_apart_of_right_le_left (by omega)

theorem floatToInt_of_nonneg {x : ℚ} (hx : 0 ≤ x) : 0 ≤ floatToInt x ∧ (floatToInt x : ℚ) ≤ x := by
  rw [floatToInt, if_pos hx]
  exact ⟨Int.floor_nonneg.2 hx, Int.floor_le x⟩

theorem floatToInt_lt_add_one {x : ℚ} (hx : 0 ≤ x) : x < floatToInt x + 1 := by
  rw [floatToInt, if_pos hx]
  exact Int.lt_floor_add_one x

/-- The resize buttons, at 0.8 of the toggle's size, are no larger than the toggle. -/
theorem resizeButtonSize_le {h : Int} (hh : 0 ≤ h) :
    floatToInt (floatToInt (h * toggleSizeRatio) * (8 / 10)) ≤ floatToInt (h * toggleSizeRatio) := by
  obtain ⟨ht0, -⟩ := floatToInt_of_nonneg (x := h * toggleSizeRatio)
    (mul_nonneg (by exact_mod_cast hh) (by unfold toggleSizeRatio; norm_num))
  have ht0' : (0 : ℚ) ≤ floatToInt (h * toggleSizeRatio) := by exact_mod_cast ht0
  obtain ⟨-, hr⟩ := floatToInt_of_nonneg (x := floatToInt (h * toggleSizeRatio) * (8 / 10))
    (by positivity)
  exact_mod_cast hr.trans (mul_le_of_le_one_right ht0' (by norm_num))

/-- On a view at least 1.17 times as wide as high, at every scale factor the overlay allows, no
two controls share a point. -/
theorem updateLayout_controls_apart (w h : Int) (hh : 0 ≤ h) (hw : 117 * h ≤ 100 * w) (s : ℚ)
    (hs : minScale ≤ s ∧ s ≤ maxScale) : (updateLayout w h s).controls.Pairwise RectF.Apart := by
  have hh' : (0 : ℚ) ≤ h := by exact_mod_cast hh
  have hw' : (117 : ℚ) * h ≤ 100 * w := by exact_mod_cast hw
  obtain ⟨hs1, hs2⟩ : (1 / 2 : ℚ) ≤ s ∧ s ≤ 2 := hs
  have hs0 : (0 : ℚ) ≤ s := by linarith only [hs1]
  unfold updateLayout JoystickLayout.controls marginRatio dpadSizeRatio buttonSizeRatio
    toggleSizeRatio
  dsimp only
  -- the sizes, as `toInt` leaves them
  obtain ⟨hm0, hm⟩ := floatToInt_of_nonneg (x := h * (3 / 100)) (by positivity)
  obtain ⟨hd0, hd⟩ := floatToInt_of_nonneg (x := h * (30 / 100) * s) (by positivity)
  obtain ⟨hb0, hb⟩ := floatToInt_of_nonneg (x := h * (12 / 100) * s) (by positivity)
  obtain ⟨ht0, ht⟩ := floatToInt_of_nonneg (x := h * (7 / 100)) (by positivity)
  set m := floatToInt (h * (3 / 100))
  set d := floatToInt (h * (30 / 100) * s)
  set b := floatToInt (h * (12 / 100) * s)
  set t := floatToInt (h * (7 / 100))
  have ht0' : (0 : ℚ) ≤ t := by exact_mod_cast ht0
  obtain ⟨hr0, hr⟩ := floatToInt_of_nonneg (x := t * (8 / 10)) (by positivity)
  set r := floatToInt (t * (8 / 10))
  -- at the largest scale, the d-pad and the buttons are at most 0.6 and 0.24 of the height
  have hd2 : (d : ℚ) ≤ h * (30 / 100) * 2 := hd.trans (mul_le_mul_of_nonneg_left hs2 (by positivity))
  have hb2 : (b : ℚ) ≤ h * (12 / 100) * 2 := hb.trans (mul_le_mul_of_nonneg_left hs2 (by positivity))
  have hrt : r ≤ t := resizeButtonSize_le hh
  have hdpad : 2 * m + t + d ≤ h := by
    exact_mod_cast (show (2 * m + t + d : ℚ) ≤ h by linarith only [hm, ht, hd2, hh'])
  have hbuttons : 2 * m + t + 2 * b ≤ h := by
    exact_mod_cast (show (2 * m + t + 2 * b : ℚ) ≤ h by linarith only [hm, ht, hb2, hh'])
  have hfit : d + 2 * b + 3 * m ≤ w := by
    exact_mod_cast (show (d + 2 * b + 3 * m : ℚ) ≤ w by linarith only [hm, hd2, hb2, hw'])
  exact controls_apart hm0 ⟨hr0, hrt⟩ hd0 hb0 ⟨hdpad, hbuttons⟩ hfit

theorem updateLayout_controls_apart_landscape :
    (0 : Int) ≤ 1080 ∧ 117 * (1080 : Int) ≤ 100 * 2400 ∧ (minScale ≤ 1 ∧ (1 : ℚ) ≤ maxScale) ∧
      (updateLayout 2400 1080 1).controls.Pairwise RectF.Apart :=
  have hs : minScale ≤ 1 ∧ (1 : ℚ) ≤ maxScale := by unfold minScale maxScale; norm_num
  ⟨by decide, by decide, hs, updateLayout_controls_apart 2400 1080 (by decide) (by decide) 1 hs⟩

/-- The sizes `updateLayout` computes on a portrait view, at a scale factor from 1 to 2: B is
smaller than the d-pad; the d-pad, two B widths and three margins are wider than the view; one
B width and three margins are narrower; one B height, two margins and the toggle fit down it. -/
theorem portrait_sizes {w h : Int} (hh : 100 ≤ h) (hw : 34 * h ≤ 100 * w ∧ 2 * w ≤ h) {s : ℚ}
    (hs : 1 ≤ s ∧ s ≤ 2) :
    let m := floatToInt (h * marginRatio)
    let d := floatToInt (h * dpadSizeRatio * s)
    let b := floatToInt (h * buttonSizeRatio * s)
    let t := floatToInt (h * toggleSizeRatio)
    0 < b ∧ b < d ∧ w < d + 2 * b + 3 * m ∧ b + 3 * m < w ∧ b + 2 * m + t < h := by
  have hh' : (100 : ℚ) ≤ h := by exact_mod_cast hh
  have hw' : (34 : ℚ) * h ≤ 100 * w ∧ (2 : ℚ) * w ≤ h := by exact_mod_cast hw
  have h0 : (0 : ℚ) ≤ h := by linarith only [hh']
  have hsh : (h : ℚ) * 1 ≤ h * s ∧ h * s ≤ h * 2 :=
    ⟨mul_le_mul_of_nonneg_left hs.1 h0, mul_le_mul_of_nonneg_left hs.2 h0⟩
  have hs0 : 0 ≤ s := zero_le_one.trans hs.1
  dsimp only
  unfold marginRatio dpadSizeRatio buttonSizeRatio toggleSizeRatio
  -- each size lies within one of what it truncates
  have hm := floatToInt_lt_add_one (x := h * (3 / 100)) (by positivity)
  obtain ⟨-, hm'⟩ := floatToInt_of_nonneg (x := h * (3 / 100)) (by positivity)
  have hd := floatToInt_lt_add_one (x := h * (30 / 100) * s) (by positivity)
  have hb := floatToInt_lt_add_one (x := h * (12 / 100) * s) (by positivity)
  obtain ⟨-, hb'⟩ := floatToInt_of_nonneg (x := h * (12 / 100) * s) (by positivity)
  obtain ⟨-, ht⟩ := floatToInt_of_nonneg (x := h * (7 / 100)) (by positivity)
  set m := floatToInt (h * (3 / 100))
  set d := floatToInt (h * (30 / 100) * s)
  set b := floatToInt (h * (12 / 100) * s)
  set t := floatToInt (h * (7 / 100))
  -- the scale factor enters only through `h * s`
  rw [mul_right_comm] at hd hb hb'
  generalize (h : ℚ) * s = u at hd hb hb' hsh
  refine ⟨?_, ?_, ?_, ?_, ?_⟩
  · exact_mod_cast (show (0 : ℚ) < b by linarith only [hb, hsh.1, hh'])
  · exact_mod_cast (show (b : ℚ) < d by linarith only [hd, hb', hsh.1, hh'])
  · exact_mod_cast (show (w : ℚ) < d + 2 * b + 3 * m by linarith only [hd, hb, hm, hsh.1, hh', hw'.2])
  · exact_mod_cast (show (b : ℚ) + 3 * m < w by linarith only [hb', hm', hsh.2, hh', hw'.1])
  · exact_mod_cast (show (b : ℚ) + 2 * m + t < h by linarith only [hb', hm', ht, hsh.2, hh'])

/-- Some point lies on both the d-pad and fire button B, and a finger going down there, in the
joystick state with the d-pad free, takes the d-pad: `onTouchEvent` tests the d-pad first. -/
def DpadShadowsButtonB (w h : Int) (s : ℚ) : Prop :=
  ∃ x y, (updateLayout w h s).dpadRect.contains x y ∧ (updateLayout w h s).buttonBRect.contains x y ∧
    ∀ (directions : RectF → ℚ → ℚ → Dpad) (j : VirtualJoystickOverlay) (p : Int),
      j.scaleFactor = s → j.overlayState = stateJoystick → j.dpadPointerId = -1 →
        (j.pressPointer ⟨updateLayout w h, directions⟩ p x y).1 =
          { j with dpadPointerId := p }.updateDpadState ⟨updateLayout w h, directions⟩ x y

/-- On a portrait view, from a third to a half as wide as high, at the default scale factor and
above, the d-pad reaches into fire button B, and in the part they share a touch takes the d-pad. -/
theorem dpad_shadows_buttonB_portrait (w h : Int) (hh : 100 ≤ h)
    (hw : 34 * h ≤ 100 * w ∧ 2 * w ≤ h) (s : ℚ) (hs : 1 ≤ s ∧ s ≤ maxScale) :
    DpadShadowsButtonB w h s := by
  obtain ⟨hb1, hbd, hreach, hleft, hbelow⟩ := portrait_sizes hh hw (s := s) hs
  have hrt := resizeButtonSize_le (show 0 ≤ h by omega)
  set m := floatToInt (h * marginRatio)
  set d := floatToInt (h * dpadSizeRatio * s)
  set b := floatToInt (h * buttonSizeRatio * s)
  set t := floatToInt (h * toggleSizeRatio)
  set r := floatToInt (t * (8 / 10))
  have hl : updateLayout w h s = ⟨rectOf m (h - d - m) (m + d) (h - m),
      rectOf (w - b - m) (h - b - m) (w - m) (h - m),
      rectOf (w - b * 2 - m * 2) (h - b * 2 - m) (w - b - m * 2) (h - b - m),
      rectOf (w - t - m) m (w - m) (m + t),
      rectOf (w - t - m - r - m.tdiv 2) m (w - t - m - m.tdiv 2) (m + r),
      rectOf (w - t - m - r * 2 - m) m (w - t - m - r - m) (m + r),
      rectOf (w - t - m - r * 3 - m * 2) m (w - t - m - r * 2 - m * 2) (m + r)⟩ := rfl
  -- the touch: at B's left edge, or the d-pad's if B starts further left, one pixel above B's
  -- bottom edge, which is below every small button
  have hyt : m + t ≤ h - b - m - 1 := by omega
  have hyr : m + r ≤ h - b - m - 1 := by omega
  obtain ⟨x, hx⟩ : ∃ x : Int, x = m ⊔ (w - b * 2 - m * 2) := ⟨_, rfl⟩
  have hdpad : (rectOf m (h - d - m) (m + d) (h - m)).contains x (h - b - m - 1 : Int) := by
    rw [rectOf_contains]; omega
  have hB : (rectOf (w - b * 2 - m * 2) (h - b * 2 - m) (w - b - m * 2) (h - b - m)).contains x
      (h - b - m - 1 : Int) := by
    rw [rectOf_contains]; omega
  refine ⟨x, (h - b - m - 1 : Int), by rwa [hl], by rwa [hl], fun directions j p hsc hst hfree => ?_⟩
  unfold VirtualJoystickOverlay.pressPointer
  dsimp only
  rw [hsc, hl]
  dsimp only
  rw [if_neg (rectOf_not_contains_of_bottom_le hyt), if_neg (rectOf_not_contains_of_bottom_le hyr),
    if_neg (rectOf_not_contains_of_bottom_le hyr), if_neg (rectOf_not_contains_of_bottom_le hyr),
    if_pos hst, if_pos ⟨hdpad, hfree⟩]

theorem dpad_shadows_buttonB_phone :
    100 ≤ (2400 : Int) ∧ (34 * 2400 ≤ 100 * (1080 : Int) ∧ 2 * 1080 ≤ (2400 : Int)) ∧
      ((1 : ℚ) ≤ 1 ∧ (1 : ℚ) ≤ maxScale) ∧ DpadShadowsButtonB 1080 2400 1 :=
  have hs : (1 : ℚ) ≤ 1 ∧ (1 : ℚ) ≤ maxScale := by unfold maxScale; norm_num
  ⟨by decide, by decide, hs, dpad_shadows_buttonB_portrait 1080 2400 (by decide) (by decide) 1 hs⟩

end Overlay
