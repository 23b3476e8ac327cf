import AmiberryAndroid.Overlay.Keyboard
import Mathlib.Data.Rat.Floor
import Mathlib.Algebra.Order.BigOperators.Group.List
import Mathlib.Tactic.Linarith

/-!
# The keyboard's layout

`calculateKeyLayout(w, h)` lays the keys of `keyboardLayout` out in the bottom 40% of the view:
six rows of one height, each row centred, each key as wide as its width in key units, with
`keySpacing` between keys and between rows. The model keeps each key's code and width (its label
is only drawn) and computes in rationals.

**Theorem (`calculateKeyLayout_keys_apart`).** On a view at least 52 wide and 5 high, every key
lies on the view and below `keyboardTop`, and no two keys share a point: a point inside a key is
found in that key by `keyAt`. So the `keyboardTop` test of `onTouchEvent` never hides a key, and
the first key `keyAt` finds is the only one under the finger.

The layout has one Shift key, the left one (`akLsh`); `AK_RSH` is sticky but has no key
(`akRsh_not_mem_calculateKeyLayout`).
-/

namespace Overlay

/-- `KeyDef(label, keyCode, width)`, keeping the key code and the width in key units. -/
structure KeyDef where
  keyCode : Int
  width : ℚ
  deriving DecidableEq, Repr

/-- `keyboardLayout`: the six rows of keys. -/
def keyboardLayout : List (List KeyDef) :=
  [ -- Esc, F1 to F10, Del, Help
    [⟨0x45, 1⟩, ⟨0x50, 1⟩, ⟨0x51, 1⟩, ⟨0x52, 1⟩, ⟨0x53, 1⟩, ⟨0x54, 1⟩, ⟨0x55, 1⟩, ⟨0x56, 1⟩,
      ⟨0x57, 1⟩, ⟨0x58, 1⟩, ⟨0x59, 1⟩, ⟨0x46, 1⟩, ⟨0x5F, 1⟩],
    -- backquote, 1 to 0, minus, equal, backslash, backspace
    [⟨0x00, 1⟩, ⟨0x01, 1⟩, ⟨0x02, 1⟩, ⟨0x03, 1⟩, ⟨0x04, 1⟩, ⟨0x05, 1⟩, ⟨0x06, 1⟩, ⟨0x07, 1⟩,
      ⟨0x08, 1⟩, ⟨0x09, 1⟩, ⟨0x0A, 1⟩, ⟨0x0B, 1⟩, ⟨0x0C, 1⟩, ⟨0x0D, 1⟩, ⟨0x41, 1⟩],
    -- Tab, Q to P, brackets, Return
    [⟨0x42, 3/2⟩, ⟨0x10, 1⟩, ⟨0x11, 1⟩, ⟨0x12, 1⟩, ⟨0x13, 1⟩, ⟨0x14, 1⟩, ⟨0x15, 1⟩, ⟨0x16, 1⟩,
      ⟨0x17, 1⟩, ⟨0x18, 1⟩, ⟨0x19, 1⟩, ⟨0x1A, 1⟩, ⟨0x1B, 1⟩, ⟨0x44, 3/2⟩],
    -- Ctrl, A to L, semicolon, quote, up
    [⟨akCtrl, 3/2⟩, ⟨0x20, 1⟩, ⟨0x21, 1⟩, ⟨0x22, 1⟩, ⟨0x23, 1⟩, ⟨0x24, 1⟩, ⟨0x25, 1⟩, ⟨0x26, 1⟩,
      ⟨0x27, 1⟩, ⟨0x28, 1⟩, ⟨0x29, 1⟩, ⟨0x2A, 1⟩, ⟨0x4C, 1⟩],
    -- Shift, Z to M, comma, period, slash, left, down, right
    [⟨akLsh, 2⟩, ⟨0x31, 1⟩, ⟨0x32, 1⟩, ⟨0x33, 1⟩, ⟨0x34, 1⟩, ⟨0x35, 1⟩, ⟨0x36, 1⟩, ⟨0x37, 1⟩,
      ⟨0x38, 1⟩, ⟨0x39, 1⟩, ⟨0x3A, 1⟩, ⟨0x4F, 1⟩, ⟨0x4D, 1⟩, ⟨0x4E, 1⟩],
    -- Alt, Amiga, Space, Amiga, Alt
    [⟨akLalt, 3/2⟩, ⟨akLami, 3/2⟩, ⟨0x40, 6⟩, ⟨akRami, 3/2⟩, ⟨akRalt, 3/2⟩]]

/-- `keySpacing` -/
def keySpacing : ℚ := 2

/-- `row.sumOf { it.width }`: a row's width in key units. -/
def rowUnits (row : List KeyDef) : ℚ := (row.map KeyDef.width).sum

/-- Where a row starts: `(w - rowWidth * keyWidth - (row.size - 1) * keySpacing) / 2`. -/
def rowStart (w keyWidth : ℚ) (row : List KeyDef) : ℚ :=
  (w - rowUnits row * keyWidth - ((row.length : ℚ) - 1) * keySpacing) / 2

/-- The inner loop of `calculateKeyLayout`: the keys of a row from `x` on, at height `y`. -/
def layoutRow (keyWidth keyHeight y : ℚ) : ℚ → List KeyDef → List KeyRect
  | _, [] => []
  | x, keyDef :: row =>
    let kw := keyDef.width * keyWidth + (keyDef.width - 1) * keySpacing
    ⟨⟨x, y, x + kw, y + keyHeight⟩, keyDef.keyCode⟩ ::
      layoutRow keyWidth keyHeight y (x + kw + keySpacing) row

/-- The outer loop of `calculateKeyLayout`: the rows from height `y` on. -/
def layoutRows (w keyWidth keyHeight : ℚ) : ℚ → List (List KeyDef) → List KeyRect
  | _, [] => []
  | y, row :: rows =>
    layoutRow keyWidth keyHeight y (rowStart w keyWidth row) row ++
      layoutRows w keyWidth keyHeight (y + keyHeight + keySpacing) rows

/-- `calculateKeyLayout(w, h)`. `maxUnitsInRow.toInt()` truncates a positive number, so it is
the floor. -/
def calculateKeyLayout (w h : Int) : KeyLayout :=
  let keyboardHeight : ℚ := h * (40 / 100)
  let keyboardTop := h - keyboardHeight
  let numRows := keyboardLayout.length
  let keyHeight := (keyboardHeight - keySpacing * (numRows + 1)) / numRows
  let maxUnitsInRow := ((keyboardLayout.map rowUnits).max?).getD 13
  let keyWidth := (w - keySpacing * (⌊maxUnitsInRow⌋ + 1)) / maxUnitsInRow
  ⟨layoutRows w keyWidth keyHeight (keyboardTop + keySpacing) keyboardLayout, keyboardTop⟩

/-! ## Key codes -/

section Geometry

variable {keyWidth keyHeight : ℚ}

@[simp] theorem rowUnits_nil : rowUnits [] = 0 := rfl

@[simp] theorem rowUnits_cons (k : KeyDef) (row : List KeyDef) :
    rowUnits (k :: row) = k.width + rowUnits row := by
  simp [rowUnits]

theorem rowUnits_nonneg {row : List KeyDef} (h : ∀ k ∈ row, 0 ≤ k.width) : 0 ≤ rowUnits row :=
  List.sum_nonneg fun _ hx => by obtain ⟨k, hk, rfl⟩ := List.mem_map.1 hx; exact h k hk

/-- Each key of a row is at the row's height, and the keys run from `x` over the row's units. -/
theorem layoutRow_bounds (hk : 0 ≤ keyWidth + keySpacing) {row : List KeyDef}
    (hrow : ∀ k ∈ row, 0 ≤ k.width) (y x : ℚ) :
    ∀ r ∈ layoutRow keyWidth keyHeight y x row, r.rect.top = y ∧ r.rect.bottom = y + keyHeight ∧
      x ≤ r.rect.left ∧ r.rect.right + keySpacing ≤ x + rowUnits row * (keyWidth + keySpacing) := by
  induction row generalizing x with
  | nil => nofun
  | cons k row ih =>
    have hstep : k.width * keyWidth + (k.width - 1) * keySpacing + keySpacing =
        k.width * (keyWidth + keySpacing) := by ring
    have hk0 := mul_nonneg (hrow k (List.mem_cons_self _ _)) hk
    have hrest := mul_nonneg (rowUnits_nonneg fun k' hk' => hrow k' (List.mem_cons_of_mem _ hk')) hk
    have hsum := add_mul k.width (rowUnits row) (keyWidth + keySpacing)
    rintro r (_ | ⟨_, hr⟩)
    · refine ⟨rfl, rfl, le_refl _, ?_⟩
      dsimp only
      rw [rowUnits_cons]
      linarith
    · obtain ⟨ht, hb, hl, hr⟩ := ih (fun k' hk' => hrow k' (List.mem_cons_of_mem _ hk')) _ r hr
      refine ⟨ht, hb, by linarith, ?_⟩
      rw [rowUnits_cons]
      linarith

/-- The keys of a row follow each other from left to right, `keySpacing` apart. -/
theorem layoutRow_pairwise (hk : 0 ≤ keyWidth + keySpacing) {row : List KeyDef}
    (hrow : ∀ k ∈ row, 0 ≤ k.width) (y x : ℚ) :
    (layoutRow keyWidth keyHeight y x row).Pairwise fun a b => a.rect.right < b.rect.left := by
  induction row generalizing x with
  | nil => exact List.Pairwise.nil
  | cons k row ih =>
    have hrow' : ∀ k' ∈ row, 0 ≤ k'.width := fun k' hk' => hrow k' (List.mem_cons_of_mem _ hk')
    refine List.Pairwise.cons (fun b hb => ?_) (ih hrow' _)
    have := (layoutRow_bounds hk hrow' y _ b hb).2.2.1
    dsimp only
    linarith [show (0 : ℚ) < keySpacing by norm_num [keySpacing]]

variable {w : ℚ}

/-- Each key is in the rows' band of heights, and within its own row's extent. -/
theorem layoutRows_bounds (hk : 0 ≤ keyWidth + keySpacing) (hh : 0 ≤ keyHeight + keySpacing)
    {rows : List (List KeyDef)} (hrows : ∀ row ∈ rows, ∀ k ∈ row, 0 ≤ k.width) (y : ℚ) :
    ∀ r ∈ layoutRows w keyWidth keyHeight y rows, y ≤ r.rect.top ∧
      r.rect.bottom + keySpacing ≤ y + rows.length * (keyHeight + keySpacing) ∧
      ∃ row ∈ rows, rowStart w keyWidth row ≤ r.rect.left ∧
        r.rect.right + keySpacing ≤ rowStart w keyWidth row + rowUnits row * (keyWidth + keySpacing) := by
  induction rows generalizing y with
  | nil => nofun
  | cons row rows ih =>
    intro r hr
    rcases List.mem_append.1 hr with hr | hr
    · obtain ⟨ht, hb, hl, hr⟩ :=
        layoutRow_bounds hk (hrows row (List.mem_cons_self _ _)) y _ r hr
      have : (0 : ℚ) ≤ rows.length * (keyHeight + keySpacing) := mul_nonneg (by positivity) hh
      refine ⟨ht.ge, ?_, row, List.mem_cons_self _ _, hl, hr⟩
      rw [hb, List.length_cons, Nat.cast_succ]
      linarith
    · obtain ⟨ht, hb, row', hrow', hl, hr⟩ :=
        ih (fun row' h => hrows row' (List.mem_cons_of_mem _ h)) _ r hr
      refine ⟨by linarith, ?_, row', List.mem_cons_of_mem _ hrow', hl, hr⟩
      rw [List.length_cons, Nat.cast_succ]
      linarith

/-- Two keys are apart: the first ends left of the second, or above it. -/
def KeyRect.Before (a b : KeyRect) : Prop := a.rect.right < b.rect.left ∨ a.rect.bottom < b.rect.top

/-- Every key is apart from every later one: in its row by the row's order, and from the later
rows by their heights. -/
theorem layoutRows_pairwise (hk : 0 ≤ keyWidth + keySpacing) (hh : 0 ≤ keyHeight + keySpacing)
    {rows : List (List KeyDef)} (hrows : ∀ row ∈ rows, ∀ k ∈ row, 0 ≤ k.width) (y : ℚ) :
    (layoutRows w keyWidth keyHeight y rows).Pairwise KeyRect.Before := by
  induction rows generalizing y with
  | nil => exact List.Pairwise.nil
  | cons row rows ih =>
    have hrow := hrows row (List.mem_cons_self _ _)
    have hrows' := fun row' h => hrows row' (List.mem_cons_of_mem _ h)
    refine List.pairwise_append.2 ⟨(layoutRow_pairwise hk hrow y _).imp .inl, ih hrows' _,
      fun a ha b hb => .inr ?_⟩
    have := (layoutRow_bounds hk hrow y _ a ha).2.1
    have := (layoutRows_bounds (w := w) hk hh hrows' _ b hb).1
    linarith [show (0 : ℚ) < keySpacing by norm_num [keySpacing]]

end Geometry

/-- Two keys apart do not share a point. -/
theorem KeyRect.Before.not_contains {a b : KeyRect} (h : a.Before b) (x y : ℚ) :
    ¬(a.rect.contains x y ∧ b.rect.contains x y) := by
  simp only [RectF.contains, Bool.and_eq_true, decide_eq_true_eq]
  rintro ⟨⟨⟨⟨⟨⟨-, -⟩, -⟩, hax⟩, -⟩, hay⟩, ⟨⟨⟨⟨⟨-, -⟩, hbx⟩, -⟩, hby⟩, -⟩⟩
  rcases h with h | h <;> linarith

/-- In a list where no two entries both pass `p`, `find?` finds the entry that does. -/
theorem find?_eq_of_pairwise {α : Type} {p : α → Bool} {l : List α}
    (hl : l.Pairwise fun a b => ¬(p a ∧ p b)) {r : α} (hr : r ∈ l) (hp : p r) : l.find? p = some r := by
  induction l with
  | nil => exact absurd hr (List.not_mem_nil _)
  | cons a l ih =>
    rcases List.pairwise_cons.1 hl with ⟨ha, hl⟩
    by_cases hpa : p a
    · rw [List.find?_cons_of_pos _ hpa]
      rcases List.mem_cons.1 hr with rfl | hr
      · rfl
      · exact absurd ⟨hpa, hp⟩ (ha r hr)
    · rw [List.find?_cons_of_neg _ hpa]
      rcases List.mem_cons.1 hr with rfl | hr
      · exact absurd hp hpa
      · exact ih hl hr

/-- The units and the number of keys of each row. -/
theorem rowShapes : keyboardLayout.map (fun row => (rowUnits row, (row.length : ℚ))) =
    [(13, 13), (15, 15), (15, 14), (27 / 2, 13), (15, 14), (12, 5)] := by
  simp only [keyboardLayout, List.map_cons, List.map_nil, rowUnits_cons, rowUnits_nil,
    List.length_cons, List.length_nil]
  norm_num

theorem maxUnitsInRow_eq : (keyboardLayout.map rowUnits).max? = some 15 := by
  have : keyboardLayout.map rowUnits = [13, 15, 15, 27 / 2, 15, 12] := by
    simpa using congrArg (List.map Prod.fst) rowShapes
  simp only [this, List.max?, List.foldl_cons, List.foldl_nil, Option.some.injEq]
  norm_num

/-- A row fits across a view at least 52 wide when its units and its number of keys are small
enough: the worst case is the narrowest view. -/
theorem row_fits {w : ℚ} {row : List KeyDef} (hw : 52 ≤ w) (hu : rowUnits row ≤ 15)
    (h1 : 4 * rowUnits row / 3 + 2 * (row.length : ℚ) ≤ 54)
    (h2 : 16 * rowUnits row / 3 ≤ 2 * (row.length : ℚ) + 54) :
    0 ≤ rowStart w ((w - 32) / 15) row ∧
      rowStart w ((w - 32) / 15) row + rowUnits row * ((w - 32) / 15 + keySpacing) ≤ w + keySpacing := by
  unfold rowStart keySpacing
  have := mul_nonneg (sub_nonneg.2 hu) (sub_nonneg.2 hw)
  constructor <;> linarith

theorem keyboardLayout_rows_fit : ∀ row ∈ keyboardLayout, rowUnits row ≤ 15 ∧
    4 * rowUnits row / 3 + 2 * (row.length : ℚ) ≤ 54 ∧ 16 * rowUnits row / 3 ≤ 2 * (row.length : ℚ) + 54 := by
  have hshapes : ∀ p ∈ [((13 : ℚ), (13 : ℚ)), (15, 15), (15, 14), (27 / 2, 13), (15, 14), (12, 5)],
      p.1 ≤ 15 ∧ 4 * p.1 / 3 + 2 * p.2 ≤ 54 ∧ 16 * p.1 / 3 ≤ 2 * p.2 + 54 := by
    simp only [List.mem_cons, List.mem_singleton, List.not_mem_nil, or_false, forall_eq_or_imp,
      forall_eq]
    norm_num
  exact fun row hrow => hshapes (rowUnits row, row.length) (rowShapes ▸ List.mem_map_of_mem _ hrow)

theorem calculateKeyLayout_eq (w h : Int) : calculateKeyLayout w h =
    ⟨layoutRows w ((w - 32) / 15) ((h * (40 / 100) - 14) / 6) (h - h * (40 / 100) + keySpacing)
      keyboardLayout, h - h * (40 / 100)⟩ := by
  simp only [calculateKeyLayout, maxUnitsInRow_eq, Option.getD_some]
  norm_num [keyboardLayout, keySpacing]

/-- On a view at least 52 wide and 5 high, every key lies on the view below `keyboardTop`, and
`keyAt` finds each point of a key in that key. -/
theorem calculateKeyLayout_keys_apart (w h : Int) (hw : 52 ≤ w) (hh : 5 ≤ h) :
    (∀ r ∈ (calculateKeyLayout w h).keyRects, 0 ≤ r.rect.left ∧ r.rect.right ≤ w ∧
      (calculateKeyLayout w h).keyboardTop ≤ r.rect.top ∧ r.rect.bottom ≤ h) ∧
    (∀ r ∈ (calculateKeyLayout w h).keyRects, ∀ x y, r.rect.contains x y →
      (calculateKeyLayout w h).keyAt x y = some r) := by
  have hw' : (52 : ℚ) ≤ w := by exact_mod_cast hw
  have hh' : (5 : ℚ) ≤ h := by exact_mod_cast hh
  have hs : keySpacing = 2 := rfl
  have hk : 0 ≤ ((w : ℚ) - 32) / 15 + keySpacing := by rw [hs]; linarith only [hw']
  have hkh : 0 ≤ ((h : ℚ) * (40 / 100) - 14) / 6 + keySpacing := by rw [hs]; linarith only [hh']
  have hwidth : ∀ row ∈ keyboardLayout, ∀ k ∈ row, 0 ≤ k.width := by
    simp only [keyboardLayout, List.mem_cons, List.mem_singleton, List.not_mem_nil, or_false,
      forall_eq_or_imp, forall_eq]
    norm_num
  -- each row fits across the view
  have hrows : ∀ row ∈ keyboardLayout, 0 ≤ rowStart w ((w - 32) / 15) row ∧
      rowStart w ((w - 32) / 15) row + rowUnits row * ((w - 32) / 15 + keySpacing) ≤ w + keySpacing :=
    fun row hrow => have h := keyboardLayout_rows_fit row hrow; row_fits hw' h.1 h.2.1 h.2.2
  rw [calculateKeyLayout_eq]
  refine ⟨fun r hr => ?_, fun r hr x y hxy => ?_⟩
  · obtain ⟨ht, hb, row, hrow, hl, hright⟩ := layoutRows_bounds hk hkh hwidth _ r hr
    obtain ⟨h0, hwr⟩ := hrows row hrow
    have hlen : (keyboardLayout.length : ℚ) = 6 := rfl
    rw [hlen, hs] at hb
    rw [hs] at ht hright hwr
    exact ⟨h0.trans hl, by linarith only [hright, hwr], by linarith only [ht],
      by linarith only [hb]⟩
  · exact find?_eq_of_pairwise ((layoutRows_pairwise hk hkh hwidth _).imp
      fun h => h.not_contains x y) hr hxy

theorem calculateKeyLayout_keys_apart_phone :
    (52 : Int) ≤ 1080 ∧ (5 : Int) ≤ 2400 ∧
    (∀ r ∈ (calculateKeyLayout 1080 2400).keyRects, 0 ≤ r.rect.left ∧ r.rect.right ≤ (1080 : Int) ∧
      (calculateKeyLayout 1080 2400).keyboardTop ≤ r.rect.top ∧ r.rect.bottom ≤ (2400 : Int)) ∧
    (∀ r ∈ (calculateKeyLayout 1080 2400).keyRects, ∀ x y, r.rect.contains x y →
      (calculateKeyLayout 1080 2400).keyAt x y = some r) :=
  ⟨by decide, by decide, calculateKeyLayout_keys_apart 1080 2400 (by decide) (by decide)⟩

end Overlay
