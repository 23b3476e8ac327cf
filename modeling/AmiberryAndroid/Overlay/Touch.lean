import Mathlib.Data.Rat.Defs
import Mathlib.Data.List.Perm.Basic

/-!
# Touch input

The two overlays, `VirtualKeyboardOverlay` and `VirtualJoystickOverlay`, are Android views:
the system calls their `onTouchEvent` with one `MotionEvent` at a time. A `MotionEvent` has a
masked action, an action index, and its pointers in index order, each with an id and a
position. Positions are floats in Android; here they are rationals, and the overlays only
compare them.

**Touch streams.** Android delivers the events of a gesture in a fixed shape: `ACTION_DOWN`
of the first pointer, `ACTION_POINTER_DOWN` of each further pointer, `ACTION_MOVE` reporting
every pointer that is down, `ACTION_POINTER_UP` of a pointer while others stay, and the end
of the gesture: `ACTION_UP` of the last pointer, or `ACTION_CANCEL`, which withdraws every
pointer at once. `MotionEvent.next?` says which event may come when a given set of pointers is
down, and which pointers are down after it; a stream is well formed when every event may
come (`downAfter?` is not `none`). Pointer ids are non-negative, as Android assigns them.
-/

namespace Overlay

/-- `MotionEvent.getActionMasked()`, for the actions the overlays handle. -/
inductive Action
  /-- `ACTION_DOWN` -/
  | down
  /-- `ACTION_UP` -/
  | up
  /-- `ACTION_MOVE` -/
  | move
  /-- `ACTION_CANCEL` -/
  | cancel
  /-- `ACTION_POINTER_DOWN` -/
  | pointerDown
  /-- `ACTION_POINTER_UP` -/
  | pointerUp
  /-- Any other action, such as `ACTION_OUTSIDE`. -/
  | other
  deriving DecidableEq, Repr

/-- One pointer of an event: `getPointerId(i)`, `getX(i)` and `getY(i)`. -/
structure Pointer where
  id : Int
  x : ℚ
  y : ℚ
  deriving DecidableEq, Repr

/-- A `MotionEvent`. Its action index names one of its pointers. -/
structure MotionEvent where
  actionMasked : Action
  actionIndex : Nat
  pointers : List Pointer
  actionIndex_lt : actionIndex < pointers.length

/-- The pointer at `getActionIndex()`. -/
def MotionEvent.actionPointer (e : MotionEvent) : Pointer :=
  e.pointers.get ⟨e.actionIndex, e.actionIndex_lt⟩

theorem MotionEvent.actionPointer_mem (e : MotionEvent) : e.actionPointer ∈ e.pointers :=
  List.get_mem _ _ _

/-- `RectF`. -/
structure RectF where
  left : ℚ
  top : ℚ
  right : ℚ
  bottom : ℚ
  deriving DecidableEq, Repr

/-- `RectF.contains(x, y)`: the rectangle is not empty, and holds `(x, y)` with its right and
bottom edges left out. -/
def RectF.contains (r : RectF) (x y : ℚ) : Bool :=
  r.left < r.right && r.top < r.bottom && r.left ≤ x && x < r.right && r.top ≤ y && y < r.bottom

/-! ## Well-formed touch streams -/

namespace MotionEvent

/-- The ids of the pointers down after `e`, when `e` may come while the pointers `down` are
down; `none` when it may not. -/
def next? (down : List Int) (e : MotionEvent) : Option (List Int) :=
  match e.actionMasked with
  | .down =>
    if down = [] ∧ e.pointers.map Pointer.id = [e.actionPointer.id] ∧ 0 ≤ e.actionPointer.id then
      some [e.actionPointer.id]
    else none
  | .pointerDown =>
    if down ≠ [] ∧ e.actionPointer.id ∉ down ∧ 0 ≤ e.actionPointer.id ∧
        (e.pointers.map Pointer.id).Perm (e.actionPointer.id :: down) then
      some (e.actionPointer.id :: down)
    else none
  | .move =>
    if down ≠ [] ∧ e.actionIndex = 0 ∧ (e.pointers.map Pointer.id).Perm down then some down
    else none
  | .pointerUp =>
    if 2 ≤ down.length ∧ (e.pointers.map Pointer.id).Perm down then
      some (down.erase e.actionPointer.id)
    else none
  | .up => if down = [e.actionPointer.id] ∧ e.pointers.map Pointer.id = down then some [] else none
  | .cancel =>
    if down ≠ [] ∧ e.actionIndex = 0 ∧ (e.pointers.map Pointer.id).Perm down then some []
    else none
  | .other => none

end MotionEvent

/-- The pointers down after a stream, from `down`; `none` if some event may not come. -/
def downAfter? : List Int → List MotionEvent → Option (List Int)
  | down, [] => some down
  | down, e :: es => (e.next? down).bind (downAfter? · es)

/-- The stream has no `ACTION_CANCEL`: every gesture ends with `ACTION_UP`. -/
def NoCancel (es : List MotionEvent) : Prop := ∀ e ∈ es, e.actionMasked ≠ .cancel

instance (es : List MotionEvent) : Decidable (NoCancel es) :=
  inferInstanceAs (Decidable (∀ e ∈ es, e.actionMasked ≠ .cancel))

/-! ## Logs of calls -/

/-- The last value a log of calls `(k, v)` gave for `k`, if any. -/
def lastSent {α : Type} (sent : List (Int × α)) (k : Int) : Option α :=
  (sent.reverse.find? (·.1 = k)).map Prod.snd

@[simp] theorem lastSent_nil {α : Type} (k : Int) : lastSent ([] : List (Int × α)) k = none := rfl

@[simp] theorem lastSent_append {α : Type} (sent : List (Int × α)) (k' : Int) (v : α) (k : Int) :
    lastSent (sent ++ [(k', v)]) k = if k' = k then some v else lastSent sent k := by
  unfold lastSent
  split_ifs with h <;> simp [h]

@[simp] theorem lastSent_append_pair {α : Type} (sent : List (Int × α)) (k₁ : Int) (v₁ : α)
    (k₂ : Int) (v₂ : α) (k : Int) : lastSent (sent ++ [(k₁, v₁), (k₂, v₂)]) k =
      if k₂ = k then some v₂ else if k₁ = k then some v₁ else lastSent sent k := by
  rw [show sent ++ [(k₁, v₁), (k₂, v₂)] = sent ++ [(k₁, v₁)] ++ [(k₂, v₂)] by simp,
    lastSent_append, lastSent_append]

/-- Relabelling the values of a log relabels its last values. -/
theorem lastSent_map {α β : Type} (f : α → β) (sent : List (Int × α)) (k : Int) :
    lastSent (sent.map fun e => (e.1, f e.2)) k = (lastSent sent k).map f := by
  simp [lastSent, ← List.map_reverse, List.find?_map, Function.comp_def, Option.map_map]

/-! ## What an event tells about the pointers -/

section Next

variable {down down' : List Int} {e : MotionEvent}

theorem mem_of_perm_map {ps : List Pointer} {l : List Int} (h : (ps.map Pointer.id).Perm l)
    {q : Pointer} (hq : q ∈ ps) : q.id ∈ l :=
  h.mem_iff.1 (List.mem_map_of_mem _ hq)

/-- What an event that may come tells: a new pointer goes down, every reported pointer is
down, one pointer goes up, or the gesture is cancelled. -/
theorem next?_eq_some (h : e.next? down = some down') :
    ((e.actionMasked = .down ∨ e.actionMasked = .pointerDown) ∧ e.actionPointer.id ∉ down ∧
        0 ≤ e.actionPointer.id ∧ down' = e.actionPointer.id :: down) ∨
      (e.actionMasked = .move ∧ (∀ q ∈ e.pointers, q.id ∈ down) ∧ down' = down) ∨
      ((e.actionMasked = .up ∨ e.actionMasked = .pointerUp) ∧ e.actionPointer.id ∈ down ∧
        down' = down.erase e.actionPointer.id) ∨
      (e.actionMasked = .cancel ∧ down' = []) := by
  unfold MotionEvent.next? at h
  split at h <;> (try split_ifs at h with hc) <;> simp only [Option.some.injEq, reduceCtorEq] at h <;>
    subst h
  · exact .inl ⟨.inl ‹_›, by simp [hc.1], hc.2.2, by simp [hc.1]⟩
  · exact .inl ⟨.inr ‹_›, hc.2.1, hc.2.2.1, rfl⟩
  · exact .inr (.inl ⟨‹_›, fun q hq => mem_of_perm_map hc.2.2 hq, rfl⟩)
  · exact .inr (.inr (.inl ⟨.inr ‹_›, mem_of_perm_map hc.2 e.actionPointer_mem, rfl⟩))
  · exact .inr (.inr (.inl ⟨.inl ‹_›, by simp [hc.1], by simp [hc.1]⟩))
  · exact .inr (.inr (.inr ⟨‹_›, rfl⟩))

end Next

end Overlay
