import AmiberryAndroid.Overlay.Touch
import Mathlib.Data.List.Nodup

/-!
# The virtual keyboard

`VirtualKeyboardOverlay.onTouchEvent` presses the key under a finger that goes down, moves the
press when a finger slides to another key, and releases the key of a finger that goes up. The
modifiers in `stickyKeys` toggle instead: a press turns one on or off, and releasing a regular
key turns every active one off. Every press and release goes out through `sendKeyEvent`, which
the model records in `sent`; the key layout is any list of rectangles.

**Theorem (`keyboard_releases_all_without_cancel`).** For every layout and every well-formed
touch stream whose gestures all end with `ACTION_UP`, whenever no finger is down,
`pointerToKey` and `pressedKeys` are empty and the last event sent for each non-sticky key is
a release.

The `ACTION_CANCEL` branch is the `ACTION_UP` branch: it releases the key of the pointer at the
action index only. A cancelled gesture with two fingers on two keys leaves the second key
pressed, with a press as the last event sent for it (`keyboard_cancel_leaves_key_held`).

The invariant has two layers. `Consistent` holds after any input at all: the last event sent
for a non-sticky key is a press exactly when the key is in `pressedKeys`; so `clearAllKeys`
always leaves nothing held (`clearAllKeys_releases_all`). `Inv` adds what a well-formed stream
gives: every entry of `pointerToKey` belongs to a finger that is down, and every pressed key to
one of them.
-/

namespace Overlay

/-- `AK_LSH` -/
def akLsh : Int := 0x60
/-- `AK_RSH` -/
def akRsh : Int := 0x61
/-- `AK_CTRL` -/
def akCtrl : Int := 0x63
/-- `AK_LALT` -/
def akLalt : Int := 0x64
/-- `AK_RALT` -/
def akRalt : Int := 0x65
/-- `AK_LAMI` -/
def akLami : Int := 0x66
/-- `AK_RAMI` -/
def akRami : Int := 0x67

/-- `stickyKeys`: the modifiers, which a press toggles. -/
def stickyKeys : List Int := [akLsh, akRsh, akCtrl, akLalt, akRalt, akLami, akRami]

/-- `KeyRect(rect, keyDef)`, keeping the key code of `keyDef`. -/
structure KeyRect where
  rect : RectF
  keyCode : Int
  deriving DecidableEq, Repr

/-- What `calculateKeyLayout` computed: the key rectangles, and the top of the keyboard. -/
structure KeyLayout where
  keyRects : List KeyRect
  keyboardTop : ℚ

/-- `keyRects.find { it.rect.contains(x, y) }` -/
def KeyLayout.keyAt (l : KeyLayout) (x y : ℚ) : Option KeyRect :=
  l.keyRects.find? (·.rect.contains x y)

/-! ## Kotlin's mutable set and map -/

/-- `MutableSet.add`: appended unless present. -/
def setAdd (s : List Int) (k : Int) : List Int := if k ∈ s then s else s ++ [k]

/-- `map[k]` on a `MutableMap<Int, Int>`. -/
def mapGet (m : List (Int × Int)) (k : Int) : Option Int := (m.find? (·.1 = k)).map Prod.snd

/-- `map[k] = v`: replaced in place, or appended. -/
def mapPut (m : List (Int × Int)) (k v : Int) : List (Int × Int) :=
  if m.any (·.1 = k) then m.map fun e => if e.1 = k then (k, v) else e else m ++ [(k, v)]

/-- `map.remove(k)` -/
def mapRemove (m : List (Int × Int)) (k : Int) : List (Int × Int) := m.filter (·.1 ≠ k)

theorem mem_setAdd {s : List Int} {k k' : Int} : k' ∈ setAdd s k ↔ k' ∈ s ∨ k' = k := by
  unfold setAdd
  split_ifs with h
  · exact ⟨.inl, fun h' => h'.elim id (· ▸ h)⟩
  · simp

theorem Nodup.setAdd {s : List Int} (hs : s.Nodup) (k : Int) : (setAdd s k).Nodup := by
  unfold Overlay.setAdd
  split_ifs with h
  · exact hs
  · exact List.nodup_append.2 ⟨hs, List.nodup_singleton k, by simpa using h⟩

theorem mapGet_eq_none {m : List (Int × Int)} {k : Int} : mapGet m k = none ↔ ∀ e ∈ m, e.1 ≠ k := by
  simp [mapGet, List.find?_eq_none]

theorem mem_of_mapGet_eq_some {m : List (Int × Int)} {k v : Int} (h : mapGet m k = some v) :
    (k, v) ∈ m := by
  obtain ⟨e, he, rfl⟩ := Option.map_eq_some'.1 h
  have := List.find?_some he
  simp only [decide_eq_true_eq] at this
  exact this ▸ List.mem_of_find?_eq_some he

theorem mapGet_eq_some {m : List (Int × Int)} (hm : (m.map Prod.fst).Nodup) {k v : Int} :
    mapGet m k = some v ↔ (k, v) ∈ m := by
  constructor
  · exact mem_of_mapGet_eq_some
  · intro h
    cases hf : m.find? (·.1 = k) with
    | none => simpa using List.find?_eq_none.1 hf _ h
    | some e =>
      have hek : e.1 = k := by simpa using List.find?_some hf
      have := List.inj_on_of_nodup_map hm (List.mem_of_find?_eq_some hf) h hek
      simp [mapGet, hf, this]

theorem eq_of_mem_of_mem {m : List (Int × Int)} (hm : (m.map Prod.fst).Nodup) {k v v' : Int}
    (h : (k, v) ∈ m) (h' : (k, v') ∈ m) : v = v' :=
  Option.some.inj (((mapGet_eq_some hm).2 h).symm.trans ((mapGet_eq_some hm).2 h'))

theorem mem_mapRemove {m : List (Int × Int)} {k : Int} {e : Int × Int} :
    e ∈ mapRemove m k ↔ e ∈ m ∧ e.1 ≠ k := by
  simp [mapRemove]

theorem Nodup.mapRemove {m : List (Int × Int)} (hm : (m.map Prod.fst).Nodup) (k : Int) :
    ((mapRemove m k).map Prod.fst).Nodup :=
  hm.sublist ((List.filter_sublist m).map Prod.fst)

theorem Nodup.mapPut {m : List (Int × Int)} (hm : (m.map Prod.fst).Nodup) (k v : Int) :
    ((mapPut m k v).map Prod.fst).Nodup := by
  unfold Overlay.mapPut
  split_ifs with h
  · rw [List.map_map]
    convert hm using 2
    funext e
    simp only [Function.comp_apply]
    split_ifs with he <;> simp [he]
  · rw [List.map_append, List.map_singleton]
    exact List.nodup_append.2 ⟨hm, List.nodup_singleton k, by simpa using h⟩

theorem mem_of_mem_mapPut {m : List (Int × Int)} {k v : Int} {e : Int × Int} (he : e ∈ mapPut m k v) :
    e ∈ m ∨ e = (k, v) := by
  unfold mapPut at he
  split_ifs at he
  · obtain ⟨e', he', rfl⟩ := List.mem_map.1 he
    split_ifs
    exacts [.inr rfl, .inl he']
  · simpa using he

theorem mapPut_of_mapGet_eq_none {m : List (Int × Int)} {k : Int} (h : mapGet m k = none)
    (v : Int) : mapPut m k v = m ++ [(k, v)] := by
  rw [mapPut, if_neg]
  simpa using fun v hv => mapGet_eq_none.1 h (k, v) hv rfl

/-! ## The overlay -/

/-- The touch state of a `VirtualKeyboardOverlay`, and the key events it has sent. -/
structure VirtualKeyboardOverlay where
  /-- `pressedKeys`, in insertion order. -/
  pressedKeys : List Int
  /-- `activeStickyKeys`, in insertion order. -/
  activeStickyKeys : List Int
  /-- `pointerToKey`, from pointer id to key code. -/
  pointerToKey : List (Int × Int)
  /-- The calls `sendKeyEvent(keyCode, pressed)` made so far, oldest first. -/
  sent : List (Int × Bool)
  deriving DecidableEq, Repr

namespace VirtualKeyboardOverlay

/-- A new view: nothing pressed, nothing sent. -/
def initial : VirtualKeyboardOverlay := ⟨[], [], [], []⟩

/-- `sendKeyEvent(keyCode, pressed)`: the callback and `nativeSetKey` get the event. -/
def sendKeyEvent (kb : VirtualKeyboardOverlay) (keyCode : Int) (pressed : Bool) :
    VirtualKeyboardOverlay :=
  { kb with sent := kb.sent ++ [(keyCode, pressed)] }

@[simp] theorem sendKeyEvent_pressedKeys (kb : VirtualKeyboardOverlay) (k : Int) (b : Bool) :
    (sendKeyEvent kb k b).pressedKeys = kb.pressedKeys := rfl

@[simp] theorem sendKeyEvent_activeStickyKeys (kb : VirtualKeyboardOverlay) (k : Int) (b : Bool) :
    (sendKeyEvent kb k b).activeStickyKeys = kb.activeStickyKeys := rfl

@[simp] theorem sendKeyEvent_pointerToKey (kb : VirtualKeyboardOverlay) (k : Int) (b : Bool) :
    (sendKeyEvent kb k b).pointerToKey = kb.pointerToKey := rfl

@[simp] theorem sendKeyEvent_sent (kb : VirtualKeyboardOverlay) (k : Int) (b : Bool) :
    (sendKeyEvent kb k b).sent = kb.sent ++ [(k, b)] := rfl

/-- `handleKeyPress(keyCode, pointerId)` -/
def handleKeyPress (kb : VirtualKeyboardOverlay) (keyCode pointerId : Int) :
    VirtualKeyboardOverlay :=
  let kb := { kb with pointerToKey := mapPut kb.pointerToKey pointerId keyCode }
  if keyCode ∈ stickyKeys then
    if keyCode ∈ kb.activeStickyKeys then
      sendKeyEvent { kb with activeStickyKeys := kb.activeStickyKeys.erase keyCode } keyCode false
    else sendKeyEvent { kb with activeStickyKeys := setAdd kb.activeStickyKeys keyCode } keyCode true
  else sendKeyEvent { kb with pressedKeys := setAdd kb.pressedKeys keyCode } keyCode true

/-- The loops `for (k in keys) { set.remove(k); sendKeyEvent(k, false) }`, where `remove`
takes a key out of the set. -/
def releaseKeys (remove : VirtualKeyboardOverlay → Int → VirtualKeyboardOverlay)
    (kb : VirtualKeyboardOverlay) : List Int → VirtualKeyboardOverlay
  | [] => kb
  | k :: ks => releaseKeys remove (sendKeyEvent (remove kb k) k false) ks

/-- `for (stickyKey in activeStickyKeys.toList()) { activeStickyKeys.remove(stickyKey); ... }` -/
def releaseStickyKeys (kb : VirtualKeyboardOverlay) (ks : List Int) : VirtualKeyboardOverlay :=
  releaseKeys (fun kb k => { kb with activeStickyKeys := kb.activeStickyKeys.erase k }) kb ks

/-- `for (keyCode in pressedKeys.toList()) { pressedKeys.remove(keyCode); ... }` -/
def releasePressedKeys (kb : VirtualKeyboardOverlay) (ks : List Int) : VirtualKeyboardOverlay :=
  releaseKeys (fun kb k => { kb with pressedKeys := kb.pressedKeys.erase k }) kb ks

/-- `handleKeyRelease(keyCode, pointerId)`: releasing a regular key also turns every active
sticky key off. -/
def handleKeyRelease (kb : VirtualKeyboardOverlay) (keyCode pointerId : Int) :
    VirtualKeyboardOverlay :=
  let kb := { kb with pointerToKey := mapRemove kb.pointerToKey pointerId }
  if keyCode ∉ stickyKeys then
    let kb := sendKeyEvent { kb with pressedKeys := kb.pressedKeys.erase keyCode } keyCode false
    releaseStickyKeys kb kb.activeStickyKeys
  else kb

/-- The body of the `ACTION_MOVE` loop, for one pointer: a finger that slid to another key
releases the old one and presses the new one. -/
def movePointer (l : KeyLayout) (kb : VirtualKeyboardOverlay) (p : Pointer) :
    VirtualKeyboardOverlay :=
  let currentKey := mapGet kb.pointerToKey p.id
  let newKeyCode := (l.keyAt p.x p.y).map KeyRect.keyCode
  if currentKey ≠ newKeyCode then
    let kb := match currentKey with
      | some k => handleKeyRelease kb k p.id
      | none => kb
    match newKeyCode with
    | some k => handleKeyPress kb k p.id
    | none => kb
  else kb

/-- `onTouchEvent(event)`, with the value it returns. -/
def onTouchEvent (l : KeyLayout) (kb : VirtualKeyboardOverlay) (e : MotionEvent) :
    VirtualKeyboardOverlay × Bool :=
  match e.actionMasked with
  | .down | .pointerDown =>
    if e.actionPointer.y < l.keyboardTop then (kb, false)
    else
      match l.keyAt e.actionPointer.x e.actionPointer.y with
      | some r => (handleKeyPress kb r.keyCode e.actionPointer.id, true)
      | none => (kb, true)
  | .move => (e.pointers.foldl (movePointer l) kb, true)
  | .up | .pointerUp | .cancel =>
    match mapGet kb.pointerToKey e.actionPointer.id with
    | some k => (handleKeyRelease kb k e.actionPointer.id, true)
    | none => (kb, true)
  | .other => (kb, false)

/-- `clearAllKeys()` -/
def clearAllKeys (kb : VirtualKeyboardOverlay) : VirtualKeyboardOverlay :=
  let kb := releasePressedKeys kb kb.pressedKeys
  { releaseStickyKeys kb kb.activeStickyKeys with pointerToKey := [] }

/-- The overlay after a stream of touch events. -/
def run (l : KeyLayout) (kb : VirtualKeyboardOverlay) : List MotionEvent → VirtualKeyboardOverlay
  | [] => kb
  | e :: es => run l (onTouchEvent l kb e).1 es

/-! ## What each handler does -/

section Handlers

variable {kb : VirtualKeyboardOverlay} {k pid : Int}

@[simp] theorem handleKeyPress_pointerToKey :
    (handleKeyPress kb k pid).pointerToKey = mapPut kb.pointerToKey pid k := by
  unfold handleKeyPress; dsimp only; split_ifs <;> rfl

theorem handleKeyPress_pressedKeys : (handleKeyPress kb k pid).pressedKeys =
    if k ∈ stickyKeys then kb.pressedKeys else setAdd kb.pressedKeys k := by
  unfold handleKeyPress; dsimp only; split_ifs <;> rfl

theorem handleKeyPress_activeStickyKeys : (handleKeyPress kb k pid).activeStickyKeys =
    if k ∈ stickyKeys then
      (if k ∈ kb.activeStickyKeys then kb.activeStickyKeys.erase k else setAdd kb.activeStickyKeys k)
    else kb.activeStickyKeys := by
  unfold handleKeyPress; dsimp only; split_ifs <;> rfl

theorem handleKeyPress_sent : (handleKeyPress kb k pid).sent =
    kb.sent ++ [(k, decide (k ∉ stickyKeys ∨ k ∉ kb.activeStickyKeys))] := by
  unfold handleKeyPress; dsimp only; split_ifs <;> simp_all [sendKeyEvent]

/-- A property that each round of a release loop keeps holds after the loop. -/
theorem releaseKeys_induction (remove : VirtualKeyboardOverlay → Int → VirtualKeyboardOverlay)
    (P : VirtualKeyboardOverlay → Prop) (hP : ∀ kb k, P kb → P (sendKeyEvent (remove kb k) k false))
    {kb : VirtualKeyboardOverlay} (h : P kb) (ks : List Int) : P (releaseKeys remove kb ks) := by
  induction ks generalizing kb with
  | nil => exact h
  | cons k ks ih => exact ih (hP kb k h)

/-- After a release loop, the last event for each key of the loop is a release. -/
theorem lastSent_releaseKeys (remove : VirtualKeyboardOverlay → Int → VirtualKeyboardOverlay)
    (hr : ∀ kb k, (remove kb k).sent = kb.sent) (kb : VirtualKeyboardOverlay) (ks : List Int)
    (k : Int) : lastSent (releaseKeys remove kb ks).sent k =
      if k ∈ ks then some false else lastSent kb.sent k := by
  induction ks generalizing kb with
  | nil => simp [releaseKeys]
  | cons k' ks ih =>
    rw [releaseKeys, ih, sendKeyEvent_sent, hr, lastSent_append]
    by_cases e : k' = k
    · subst e; simp
    · have e' : k ≠ k' := fun h => e h.symm
      simp [e, e']

@[simp] theorem releaseStickyKeys_pointerToKey (kb : VirtualKeyboardOverlay) (ks : List Int) :
    (releaseStickyKeys kb ks).pointerToKey = kb.pointerToKey := by
  unfold releaseStickyKeys
  refine releaseKeys_induction _ (·.pointerToKey = kb.pointerToKey) ?_ rfl ks
  exact fun _ _ h => h

@[simp] theorem releaseStickyKeys_pressedKeys (kb : VirtualKeyboardOverlay) (ks : List Int) :
    (releaseStickyKeys kb ks).pressedKeys = kb.pressedKeys := by
  unfold releaseStickyKeys
  refine releaseKeys_induction _ (·.pressedKeys = kb.pressedKeys) ?_ rfl ks
  exact fun _ _ h => h

theorem mem_releaseStickyKeys (kb : VirtualKeyboardOverlay) (ks : List Int) {k : Int}
    (hk : k ∈ (releaseStickyKeys kb ks).activeStickyKeys) : k ∈ kb.activeStickyKeys := by
  unfold releaseStickyKeys at hk
  refine releaseKeys_induction _ (fun kb' => ∀ k ∈ kb'.activeStickyKeys, k ∈ kb.activeStickyKeys)
    ?_ (fun _ => id) ks k hk
  exact fun _ _ h k hk => h k (List.mem_of_mem_erase hk)

theorem lastSent_releaseStickyKeys (kb : VirtualKeyboardOverlay) (ks : List Int) (k : Int) :
    lastSent (releaseStickyKeys kb ks).sent k = if k ∈ ks then some false else lastSent kb.sent k := by
  unfold releaseStickyKeys
  exact lastSent_releaseKeys _ (by intros; rfl) kb ks k

@[simp] theorem handleKeyRelease_pointerToKey :
    (handleKeyRelease kb k pid).pointerToKey = mapRemove kb.pointerToKey pid := by
  by_cases hk : k ∈ stickyKeys <;> simp [handleKeyRelease, hk]

theorem handleKeyRelease_pressedKeys : (handleKeyRelease kb k pid).pressedKeys =
    if k ∈ stickyKeys then kb.pressedKeys else kb.pressedKeys.erase k := by
  by_cases hk : k ∈ stickyKeys <;> simp [handleKeyRelease, hk]

theorem mem_handleKeyRelease_activeStickyKeys {k' : Int}
    (h : k' ∈ (handleKeyRelease kb k pid).activeStickyKeys) : k' ∈ kb.activeStickyKeys := by
  by_cases hk : k ∈ stickyKeys
  · simpa [handleKeyRelease, hk] using h
  · simp only [handleKeyRelease, hk, not_false_eq_true, if_true] at h
    simpa using mem_releaseStickyKeys _ _ h

theorem lastSent_handleKeyRelease (hs : ∀ k ∈ kb.activeStickyKeys, k ∈ stickyKeys) {k' : Int}
    (hk' : k' ∉ stickyKeys) : lastSent (handleKeyRelease kb k pid).sent k' =
      if k ∉ stickyKeys ∧ k = k' then some false else lastSent kb.sent k' := by
  by_cases hk : k ∈ stickyKeys
  · simp [handleKeyRelease, hk]
  · simp only [handleKeyRelease, hk, not_false_eq_true, if_true, true_and]
    rw [lastSent_releaseStickyKeys, if_neg fun h => hk' (hs k' (by simpa using h))]
    simp

end Handlers

/-- Nothing is held: no finger is tracked, no key is pressed, and the last event sent for each
non-sticky key is a release. -/
structure Released (kb : VirtualKeyboardOverlay) : Prop where
  pointerToKey_eq : kb.pointerToKey = []
  pressedKeys_eq : kb.pressedKeys = []
  released : ∀ k, k ∉ stickyKeys → lastSent kb.sent k ≠ some true

/-- What one event does: nothing (and for the end of a touch, the pointer held no key), a
press by the event's pointer, the `ACTION_MOVE` loop, or the release of the key the event's
pointer holds. -/
theorem onTouchEvent_cases (l : KeyLayout) (kb : VirtualKeyboardOverlay) (e : MotionEvent) :
    ((kb.onTouchEvent l e).1 = kb ∧
      (e.actionMasked = .up ∨ e.actionMasked = .pointerUp ∨ e.actionMasked = .cancel →
        mapGet kb.pointerToKey e.actionPointer.id = none)) ∨
    ((e.actionMasked = .down ∨ e.actionMasked = .pointerDown) ∧
      ∃ r ∈ l.keyRects, (kb.onTouchEvent l e).1 = kb.handleKeyPress r.keyCode e.actionPointer.id) ∨
    (e.actionMasked = .move ∧ (kb.onTouchEvent l e).1 = e.pointers.foldl (movePointer l) kb) ∨
    ((e.actionMasked = .up ∨ e.actionMasked = .pointerUp ∨ e.actionMasked = .cancel) ∧
      ∃ k, mapGet kb.pointerToKey e.actionPointer.id = some k ∧
        (kb.onTouchEvent l e).1 = kb.handleKeyRelease k e.actionPointer.id) := by
  unfold onTouchEvent
  cases e.actionMasked
  case down | pointerDown =>
    dsimp only
    split_ifs
    · exact .inl ⟨rfl, by simp⟩
    · split
      · exact .inr (.inl ⟨by simp, _, List.mem_of_find?_eq_some ‹_›, rfl⟩)
      · exact .inl ⟨rfl, by simp⟩
  case move => exact .inr (.inr (.inl ⟨rfl, rfl⟩))
  case up | pointerUp | cancel =>
    dsimp only
    split
    · exact .inr (.inr (.inr ⟨by simp, _, ‹_›, rfl⟩))
    · exact .inl ⟨rfl, fun _ => ‹_›⟩
  case other => exact .inl ⟨rfl, by simp⟩

/-! ## Properties both handlers keep -/

section Induction

/- The handlers are called with a key of the layout, and release the key a finger holds. -/
variable (l : KeyLayout) (P : VirtualKeyboardOverlay → Prop)
  (hp : ∀ kb k pid, P kb → k ∈ l.keyRects.map KeyRect.keyCode → P (kb.handleKeyPress k pid))
  (hr : ∀ kb k pid, P kb → mapGet kb.pointerToKey pid = some k → P (kb.handleKeyRelease k pid))
include hp hr

theorem movePointer_induction {kb : VirtualKeyboardOverlay} (h : P kb) (p : Pointer) :
    P (kb.movePointer l p) := by
  unfold movePointer
  dsimp only
  split_ifs
  · have h' : P (match mapGet kb.pointerToKey p.id with
        | some k => kb.handleKeyRelease k p.id | none => kb) := by
      split
      exacts [hr _ _ _ h ‹_›, h]
    split
    · obtain ⟨r, hr', rfl⟩ := Option.map_eq_some'.1 ‹_›
      exact hp _ _ _ h' (List.mem_map_of_mem _ (List.mem_of_find?_eq_some hr'))
    · exact h'
  · exact h

theorem onTouchEvent_induction {kb : VirtualKeyboardOverlay} (h : P kb) (e : MotionEvent) :
    P (kb.onTouchEvent l e).1 := by
  rcases onTouchEvent_cases l kb e with ⟨h1, -⟩ | ⟨-, r, hr', h1⟩ | ⟨-, h1⟩ | ⟨-, k, hk, h1⟩ <;>
    rw [h1]
  · exact h
  · exact hp _ _ _ h (List.mem_map_of_mem _ hr')
  · exact List.foldlRecOn (motive := P) e.pointers _ kb h
      fun kb h p _ => movePointer_induction l P hp hr h p
  · exact hr _ _ _ h hk

/-- A property that both handlers keep holds after any input. -/
theorem run_induction {kb : VirtualKeyboardOverlay} (h : P kb) (es : List MotionEvent) :
    P (kb.run l es) := by
  induction es generalizing kb with
  | nil => exact h
  | cons e es ih => exact ih (onTouchEvent_induction l P hp hr h e)

end Induction

/-! ## What holds after any input -/

/-- The overlay's bookkeeping, which every handler keeps whatever input it gets: a finger
tracks one key, `pressedKeys` holds regular keys once each, `activeStickyKeys` sticky keys,
and a regular key is in `pressedKeys` exactly when the last event sent for it is a press. -/
structure Consistent (kb : VirtualKeyboardOverlay) : Prop where
  nodupKeys : (kb.pointerToKey.map Prod.fst).Nodup
  pressedNodup : kb.pressedKeys.Nodup
  pressedRegular : ∀ k ∈ kb.pressedKeys, k ∉ stickyKeys
  activeSticky : ∀ k ∈ kb.activeStickyKeys, k ∈ stickyKeys
  sentPressed : ∀ k, k ∉ stickyKeys → (lastSent kb.sent k = some true ↔ k ∈ kb.pressedKeys)

namespace Consistent

variable {kb : VirtualKeyboardOverlay}

theorem initial : VirtualKeyboardOverlay.initial.Consistent :=
  ⟨List.nodup_nil, List.nodup_nil, nofun, nofun,
    fun _ _ => by simp [VirtualKeyboardOverlay.initial, lastSent]⟩

theorem handleKeyPress (h : kb.Consistent) (k pid : Int) : (kb.handleKeyPress k pid).Consistent where
  nodupKeys := by simpa using Nodup.mapPut h.nodupKeys pid k
  pressedNodup := by
    rw [handleKeyPress_pressedKeys]
    split_ifs
    exacts [h.pressedNodup, Nodup.setAdd h.pressedNodup k]
  pressedRegular k' hk' := by
    rw [handleKeyPress_pressedKeys] at hk'
    split_ifs at hk' with hs
    · exact h.pressedRegular k' hk'
    · exact (mem_setAdd.1 hk').elim (h.pressedRegular k') (· ▸ hs)
  activeSticky k' hk' := by
    rw [handleKeyPress_activeStickyKeys] at hk'
    split_ifs at hk' with hs
    · exact h.activeSticky k' (List.mem_of_mem_erase hk')
    · exact (mem_setAdd.1 hk').elim (h.activeSticky k') (· ▸ hs)
    · exact h.activeSticky k' hk'
  sentPressed k' hk' := by
    rw [handleKeyPress_sent, lastSent_append, handleKeyPress_pressedKeys]
    by_cases e : k = k'
    · subst e
      simp [hk', mem_setAdd]
    · by_cases hs : k ∈ stickyKeys <;> simp [hs, e, mem_setAdd, Ne.symm e, h.sentPressed k' hk']

theorem handleKeyRelease (h : kb.Consistent) (k pid : Int) :
    (kb.handleKeyRelease k pid).Consistent where
  nodupKeys := by simpa using Nodup.mapRemove h.nodupKeys pid
  pressedNodup := by
    rw [handleKeyRelease_pressedKeys]
    split_ifs
    exacts [h.pressedNodup, h.pressedNodup.erase k]
  pressedRegular k' hk' := by
    rw [handleKeyRelease_pressedKeys] at hk'
    split_ifs at hk'
    exacts [h.pressedRegular k' hk', h.pressedRegular k' (List.mem_of_mem_erase hk')]
  activeSticky k' hk' := h.activeSticky k' (mem_handleKeyRelease_activeStickyKeys hk')
  sentPressed k' hk' := by
    rw [lastSent_handleKeyRelease h.activeSticky hk', handleKeyRelease_pressedKeys]
    by_cases e : k = k'
    · subst e
      simp [hk', h.pressedNodup.not_mem_erase]
    · by_cases hs : k ∈ stickyKeys <;> simp [hs, e, Ne.symm e, h.sentPressed k' hk']

theorem run (h : kb.Consistent) (l : KeyLayout) (es : List MotionEvent) : (kb.run l es).Consistent :=
  run_induction l Consistent (fun _ _ _ h _ => h.handleKeyPress _ _)
    (fun _ _ _ h _ => h.handleKeyRelease _ _) h es

end Consistent

theorem releasePressedKeys_pressedKeys (kb : VirtualKeyboardOverlay) (ks : List Int) :
    (kb.releasePressedKeys ks).pressedKeys = ks.foldl List.erase kb.pressedKeys := by
  induction ks generalizing kb with
  | nil => rfl
  | cons k ks ih => exact ih _

theorem releaseStickyKeys_activeStickyKeys (kb : VirtualKeyboardOverlay) (ks : List Int) :
    (kb.releaseStickyKeys ks).activeStickyKeys = ks.foldl List.erase kb.activeStickyKeys := by
  induction ks generalizing kb with
  | nil => rfl
  | cons k ks ih => exact ih _

theorem foldl_erase_self (l : List Int) : l.foldl List.erase l = [] := by
  induction l with
  | nil => rfl
  | cons k l ih => rw [List.foldl_cons, List.erase_cons_head, ih]

/-- Whatever input came before, `clearAllKeys` leaves nothing held. -/
theorem clearAllKeys_releases_all (l : KeyLayout) (es : List MotionEvent) :
    (initial.run l es).clearAllKeys.Released := by
  have h := Consistent.initial.run l es
  set kb := initial.run l es
  refine ⟨rfl, ?_, fun k hk => ?_⟩
  · simp [clearAllKeys, releasePressedKeys_pressedKeys, foldl_erase_self]
  · simp only [clearAllKeys, lastSent_releaseStickyKeys]
    unfold releasePressedKeys
    rw [lastSent_releaseKeys _ (by intros; rfl)]
    split_ifs with h1 h2 <;> simp [*, h.sentPressed k hk] 

/-! ## What a well-formed stream adds -/

/-- With `down` the fingers that are down: the bookkeeping holds, every entry of
`pointerToKey` is a finger that is down, and every pressed key is held by one. -/
structure Inv (down : List Int) (kb : VirtualKeyboardOverlay) extends kb.Consistent : Prop where
  tracked : ∀ e ∈ kb.pointerToKey, e.1 ∈ down
  held : ∀ k ∈ kb.pressedKeys, ∃ pid, (pid, k) ∈ kb.pointerToKey

namespace Inv

variable {down down' : List Int} {kb : VirtualKeyboardOverlay} {pid : Int}

theorem mono (h : Inv down kb) (hd : ∀ p ∈ down, p ∈ down') : Inv down' kb :=
  { h with tracked := fun e he => hd _ (h.tracked e he) }

theorem erase (h : Inv down kb) (hn : mapGet kb.pointerToKey pid = none) : Inv (down.erase pid) kb :=
  { h with
    tracked := fun e he => (List.mem_erase_of_ne (mapGet_eq_none.1 hn e he)).2 (h.tracked e he) }

theorem untracked (h : Inv down kb) (hp : pid ∉ down) : mapGet kb.pointerToKey pid = none :=
  mapGet_eq_none.2 fun e he hpid => hp (hpid ▸ h.tracked e he)

/-- A finger that is down and holds no key presses one. -/
theorem handleKeyPress (h : Inv down kb) (hp : pid ∈ down) (hn : mapGet kb.pointerToKey pid = none)
    (k : Int) : Inv down (kb.handleKeyPress k pid) where
  toConsistent := h.toConsistent.handleKeyPress k pid
  tracked e he := by
    rw [handleKeyPress_pointerToKey, mapPut_of_mapGet_eq_none hn, List.mem_append,
      List.mem_singleton] at he
    exact he.elim (h.tracked e) (· ▸ hp)
  held k' hk' := by
    rw [handleKeyPress_pointerToKey, mapPut_of_mapGet_eq_none hn]
    rw [handleKeyPress_pressedKeys] at hk'
    have hk'' : k' ∈ kb.pressedKeys ∨ k' = k := by split_ifs at hk'; exacts [.inl hk', mem_setAdd.1 hk']
    rcases hk'' with hk'' | rfl
    · obtain ⟨q, hq⟩ := h.held k' hk''
      exact ⟨q, List.mem_append_left _ hq⟩
    · exact ⟨pid, List.mem_append_right _ (List.mem_singleton_self _)⟩

/-- A finger releases the key it holds, and then holds none. -/
theorem handleKeyRelease (h : Inv down kb) {k : Int} (hk : mapGet kb.pointerToKey pid = some k) :
    Inv down (kb.handleKeyRelease k pid) ∧
      mapGet (kb.handleKeyRelease k pid).pointerToKey pid = none := by
  have hkm := (mapGet_eq_some h.nodupKeys).1 hk
  refine ⟨{ toConsistent := h.toConsistent.handleKeyRelease k pid, tracked := ?_, held := ?_ }, ?_⟩
  · intro e he
    rw [handleKeyRelease_pointerToKey, mem_mapRemove] at he
    exact h.tracked e he.1
  · intro k' hk'
    rw [handleKeyRelease_pressedKeys] at hk'
    -- the key is not the released one, so its finger is another one
    have hne : k' ≠ k ∧ k' ∈ kb.pressedKeys := by
      split_ifs at hk' with hs
      · exact ⟨fun e => h.pressedRegular k' hk' (e ▸ hs), hk'⟩
      · exact ⟨fun e => h.pressedNodup.not_mem_erase (e ▸ hk'), List.mem_of_mem_erase hk'⟩
    obtain ⟨q, hq⟩ := h.held k' hne.2
    refine ⟨q, ?_⟩
    rw [handleKeyRelease_pointerToKey, mem_mapRemove]
    exact ⟨hq, fun hqp : q = pid => hne.1 (eq_of_mem_of_mem h.nodupKeys (hqp ▸ hq) hkm)⟩
  · rw [handleKeyRelease_pointerToKey, mapGet_eq_none]
    exact fun e he => (mem_mapRemove.1 he).2

/-- One round of the `ACTION_MOVE` loop, for a finger that is down. -/
theorem movePointer (h : Inv down kb) (l : KeyLayout) {p : Pointer} (hp : p.id ∈ down) :
    Inv down (kb.movePointer l p) := by
  unfold VirtualKeyboardOverlay.movePointer
  dsimp only
  split_ifs
  · have h' : ∀ kb', Inv down kb' ∧ mapGet kb'.pointerToKey p.id = none →
        Inv down (match (l.keyAt p.x p.y).map KeyRect.keyCode with
          | some k => kb'.handleKeyPress k p.id | none => kb') := fun kb' ⟨h', hn⟩ => by
      split
      exacts [h'.handleKeyPress hp hn _, h']
    apply h'
    split
    exacts [h.handleKeyRelease ‹_›, ⟨h, ‹_›⟩]
  · exact h

/-- One event of a well-formed stream other than `ACTION_CANCEL`. -/
theorem onTouchEvent (h : Inv down kb) {e : MotionEvent} (hn : e.next? down = some down')
    (hc : e.actionMasked ≠ .cancel) (l : KeyLayout) : Inv down' (kb.onTouchEvent l e).1 := by
  rcases next?_eq_some hn with ⟨ha, hnew, -, rfl⟩ | ⟨ha, hall, rfl⟩ |
    ⟨ha, hin, rfl⟩ | ⟨ha, -⟩
  · -- a finger goes down
    have h' := h.mono fun _ => List.mem_cons_of_mem e.actionPointer.id
    rcases onTouchEvent_cases l kb e with ⟨h1, -⟩ | ⟨-, r, -, h1⟩ | ⟨ha', -⟩ | ⟨ha', -⟩
    · rw [h1]; exact h'
    · rw [h1]; exact h'.handleKeyPress (List.mem_cons_self _ _) (h.untracked hnew) r.keyCode
    all_goals rcases ha with ha | ha <;> simp [ha] at ha'
  · -- every finger may slide to another key
    rcases onTouchEvent_cases l kb e with ⟨h1, -⟩ | ⟨ha', -⟩ | ⟨-, h1⟩ | ⟨ha', -⟩
    · rw [h1]; exact h
    · rcases ha' with ha' | ha' <;> simp [ha] at ha'
    · rw [h1]
      exact List.foldlRecOn (motive := Inv _) e.pointers _ kb h
        fun kb h p hp => h.movePointer l (hall p hp)
    · rcases ha' with ha' | ha' | ha' <;> simp [ha] at ha'
  · -- a finger goes up
    rcases onTouchEvent_cases l kb e with ⟨h1, hnone⟩ | ⟨ha', -⟩ | ⟨ha', -⟩ | ⟨-, k, hk, h1⟩
    · rw [h1]; exact h.erase (hnone (ha.elim .inl (.inr ∘ .inl)))
    · rcases ha with ha | ha <;> rcases ha' with ha' | ha' <;> simp [ha] at ha'
    · rcases ha with ha | ha <;> simp [ha] at ha'
    · obtain ⟨h', hnone⟩ := h.handleKeyRelease hk
      rw [h1]; exact h'.erase hnone
  · exact absurd ha hc

theorem run (h : Inv down kb) (l : KeyLayout) {es : List MotionEvent}
    (hd : downAfter? down es = some down') (hc : NoCancel es) : Inv down' (kb.run l es) := by
  induction es generalizing down kb with
  | nil => exact Option.some.inj hd ▸ h
  | cons e es ih =>
    obtain ⟨d, hn, hd⟩ := Option.bind_eq_some.1 hd
    exact ih (h.onTouchEvent hn (hc e (List.mem_cons_self _ _)) l) hd
      fun e he => hc e (List.mem_cons_of_mem _ he)

/-- With no finger down, nothing is held. -/
theorem released (h : Inv [] kb) : kb.Released :=
  have hp : kb.pressedKeys = [] := List.eq_nil_iff_forall_not_mem.2 fun k hk =>
    (h.held k hk).elim fun _ hq => List.not_mem_nil _ (h.tracked _ hq)
  ⟨List.eq_nil_iff_forall_not_mem.2 fun e he => List.not_mem_nil _ (h.tracked e he), hp,
    fun k hk hs => List.not_mem_nil k (hp ▸ (h.sentPressed k hk).1 hs)⟩

end Inv

/-- For every layout and every well-formed stream without `ACTION_CANCEL`, when no finger is
down nothing is held. -/
theorem keyboard_releases_all_without_cancel (l : KeyLayout) (es : List MotionEvent)
    (hd : downAfter? [] es = some []) (hc : NoCancel es) : (initial.run l es).Released :=
  (Inv.run ⟨Consistent.initial, nofun, nofun⟩ l hd hc).released

/-- Two keys side by side. -/
def twoKeys : KeyLayout := ⟨[⟨⟨0, 0, 10, 10⟩, 0x20⟩, ⟨⟨10, 0, 20, 10⟩, 0x35⟩], 0⟩

/-- One finger on each key; the first lifts, then the second. -/
def twoFingerUp : List MotionEvent :=
  [⟨.down, 0, [⟨0, 5, 5⟩], by decide⟩,
   ⟨.pointerDown, 1, [⟨0, 5, 5⟩, ⟨1, 15, 5⟩], by decide⟩,
   ⟨.pointerUp, 0, [⟨0, 5, 5⟩, ⟨1, 15, 5⟩], by decide⟩,
   ⟨.up, 0, [⟨1, 15, 5⟩], by decide⟩]

theorem keyboard_releases_all_twoFingerUp : downAfter? [] twoFingerUp = some [] ∧
    NoCancel twoFingerUp ∧ (initial.run twoKeys twoFingerUp).Released :=
  ⟨by decide, by decide, keyboard_releases_all_without_cancel twoKeys twoFingerUp (by decide) (by decide)⟩

/-- One finger on each key; the system cancels the gesture. -/
def twoFingerCancel : List MotionEvent :=
  [⟨.down, 0, [⟨0, 5, 5⟩], by decide⟩,
   ⟨.pointerDown, 1, [⟨0, 5, 5⟩, ⟨1, 15, 5⟩], by decide⟩,
   ⟨.cancel, 0, [⟨0, 5, 5⟩, ⟨1, 15, 5⟩], by decide⟩]

/-- `ACTION_CANCEL` releases the first finger's key only: after the well-formed stream, no
finger is down, and the second key is still pressed, a press the last event sent for it. -/
theorem keyboard_cancel_leaves_key_held : downAfter? [] twoFingerCancel = some [] ∧
    (initial.run twoKeys twoFingerCancel).pointerToKey = [(1, 0x35)] ∧
    (initial.run twoKeys twoFingerCancel).pressedKeys = [0x35] ∧
    lastSent (initial.run twoKeys twoFingerCancel).sent 0x35 = some true := by
  decide

end VirtualKeyboardOverlay

end Overlay
