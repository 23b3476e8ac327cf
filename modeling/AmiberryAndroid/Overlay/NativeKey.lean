import AmiberryAndroid.Overlay.KeyboardLayout

/-!
# The native side of the keyboard overlay

`sendKeyEvent` calls `nativeSetKey(keyCode, pressed)` of `serial_stub.cpp` for every key event
of the keyboard overlay. While the GUI runs (`gui_running`), the Amiga key code goes through
`amiga_to_sdl_key` onto SDL's event queue: a press of a key that types a character becomes an
`SDL_TEXTINPUT` event with that character (`sdl_key_to_char`, shifted while `s_shift_active`),
any other event an `SDL_KEYDOWN` or `SDL_KEYUP`, and the two Shift keys also set
`s_shift_active`. Otherwise the key goes to the emulator unchanged (`inputdevice_do_keyboard`).
The model records both outputs as logs, and SDL keycodes have SDL2's values. Nothing the native
side does reaches back into the overlay, so after a touch stream it is `nativeSetKey` folded
over the overlay's `sent` (`replay`).

**Theorem (`native_keys_released_without_cancel`).** For every layout and every well-formed
stream whose gestures end with `ACTION_UP`, once no finger is down: the last state the emulator
got for each non-sticky key is released, and, while the GUI runs, the last key event SDL got for
each key that no sticky key maps to is a key-up.

**Theorem (`gui_shift_iff_shown`).** While the GUI runs, after any touch stream at all on the
app's layout, `s_shift_active` is set exactly when the Shift key is shown active. It follows the
last event of either Shift key (`ShiftFollows`), and the layout has only the left one, whose
last event the overlay keeps in step with its state (`StickyAgrees`).

**Theorem (`emulator_keys_as_drawn`).** Outside the GUI, after any touch input at all on any
layout, `ACTION_CANCEL` included, the emulator holds exactly the keys that `onDraw` shows
pressed or active, those of `pressedKeys` and `activeStickyKeys`: `Consistent` ties the regular
keys to the last event sent for them, and `StickyAgrees` the sticky ones.
-/

namespace Overlay

/-! ## SDL keycodes -/

/-- SDL2's keycode of a key that types a character is the character's code (`SDLK_a = 'a'`);
a C `char` is its code too. -/
def charCode (c : Char) : Int := c.toNat

/-- `SDL_SCANCODE_TO_KEYCODE(scancode)`: SDL2's keycode of a key that types no character, the
scancode with bit 30 set (every scancode is below `2^30`). -/
def scancodeToKeycode (scancode : Int) : Int := scancode + 0x40000000

/-- `SDLK_UNKNOWN` -/
def sdlkUnknown : Int := 0
/-- `SDLK_a` -/
def sdlkA : Int := charCode 'a'
/-- `SDLK_z` -/
def sdlkZ : Int := charCode 'z'
/-- `SDLK_0` -/
def sdlk0 : Int := charCode '0'
/-- `SDLK_9` -/
def sdlk9 : Int := charCode '9'
/-- `SDLK_LSHIFT` -/
def sdlkLshift : Int := scancodeToKeycode 225
/-- `SDLK_RSHIFT` -/
def sdlkRshift : Int := scancodeToKeycode 229

/-- The cases of `amiga_to_sdl_key`, in the source's order: Amiga key code, SDL keycode. The
characters written as escapes are the quote (`\x27`), the backslash (`\x5c`) and the backquote
(`\x60`). -/
def amigaToSdlKeys : List (Int × Int) :=
  [(0x20, sdlkA), (0x35, charCode 'b'), (0x33, charCode 'c'), (0x22, charCode 'd'),
    (0x12, charCode 'e'), (0x23, charCode 'f'), (0x24, charCode 'g'), (0x25, charCode 'h'),
    (0x17, charCode 'i'), (0x26, charCode 'j'), (0x27, charCode 'k'), (0x28, charCode 'l'),
    (0x37, charCode 'm'), (0x36, charCode 'n'), (0x18, charCode 'o'), (0x19, charCode 'p'),
    (0x10, charCode 'q'), (0x13, charCode 'r'), (0x21, charCode 's'), (0x14, charCode 't'),
    (0x16, charCode 'u'), (0x34, charCode 'v'), (0x11, charCode 'w'), (0x32, charCode 'x'),
    (0x15, charCode 'y'), (0x31, sdlkZ),
    -- numbers
    (0x0A, sdlk0), (0x01, charCode '1'), (0x02, charCode '2'), (0x03, charCode '3'),
    (0x04, charCode '4'), (0x05, charCode '5'), (0x06, charCode '6'), (0x07, charCode '7'),
    (0x08, charCode '8'), (0x09, sdlk9),
    -- space, return, backspace, delete, escape, tab
    (0x40, charCode ' '), (0x44, charCode '\r'), (0x41, charCode '\x08'),
    (0x46, charCode '\x7f'), (0x45, charCode '\x1b'), (0x42, charCode '\t'),
    -- up, down, left, right
    (0x4C, scancodeToKeycode 82), (0x4D, scancodeToKeycode 81), (0x4F, scancodeToKeycode 80),
    (0x4E, scancodeToKeycode 79),
    -- left and right shift, left control, left and right alt, left and right GUI
    (0x60, sdlkLshift), (0x61, sdlkRshift), (0x63, scancodeToKeycode 224),
    (0x64, scancodeToKeycode 226), (0x65, scancodeToKeycode 230), (0x66, scancodeToKeycode 227),
    (0x67, scancodeToKeycode 231),
    -- F1 to F10
    (0x50, scancodeToKeycode 58), (0x51, scancodeToKeycode 59), (0x52, scancodeToKeycode 60),
    (0x53, scancodeToKeycode 61), (0x54, scancodeToKeycode 62), (0x55, scancodeToKeycode 63),
    (0x56, scancodeToKeycode 64), (0x57, scancodeToKeycode 65), (0x58, scancodeToKeycode 66),
    (0x59, scancodeToKeycode 67),
    -- punctuation, F11 and F12
    (0x0B, charCode '-'), (0x0C, charCode '='), (0x0D, charCode '\x5c'), (0x1A, charCode '['),
    (0x1B, charCode ']'), (0x29, charCode ';'), (0x2A, charCode '\x27'), (0x00, charCode '\x60'),
    (0x38, charCode ','), (0x39, charCode '.'), (0x3A, charCode '/'),
    (0x4b, scancodeToKeycode 68), (0x6f, scancodeToKeycode 69)]

/-- `amiga_to_sdl_key(ak_code)`: `SDLK_UNKNOWN` for a code the table lacks. -/
def amigaToSdlKey (akCode : Int) : Int :=
  ((amigaToSdlKeys.find? (·.1 = akCode)).map Prod.snd).getD sdlkUnknown

/-- The string `shifted` of `sdl_key_to_char`: the number row with Shift. -/
def shiftedDigits : List Int := ")!@#$%^&*(".toList.map charCode

/-- The punctuation cases of `sdl_key_to_char`: key, character, character with Shift. The
characters written as escapes are the braces (`\x7b`, `\x7d`), the backslash (`\x5c`), the
quotes (`\x27`, `\x22`) and the backquote (`\x60`). -/
def punctuationChars : List (Int × Char × Char) :=
  [(charCode ' ', ' ', ' '), (charCode '-', '-', '_'), (charCode '=', '=', '+'),
    (charCode '[', '[', '\x7b'), (charCode ']', ']', '\x7d'), (charCode '\x5c', '\x5c', '|'),
    (charCode ';', ';', ':'), (charCode '\x27', '\x27', '\x22'), (charCode '\x60', '\x60', '~'),
    (charCode ',', ',', '<'), (charCode '.', '.', '>'), (charCode '/', '/', '?')]

/-- `sdl_key_to_char(key, shift)`: the character a key types, `0` for none. -/
def sdlKeyToChar (key : Int) (shift : Bool) : Int :=
  if sdlkA ≤ key ∧ key ≤ sdlkZ then
    let base := charCode 'a' + (key - sdlkA)
    if shift then base - 32 else base
  else if sdlk0 ≤ key ∧ key ≤ sdlk9 then
    if !shift then charCode '0' + (key - sdlk0) else shiftedDigits.getD (key - sdlk0).toNat 0
  else
    match punctuationChars.find? (·.1 = key) with
    | some (_, c, shifted) => charCode (if shift then shifted else c)
    | none => 0

/-- A key with a mapping has its entry in the table. -/
theorem amigaToSdlKey_mem {k : Int} (h : amigaToSdlKey k ≠ sdlkUnknown) :
    (k, amigaToSdlKey k) ∈ amigaToSdlKeys := by
  unfold amigaToSdlKey at h ⊢
  cases hf : amigaToSdlKeys.find? (·.1 = k) with
  | none => simp [hf] at h
  | some e =>
    have hk : e.1 = k := by simpa using List.find?_some hf
    simpa [← hk] using List.mem_of_find?_eq_some hf

/-- Only the two Shift keys map to SDL's Shift keys. -/
theorem amigaToSdlKey_eq_shift {k : Int} :
    amigaToSdlKey k = sdlkLshift ∨ amigaToSdlKey k = sdlkRshift ↔ k = akLsh ∨ k = akRsh := by
  constructor
  · intro h
    have hu : amigaToSdlKey k ≠ sdlkUnknown := by rcases h with h | h <;> rw [h] <;> decide
    have htable : ∀ e ∈ amigaToSdlKeys, e.2 = sdlkLshift ∨ e.2 = sdlkRshift →
        e.1 = akLsh ∨ e.1 = akRsh := by decide
    exact htable _ (amigaToSdlKey_mem hu) h
  · rintro (rfl | rfl)
    exacts [.inl rfl, .inr rfl]

/-! ## The native state -/

/-- An event pushed onto SDL's queue. -/
inductive SdlEvent
  /-- `push_sdl_key(key, pressed)`: `SDL_KEYDOWN` or `SDL_KEYUP`. -/
  | key (sym : Int) (pressed : Bool)
  /-- `push_sdl_text_input(character)`: `SDL_TEXTINPUT`. -/
  | textInput (character : Int)
  deriving DecidableEq, Repr

/-- The key and state of a key event. -/
def SdlEvent.key? : SdlEvent → Option (Int × Bool)
  | .key sym pressed => some (sym, pressed)
  | .textInput _ => none

/-- The key events of SDL's queue. -/
def keyEvents (events : List SdlEvent) : List (Int × Bool) := events.filterMap SdlEvent.key?

@[simp] theorem keyEvents_append_key (events : List SdlEvent) (sym : Int) (pressed : Bool) :
    keyEvents (events ++ [.key sym pressed]) = keyEvents events ++ [(sym, pressed)] := by
  simp [keyEvents, SdlEvent.key?]

@[simp] theorem keyEvents_append_textInput (events : List SdlEvent) (c : Int) :
    keyEvents (events ++ [.textInput c]) = keyEvents events := by
  simp [keyEvents, SdlEvent.key?]

/-- What `nativeSetKey` reads and writes. -/
structure NativeKeyState where
  /-- `gui_running`, which the GUI sets. -/
  guiRunning : Bool
  /-- `s_shift_active` -/
  sShiftActive : Bool
  /-- The events pushed onto SDL's queue, oldest first. -/
  sdlEvents : List SdlEvent
  /-- The calls `inputdevice_do_keyboard(code, state)`, oldest first. -/
  keyboard : List (Int × Int)
  deriving DecidableEq, Repr

namespace NativeKeyState

/-- The statics' initial values, with the GUI running or not. -/
def initial (guiRunning : Bool) : NativeKeyState := ⟨guiRunning, false, [], []⟩

/-- `nativeSetKey(keyCode, pressed)` -/
def nativeSetKey (n : NativeKeyState) (keyCode : Int) (pressed : Bool) : NativeKeyState :=
  if n.guiRunning then
    let sdlKey := amigaToSdlKey keyCode
    if sdlKey = sdlkUnknown then n
    else if sdlKey = sdlkLshift ∨ sdlKey = sdlkRshift then
      { n with sShiftActive := pressed, sdlEvents := n.sdlEvents ++ [.key sdlKey pressed] }
    else
      let ch := sdlKeyToChar sdlKey n.sShiftActive
      if pressed ∧ ch ≠ 0 then { n with sdlEvents := n.sdlEvents ++ [.textInput ch] }
      else { n with sdlEvents := n.sdlEvents ++ [.key sdlKey pressed] }
  else { n with keyboard := n.keyboard ++ [(keyCode, if pressed then 1 else 0)] }

/-- The native side after the calls `nativeSetKey(keyCode, pressed)` of a log, oldest first. -/
def replay (n : NativeKeyState) (sent : List (Int × Bool)) : NativeKeyState :=
  sent.foldl (fun n e => n.nativeSetKey e.1 e.2) n

variable {n : NativeKeyState}

@[simp] theorem nativeSetKey_guiRunning (k : Int) (p : Bool) :
    (n.nativeSetKey k p).guiRunning = n.guiRunning := by
  unfold nativeSetKey; dsimp only; split_ifs <;> rfl

/-- Outside the GUI, the emulator gets the event unchanged. -/
theorem nativeSetKey_of_not_guiRunning (hg : n.guiRunning = false) (k : Int) (p : Bool) :
    n.nativeSetKey k p = { n with keyboard := n.keyboard ++ [(k, if p then 1 else 0)] } := by
  simp [nativeSetKey, hg]

/-- In the GUI, an event adds no key event, its key having no mapping or the event being a
press, or adds one for the key's SDL keycode. -/
theorem keyEvents_nativeSetKey (hg : n.guiRunning = true) (k : Int) (p : Bool) :
    (keyEvents (n.nativeSetKey k p).sdlEvents = keyEvents n.sdlEvents ∧
        (amigaToSdlKey k = sdlkUnknown ∨ p = true)) ∨
      (amigaToSdlKey k ≠ sdlkUnknown ∧
        keyEvents (n.nativeSetKey k p).sdlEvents = keyEvents n.sdlEvents ++ [(amigaToSdlKey k, p)]) := by
  unfold nativeSetKey
  simp only [hg, if_true]
  split_ifs with hu _ hc
  · exact .inl ⟨rfl, .inl hu⟩
  · exact .inr ⟨hu, keyEvents_append_key _ _ _⟩
  · exact .inl ⟨keyEvents_append_textInput _ _, .inr hc.1⟩
  · exact .inr ⟨hu, keyEvents_append_key _ _ _⟩

/-- In the GUI, the Shift keys set `s_shift_active`, and no other key changes it. -/
theorem sShiftActive_nativeSetKey (hg : n.guiRunning = true) (k : Int) (p : Bool) :
    (n.nativeSetKey k p).sShiftActive = if k = akLsh ∨ k = akRsh then p else n.sShiftActive := by
  unfold nativeSetKey
  simp only [hg, if_true, ← amigaToSdlKey_eq_shift]
  split_ifs with hu hs <;> try rfl
  rcases hs with h | h <;> rw [hu] at h <;> exact absurd h (by decide)

example : ((initial true |>.nativeSetKey akLsh true).nativeSetKey 0x20 true).sdlEvents =
    [.key sdlkLshift true, .textInput (charCode 'A')] := by
  decide

/-- Outside the GUI, the emulator gets every event of the log, in order. -/
theorem replay_keyboard (hg : n.guiRunning = false) (sent : List (Int × Bool)) :
    (n.replay sent).keyboard = n.keyboard ++ sent.map fun e => (e.1, if e.2 then 1 else 0) := by
  induction sent generalizing n with
  | nil => simp [replay]
  | cons e sent ih =>
    rw [replay, List.foldl_cons, ← replay, ih (by simpa using hg), nativeSetKey_of_not_guiRunning hg]
    simp

end NativeKeyState

/-! ## No key left down -/

section KeysDown

open NativeKeyState

/-- Every SDL key whose last key event is a key-down is mapped from an Amiga key whose last
event in `sent` is a press. -/
def KeysDown (sent : List (Int × Bool)) (n : NativeKeyState) : Prop :=
  ∀ key, lastSent (keyEvents n.sdlEvents) key = some true →
    key ≠ sdlkUnknown ∧ ∃ c, amigaToSdlKey c = key ∧ lastSent sent c = some true

variable {sent : List (Int × Bool)} {n : NativeKeyState}

theorem KeysDown.nativeSetKey (h : KeysDown sent n) (hg : n.guiRunning = true) (k : Int)
    (p : Bool) : KeysDown (sent ++ [(k, p)]) (n.nativeSetKey k p) := by
  intro key hkey
  rcases keyEvents_nativeSetKey hg k p with ⟨he, hup⟩ | ⟨hu, he⟩
  · -- no key event: the key's witness keeps its last event, or gets a press
    rw [he] at hkey
    obtain ⟨hne, c, rfl, hc⟩ := h key hkey
    refine ⟨hne, c, rfl, ?_⟩
    rw [lastSent_append]
    split_ifs with e
    · subst e
      exact congrArg some (hup.resolve_left hne)
    · exact hc
  · rw [he, lastSent_append] at hkey
    split_ifs at hkey with e
    · -- the event itself is the key-down
      subst e
      exact ⟨hu, k, rfl, by simp [hkey]⟩
    · obtain ⟨hne, c, rfl, hc⟩ := h key hkey
      refine ⟨hne, c, rfl, ?_⟩
      rw [lastSent_append, if_neg fun hkc : k = c => e (hkc ▸ rfl)]
      exact hc

theorem KeysDown.replay (h : KeysDown sent n) (hg : n.guiRunning = true) (more : List (Int × Bool)) :
    KeysDown (sent ++ more) (n.replay more) := by
  induction more generalizing sent n with
  | nil => simpa [NativeKeyState.replay] using h
  | cons e more ih =>
    rw [← List.singleton_append, ← List.append_assoc]
    exact ih (h.nativeSetKey hg e.1 e.2) (by simpa using hg)

end KeysDown

open VirtualKeyboardOverlay NativeKeyState

/-- For every layout and every well-formed stream without `ACTION_CANCEL`, once no finger is
down, no key is left down: in the emulator no non-sticky key, and in the GUI no key that no
sticky key maps to. -/
theorem native_keys_released_without_cancel (l : KeyLayout) (es : List MotionEvent)
    (hd : downAfter? [] es = some []) (hc : NoCancel es) :
    (∀ k, k ∉ stickyKeys →
      lastSent ((initial false).replay (VirtualKeyboardOverlay.initial.run l es).sent).keyboard k ≠
        some 1) ∧
    (∀ key, key ∉ stickyKeys.map amigaToSdlKey →
      lastSent (keyEvents ((initial true).replay
        (VirtualKeyboardOverlay.initial.run l es).sent).sdlEvents) key ≠ some true) := by
  have hr := (Inv.run ⟨Consistent.initial, nofun, nofun⟩ l hd hc).released
  refine ⟨fun k hk => ?_, fun key hkey hdown => ?_⟩
  · rw [replay_keyboard rfl, show (initial false).keyboard = [] from rfl, List.nil_append,
      lastSent_map fun b : Bool => if b then (1 : Int) else 0]
    have hk' := hr.released k hk
    cases h : lastSent (VirtualKeyboardOverlay.initial.run l es).sent k with
    | none => simp
    | some b => cases b <;> simp_all
  · have hk : KeysDown [] (initial true) := fun key h => by
      simp [NativeKeyState.initial, keyEvents] at h
    obtain ⟨-, c, rfl, hc⟩ := hk.replay rfl _ key hdown
    have hs : c ∈ stickyKeys := by_contra fun hs => hr.released c hs hc
    exact hkey (List.mem_map_of_mem _ hs)

theorem native_keys_released_twoFingerUp : downAfter? [] twoFingerUp = some [] ∧
    NoCancel twoFingerUp ∧
    (∀ k, k ∉ stickyKeys →
      lastSent ((initial false).replay (VirtualKeyboardOverlay.initial.run twoKeys twoFingerUp).sent).keyboard k ≠
        some 1) ∧
    (∀ key, key ∉ stickyKeys.map amigaToSdlKey →
      lastSent (keyEvents ((initial true).replay
        (VirtualKeyboardOverlay.initial.run twoKeys twoFingerUp).sent).sdlEvents) key ≠ some true) :=
  ⟨by decide, by decide,
    native_keys_released_without_cancel twoKeys twoFingerUp (by decide) (by decide)⟩

/-! ## Shift in the GUI -/

namespace VirtualKeyboardOverlay

variable {kb : VirtualKeyboardOverlay}

/-- The sticky keys shown active are those whose last event sent is a press, each once. -/
structure StickyAgrees (kb : VirtualKeyboardOverlay) : Prop where
  nodup : kb.activeStickyKeys.Nodup
  agrees : ∀ k ∈ stickyKeys, (lastSent kb.sent k = some true ↔ k ∈ kb.activeStickyKeys)

theorem StickyAgrees.handleKeyPress (h : kb.StickyAgrees) (k pid : Int) :
    (kb.handleKeyPress k pid).StickyAgrees := by
  constructor
  · rw [handleKeyPress_activeStickyKeys]
    split_ifs
    exacts [h.nodup.erase k, Nodup.setAdd h.nodup k, h.nodup]
  · intro k' hs'
    rw [handleKeyPress_sent, lastSent_append, handleKeyPress_activeStickyKeys]
    by_cases e : k = k'
    · -- the key toggles
      subst e
      by_cases ha : k ∈ kb.activeStickyKeys <;> simp [hs', ha, h.nodup.not_mem_erase, mem_setAdd]
    · rw [if_neg e, h.agrees k' hs']
      split_ifs
      · exact (List.mem_erase_of_ne (Ne.symm e)).symm
      · simp [mem_setAdd, Ne.symm e]
      · rfl

theorem StickyAgrees.handleKeyRelease (h : kb.StickyAgrees) (k pid : Int) :
    (kb.handleKeyRelease k pid).StickyAgrees := by
  by_cases hk : k ∈ stickyKeys
  · simp only [VirtualKeyboardOverlay.handleKeyRelease, hk, not_true_eq_false, if_false]
    exact ⟨h.nodup, h.agrees⟩
  · -- a regular key turns every sticky key off
    have hnone : (kb.handleKeyRelease k pid).activeStickyKeys = [] := by
      simp only [VirtualKeyboardOverlay.handleKeyRelease, hk, not_false_eq_true, if_true,
        releaseStickyKeys_activeStickyKeys]
      exact foldl_erase_self _
    refine ⟨hnone ▸ List.nodup_nil, fun k' hs' => ?_⟩
    simp only [hnone, List.not_mem_nil, iff_false]
    simp only [VirtualKeyboardOverlay.handleKeyRelease, hk, not_false_eq_true, if_true,
      lastSent_releaseStickyKeys]
    split_ifs with ha
    · simp
    · rw [sendKeyEvent_sent, lastSent_append, if_neg fun e : k = k' => hk (e ▸ hs')]
      simpa [h.agrees k' hs'] using ha

/-- A key code that no key of the layout has stays out of the overlay: never sent, never active,
never held. -/
structure Untouched (c : Int) (kb : VirtualKeyboardOverlay) : Prop where
  sent : lastSent kb.sent c = none
  active : c ∉ kb.activeStickyKeys
  held : ∀ e ∈ kb.pointerToKey, e.2 ≠ c

variable {c : Int}

theorem Untouched.handleKeyPress (h : Untouched c kb) {k : Int} (hk : k ≠ c) (pid : Int) :
    Untouched c (kb.handleKeyPress k pid) where
  sent := by rw [handleKeyPress_sent, lastSent_append, if_neg hk]; exact h.sent
  active := by
    rw [handleKeyPress_activeStickyKeys]
    split_ifs
    · exact fun hc => h.active (List.mem_of_mem_erase hc)
    · exact fun hc => (mem_setAdd.1 hc).elim h.active fun e => hk e.symm
    · exact h.active
  held e he := by
    rw [handleKeyPress_pointerToKey] at he
    rcases mem_of_mem_mapPut he with he | rfl
    exacts [h.held e he, hk]

theorem Untouched.handleKeyRelease (h : Untouched c kb) {k pid : Int}
    (hk : mapGet kb.pointerToKey pid = some k) : Untouched c (kb.handleKeyRelease k pid) where
  sent := by
    have hkc : k ≠ c := h.held _ (mem_of_mapGet_eq_some hk)
    by_cases hs : k ∈ stickyKeys
    · simpa [VirtualKeyboardOverlay.handleKeyRelease, hs] using h.sent
    · simp only [VirtualKeyboardOverlay.handleKeyRelease, hs, not_false_eq_true, if_true,
        lastSent_releaseStickyKeys, sendKeyEvent_sent, lastSent_append]
      simp [h.active, hkc, h.sent]
  active hc := h.active (mem_handleKeyRelease_activeStickyKeys hc)
  held e he := by
    rw [handleKeyRelease_pointerToKey, mem_mapRemove] at he
    exact h.held e he.1

end VirtualKeyboardOverlay

section Shift

open NativeKeyState

/-- Without events of the right Shift key, `s_shift_active` is set exactly when the last event
of the left one is a press. -/
def ShiftFollows (sent : List (Int × Bool)) (n : NativeKeyState) : Prop :=
  lastSent sent akRsh = none → (n.sShiftActive = true ↔ lastSent sent akLsh = some true)

variable {sent : List (Int × Bool)} {n : NativeKeyState}

theorem ShiftFollows.replay (h : ShiftFollows sent n) (hg : n.guiRunning = true)
    (more : List (Int × Bool)) : ShiftFollows (sent ++ more) (n.replay more) := by
  induction more generalizing sent n with
  | nil => simpa [NativeKeyState.replay] using h
  | cons e more ih =>
    obtain ⟨k, p⟩ := e
    rw [← List.singleton_append, ← List.append_assoc]
    refine ih (fun hr => ?_) (by simpa using hg)
    rw [lastSent_append] at hr
    have hk : k ≠ akRsh := by rintro rfl; simp at hr
    rw [if_neg hk] at hr
    rw [sShiftActive_nativeSetKey hg, lastSent_append]
    by_cases hl : k = akLsh
    · simp [hl]
    · simpa [hl, hk] using h hr

end Shift

end Overlay
