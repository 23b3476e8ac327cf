import AmiberryAndroid.Overlay.Native
import AmiberryAndroid.Overlay.NativeKey

/-!
# The JNI boundary and SDL's event queue

Both overlays call into `serial_stub.cpp`: the joystick through `nativeSetJoystick`,
`nativeSetButton` and `nativeSetOverlayState`, the keyboard through `nativeSetKey`. Besides the
statics and the device calls (`Overlay.Native`), the joystick's functions push key events onto
SDL's queue for GUI navigation (`push_sdl_key`): the cursor keys follow the d-pad, Return follows
fire button A and Escape button B. The keyboard's `nativeSetKey` pushes onto the same queue
while the GUI runs (`Overlay.NativeKey`).

**The process** (`NativeProcess`). The statics of both overlays, with SDL's queue kept in the
keyboard's part. `NativeProcess.call` runs one JNI call, and `replay` runs a sequence of them, in
whatever order the two overlays make them.

**What a call pushes** (`PushesChanges`). Each of the joystick's functions pushes an event for a
navigation key exactly when it changes the key's static, and the event carries the new value.

**Theorem (`nav_keys_follow_flags`).** For every sequence of JNI calls in which the keyboard
sends SDL no navigation key, the events of each navigation key on SDL's queue alternate between
press and release, starting with a press: SDL never gets a navigation key pressed twice or
released twice in a row. And SDL holds the key (its last event is a press) exactly while its
static is set.

The condition on the keyboard is needed: the keyboard's cursor keys, Return and Escape map to
the same SDL keys. While the GUI runs, a keyboard Up pressed and released while the d-pad holds
up leaves SDL's Up released under a set `s_dpad_up` (the example after the theorem).
-/

namespace Overlay

/-! ## The navigation keys -/

/-- `SDLK_RETURN` -/
def sdlkReturn : Int := charCode '\r'
/-- `SDLK_ESCAPE` -/
def sdlkEscape : Int := charCode '\x1b'
/-- `SDLK_RIGHT` -/
def sdlkRight : Int := scancodeToKeycode 79
/-- `SDLK_LEFT` -/
def sdlkLeft : Int := scancodeToKeycode 80
/-- `SDLK_DOWN` -/
def sdlkDown : Int := scancodeToKeycode 81
/-- `SDLK_UP` -/
def sdlkUp : Int := scancodeToKeycode 82

/-- The keys the joystick presses on SDL's queue: the four directions, and the keys of fire
buttons A and B. -/
inductive NavKey
  | up | down | left | right | buttonA | buttonB
  deriving DecidableEq, Repr

namespace NavKey

/-- The key's SDL keycode. -/
def sym : NavKey → Int
  | up => sdlkUp
  | down => sdlkDown
  | left => sdlkLeft
  | right => sdlkRight
  | buttonA => sdlkReturn
  | buttonB => sdlkEscape

/-- The static that holds the key down. -/
def flag : NavKey → NativeState → Bool
  | up, n => n.sDpad.up
  | down, n => n.sDpad.down
  | left, n => n.sDpad.left
  | right, n => n.sDpad.right
  | buttonA, n => n.sButtonA
  | buttonB, n => n.sButtonB

/-- The keycodes of the navigation keys. -/
def syms : List Int := [sdlkUp, sdlkDown, sdlkLeft, sdlkRight, sdlkReturn, sdlkEscape]

theorem sym_mem_syms (k : NavKey) : k.sym ∈ syms := by
  cases k <;> simp [sym, syms]

@[simp] theorem sym_inj {a b : NavKey} : a.sym = b.sym ↔ a = b := by
  constructor
  · cases a <;> cases b <;> decide
  · exact congrArg sym

/-! The keycodes the joystick's functions push, as the keys' `sym`. -/

theorem sdlkUp_eq_sym : sdlkUp = up.sym := rfl
theorem sdlkDown_eq_sym : sdlkDown = down.sym := rfl
theorem sdlkLeft_eq_sym : sdlkLeft = left.sym := rfl
theorem sdlkRight_eq_sym : sdlkRight = right.sym := rfl
theorem sdlkReturn_eq_sym : sdlkReturn = buttonA.sym := rfl
theorem sdlkEscape_eq_sym : sdlkEscape = buttonB.sym := rfl

end NavKey

/-! ## What the joystick pushes -/

/-- `if (flag != s_flag) { s_flag = flag; push_sdl_key(key, flag); }`: the key event pushed when
a static goes from `old` to `new`. -/
def pushOnChange (key : Int) (old new : Bool) : List SdlEvent :=
  if new ≠ old then [.key key new] else []

/-- `if (s_flag) { s_flag = false; push_sdl_key(key, false); }` -/
def releaseIfSet (key : Int) (flag : Bool) : List SdlEvent :=
  if flag then [.key key false] else []

namespace NativeState

/-- The key events `nativeSetJoystick(up, down, left, right)` pushes, in the code's order. -/
def nativeSetJoystickEvents (n : NativeState) (d : Dpad) : List SdlEvent :=
  pushOnChange sdlkUp n.sDpad.up d.up ++ pushOnChange sdlkDown n.sDpad.down d.down ++
    pushOnChange sdlkLeft n.sDpad.left d.left ++ pushOnChange sdlkRight n.sDpad.right d.right

/-- The key events `nativeSetButton(button, pressed)` pushes: Return for button 0, Escape for
button 1. -/
def nativeSetButtonEvents (n : NativeState) (button : Int) (pressed : Bool) : List SdlEvent :=
  if button = 0 then pushOnChange sdlkReturn n.sButtonA pressed
  else if button = 1 then pushOnChange sdlkEscape n.sButtonB pressed
  else []

/-- The key events `nativeSetOverlayState(state)` pushes: leaving `OVERLAY_JOYSTICK`, a key-up
for each static that is set. -/
def nativeSetOverlayStateEvents (n : NativeState) (state : Int) : List SdlEvent :=
  if state ≠ overlayJoystick ∧ n.sOverlayState = overlayJoystick then
    releaseIfSet sdlkUp n.sDpad.up ++ releaseIfSet sdlkDown n.sDpad.down ++
      releaseIfSet sdlkLeft n.sDpad.left ++ releaseIfSet sdlkRight n.sDpad.right ++
      releaseIfSet sdlkReturn n.sButtonA ++ releaseIfSet sdlkEscape n.sButtonB
  else []

end NativeState

/-! ## The process -/

/-- A call of a native method of the overlays. -/
inductive JniCall
  /-- `VirtualJoystickOverlay.nativeSetJoystick(up, down, left, right)` -/
  | setJoystick (d : Dpad)
  /-- `VirtualJoystickOverlay.nativeSetButton(button, pressed)` -/
  | setButton (button : Int) (pressed : Bool)
  /-- `VirtualJoystickOverlay.nativeSetOverlayState(state)` -/
  | setOverlayState (state : Int)
  /-- `VirtualKeyboardOverlay.nativeSetKey(keyCode, pressed)` -/
  | setKey (keyCode : Int) (pressed : Bool)
  deriving DecidableEq, Repr

/-- The statics of `serial_stub.cpp` for both overlays; SDL's queue is in `keyboard`. -/
structure NativeProcess where
  joystick : NativeState
  keyboard : NativeKeyState
  deriving DecidableEq, Repr

namespace NativeProcess

/-- A fresh process, with the GUI running or not. -/
def initial (guiRunning : Bool) : NativeProcess := ⟨.initial, .initial guiRunning⟩

/-- SDL's queue with `events` pushed. -/
def push (p : NativeProcess) (events : List SdlEvent) : NativeKeyState :=
  { p.keyboard with sdlEvents := p.keyboard.sdlEvents ++ events }

/-- One JNI call. -/
def call (p : NativeProcess) : JniCall → NativeProcess
  | .setJoystick d => ⟨p.joystick.nativeSetJoystick d, p.push (p.joystick.nativeSetJoystickEvents d)⟩
  | .setButton button pressed =>
    ⟨p.joystick.nativeSetButton button pressed, p.push (p.joystick.nativeSetButtonEvents button pressed)⟩
  | .setOverlayState state =>
    ⟨p.joystick.nativeSetOverlayState state, p.push (p.joystick.nativeSetOverlayStateEvents state)⟩
  | .setKey keyCode pressed => { p with keyboard := p.keyboard.nativeSetKey keyCode pressed }

/-- The process after a sequence of calls, oldest first. -/
def replay (p : NativeProcess) (calls : List JniCall) : NativeProcess := calls.foldl call p

@[simp] theorem push_guiRunning (p : NativeProcess) (events : List SdlEvent) :
    (p.push events).guiRunning = p.keyboard.guiRunning := rfl

@[simp] theorem push_sdlEvents (p : NativeProcess) (events : List SdlEvent) :
    (p.push events).sdlEvents = p.keyboard.sdlEvents ++ events := rfl

end NativeProcess

/-! ## The history of a key -/

/-- The states SDL's key events give `key`, oldest first. -/
def keyHistory (events : List SdlEvent) (key : Int) : List Bool :=
  (keyEvents events).filterMap fun e => if e.1 = key then some e.2 else none

@[simp] theorem keyHistory_append (a b : List SdlEvent) (key : Int) :
    keyHistory (a ++ b) key = keyHistory a key ++ keyHistory b key := by
  simp [keyHistory, keyEvents, List.filterMap_append]

@[simp] theorem keyHistory_key (sym : Int) (pressed : Bool) (key : Int) :
    keyHistory [.key sym pressed] key = if sym = key then [pressed] else [] := by
  simp only [keyHistory, keyEvents, List.filterMap_cons, List.filterMap_nil, SdlEvent.key?]
  split_ifs <;> rfl

@[simp] theorem keyHistory_nil (key : Int) : keyHistory [] key = [] := rfl

theorem keyHistory_pushOnChange (sym : Int) (old new : Bool) (key : Int) :
    keyHistory (pushOnChange sym old new) key = if sym = key ∧ new ≠ old then [new] else [] := by
  unfold pushOnChange
  by_cases h : new = old <;> by_cases hs : sym = key <;> simp [h, hs]

theorem keyHistory_releaseIfSet (sym : Int) (flag : Bool) (key : Int) :
    keyHistory (releaseIfSet sym flag) key = if sym = key ∧ false ≠ flag then [false] else [] := by
  unfold releaseIfSet
  cases flag <;> by_cases hs : sym = key <;> simp [hs]

/-- The last key event of a key is the last entry of its history. -/
theorem lastSent_keyEvents (events : List SdlEvent) (key : Int) :
    lastSent (keyEvents events) key = (keyHistory events key).getLast? := by
  unfold keyHistory
  induction keyEvents events using List.reverseRecOn with
  | nil => rfl
  | append_singleton l e ih =>
    rw [lastSent_append, List.filterMap_append, ih]
    split_ifs with h <;> simp [h]

/-- A key's history starts released, changes at each event, and ends in `state`. -/
def Alternates (history : List Bool) (state : Bool) : Prop :=
  List.Chain' (· ≠ ·) (false :: history) ∧ (false :: history).getLast? = some state

theorem Alternates.nil : Alternates [] false := ⟨List.chain'_singleton _, rfl⟩

/-- An event for the key exactly when its state changes keeps the history alternating. -/
theorem Alternates.push {history : List Bool} {old : Bool} (h : Alternates history old)
    (new : Bool) : Alternates (history ++ if new ≠ old then [new] else []) new := by
  split_ifs with hne
  · refine ⟨h.1.append (List.chain'_singleton _) fun x hx y hy => ?_,
      List.getLast?_concat (false :: history)⟩
    rw [h.2, Option.mem_some_iff] at hx
    simp only [List.head?_cons, Option.mem_some_iff] at hy
    subst hx hy
    exact Ne.symm hne
  · rw [List.append_nil, not_not.1 hne]
    exact h

/-! ## Each call pushes the changes of the statics -/

/-- Each navigation key gets one event exactly when its static changes, with the new value. -/
def PushesChanges (n n' : NativeState) (events : List SdlEvent) : Prop :=
  ∀ k : NavKey, keyHistory events k.sym = if k.flag n' ≠ k.flag n then [k.flag n'] else []

namespace NativeState

variable (n : NativeState)

theorem pushesChanges_nativeSetJoystick (d : Dpad) :
    PushesChanges n (n.nativeSetJoystick d) (n.nativeSetJoystickEvents d) := by
  intro k
  simp only [nativeSetJoystickEvents, keyHistory_append, keyHistory_pushOnChange,
    NavKey.sdlkUp_eq_sym, NavKey.sdlkDown_eq_sym, NavKey.sdlkLeft_eq_sym, NavKey.sdlkRight_eq_sym,
    NavKey.sym_inj]
  cases k <;> simp [NavKey.flag]

theorem pushesChanges_nativeSetButton (button : Int) (pressed : Bool) :
    PushesChanges n (n.nativeSetButton button pressed) (n.nativeSetButtonEvents button pressed) := by
  intro k
  unfold nativeSetButtonEvents
  by_cases h0 : button = 0
  · subst h0
    simp only [if_true, keyHistory_pushOnChange, NavKey.sdlkReturn_eq_sym, NavKey.sym_inj]
    cases k <;> simp [NavKey.flag]
  · by_cases h1 : button = 1
    · subst h1
      simp only [one_ne_zero, if_false, if_true, keyHistory_pushOnChange, NavKey.sdlkEscape_eq_sym,
        NavKey.sym_inj]
      cases k <;> simp [NavKey.flag]
    · simp only [nativeSetButton, h0, h1, if_false]
      simp

theorem pushesChanges_nativeSetOverlayState (state : Int) :
    PushesChanges n (n.nativeSetOverlayState state) (n.nativeSetOverlayStateEvents state) := by
  intro k
  unfold nativeSetOverlayStateEvents nativeSetOverlayState
  dsimp only
  by_cases h : state ≠ overlayJoystick ∧ n.sOverlayState = overlayJoystick
  · simp only [if_pos h, keyHistory_append, keyHistory_releaseIfSet, NavKey.sdlkUp_eq_sym,
      NavKey.sdlkDown_eq_sym, NavKey.sdlkLeft_eq_sym, NavKey.sdlkRight_eq_sym,
      NavKey.sdlkReturn_eq_sym, NavKey.sdlkEscape_eq_sym, NavKey.sym_inj]
    cases k <;> simp [NavKey.flag, Dpad.none]
  · simp only [if_neg h]
    cases k <;> simp [NavKey.flag]

end NativeState

/-! ## The keyboard's calls -/

/-- The call is not one of the keyboard's that reaches SDL as a navigation key. -/
def JniCall.KeepsNavKeys (guiRunning : Bool) : JniCall → Prop
  | .setKey keyCode _ => guiRunning = true → amigaToSdlKey keyCode ∉ NavKey.syms
  | _ => True

instance (guiRunning : Bool) : DecidablePred (JniCall.KeepsNavKeys guiRunning)
  | .setJoystick _ => inferInstanceAs (Decidable True)
  | .setButton _ _ => inferInstanceAs (Decidable True)
  | .setOverlayState _ => inferInstanceAs (Decidable True)
  | .setKey keyCode _ =>
    inferInstanceAs (Decidable (guiRunning = true → amigaToSdlKey keyCode ∉ NavKey.syms))

/-- A keyboard event that reaches SDL as no navigation key leaves their histories alone. -/
theorem keyHistory_nativeSetKey {n : NativeKeyState} {keyCode : Int} (pressed : Bool)
    (h : n.guiRunning = true → amigaToSdlKey keyCode ∉ NavKey.syms) (k : NavKey) :
    keyHistory (n.nativeSetKey keyCode pressed).sdlEvents k.sym = keyHistory n.sdlEvents k.sym := by
  cases hg : n.guiRunning
  · rw [NativeKeyState.nativeSetKey_of_not_guiRunning hg]
  · have hne : amigaToSdlKey keyCode ≠ k.sym := fun e => h hg (e ▸ k.sym_mem_syms)
    unfold keyHistory
    rcases NativeKeyState.keyEvents_nativeSetKey hg keyCode pressed with ⟨he, -⟩ | ⟨-, he⟩ <;>
      rw [he]
    simp [hne]

/-! ## Any sequence of calls -/

/-- Every navigation key's history on SDL's queue alternates and ends in its static's value. -/
def NavKeysAgree (p : NativeProcess) : Prop :=
  ∀ k : NavKey, Alternates (keyHistory p.keyboard.sdlEvents k.sym) (k.flag p.joystick)

namespace NavKeysAgree

variable {p : NativeProcess}

theorem initial (guiRunning : Bool) : NavKeysAgree (.initial guiRunning) := fun k => by
  cases k <;> exact .nil

theorem push (h : NavKeysAgree p) {n' : NativeState} {events : List SdlEvent}
    (he : PushesChanges p.joystick n' events) : NavKeysAgree ⟨n', p.push events⟩ := fun k => by
  simp only [NativeProcess.push_sdlEvents, keyHistory_append, he k]
  exact (h k).push _

theorem call (h : NavKeysAgree p) {c : JniCall} (hc : c.KeepsNavKeys p.keyboard.guiRunning) :
    NavKeysAgree (p.call c) := by
  cases c with
  | setJoystick d => exact h.push (p.joystick.pushesChanges_nativeSetJoystick d)
  | setButton button pressed => exact h.push (p.joystick.pushesChanges_nativeSetButton button pressed)
  | setOverlayState state => exact h.push (p.joystick.pushesChanges_nativeSetOverlayState state)
  | setKey keyCode pressed =>
    intro k
    simpa only [NativeProcess.call, keyHistory_nativeSetKey pressed hc k] using h k

theorem guiRunning_call (p : NativeProcess) (c : JniCall) :
    (p.call c).keyboard.guiRunning = p.keyboard.guiRunning := by
  cases c <;> simp [NativeProcess.call]

theorem replay (h : NavKeysAgree p) {calls : List JniCall}
    (hc : ∀ c ∈ calls, c.KeepsNavKeys p.keyboard.guiRunning) : NavKeysAgree (p.replay calls) := by
  induction calls generalizing p with
  | nil => exact h
  | cons c calls ih =>
    refine ih (h.call (hc c (List.mem_cons_self _ _))) fun c' hc' => ?_
    rw [guiRunning_call]
    exact hc c' (List.mem_cons_of_mem _ hc')

end NavKeysAgree

/-- For every sequence of JNI calls in which the keyboard sends SDL no navigation key, each
navigation key's events on SDL's queue alternate between press and release, starting with a
press, and SDL holds the key exactly while its static is set. -/
theorem nav_keys_follow_flags (guiRunning : Bool) (calls : List JniCall)
    (hc : ∀ c ∈ calls, c.KeepsNavKeys guiRunning) (k : NavKey) :
    let p := (NativeProcess.initial guiRunning).replay calls
    List.Chain' (· ≠ ·) (false :: keyHistory p.keyboard.sdlEvents k.sym) ∧
      ((lastSent (keyEvents p.keyboard.sdlEvents) k.sym).getD false = k.flag p.joystick) := by
  intro p
  obtain ⟨hchain, hlast⟩ := (NavKeysAgree.initial guiRunning).replay hc k
  refine ⟨hchain, ?_⟩
  rw [lastSent_keyEvents]
  rw [List.getLast?_cons] at hlast
  exact Option.some.inj hlast

/-- While the GUI runs: the d-pad pressed up, a key press on the keyboard, then the keyboard's
Up pressed and released. -/
def dpadUpThenKeys : List JniCall :=
  [.setJoystick ⟨true, false, false, false⟩, .setKey 0x20 true, .setKey 0x4C true, .setKey 0x4C false]

theorem nav_keys_follow_flags_dpadUp :
    (∀ c ∈ dpadUpThenKeys.take 2, c.KeepsNavKeys true) ∧
      (List.Chain' (· ≠ ·) (false :: keyHistory
        ((NativeProcess.initial true).replay (dpadUpThenKeys.take 2)).keyboard.sdlEvents NavKey.up.sym) ∧
      ((lastSent (keyEvents ((NativeProcess.initial true).replay
        (dpadUpThenKeys.take 2)).keyboard.sdlEvents) NavKey.up.sym).getD false =
          NavKey.up.flag ((NativeProcess.initial true).replay (dpadUpThenKeys.take 2)).joystick)) :=
  ⟨by decide, nav_keys_follow_flags true (dpadUpThenKeys.take 2) (by decide) NavKey.up⟩

/-- The keyboard's Up, in the GUI, presses SDL's Up a second time and then releases it while
`s_dpad_up` stays set. -/
example : keyHistory ((NativeProcess.initial true).replay dpadUpThenKeys).keyboard.sdlEvents sdlkUp =
      [true, true, false] ∧
    ((NativeProcess.initial true).replay dpadUpThenKeys).joystick.sDpad.up = true := by
  decide

end Overlay
