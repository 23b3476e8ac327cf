import AmiberryAndroid.Overlay.Joystick

/-!
# The joystick device behind the overlay

`android_vjoystick_set_axis` and `android_vjoystick_set_button`, which the JNI functions of the
joystick overlay call (`Overlay.Native` logs these calls), pass each value on to the emulator's
input system, `setjoystickstate` and `setjoybuttonstate`, for the joystick device that stands for
the overlay. They find that device once. While `s_virtual_joystick_device_id` is negative, a call
looks among the emulator's joysticks for the one whose `joystick_id` is `-1000`
(`android_vjoystick_get_device_index`) and keeps its index; a call that finds none is dropped, and
the next call looks again. The emulator's joystick table is outside `src/`: the model takes the
`joystick_id`s it holds at each call as a parameter, so the table may change between calls.

**Theorem (`vjoystick_inputs_from_first_found`).** Over any calls, whatever the emulator's
joysticks are at each of them, the emulator gets nothing for the calls before the first one that
finds the device, and gets every call from that one on, sent to the index it found then
(`deliveredInputs`). The index is never looked up again: when the table changes later, the
inputs still go to the old index, which may now be another joystick.

**Theorem (`emulator_joystick_follows_overlay`).** With the overlay's joystick in the emulator's
table, after any touch input on the joystick overlay, and whatever the order of its
`set_axis` and `set_button` calls, the emulator's device last got on each axis 32767 times the
direction the overlay shows, and on each button whether the overlay shows it pressed. This
joins `native_mirrors_overlay` to the device layer.
-/

namespace Overlay

/-- The `joystick_id` of the joystick that stands for the overlay. -/
def virtualJoystickId : Int := -1000

/-- `android_vjoystick_get_device_index()`, over the `joystick_id`s of the emulator's
`inputdevice_get_device_total(IDTYPE_JOYSTICK)` joysticks in table order: the first index that
holds the overlay's joystick, or `-1`. -/
def androidVjoystickGetDeviceIndex (joystickIds : List Int) : Int :=
  if virtualJoystickId ∈ joystickIds then joystickIds.indexOf virtualJoystickId else -1

/-- The lookup finds the device exactly when the overlay's joystick is in the table. -/
theorem androidVjoystickGetDeviceIndex_nonneg_iff {joystickIds : List Int} :
    0 ≤ androidVjoystickGetDeviceIndex joystickIds ↔ virtualJoystickId ∈ joystickIds := by
  unfold androidVjoystickGetDeviceIndex
  split_ifs with h <;> simp [h]

/-- A call into the device layer. -/
inductive VjoyCall
  /-- `android_vjoystick_set_axis(axis, value)` -/
  | setAxis (axis value : Int)
  /-- `android_vjoystick_set_button(button, pressed)` -/
  | setButton (button : Int) (pressed : Bool)
  deriving DecidableEq

/-- A call into the emulator's input system. -/
inductive DeviceInput
  /-- `setjoystickstate(joy, axis, state, max)` -/
  | setjoystickstate (joy axis state max : Int)
  /-- `setjoybuttonstate(joy, button, state)` -/
  | setjoybuttonstate (joy button state : Int)
  deriving DecidableEq

/-- The input a call sends to the device `joy`: the axis value scaled to `32767`, the button
state as `1` or `0`. -/
def VjoyCall.input (joy : Int) : VjoyCall → DeviceInput
  | .setAxis axis value => .setjoystickstate joy axis (value * 32767) 32767
  | .setButton button pressed => .setjoybuttonstate joy button (if pressed then 1 else 0)

/-- The arguments of an `android_vjoystick_set_axis` call. -/
def VjoyCall.axisArgs : VjoyCall → Option (Int × Int)
  | .setAxis axis value => some (axis, value)
  | .setButton .. => none

/-- The arguments of an `android_vjoystick_set_button` call. -/
def VjoyCall.buttonArgs : VjoyCall → Option (Int × Bool)
  | .setAxis .. => none
  | .setButton button pressed => some (button, pressed)

/-- The axis and state of a `setjoystickstate` call for the device `joy`. -/
def DeviceInput.axisOf (joy : Int) : DeviceInput → Option (Int × Int)
  | .setjoystickstate joy' axis state _ => if joy' = joy then some (axis, state) else none
  | .setjoybuttonstate .. => none

/-- The button and state of a `setjoybuttonstate` call for the device `joy`. -/
def DeviceInput.buttonOf (joy : Int) : DeviceInput → Option (Int × Int)
  | .setjoystickstate .. => none
  | .setjoybuttonstate joy' button state => if joy' = joy then some (button, state) else none

/-- `s_virtual_joystick_device_id`, and the inputs the emulator got so far, oldest first. -/
structure VjoyDevice where
  deviceId : Int
  inputs : List DeviceInput

namespace VjoyDevice

/-- A fresh process: the device not looked up yet. -/
def initial : VjoyDevice := ⟨-1, []⟩

/-- The body shared by `android_vjoystick_set_axis` and `android_vjoystick_set_button`, which
differ only in the input they send: look the device up while its index is unknown, drop the
call if it is still unknown, send the input to it otherwise. -/
def call (dev : VjoyDevice) (joystickIds : List Int) (c : VjoyCall) : VjoyDevice :=
  let deviceId :=
    if dev.deviceId < 0 then androidVjoystickGetDeviceIndex joystickIds else dev.deviceId
  if deviceId < 0 then { dev with deviceId } else ⟨deviceId, dev.inputs ++ [c.input deviceId]⟩

/-- `android_vjoystick_set_axis(axis, value)` -/
def androidVjoystickSetAxis (dev : VjoyDevice) (joystickIds : List Int) (axis value : Int) :
    VjoyDevice :=
  dev.call joystickIds (.setAxis axis value)

/-- `android_vjoystick_set_button(button, pressed)` -/
def androidVjoystickSetButton (dev : VjoyDevice) (joystickIds : List Int) (button : Int)
    (pressed : Bool) : VjoyDevice :=
  dev.call joystickIds (.setButton button pressed)

/-- The device layer after calls, each made while the emulator's table held the given ids. -/
def run (dev : VjoyDevice) : List (List Int × VjoyCall) → VjoyDevice
  | [] => dev
  | (joystickIds, c) :: cs => run (dev.call joystickIds c) cs

/-- What the device layer is for: the calls before the first one made while the overlay's
joystick is in the table reach no device, and that call and every later one reach the index it
had then. -/
def deliveredInputs (calls : List (List Int × VjoyCall)) : List DeviceInput :=
  match calls.dropWhile fun c => androidVjoystickGetDeviceIndex c.1 < 0 with
  | [] => []
  | c :: rest => (c :: rest).map fun c' => c'.2.input (androidVjoystickGetDeviceIndex c.1)

variable {dev : VjoyDevice} {joystickIds : List Int} {c : VjoyCall}

/-- With the index known, a call sends its input there, whatever the table holds now. -/
theorem call_of_found {i : Int} (h : 0 ≤ i) (inputs : List DeviceInput) :
    (⟨i, inputs⟩ : VjoyDevice).call joystickIds c = ⟨i, inputs ++ [c.input i]⟩ := by
  simp [call, not_lt.2 h]

theorem call_of_unknown (h : dev.deviceId < 0) :
    dev.call joystickIds c =
      if androidVjoystickGetDeviceIndex joystickIds < 0 then
        { dev with deviceId := androidVjoystickGetDeviceIndex joystickIds }
      else ⟨androidVjoystickGetDeviceIndex joystickIds,
        dev.inputs ++ [c.input (androidVjoystickGetDeviceIndex joystickIds)]⟩ := by
  simp only [call, if_pos h]

/-- Once the index is known, a run keeps it and sends every call there. -/
theorem run_of_found {i : Int} (h : 0 ≤ i) (inputs : List DeviceInput)
    (calls : List (List Int × VjoyCall)) :
    (⟨i, inputs⟩ : VjoyDevice).run calls =
      ⟨i, inputs ++ calls.map fun c => c.2.input i⟩ := by
  induction calls generalizing inputs with
  | nil => simp [run]
  | cons c cs ih =>
    obtain ⟨ids, c⟩ := c
    rw [run, call_of_found h, ih]
    simp

/-- While the index is unknown, a run adds what `deliveredInputs` says. -/
theorem run_inputs_of_unknown (h : dev.deviceId < 0) (calls : List (List Int × VjoyCall)) :
    (dev.run calls).inputs = dev.inputs ++ deliveredInputs calls := by
  induction calls generalizing dev with
  | nil => simp [run, deliveredInputs]
  | cons c cs ih =>
    obtain ⟨ids, c⟩ := c
    rw [run, call_of_unknown h]
    unfold deliveredInputs
    by_cases hf : androidVjoystickGetDeviceIndex ids < 0
    · -- the call is dropped, and the next one looks again
      rw [if_pos hf, @ih { dev with deviceId := androidVjoystickGetDeviceIndex ids } hf,
        List.dropWhile_cons_of_pos (by simpa using hf)]
      rfl
    · -- the call finds the device: from here on every call goes there
      rw [if_neg hf, run_of_found (not_lt.1 hf), List.dropWhile_cons_of_neg (by simpa using hf)]
      simp

/-- With the table fixed and holding the overlay's joystick, every call reaches its index. -/
theorem deliveredInputs_of_found (h : virtualJoystickId ∈ joystickIds) (calls : List VjoyCall) :
    deliveredInputs (calls.map (joystickIds, ·)) =
      calls.map (·.input (androidVjoystickGetDeviceIndex joystickIds)) := by
  have hf := androidVjoystickGetDeviceIndex_nonneg_iff.2 h
  cases calls with
  | nil => rfl
  | cons c cs =>
    unfold deliveredInputs
    rw [List.map_cons, List.dropWhile_cons_of_neg (by simpa using hf)]
    simp

end VjoyDevice

/-- Over any calls, whatever the emulator's joysticks at each, the inputs the emulator gets are
those of `deliveredInputs`: none before the device is first found, then every call, to the index
found then. -/
theorem vjoystick_inputs_from_first_found (calls : List (List Int × VjoyCall)) :
    (VjoyDevice.initial.run calls).inputs = VjoyDevice.deliveredInputs calls := by
  simpa using
    VjoyDevice.run_inputs_of_unknown (show VjoyDevice.initial.deviceId < 0 by decide) calls

/-- A pad plugged in before the overlay's joystick moves it to index 1; the axis still goes to
index 0, the pad. -/
example : (VjoyDevice.initial.run [([-1000], .setAxis 0 1), ([7, -1000], .setAxis 0 (-1))]).inputs =
    [.setjoystickstate 0 0 32767 32767, .setjoystickstate 0 0 (-32767) 32767] := by
  decide

/-- The last state one device got on an axis is that of its last `set_axis` call, scaled. -/
theorem lastSent_axisOf_map_input (joy : Int) (calls : List VjoyCall) (axis : Int) :
    lastSent ((calls.map (·.input joy)).filterMap (DeviceInput.axisOf joy)) axis =
      (lastSent (calls.filterMap VjoyCall.axisArgs) axis).map (· * 32767) := by
  rw [← lastSent_map, List.filterMap_map, List.map_filterMap]
  congr 2
  funext c
  cases c <;> simp [VjoyCall.input, VjoyCall.axisArgs, DeviceInput.axisOf]

/-- The last state one device got on a button is that of its last `set_button` call. -/
theorem lastSent_buttonOf_map_input (joy : Int) (calls : List VjoyCall) (button : Int) :
    lastSent ((calls.map (·.input joy)).filterMap (DeviceInput.buttonOf joy)) button =
      (lastSent (calls.filterMap VjoyCall.buttonArgs) button).map fun p => if p then 1 else 0 := by
  rw [← lastSent_map, List.filterMap_map, List.map_filterMap]
  congr 2
  funext c
  cases c <;> simp [VjoyCall.input, VjoyCall.buttonArgs, DeviceInput.buttonOf]

namespace VirtualJoystickOverlay

/-- With the overlay's joystick in the emulator's table, after any touch input, in whatever order
the `set_axis` and `set_button` calls come, the emulator's device last got the overlay's
directions on its axes, scaled to `32767`, and the overlay's buttons. -/
theorem emulator_joystick_follows_overlay (sc : Screen) (scaleFactor : ℚ) (es : List MotionEvent)
    (joystickIds : List Int) (hreg : virtualJoystickId ∈ joystickIds) (calls : List VjoyCall)
    (hcalls : calls.filterMap VjoyCall.axisArgs = ((initial scaleFactor).run sc es).native.axes ∧
      calls.filterMap VjoyCall.buttonArgs = ((initial scaleFactor).run sc es).native.buttons) :
    let j := (initial scaleFactor).run sc es
    let joy := androidVjoystickGetDeviceIndex joystickIds
    let inputs := (VjoyDevice.initial.run (calls.map (joystickIds, ·))).inputs
    (lastSent (inputs.filterMap (DeviceInput.axisOf joy)) 0).getD 0 = j.dpad.horiz * 32767 ∧
      (lastSent (inputs.filterMap (DeviceInput.axisOf joy)) 1).getD 0 = j.dpad.vert * 32767 ∧
      (lastSent (inputs.filterMap (DeviceInput.buttonOf joy)) 0).getD 0 =
        (if j.buttonA.pressed then 1 else 0) ∧
      (lastSent (inputs.filterMap (DeviceInput.buttonOf joy)) 1).getD 0 =
        (if j.buttonB.pressed then 1 else 0) := by
  intro j joy inputs
  have hc : j.Consistent := (Consistent.initial scaleFactor).run sc es
  -- the table is fixed and holds the device, so every call reaches it
  have hin : inputs = calls.map (·.input joy) := by
    rw [show inputs = [] ++ _ from
        VjoyDevice.run_inputs_of_unknown (show VjoyDevice.initial.deviceId < 0 by decide) _,
      VjoyDevice.deliveredInputs_of_found hreg, List.nil_append]
  simp only [hin, lastSent_axisOf_map_input, lastSent_buttonOf_map_input, hcalls.1, hcalls.2]
  refine ⟨?_, ?_, ?_, ?_⟩
  · exact (Option.getD_map (· * (32767 : Int)) 0 _).trans (by rw [hc.device.horiz, hc.sDpad_eq])
  · exact (Option.getD_map (· * (32767 : Int)) 0 _).trans (by rw [hc.device.vert, hc.sDpad_eq])
  · exact (Option.getD_map (fun p : Bool => if p then (1 : Int) else 0) false _).trans
      (by rw [hc.device.buttonA, hc.sButtonA_eq])
  · exact (Option.getD_map (fun p : Bool => if p then (1 : Int) else 0) false _).trans
      (by rw [hc.device.buttonB, hc.sButtonB_eq])

/-- The device calls `dpadAndFireCancel` makes on `sampleScreen`, in order: the d-pad up, fire
button A, the d-pad released by the cancel. -/
def cancelCalls : List VjoyCall :=
  [.setAxis 0 0, .setAxis 1 (-1), .setButton 0 true, .setAxis 0 0, .setAxis 1 0]

theorem emulator_joystick_follows_overlay_cancel :
    virtualJoystickId ∈ [-1000] ∧
      (cancelCalls.filterMap VjoyCall.axisArgs =
          ((initial 1).run sampleScreen dpadAndFireCancel).native.axes ∧
        cancelCalls.filterMap VjoyCall.buttonArgs =
          ((initial 1).run sampleScreen dpadAndFireCancel).native.buttons) ∧
      let j := (initial 1).run sampleScreen dpadAndFireCancel
      let joy := androidVjoystickGetDeviceIndex [-1000]
      let inputs := (VjoyDevice.initial.run (cancelCalls.map ([-1000], ·))).inputs
      (lastSent (inputs.filterMap (DeviceInput.axisOf joy)) 0).getD 0 = j.dpad.horiz * 32767 ∧
        (lastSent (inputs.filterMap (DeviceInput.axisOf joy)) 1).getD 0 = j.dpad.vert * 32767 ∧
        (lastSent (inputs.filterMap (DeviceInput.buttonOf joy)) 0).getD 0 =
          (if j.buttonA.pressed then 1 else 0) ∧
        (lastSent (inputs.filterMap (DeviceInput.buttonOf joy)) 1).getD 0 =
          (if j.buttonB.pressed then 1 else 0) :=
  ⟨by decide, by decide,
    emulator_joystick_follows_overlay sampleScreen 1 dpadAndFireCancel [-1000] (by decide)
      cancelCalls (by decide)⟩

end VirtualJoystickOverlay

end Overlay
