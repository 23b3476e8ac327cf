import AmiberryAndroid.Jit.Free
import AmiberryAndroid.Jit.Page
import AmiberryAndroid.Jit.Lifecycle
import AmiberryAndroid.Jit.Failure
import AmiberryAndroid.Overlay.Keyboard
import AmiberryAndroid.Overlay.Joystick
import AmiberryAndroid.Overlay.KeyboardLayout
import AmiberryAndroid.Overlay.NativeKey
import AmiberryAndroid.Overlay.JoystickLayout
import AmiberryAndroid.Overlay.Directions
import AmiberryAndroid.Overlay.Jni
import AmiberryAndroid.Overlay.Device
