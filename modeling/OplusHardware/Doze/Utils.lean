import Mathlib.Tactic.Common

/-!
# Doze — Utils

The settings and preferences that `object Utils` reads and writes, and its
predicates over them.
-/

namespace OplusHardware.Doze

/-- The preferences of the gestures; `none` is a key that is not set. -/
structure SharedPreferences where
  gesture_pick_up_type : Option String
  gesture_pocket : Option Bool
  deriving DecidableEq, Repr

namespace SharedPreferences

variable (prefs : SharedPreferences)

def isPickUpEnabled : Bool := prefs.gesture_pick_up_type.getD "0" != "0"

def isPickUpSetToWake : Bool := prefs.gesture_pick_up_type.getD "0" == "2"

def isPocketEnabled : Bool := prefs.gesture_pocket.getD false

def areGesturesEnabled : Bool := prefs.isPickUpEnabled || prefs.isPocketEnabled

end SharedPreferences

/-- `DOZE_ENABLED` and `DOZE_ALWAYS_ON` of `Settings.Secure`. -/
structure SecureSettings where
  doze_enabled : Option Int
  doze_always_on : Option Int
  deriving DecidableEq, Repr

namespace SecureSettings

variable (settings : SecureSettings)

def isDozeEnabled : Bool := settings.doze_enabled.getD 1 != 0

def isAlwaysOnEnabled : Bool := settings.doze_always_on.getD 0 != 0

def enableDoze (enable : Bool) : SecureSettings :=
  { settings with doze_enabled := some (if enable then 1 else 0) }

def enableAlwaysOn (enable : Bool) : SecureSettings :=
  { settings with doze_always_on := some (if enable then 1 else 0) }

end SecureSettings

end OplusHardware.Doze
