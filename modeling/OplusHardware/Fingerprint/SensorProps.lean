import OplusHardware.Touch.Node

/-!
# Fingerprint — the SensorProps shim

The shim stands in front of `SensorProps::writeToParcel` and rewrites the
object that is written, from system properties and the mode list of the
panel. What it writes is a function-local `static`: the properties of the
first object of the process.

A property that is not set reads as the empty text. The fields of
`SensorProps` that the shim only copies are `Other`, and `Shape` is the
part of a location that it does not name.
-/

namespace OplusHardware.Fingerprint

open OplusHardware.Base
open OplusHardware.Touch (trim)

/-! ## Texts and system properties -/

/-- `android::base::Split`: what stands between the delimiters, empty texts
included. -/
def split (delimiters : List Char) (s : List Char) : List (List Char) :=
  s.splitOnP fun c => delimiters.contains c

/-- `android::base::Tokenize`: the same without the empty texts. -/
def tokenize (delimiters : List Char) (s : List Char) : List (List Char) :=
  (split delimiters s).filter fun token => !token.isEmpty

/-- `android::base::ParseInt` for an `int32_t`: the whole text is one
number, in base 16 after a `0x`. -/
def parseInt (s : List Char) : Option Int32 :=
  let cs := s.dropWhile isSpace
  let base := match cs with
    | '0' :: 'x' :: _ => 16
    | '0' :: 'X' :: _ => 16
    | _ => 10
  match strtol base cs with
  | some (v, []) => if -2 ^ 31 ≤ v ∧ v < 2 ^ 31 then some (.ofInt v) else none
  | _ => none

/-- What the shim reads: the system properties, and
`/sys/class/drm/card0-DSI-1/modes` if it can be read. -/
structure System where
  property : String → List Char
  modes : Option (List Char)

namespace System

variable (sys : System)

def getProperty (key : String) (default_value : List Char) : List Char :=
  if sys.property key = [] then default_value else sys.property key

def getIntProperty (key : String) (default_value : Int32) : Int32 :=
  (parseInt (sys.getProperty key [])).getD default_value

def getScreenResolution : Option (Int32 × Int32) := do
  let value ← sys.modes
  let last ← (split ['\n'] (trim value)).getLast?
  match split ['x'] last with
  | width :: height :: _ => return (← parseInt width, ← parseInt height)
  | _ => none

end System

/-! ## SensorProps -/

inductive FingerprintSensorType where
  | unknown
  | rear
  | underDisplayUltrasonic
  | underDisplayOptical
  | powerButton
  | homeButton
  deriving DecidableEq, Repr

def FingerprintSensorType.isUnderDisplay (t : FingerprintSensorType) : Bool :=
  t = .underDisplayOptical || t = .underDisplayUltrasonic

structure SensorLocation (Shape : Type) where
  sensorLocationX : Int32
  sensorLocationY : Int32
  sensorRadius : Int32
  display : List Char
  shape : Shape
  deriving DecidableEq, Repr

structure SensorProps (Shape Other : Type) where
  sensorType : FingerprintSensorType
  sensorLocations : List (SensorLocation Shape)
  halHandlesDisplayTouches : Bool
  other : Other
  deriving DecidableEq, Repr

section Init

variable {Shape Other : Type} [Inhabited Shape] (sys : System)

/-- A location as it is constructed, at `(x, y)`. -/
def locationAt (x y : Int32) (display : List Char) : SensorLocation Shape :=
  ⟨x, y, 0, display, default⟩

/-- The words of `persist.vendor.fingerprint.sensor_type`. -/
def typeOfWord (type : List Char) : Option FingerprintSensorType :=
  if type = "back".toList then some .rear
  else if type = "ultrasonic".toList then some .underDisplayUltrasonic
  else if type = "optical".toList then some .underDisplayOptical
  else if type = "side".toList then some .powerButton
  else if type = "front".toList then some .homeButton
  else none

/-- The type that the properties give, if they do. -/
def System.sensorType : Option FingerprintSensorType :=
  typeOfWord (sys.getProperty "persist.vendor.fingerprint.sensor_type" [])

/-- The location of the icon on the screen, for a sensor below it. -/
def System.iconLocation (t : FingerprintSensorType) : Option (SensorLocation Shape) :=
  let icon_loc_prop := sys.getIntProperty "persist.vendor.fingerprint.optical.iconlocation" 0
  match sys.getScreenResolution with
  | some (width, height) =>
      if 0 < icon_loc_prop ∧ t.isUnderDisplay = true then
        some (locationAt (width / 2) (height - icon_loc_prop) [])
      else none
  | none => none

/-- What the shim makes of one entry of the list, with `parse` for the
`ParseInt` of its two numbers. -/
def parseLocation (parse : List Char → Option Int32) (location : List Char) :
    Option (SensorLocation Shape) :=
  match tokenize [':', ':'] location with
  | x :: y :: rest => do
      let display := match rest with
        | d :: _ => if d = [] then [] else "local:".toList ++ d
        | [] => []
      return locationAt (← parse x) (← parse y) display
  | _ => none

/-- The locations so far, and the entries that were reported as
`Invalid sensor location input (x::y[::display])`. -/
structure LoopState (Shape : Type) where
  sensorLocations : List (SensorLocation Shape)
  invalid : List (List Char)

/-- The body of the loop over the entries. -/
def locationStep (parse : List Char → Option Int32) (st : LoopState Shape)
    (location : List Char) : LoopState Shape :=
  match parseLocation parse location with
  | some loc => { st with sensorLocations := st.sensorLocations ++ [loc] }
  | none => { st with invalid := st.invalid ++ [location] }

/-- The loop, for one value of the property. -/
def locationLoop (parse : List Char → Option Int32) (loc_prop : List Char) : LoopState Shape :=
  (tokenize ['|'] loc_prop).foldl (locationStep parse) ⟨[], []⟩

def System.locProp : List Char :=
  sys.getProperty "persist.vendor.fingerprint.optical.sensorlocation"
    (sys.getProperty "persist.vendor.fingerprint.side.sensorlocation" [])

/-- The branches that set the locations, if one of them is taken. -/
def System.locations (parse : List Char → Option Int32) (t : FingerprintSensorType) :
    Option (LoopState Shape) :=
  match sys.iconLocation t with
  | some loc => some ⟨[loc], []⟩
  | none => if sys.locProp = [] then none else some (locationLoop parse sys.locProp)

/-- The locations that the properties give, if they do. -/
def System.sensorLocations (t : FingerprintSensorType) : Option (List (SensorLocation Shape)) :=
  (sys.locations parseInt t).map LoopState.sensorLocations

/-- The radius that the properties give, if they do. -/
def System.sensorRadius : Option Int32 :=
  (parseInt (sys.getProperty "persist.vendor.fingerprint.optical.iconsize" [])).map (· / 2)

/-- The radius is that of the first location. -/
def setRadius (radius : Option Int32) :
    List (SensorLocation Shape) → List (SensorLocation Shape)
  | [] => []
  | loc :: locs =>
      match radius with
      | some r => { loc with sensorRadius := r } :: locs
      | none => loc :: locs

/-- `SensorPropsInit` and the entries that it reports as invalid, with
`parse` for the `ParseInt` of the locations. -/
def sensorPropsInitBy (parse : List Char → Option Int32) (props : SensorProps Shape Other) :
    SensorProps Shape Other × List (List Char) :=
  let sensorType := sys.sensorType.getD props.sensorType
  let locations := sys.locations parse sensorType
  ({ sensorType := sensorType
     sensorLocations :=
      setRadius sys.sensorRadius
        ((locations.map LoopState.sensorLocations).getD props.sensorLocations)
     halHandlesDisplayTouches := sensorType.isUnderDisplay
     other := props.other },
    (locations.map LoopState.invalid).getD [])

/-- `SensorPropsInit`. -/
def sensorPropsInit (props : SensorProps Shape Other) : SensorProps Shape Other :=
  (sensorPropsInitBy sys parseInt props).1

/-- One call of the interposed `writeToParcel`, from what its `static`
holds: what it holds then, and what the original function gets. -/
def writeToParcel (props : Option (SensorProps Shape Other)) (thisptr : SensorProps Shape Other) :
    Option (SensorProps Shape Other) × SensorProps Shape Other :=
  match props with
  | some props => (some props, props)
  | none => (some (sensorPropsInit sys thisptr), sensorPropsInit sys thisptr)

/-- What the original function gets over the calls of a process. -/
def handed (props : Option (SensorProps Shape Other)) :
    List (SensorProps Shape Other) → List (SensorProps Shape Other)
  | [] => []
  | thisptr :: ps =>
      let r := writeToParcel sys props thisptr
      r.2 :: handed r.1 ps

/-! ## What the shim takes from an object -/

variable {sys : System} {p p' : SensorProps Shape Other}

/-- Two lists of locations that differ in the radius of the first location
at most. -/
def SameUpToRadius : List (SensorLocation Shape) → List (SensorLocation Shape) → Prop
  | [], [] => True
  | loc :: locs, loc' :: locs' =>
      { loc with sensorRadius := loc'.sensorRadius } = loc' ∧ locs = locs'
  | _, _ => False

/-- **The two objects are alike to the shim**: they agree in what it does
not override, in the type unless the properties give one, and in the
locations unless the properties give them, up to a radius that the
properties give. -/
structure Alike (sys : System) (p p' : SensorProps Shape Other) : Prop where
  other : p.other = p'.other
  sensorType : sys.sensorType = none → p.sensorType = p'.sensorType
  sensorLocations :
    (sys.sensorLocations (sys.sensorType.getD p.sensorType) :
      Option (List (SensorLocation Shape))) = none →
      match sys.sensorRadius with
      | none => p.sensorLocations = p'.sensorLocations
      | some _ => SameUpToRadius p.sensorLocations p'.sensorLocations

omit [Inhabited Shape] in
theorem setRadius_none (locs : List (SensorLocation Shape)) : setRadius none locs = locs := by
  cases locs <;> rfl

omit [Inhabited Shape] in
theorem setRadius_some_iff {r : Int32} {locs locs' : List (SensorLocation Shape)} :
    setRadius (some r) locs = setRadius (some r) locs' ↔ SameUpToRadius locs locs' := by
  cases locs with
  | nil => cases locs' <;> simp [setRadius, SameUpToRadius]
  | cons loc locs =>
      cases locs' with
      | nil => simp [setRadius, SameUpToRadius]
      | cons loc' locs' =>
          obtain ⟨x, y, _, display, shape⟩ := loc
          obtain ⟨x', y', _, display', shape'⟩ := loc'
          simp [setRadius, SameUpToRadius]

/-- What the shim writes, by what each field comes from. -/
theorem sensorPropsInit_eq (sys : System) (props : SensorProps Shape Other) :
    sensorPropsInit sys props =
      ⟨sys.sensorType.getD props.sensorType,
        setRadius sys.sensorRadius
          ((sys.sensorLocations (sys.sensorType.getD props.sensorType)).getD
            props.sensorLocations),
        (sys.sensorType.getD props.sensorType).isUnderDisplay, props.other⟩ := rfl

/-- **Alike objects are rewritten to the same one**, and no others. -/
theorem sensorPropsInit_eq_iff :
    sensorPropsInit sys p = sensorPropsInit sys p' ↔ Alike sys p p' := by
  have htype : sys.sensorType.getD p.sensorType = sys.sensorType.getD p'.sensorType ↔
      (sys.sensorType = none → p.sensorType = p'.sensorType) := by
    cases sys.sensorType <;> simp
  have hlocations : ∀ given : Option (List (SensorLocation Shape)),
      setRadius sys.sensorRadius (given.getD p.sensorLocations) =
        setRadius sys.sensorRadius (given.getD p'.sensorLocations) ↔
      (given = none → match sys.sensorRadius with
        | none => p.sensorLocations = p'.sensorLocations
        | some _ => SameUpToRadius p.sensorLocations p'.sensorLocations) := by
    intro given
    cases given with
    | some locs => simp
    | none =>
        cases sys.sensorRadius with
        | none => simp [setRadius_none]
        | some r => simp [setRadius_some_iff]
  constructor
  · intro h
    simp only [sensorPropsInit_eq, SensorProps.mk.injEq] at h
    obtain ⟨hsame, hlocs, -, hother⟩ := h
    rw [← hsame] at hlocs
    exact ⟨hother, htype.mp hsame, (hlocations _).mp hlocs⟩
  · rintro ⟨hother, hsame, hlocs⟩
    have heff := htype.mpr hsame
    simp only [sensorPropsInit_eq, SensorProps.mk.injEq, ← heff, true_and]
    exact ⟨(hlocations _).mpr hlocs, hother⟩

/-! ## The calls of a process -/

/-- Once the `static` is there, every object is written as what it holds. -/
theorem handed_some (props : SensorProps Shape Other) (ps : List (SensorProps Shape Other)) :
    handed sys (some props) ps = ps.map fun _ => props := by
  induction ps with
  | nil => rfl
  | cons p ps ih =>
      show props :: handed sys (some props) ps = _
      rw [ih]
      rfl

/-- **When every object gets its own properties.** For every setting of the
properties, every mode list and every sequence of objects that a process
writes: each of them is written as the shim rewrites it if and only if all
of them are alike to the first. -/
theorem handed_eq_iff (sys : System) (ps : List (SensorProps Shape Other)) :
    handed sys none ps = ps.map (sensorPropsInit sys) ↔
      ∀ first ∈ ps.head?, ∀ p ∈ ps, Alike sys first p := by
  cases ps with
  | nil => simp [handed]
  | cons first ps =>
      have hcalls : handed sys none (first :: ps) =
          (first :: ps).map fun _ => sensorPropsInit sys first := by
        show sensorPropsInit sys first :: handed sys (some (sensorPropsInit sys first)) ps = _
        rw [handed_some]
        rfl
      rw [hcalls, List.map_inj_left]
      simp only [List.head?_cons, Option.mem_some_iff, forall_eq', sensorPropsInit_eq_iff]

end Init

/-- A device that sets no property. -/
def bareSystem : System := ⟨fun _ => [], none⟩

/-- **A second sensor**: the object of sensor 2 is written as sensor 1. -/
theorem second_object_handed_first :
    let first : SensorProps Unit Int32 := ⟨.rear, [], false, 1⟩
    let second : SensorProps Unit Int32 := ⟨.rear, [], false, 2⟩
    handed bareSystem none [first, second] = [first, first] ∧
      handed bareSystem none [first, second] ≠
        [first, second].map (sensorPropsInit bareSystem) := by
  decide

end OplusHardware.Fingerprint
