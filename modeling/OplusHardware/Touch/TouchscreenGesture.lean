import OplusHardware.Touch.Node

/-!
# Touch — TouchscreenGesture

`class TouchscreenGesture`: the gestures the panel knows, the ones a
device supports, and the read–modify–write of the mask of enabled ones.
-/

namespace OplusHardware.Touch

open OplusHardware.Base

def kGestureStartKey : Int32 := 246

def kGestureEnableIndepPath : String := "/proc/touchpanel/double_tap_enable_indep"

/-- The gestures of the panel driver, in its order. -/
inductive KGesture where
  | unknown
  | doubleTap
  | upVee
  | downVee
  | leftVee
  | rightVee
  | circle
  | doubleSwipe
  | leftToRight
  | rightToLeft
  | upToDown
  | downToUp
  | m
  | w
  | fingerprintDown
  | fingerprintUp
  | singleTap
  | heart
  | s
  deriving DecidableEq, Repr

/-- The enumerator's value. -/
def KGesture.id (k : KGesture) : Nat := k.ctorIdx

/-- Ordered by key, as the `std::map` iterates. -/
def kGestureNames : List (KGesture × String) :=
  [ (.unknown, "Unknown"),
    (.doubleTap, "Double tap"),
    (.upVee, "Down arrow"),
    (.downVee, "Up arrow"),
    (.leftVee, "Right arrow"),
    (.rightVee, "Left arrow"),
    (.circle, "Letter O"),
    (.doubleSwipe, "Two fingers down swipe"),
    (.leftToRight, "One finger right swipe"),
    (.rightToLeft, "One finger left swipe"),
    (.upToDown, "One finger down swipe"),
    (.downToUp, "One finger up swipe"),
    (.m, "Letter M"),
    (.w, "Letter W"),
    (.fingerprintDown, "Fingerprint down"),
    (.fingerprintUp, "Fingerprint up"),
    (.singleTap, "Single tap"),
    (.heart, "Heart"),
    (.s, "Letter S") ]

def makeBitField (gestures : List KGesture) : BitVec 32 :=
  gestures.foldr (fun k mask => (1 <<< k.id) ||| mask) 0

/-- The default configuration. -/
def kSupportedGestures : BitVec 32 :=
  makeBitField [.upVee, .downVee, .leftVee, .rightVee, .circle, .doubleSwipe,
    .leftToRight, .rightToLeft, .upToDown, .downToUp, .m, .w, .singleTap, .s]

structure Gesture where
  id : Int32
  name : String
  keycode : Int32
  deriving DecidableEq, Repr

/-- One iteration of the loop in `getSupportedGestures`. -/
def pushSupported (supported : BitVec 32) (gestures : List Gesture)
    (x : KGesture × String) : List Gesture :=
  if supported &&& (1 <<< x.1.id) ≠ 0 then
    gestures ++ [⟨.ofNat gestures.length, x.2, kGestureStartKey + .ofNat x.1.id⟩]
  else gestures

/-- `TouchscreenGesture::getSupportedGestures`, for a configuration. -/
def getSupportedGestures (supported : BitVec 32) : List Gesture :=
  kGestureNames.foldl (pushSupported supported) []

/-- The first part of `setGestureEnabled`: the contents of the node, or
`none` where there is neither a service nor a file. -/
def readContents (mOplusTouch : Bool) : TouchProg (Option (BitVec 32)) :=
  if mOplusTouch then do
    let tmp ← touchReadNodeFile defaultTpIcId doubleTapIndepNode
    let contents ← .ofExcept (stoi16 tmp)
    return some contents
  else do
    match ← readFileToString kGestureEnableIndepPath with
    | some tmp =>
        let contents ← .ofExcept (stoi16 (trim tmp))
        return some contents
    | none => return none

/-- The last part of `setGestureEnabled`. -/
def writeContents (mOplusTouch : Bool) (contents : BitVec 32) : TouchProg AStatus :=
  if mOplusTouch then do
    touchWriteNodeFile defaultTpIcId doubleTapEnableNode ['1']
    touchWriteNodeFile defaultTpIcId doubleTapIndepNode (toText contents.toInt)
    return .ok
  else do
    let written ← writeStringToFile (toText contents.toInt) kGestureEnableIndepPath
    return if written then .ok else .exUnsupportedOperation

/-- `TouchscreenGesture::setGestureEnabled`. -/
def setGestureEnabled (mOplusTouch : Bool) (gesture : Gesture) (enabled : Bool) :
    TouchProg AStatus := do
  match ← readContents mOplusTouch with
  | none => return .exUnsupportedOperation
  | some contents =>
      let bit ← .ofExcept (shl1 (gesture.keycode.toInt - kGestureStartKey.toInt))
      writeContents mOplusTouch
        (if enabled then contents ||| bit else contents &&& ~~~bit)

/-! ## What the list offers -/

theorem KGesture.id_lt (k : KGesture) : k.id < 19 := by
  cases k <;> decide

theorem keycode_toInt (k : KGesture) :
    (kGestureStartKey + .ofNat k.id).toInt - kGestureStartKey.toInt = k.id := by
  cases k <;> decide

theorem and_shiftLeft_ne_zero {mask : BitVec 32} {k : Nat} (hk : k < 32) :
    mask &&& (1#32 <<< k) ≠ 0 ↔ mask.getLsbD k = true := by
  constructor
  · intro h
    by_contra hbit
    refine h (BitVec.eq_of_getLsbD_eq fun i _ => ?_)
    rw [BitVec.getLsbD_and, getLsbD_one_shiftLeft hk]
    by_cases hik : i = k
    · subst hik
      simp [hbit]
    · simp [hik]
  · intro hbit h
    have hget : (mask &&& (1#32 <<< k)).getLsbD k = (0#32).getLsbD k := by rw [h]; rfl
    rw [BitVec.getLsbD_and, getLsbD_one_shiftLeft hk, hbit] at hget
    simp at hget

/-- One iteration of the loop adds at most the gesture it looks at. -/
theorem mem_pushSupported {supported : BitVec 32} {gestures : List Gesture}
    {x : KGesture × String} {g : Gesture} (hg : g ∈ pushSupported supported gestures x) :
    g ∈ gestures ∨ (supported.getLsbD x.1.id = true ∧
      g.keycode = kGestureStartKey + .ofNat x.1.id) := by
  rw [pushSupported] at hg
  split at hg
  · rename_i hbit
    rcases List.mem_append.mp hg with hg | hg
    · exact .inl hg
    · refine .inr ⟨(and_shiftLeft_ne_zero ?_).mp hbit, by rw [List.mem_singleton.mp hg]⟩
      have := x.1.id_lt
      omega
  · exact .inl hg

/-- **A listed gesture is a supported one**: its key code stands for a
gesture of the panel whose bit the configuration sets. -/
theorem mem_getSupportedGestures {supported : BitVec 32} {g : Gesture}
    (hg : g ∈ getSupportedGestures supported) :
    ∃ k : KGesture, supported.getLsbD k.id = true ∧
      g.keycode = kGestureStartKey + .ofNat k.id := by
  have hfold : ∀ (xs : List (KGesture × String)) (gestures : List Gesture),
      g ∈ xs.foldl (pushSupported supported) gestures →
      g ∈ gestures ∨ ∃ k : KGesture, supported.getLsbD k.id = true ∧
        g.keycode = kGestureStartKey + .ofNat k.id := by
    intro xs
    induction xs with
    | nil => exact fun _ hg => .inl hg
    | cons x xs ih =>
        intro gestures hg
        rcases ih _ hg with hg | hg
        · rcases mem_pushSupported hg with hg | hg
          · exact .inl hg
          · exact .inr ⟨x.1, hg⟩
        · exact .inr hg
  rcases hfold _ _ hg with hg | hg
  · cases hg
  · exact hg

end OplusHardware.Touch
