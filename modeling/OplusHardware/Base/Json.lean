import Mathlib.Algebra.Group.Int.Defs
import Mathlib.Algebra.Group.Nat.Defs
import Mathlib.Data.List.AList
import Mathlib.Tactic.Common

/-!
# JSON values with partial accessors

A JSON tree as a reader with checked accessors sees it. Looking a key up
is defined on `null` and on objects, and conversion to a string on
everything but the two containers; on any other value they fail.

Beside each partial accessor stands the total one it agrees with where it
does not fail. `emplace` is the insertion that leaves a key alone that is
there already, as a loader of such a tree uses it.
-/

namespace OplusHardware.Base

/-- What a failed accessor was asked for. -/
inductive JsonFailure where
  | operatorBracket
  | asString
  deriving DecidableEq, Repr

/-- A JSON value. `members` are in the order an iteration visits them. A
number with a fraction or an exponent carries the 32-bit unsigned integer
it is, if it is one, and its text. -/
inductive Json where
  | null
  | bool (b : Bool)
  | int (n : Int)
  | real (uint : Option UInt32) (text : String)
  | string (s : String)
  | array (elements : List Json)
  | object (members : List (String × Json))

namespace Json

def isObject : Json → Bool
  | .object _ => true
  | _ => false

def isNull : Json → Bool
  | .null => true
  | _ => false

/-- An array or an object. -/
def isContainer : Json → Bool
  | .array _ => true
  | .object _ => true
  | _ => false

/-- What an iteration over the value visits, where it is an array. -/
def elements : Json → List Json
  | .array l => l
  | _ => []

/-- What an iteration over the value visits, where it is an object. -/
def members : Json → List (String × Json)
  | .object l => l
  | _ => []

/-- The value under a key, `null` where there is none. -/
def member (key : String) (v : Json) : Json :=
  match v.members.find? (·.1 = key) with
  | some m => m.2
  | none => .null

/-- The text of a value that is no container. -/
def text : Json → String
  | .null => ""
  | .bool b => if b then "true" else "false"
  | .int n => toString n
  | .real _ t => t
  | .string s => s
  | .array _ => ""
  | .object _ => ""

/-- The 32-bit unsigned integer a value is, if it is one. -/
def uint? : Json → Option UInt32
  | .int n => if 0 ≤ n ∧ n < 2 ^ 32 then some (UInt32.ofInt n) else none
  | .real u _ => u
  | _ => none

/-! ## The checked accessors -/

/-- `operator[]` with a string key. -/
def get (v : Json) (key : String) : Except JsonFailure Json :=
  if v.isNull || v.isObject then .ok (v.member key) else .error .operatorBracket

/-- `asString`. -/
def asString (v : Json) : Except JsonFailure String :=
  if v.isContainer then .error .asString else .ok v.text

/-- `isUInt`, and `asUInt` where it holds. -/
def isUInt (v : Json) : Bool := v.uint?.isSome

def asUInt (v : Json) : UInt32 := v.uint?.getD 0

/-- `isArray() && !empty()`. -/
def isNonEmptyArray : Json → Bool
  | .array l => !l.isEmpty
  | _ => false

theorem eq_null {v : Json} (h : v.isNull = true) : v = .null := by
  cases v <;> first | rfl | cases h

theorem eq_object {v : Json} (h : v.isObject = true) : v = .object v.members := by
  cases v <;> first | rfl | cases h

theorem members_of_not_object {v : Json} (h : v.isObject = false) : v.members = [] := by
  cases v <;> first | rfl | cases h

theorem get_object {v : Json} (h : v.isObject = true) (key : String) :
    v.get key = .ok (v.member key) := by
  rw [get, h, Bool.or_true]
  rfl

theorem get_other {v : Json} (hnull : v.isNull = false) (hobj : v.isObject = false)
    (key : String) : v.get key = .error .operatorBracket := by
  rw [get, hnull, hobj]
  rfl

theorem asString_text {v : Json} (h : v.isContainer = false) : v.asString = .ok v.text := by
  rw [asString, h]
  rfl

theorem asString_container {v : Json} (h : v.isContainer = true) :
    v.asString = .error .asString := by
  rw [asString, h]
  rfl

theorem asUInt_of_uint? {v : Json} {n : UInt32} (h : v.uint? = some n) :
    v.isUInt = true ∧ v.asUInt = n := by
  rw [isUInt, asUInt, h]
  exact ⟨rfl, rfl⟩

theorem isUInt_of_none {v : Json} (h : v.uint? = none) : v.isUInt = false := by
  rw [isUInt, h]
  rfl

end Json

/-! ## Insertion that keeps the first -/

section Emplace

variable {κ ν : Type} [DecidableEq κ]

/-- `emplace` on a map. -/
def emplace (m : AList fun _ : κ => ν) (k : κ) (v : ν) : AList fun _ : κ => ν :=
  if k ∈ m then m else m.insert k v

theorem lookup_emplace (m : AList fun _ : κ => ν) (k a : κ) (v : ν) :
    (emplace m k v).lookup a = (m.lookup a).or (if k = a then some v else none) := by
  rw [emplace]
  split
  · rename_i hk
    by_cases ha : k = a
    · subst ha
      obtain ⟨w, hw⟩ := Option.isSome_iff_exists.mp (AList.lookup_isSome.mpr hk)
      rw [hw, Option.some_or]
    · rw [if_neg ha, Option.or_none]
  · rename_i hk
    by_cases ha : k = a
    · subst ha
      rw [AList.lookup_insert, AList.lookup_eq_none.mpr hk, if_pos rfl, Option.none_or]
    · rw [AList.lookup_insert_ne (Ne.symm ha), if_neg ha, Option.or_none]

/-- The values of a list emplaced one after the other, each under its key. -/
def emplaceAll (key : ν → κ) (m : AList fun _ : κ => ν) (l : List ν) :
    AList fun _ : κ => ν :=
  l.foldl (fun m v => emplace m (key v) v) m

/-- **The first wins**: a lookup finds what was there, and else the first
value of the list under that key. -/
theorem lookup_emplaceAll (key : ν → κ) (m : AList fun _ : κ => ν) (l : List ν) (a : κ) :
    (emplaceAll key m l).lookup a = (m.lookup a).or (l.find? fun v => key v = a) := by
  induction l generalizing m with
  | nil =>
      show m.lookup a = _
      rw [List.find?_nil, Option.or_none]
  | cons v rest ih =>
      show (emplaceAll key (emplace m (key v) v) rest).lookup a = _
      rw [ih, lookup_emplace, Option.or_assoc]
      by_cases hv : key v = a
      · rw [if_pos hv, Option.some_or, List.find?_cons_of_pos (by simpa using hv)]
      · rw [if_neg hv, Option.none_or, List.find?_cons_of_neg (by simpa using hv)]

end Emplace

end OplusHardware.Base
