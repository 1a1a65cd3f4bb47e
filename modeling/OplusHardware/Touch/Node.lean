import OplusHardware.Base.Binder
import OplusHardware.Base.Numeral
import OplusHardware.Base.Program

/-!
# Touch — nodes and masks

How the HALs reach the touch panel: through the `IOplusTouch` service,
node by node, or through a file below `/proc/touchpanel`. A mask is an
`int`, kept as its 32 bits.
-/

namespace OplusHardware.Touch

open OplusHardware.Base

/-! ## OplusTouchConstants -/

def defaultTpIcId : Int32 := 0
def doubleTapGesture : BitVec 32 := 1 <<< 1
def doubleTapEnableNode : Int32 := 1
def doubleTapIndepNode : Int32 := 21

/-! ## Calls -/

/-- The calls that leave the HAL process. A read through the service
answers the out parameter, which a failed call leaves empty; the status
of a write is read nowhere. -/
inductive TouchOp where
  | touchReadNodeFile (deviceId nodeFlag : Int32)
  | touchWriteNodeFile (deviceId nodeFlag : Int32) (info : List Char)
  | readFileToString (path : String)
  | writeStringToFile (content : List Char) (path : String)

abbrev TouchOp.Res : TouchOp → Type
  | .touchReadNodeFile .. => List Char
  | .touchWriteNodeFile .. => Unit
  | .readFileToString _ => Option (List Char)
  | .writeStringToFile .. => Bool

/-- What ends a call without a status: `std::stoi` throws, or a shift
distance lies outside the width of `int`. -/
inductive Fault where
  | stoi (e : StoiError)
  | shift
  deriving DecidableEq, Repr

abbrev TouchProg (α : Type) := Prog TouchOp TouchOp.Res Fault α

def touchReadNodeFile (deviceId nodeFlag : Int32) : TouchProg (List Char) :=
  .perform (TouchOp.touchReadNodeFile deviceId nodeFlag)

def touchWriteNodeFile (deviceId nodeFlag : Int32) (info : List Char) : TouchProg Unit :=
  .perform (TouchOp.touchWriteNodeFile deviceId nodeFlag info)

def readFileToString (path : String) : TouchProg (Option (List Char)) :=
  .perform (TouchOp.readFileToString path)

def writeStringToFile (content : List Char) (path : String) : TouchProg Bool :=
  .perform (TouchOp.writeStringToFile content path)

/-- `std::stoi(text, nullptr, 16)` as an `int`. -/
def stoi16 (text : List Char) : Except Fault (BitVec 32) :=
  match stoi 16 text with
  | .ok v => .ok (BitVec.ofInt 32 v)
  | .error e => .error (.stoi e)

/-- `1 << n` for an `int` distance. -/
def shl1 (n : Int) : Except Fault (BitVec 32) :=
  if 0 ≤ n ∧ n < 32 then .ok (1#32 <<< n.toNat) else .error .shift

/-- `android::base::Trim`. -/
def trim (text : List Char) : List Char :=
  ((text.dropWhile isSpace).reverse.dropWhile isSpace).reverse

/-- A mask with one bit given a value: `contents |= 1 << k` or
`contents &= ~(1 << k)`. -/
def setBit (contents : BitVec 32) (k : Nat) (value : Bool) : BitVec 32 :=
  if value then contents ||| (1#32 <<< k) else contents &&& ~~~(1#32 <<< k)

/-! ## One bit of a mask -/

theorem shl1_ofNat {k : Nat} (hk : k < 32) : shl1 k = .ok (1#32 <<< k) := by
  rw [shl1, if_pos (by omega), Int.toNat_natCast]

theorem getLsbD_one_shiftLeft {k i : Nat} (hk : k < 32) :
    (1#32 <<< k).getLsbD i = decide (i = k) := by
  by_cases hi : i < 32
  · by_cases hik : i = k
    · simp [hik, hk]
    · have hne : i - k = 0 → i < k := by omega
      by_cases hlt : i < k
      · simp [hlt, hik]
      · simp [hik, BitVec.getLsbD_one]
        omega
  · rw [BitVec.getLsbD_of_ge _ _ (by omega)]
    simp only [Bool.false_eq, decide_eq_false_iff_not]
    omega

/-- `setBit` is an update of one cell of the mask. -/
theorem getLsbD_setBit {contents : BitVec 32} {k : Nat} {value : Bool} (hk : k < 32) :
    (setBit contents k value).getLsbD = Function.update contents.getLsbD k value := by
  funext i
  rw [Function.update_apply]
  cases value with
  | true =>
      rw [setBit, if_pos rfl, BitVec.getLsbD_or, getLsbD_one_shiftLeft hk]
      by_cases hik : i = k <;> simp [hik]
  | false =>
      rw [setBit, if_neg (by simp), BitVec.getLsbD_and, BitVec.getLsbD_not,
        getLsbD_one_shiftLeft hk]
      by_cases hik : i = k
      · simp [hik]
      · by_cases hi : i < 32
        · simp [hik, hi]
        · simp [hik, hi, BitVec.getLsbD_of_ge _ _ (Nat.le_of_not_lt hi)]

/-- A mask in `[0, 2^31)` is one whose sign bit is clear. -/
theorem lt_iff_getLsbD {contents : BitVec 32} :
    contents.toNat < 2 ^ 31 ↔ contents.getLsbD 31 = false := by
  rw [BitVec.getLsbD, Nat.testBit_eq_decide_div_mod_eq]
  have := contents.isLt
  simp only [decide_eq_false_iff_not]
  omega

theorem setBit_lt {contents : BitVec 32} {k : Nat} {value : Bool} (hk : k < 31)
    (h : contents.toNat < 2 ^ 31) : (setBit contents k value).toNat < 2 ^ 31 := by
  rw [lt_iff_getLsbD] at h ⊢
  rw [getLsbD_setBit (by omega), Function.update_of_ne (by omega), h]

/-! ## Masks as text -/

/-- `stoi` in base 16 reads any base-16 text of a mask. -/
theorem stoi16_renders {contents : BitVec 32} {text : List Char}
    (h : Renders 16 contents.toNat text) (hlt : contents.toNat < 2 ^ 31) :
    stoi16 text = .ok contents := by
  rw [stoi16, stoi_renders (by omega) h hlt]
  simp

/-- Trimming removes the white space behind a numeral and nothing else. -/
theorem trim_renders {n : Nat} {text : List Char} (h : Renders 16 n text) :
    Renders 16 n (trim text) := by
  obtain ⟨ds, ws, rfl, hnum, hws⟩ := h
  obtain ⟨hne, hscan⟩ := hnum
  have hall := (scanDigits_append ws hscan).2
  have hplain : ∀ c ∈ ds, isSpace c = false := fun c hc => (digit_plain (hall c hc)).1
  have hkeep : ∀ (cs : List Char) (rest : List Char), cs ≠ [] →
      (∀ c ∈ cs, isSpace c = false) → (cs ++ rest).dropWhile isSpace = cs ++ rest := by
    intro cs rest hcs hspace
    cases cs with
    | nil => exact absurd rfl hcs
    | cons c cs =>
        rw [List.cons_append, List.dropWhile_cons, hspace c (by simp), if_neg (by simp)]
  have htrim : trim (ds ++ ws) = ds := by
    rw [trim, hkeep ds ws hne hplain, List.reverse_append,
      List.dropWhile_append_of_pos (by simpa using hws)]
    have hrev := hkeep ds.reverse [] (by simpa using hne) (by simpa using hplain)
    rw [List.append_nil] at hrev
    rw [hrev, List.reverse_reverse]
  rw [htrim]
  exact ⟨ds, [], (List.append_nil ds).symm, ⟨hne, hscan⟩, by simp⟩

end OplusHardware.Touch
