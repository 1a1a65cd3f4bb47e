import OplusHardware.Touch.SharedMask

/-!
# Touch — the list of gestures and the mask over whole runs

What `getSupportedGestures` lists, and what a sequence of
`setGestureEnabled` calls on listed gestures makes of the mask, through
the service and through the file.
-/

namespace OplusHardware.Touch

open OplusHardware.Base

/-! ## The list -/

/-- The gesture the loop pushes for an entry of the map, at an index. -/
def listed (x : (KGesture × String) × Nat) : Gesture :=
  ⟨.ofNat x.2, x.1.2, kGestureStartKey + .ofNat x.1.1.id⟩

/-- One iteration of the loop, by the bit it looks at. -/
theorem pushSupported_eq {supported : BitVec 32} {gestures : List Gesture}
    {x : KGesture × String} :
    pushSupported supported gestures x =
      if supported.getLsbD x.1.id then gestures ++ [listed (x, gestures.length)]
      else gestures := by
  have hlt := x.1.id_lt
  have hbit : supported &&& (1#32 <<< x.1.id) ≠ 0 ↔ supported.getLsbD x.1.id = true :=
    and_shiftLeft_ne_zero (by omega)
  unfold pushSupported
  split
  · rename_i hne
    rw [if_pos (hbit.mp hne)]
    rfl
  · rename_i hne
    rw [if_neg fun hget => hne (hbit.mpr hget)]

/-- **The loop lists the supported entries in the order of the map, with
their index as the id.** -/
theorem foldl_pushSupported {supported : BitVec 32} (xs : List (KGesture × String))
    (gestures : List Gesture) :
    xs.foldl (pushSupported supported) gestures =
      gestures ++ ((xs.filter fun x => supported.getLsbD x.1.id).zipIdx
        gestures.length).map listed := by
  induction xs generalizing gestures with
  | nil => simp
  | cons x xs ih =>
      rw [List.foldl_cons, ih, pushSupported_eq]
      cases hx : supported.getLsbD x.1.id with
      | true =>
          rw [if_pos rfl, List.filter_cons_of_pos (by simpa using hx)]
          simp [List.zipIdx_cons]
      | false =>
          rw [if_neg (by simp), List.filter_cons_of_neg (by simp [hx])]

theorem getSupportedGestures_eq (supported : BitVec 32) :
    getSupportedGestures supported =
      (kGestureNames.filter fun x => supported.getLsbD x.1.id).zipIdx.map listed :=
  foldl_pushSupported kGestureNames []

theorem gestureBit_listed (x : (KGesture × String) × Nat) :
    gestureBit (listed x) = x.1.1.id := by
  rw [gestureBit, listed, keycode_toInt, Int.toNat_natCast]

/-- The ids count the listed gestures. -/
theorem ids_getSupportedGestures (supported : BitVec 32) :
    (getSupportedGestures supported).map Gesture.id =
      (List.range (getSupportedGestures supported).length).map Int32.ofNat := by
  rw [getSupportedGestures_eq, List.map_map, List.length_map, List.length_zipIdx,
    List.range_eq_range', ← List.zipIdx_map_snd 0, List.map_map]
  rfl

/-- The bits of the listed gestures are the supported ones, in ascending
order. -/
theorem bits_getSupportedGestures (supported : BitVec 32) :
    (getSupportedGestures supported).map gestureBit =
      (List.range 19).filter fun i => supported.getLsbD i := by
  have hids : kGestureNames.map (fun x => x.1.id) = List.range 19 := by decide
  have hbits : gestureBit ∘ listed = (fun x => x.1.id) ∘ Prod.fst := by
    funext x
    exact gestureBit_listed x
  rw [getSupportedGestures_eq, List.map_map, hbits, ← List.map_map, List.zipIdx_map_fst, ← hids,
    List.filter_map]
  rfl

theorem nodup_bits_getSupportedGestures (supported : BitVec 32) :
    ((getSupportedGestures supported).map gestureBit).Nodup := by
  rw [bits_getSupportedGestures]
  exact List.nodup_range.filter _

/-- **The key codes are distinct**, as their bits are. -/
theorem nodup_keycodes (supported : BitVec 32) :
    ((getSupportedGestures supported).map Gesture.keycode).Nodup := by
  have hbits := nodup_bits_getSupportedGestures supported
  have hfactor : gestureBit =
      (fun k : Int32 => (k.toInt - kGestureStartKey.toInt).toNat) ∘ Gesture.keycode := rfl
  rw [hfactor, ← List.map_map] at hbits
  exact hbits.of_map _

/-! ## The driver -/

/-- The driver behind both ways to the mask node, and the number of reads
so far. -/
structure Driver where
  mask : BitVec 32
  reads : Nat

/-- What the driver makes of a written text: a number in base 10. -/
def parseMask (mask : BitVec 32) (info : List Char) : BitVec 32 :=
  match strtol 10 info with
  | some (v, _) => .ofInt 32 v
  | none => mask

/-- The driver serves the node and the file; `render` is what it answers
to the n-th read of a mask. Other nodes hold no mask. -/
def Driver.serve (render : Nat → BitVec 32 → List Char) (d : Driver) :
    (op : TouchOp) → Driver × op.Res
  | .touchReadNodeFile _ node =>
      if node = doubleTapIndepNode then
        ({ d with reads := d.reads + 1 }, render d.reads d.mask)
      else (d, [])
  | .touchWriteNodeFile _ node info =>
      (if node = doubleTapIndepNode then { d with mask := parseMask d.mask info } else d, ())
  | .readFileToString path =>
      if path = kGestureEnableIndepPath then
        ({ d with reads := d.reads + 1 }, some (render d.reads d.mask))
      else (d, none)
  | .writeStringToFile content path =>
      if path = kGestureEnableIndepPath then
        ({ d with mask := parseMask d.mask content }, true)
      else (d, false)

theorem parseMask_toText {mask contents : BitVec 32} :
    parseMask mask (toText contents.toInt) = contents := by
  rw [parseMask, strtol_toText_int]
  simp only [BitVec.ofInt_toInt]

section Runs

variable {render : Nat → BitVec 32 → List Char} {service : Bool} {d : Driver} {g : Gesture}
  {enabled : Bool} {id : KGesture}

/-- The contents a call works on. -/
theorem run_readContents_bind {α : Type} (f : Option (BitVec 32) → TouchProg α)
    (hrender : ∀ n m, m.toNat < 2 ^ 31 → Renders 16 m.toNat (render n m))
    (hd : d.mask.toNat < 2 ^ 31) :
    (readContents service >>= f).run (Driver.serve render) d =
      (f (some d.mask)).run (Driver.serve render) { d with reads := d.reads + 1 } := by
  have htext := hrender d.reads d.mask hd
  cases service with
  | true =>
      simp [readContents, touchReadNodeFile, Driver.serve, stoi16_renders htext hd]
  | false =>
      simp [readContents, readFileToString, Driver.serve, stoi16_renders (trim_renders htext) hd]

theorem run_writeContents {contents : BitVec 32} :
    (writeContents service contents).run (Driver.serve render) d =
      ({ d with mask := contents }, .ok .ok) := by
  have hother : doubleTapEnableNode ≠ doubleTapIndepNode := by decide
  cases service with
  | true =>
      simp [-bind_pure_comp, writeContents, touchWriteNodeFile, Driver.serve, hother,
        parseMask_toText]
  | false =>
      simp [-bind_pure_comp, writeContents, writeStringToFile, Driver.serve, parseMask_toText]

/-- **One call** at a distance the shift is defined for sets that bit of
the mask, and no other. -/
theorem run_setGestureEnabled_of_lt {k : Nat} (hk : k < 32)
    (hg : g.keycode.toInt - kGestureStartKey.toInt = k)
    (hrender : ∀ n m, m.toNat < 2 ^ 31 → Renders 16 m.toNat (render n m))
    (hd : d.mask.toNat < 2 ^ 31) :
    (setGestureEnabled service g enabled).run (Driver.serve render) d =
      (⟨setBit d.mask k enabled, d.reads + 1⟩, .ok .ok) := by
  have hset : (if enabled then d.mask ||| (1#32 <<< k)
      else d.mask &&& ~~~(1#32 <<< k)) = setBit d.mask k enabled := by
    cases enabled <;> rfl
  rw [setGestureEnabled, run_readContents_bind _ hrender hd]
  simp only [Prog.run_ofExcept_bind, hg, shl1_ofNat hk, hset]
  exact run_writeContents

/-- **One call on a gesture of the panel** sets its bit of the mask, and
no other. -/
theorem run_setGestureEnabled (hg : g.keycode = kGestureStartKey + .ofNat id.id)
    (hrender : ∀ n m, m.toNat < 2 ^ 31 → Renders 16 m.toNat (render n m))
    (hd : d.mask.toNat < 2 ^ 31) :
    (setGestureEnabled service g enabled).run (Driver.serve render) d =
      (⟨setBit d.mask id.id enabled, d.reads + 1⟩, .ok .ok) := by
  have hlt := id.id_lt
  apply run_setGestureEnabled_of_lt (by omega) _ hrender hd
  rw [hg, keycode_toInt]

/-- The calls of a list of requests. -/
def calls (service : Bool) (requests : List (Gesture × Bool)) : List (TouchProg AStatus) :=
  requests.map fun r => setGestureEnabled service r.1 r.2

/-- What the requests ask for, as updates of bits. -/
def bitUpdates (requests : List (Gesture × Bool)) : List (Update Nat Bool) :=
  requests.map fun r => ⟨gestureBit r.1, r.2⟩

/-- **All calls succeed and each bit ends as the requests settle it.** -/
theorem runAll_calls (service : Bool) {supported : BitVec 32} {requests : List (Gesture × Bool)}
    (hr : ∀ r ∈ requests, r.1 ∈ getSupportedGestures supported)
    (hrender : ∀ n m, m.toNat < 2 ^ 31 → Renders 16 m.toNat (render n m))
    (hd : d.mask.toNat < 2 ^ 31) :
    (∀ r ∈ (Prog.runAll (Driver.serve render) d (calls service requests)).2, r = .ok .ok) ∧
      ∀ i, (Prog.runAll (Driver.serve render) d (calls service requests)).1.mask.getLsbD i =
        settle i (bitUpdates requests) (d.mask.getLsbD i) := by
  induction requests generalizing d with
  | nil => exact ⟨by simp [calls, Prog.runAll], fun i => rfl⟩
  | cons r rs ih =>
      obtain ⟨id, -, hid⟩ := mem_getSupportedGestures (hr r (by simp))
      have hlt := id.id_lt
      have hbit : gestureBit r.1 = id.id := by
        rw [gestureBit, hid, keycode_toInt, Int.toNat_natCast]
      have hone : (setGestureEnabled service r.1 r.2).run (Driver.serve render) d = _ :=
        run_setGestureEnabled hid hrender hd
      obtain ⟨hok, hbits⟩ := ih (d := ⟨setBit d.mask id.id r.2, d.reads + 1⟩)
        (fun r' hr' => hr r' (by simp [hr'])) (setBit_lt (by omega) hd)
      rw [calls] at hok hbits
      simp only [calls, List.map_cons, Prog.runAll, hone]
      constructor
      · intro x hx
        rcases List.mem_cons.mp hx with rfl | hx
        · rfl
        · exact hok x hx
      · intro i
        rw [hbits i, getLsbD_setBit (by omega), Function.update_apply]
        show settle i (bitUpdates rs) _ = settle i (⟨gestureBit r.1, r.2⟩ :: bitUpdates rs) _
        rw [settle, hbit]
        simp only [eq_comm]

end Runs

/-! ## List and set -/

/-- A gesture that no request names keeps its bit out of the updates. -/
theorem gestureBit_ne {supported : BitVec 32} {g g' : Gesture}
    (hg : g ∈ getSupportedGestures supported) (hg' : g' ∈ getSupportedGestures supported)
    (hne : g' ≠ g) : gestureBit g' ≠ gestureBit g := by
  intro heq
  exact hne (List.inj_on_of_nodup_map (nodup_bits_getSupportedGestures supported) hg' hg heq)

/-- **The list and the mask agree.** Each supported gesture is listed once,
in ascending order with ids from 0 and its own key code. After any calls
on listed gestures the bit of a listed gesture holds what was last asked
for, and every other bit is as it was. -/
theorem list_and_set_agree (supported mask : BitVec 32) (reads : Nat) (service : Bool)
    (render : Nat → BitVec 32 → List Char) (requests : List (Gesture × Bool))
    (hnamed : ∀ i, supported.getLsbD i = true → ∃ x ∈ kGestureNames, x.1.id = i)
    (hrender : ∀ n m, m.toNat < 2 ^ 31 → Renders 16 m.toNat (render n m))
    (hmask : mask.toNat < 2 ^ 31)
    (hr : ∀ r ∈ requests, r.1 ∈ getSupportedGestures supported) :
    let gestures := getSupportedGestures supported
    let r := Prog.runAll (Driver.serve render) ⟨mask, reads⟩ (calls service requests)
    gestures.map Gesture.id = (List.range gestures.length).map Int32.ofNat ∧
      gestures.map gestureBit = (List.range 32).filter (fun i => supported.getLsbD i) ∧
      (gestures.map Gesture.keycode).Nodup ∧
      (∀ status ∈ r.2, status = .ok .ok) ∧
      (∀ pre g enabled post, requests = pre ++ (g, enabled) :: post →
        (∀ x ∈ post, x.1 ≠ g) → r.1.mask.getLsbD (gestureBit g) = enabled) ∧
      (∀ g ∈ gestures, (∀ x ∈ requests, x.1 ≠ g) →
        r.1.mask.getLsbD (gestureBit g) = mask.getLsbD (gestureBit g)) ∧
      ∀ i, (∀ g ∈ gestures, gestureBit g ≠ i) → r.1.mask.getLsbD i = mask.getLsbD i := by
  obtain ⟨hok, hbits⟩ := runAll_calls service (d := ⟨mask, reads⟩) hr hrender hmask
  have hunasked : ∀ i, (∀ x ∈ requests, gestureBit x.1 ≠ i) →
      settle i (bitUpdates requests) (mask.getLsbD i) = mask.getLsbD i := by
    intro i hi
    apply settle_of_untargeted
    intro u hu
    obtain ⟨x, hx, rfl⟩ := List.mem_map.mp hu
    exact hi x hx
  refine ⟨ids_getSupportedGestures supported, ?_, nodup_keycodes supported, hok, ?_, ?_, ?_⟩
  · -- a configuration of named gestures has no bit above the last name
    have hhigh : (List.range' 19 13).filter (fun i => supported.getLsbD i) = [] := by
      rw [List.filter_eq_nil_iff]
      intro i hi hget
      obtain ⟨x, -, hx⟩ := hnamed i hget
      have hlt := x.1.id_lt
      have hge := (List.mem_range'_1.mp hi).1
      omega
    have hsplit : List.range 32 = List.range 19 ++ List.range' 19 13 := by decide
    rw [bits_getSupportedGestures, hsplit, List.filter_append, hhigh, List.append_nil]
  · intro pre g enabled post heq hpost
    have hg : g ∈ getSupportedGestures supported := hr (g, enabled) (by simp [heq])
    rw [hbits, heq, bitUpdates, List.map_append, List.map_cons]
    apply settle_last (u := ⟨gestureBit g, enabled⟩) rfl
    intro u hu
    obtain ⟨x, hx, rfl⟩ := List.mem_map.mp hu
    exact gestureBit_ne hg (hr x (by simp [heq, hx])) (hpost x hx)
  · intro g hg hnone
    rw [hbits]
    apply hunasked
    intro x hx
    exact gestureBit_ne hg (hr x hx) (hnone x hx)
  · intro i hi
    rw [hbits]
    apply hunasked
    intro x hx
    exact hi x.1 (hr x hx)

/-- The driver's text: lower case, and a line break. -/
def renderLine (_ : Nat) (mask : BitVec 32) : List Char := Nat.toDigits 16 mask.toNat ++ ['\n']

theorem renders_renderLine (n : Nat) (m : BitVec 32) : Renders 16 m.toNat (renderLine n m) :=
  renders_toDigits (by omega) (by omega) m.toNat isSpace_lineBreak

theorem list_and_set_agree_letterO :
    (Prog.runAll (Driver.serve renderLine) ⟨2#32, 0⟩
        (calls false [(letterO, false), (letterO, true)])).1.mask.getLsbD 6 = true ∧
      (Prog.runAll (Driver.serve renderLine) ⟨2#32, 0⟩
        (calls false [(letterO, false), (letterO, true)])).1.mask.getLsbD 1 = true := by
  have hnamed : ∀ i, kSupportedGestures.getLsbD i = true → ∃ x ∈ kGestureNames, x.1.id = i := by
    intro i hi
    have hlt : i < 32 := BitVec.lt_of_getLsbD hi
    interval_cases i <;> revert hi <;> decide
  have h := list_and_set_agree kSupportedGestures 2#32 0 false renderLine
    [(letterO, false), (letterO, true)] hnamed (fun n m _ => renders_renderLine n m)
    (by decide) (by decide)
  obtain ⟨-, -, -, -, hlast, -, hother⟩ := h
  refine ⟨hlast [(letterO, false)] letterO true [] rfl (by simp), ?_⟩
  exact hother 1 (by decide)

end OplusHardware.Touch
