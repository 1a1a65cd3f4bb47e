import OplusHardware.Touch.GestureRuns

/-!
# Touch — requests for any key code

`setGestureEnabled` takes the key code of the client as it is. For a
gesture the list does not offer, the distance from `kGestureStartKey` is
the shift distance all the same.
-/

namespace OplusHardware.Touch

open OplusHardware.Base

/-- The shift distance: `gesture.keycode - kGestureStartKey`. -/
def distance (g : Gesture) : Int := g.keycode.toInt - kGestureStartKey.toInt

section

variable {render : Nat → BitVec 32 → List Char} {service : Bool} {d : Driver} {g : Gesture}
  {enabled : Bool}

/-- Outside the width of an `int` the call ends in the shift, before it
writes anything. -/
theorem run_setGestureEnabled_of_not_lt (hg : ¬ (0 ≤ distance g ∧ distance g < 32))
    (hrender : ∀ n m, m.toNat < 2 ^ 31 → Renders 16 m.toNat (render n m))
    (hd : d.mask.toNat < 2 ^ 31) :
    (setGestureEnabled service g enabled).run (Driver.serve render) d =
      (⟨d.mask, d.reads + 1⟩, .error .shift) := by
  have hshift : shl1 (g.keycode.toInt - kGestureStartKey.toInt) = .error .shift := if_neg hg
  rw [setGestureEnabled, run_readContents_bind _ hrender hd]
  simp only [Prog.run_ofExcept_bind, hshift]

/-- A bit set to the value it has is no change, and any other is a change
of that bit. -/
theorem setBit_changes_iff {contents supported : BitVec 32} {k : Nat} {value : Bool}
    (hk : k < 32) :
    (∀ i, (setBit contents k value).getLsbD i ≠ contents.getLsbD i →
      supported.getLsbD i = true) ↔
      supported.getLsbD k = true ∨ contents.getLsbD k = value := by
  simp only [getLsbD_setBit hk, Function.update_apply]
  constructor
  · intro h
    by_cases hsame : contents.getLsbD k = value
    · exact .inr hsame
    · left
      apply h k
      rw [if_pos rfl]
      exact Ne.symm hsame
  · intro h i hi
    by_cases hik : i = k
    · subst hik
      rw [if_pos rfl] at hi
      exact h.resolve_right (Ne.symm hi)
    · rw [if_neg hik] at hi
      exact absurd rfl hi

/-- **A request does no harm**: it shifts within the width of an `int`; it
is refused with the mask unchanged, or changes supported bits only; and
the double-tap bit of the Power HAL stays as it was. -/
structure Harmless (render : Nat → BitVec 32 → List Char) (service : Bool) (d : Driver)
    (g : Gesture) (enabled : Bool) : Prop where
  shift : ((setGestureEnabled service g enabled).run (Driver.serve render) d).2 ≠ .error .shift
  mask :
    let r := (setGestureEnabled service g enabled).run (Driver.serve render) d
    (∃ status, r.2 = .ok status ∧ status ≠ .ok ∧ r.1.mask = d.mask) ∨
      ∀ i, r.1.mask.getLsbD i ≠ d.mask.getLsbD i → kSupportedGestures.getLsbD i = true
  doubleTap :
    ((setGestureEnabled service g enabled).run (Driver.serve render) d).1.mask.getLsbD
      KGesture.doubleTap.id = d.mask.getLsbD KGesture.doubleTap.id

end

/-- **When a request does no harm.** For every key code, id and name,
either value of `enabled`, every mask in `[0, 2^31)` and both ways to the
node: no harm is done if and only if the distance lies in `[0, 32)` and
its bit is a supported one, or has the value asked for already. -/
theorem harmless_iff (render : Nat → BitVec 32 → List Char) (service : Bool) (d : Driver)
    (g : Gesture) (enabled : Bool)
    (hrender : ∀ n m, m.toNat < 2 ^ 31 → Renders 16 m.toNat (render n m))
    (hd : d.mask.toNat < 2 ^ 31) :
    Harmless render service d g enabled ↔
      ∃ k : Nat, k < 32 ∧ distance g = k ∧
        (kSupportedGestures.getLsbD k = true ∨ d.mask.getLsbD k = enabled) := by
  by_cases hrange : 0 ≤ distance g ∧ distance g < 32
  · obtain ⟨k, hk⟩ := Int.eq_ofNat_of_zero_le hrange.1
    have hlt : k < 32 := by omega
    have hrun : (setGestureEnabled service g enabled).run (Driver.serve render) d = _ :=
      run_setGestureEnabled_of_lt hlt hk hrender hd
    constructor
    · intro h
      have hmask := h.mask
      refine ⟨k, hlt, hk, ?_⟩
      rw [hrun] at hmask
      rcases hmask with ⟨status, hok, hne, -⟩ | hbits
      · cases hok
        exact absurd rfl hne
      · exact (setBit_changes_iff hlt).mp hbits
    · rintro ⟨k', -, hk', hbit⟩
      obtain rfl : k' = k := by omega
      have hbits : ∀ i, (setBit d.mask k' enabled).getLsbD i ≠ d.mask.getLsbD i →
          kSupportedGestures.getLsbD i = true := (setBit_changes_iff hlt).mpr hbit
      constructor
      · rw [hrun]
        simp
      · rw [hrun]
        exact .inr hbits
      · rw [hrun]
        -- the double-tap bit is no supported one
        by_contra hne
        have hdouble := hbits KGesture.doubleTap.id hne
        revert hdouble
        decide
  · constructor
    · intro h
      exact absurd (by rw [run_setGestureEnabled_of_not_lt hrange hrender hd]) h.shift
    · rintro ⟨k, hlt, hk, -⟩
      omega

/-- The gesture that the list calls "Letter O", as a client passes it. -/
theorem harmless_iff_letterO : Harmless renderLine true ⟨2#32, 0⟩ letterO true := by
  rw [harmless_iff renderLine true ⟨2#32, 0⟩ letterO true (fun n m _ => renders_renderLine n m)
    (by decide)]
  exact ⟨6, by decide, rfl, .inl (by decide)⟩

/-- The first key code past `kGestureStartKey`, which the list of gestures
leaves out. -/
def doubleTapRequest : Gesture := ⟨0, "", 247⟩

/-- **A client turns double-tap off**: a request for key code 247 clears
the bit that the Power HAL has set, and is answered ok. -/
theorem doubleTap_cleared :
    (setGestureEnabled true doubleTapRequest false).run (Driver.serve renderLine) ⟨2#32, 0⟩ =
        (⟨0#32, 1⟩, .ok .ok) ∧
      ¬ Harmless renderLine true ⟨2#32, 0⟩ doubleTapRequest false := by
  have hrun : (setGestureEnabled true doubleTapRequest false).run
      (Driver.serve renderLine) ⟨2#32, 0⟩ = (⟨0#32, 1⟩, .ok .ok) :=
    run_setGestureEnabled_of_lt (k := 1) (d := ⟨2#32, 0⟩) (by decide) rfl
      (fun n m _ => renders_renderLine n m) (by decide)
  refine ⟨hrun, ?_⟩
  intro h
  have hbit := h.doubleTap
  rw [hrun] at hbit
  revert hbit
  decide

end OplusHardware.Touch
