import OplusHardware.NrModeSwitcher.Runs

/-!
# NrModeSwitcher — the end of main

However the services answer, `main` comes to its end, after at most a
hundred requests for each slot, and its exit code says whether a slot was
given up.
-/

namespace OplusHardware.NrModeSwitcher

open OplusHardware.Base

/-! ## What is left to do -/

/-- The calls of one slot: a lookup, its attempts with a look each, and
giving up. -/
def slotCalls : Nat := 2 * kRetries + 2

def Pc.callsLeft : Pc → Nat
  | .lookup i => if i < kMaxSimSlot then (kMaxSimSlot - i) * slotCalls else slotCalls
  | .request i retry => (kMaxSimSlot - 1 - i) * slotCalls + 2 * retry + 1
  | .test i retry _ => (kMaxSimSlot - 1 - i) * slotCalls + 2 * (retry - 1) + 2
  | .returned => 0

/-- What was asked of each slot, by where `main` is. -/
def Pc.Asked (count : Nat → Nat) : Pc → Prop
  | .lookup i => ∀ j, i ≤ j → count j = 0
  | .request i retry => count i + retry = kRetries ∧ ∀ j, i < j → count j = 0
  | .test i retry _ =>
      0 < retry ∧ count i + retry = kRetries + 1 ∧ ∀ j, i < j → count j = 0
  | .returned => True

namespace Switcher

variable {s t : Switcher} {a : Action} {i j : Nat} {mode : Int}
  {h : List (Switcher × Action)}

/-- A step of `main`. -/
def own (x : Switcher × Action) : Bool :=
  match x.2 with
  | .respond _ _ _ => false
  | _ => true

/-- The step calls `setNrMode` of slot `j`. -/
def requests (j : Nat) (x : Switcher × Action) : Bool :=
  match x.2, x.1.pc with
  | .setNrMode _, .request i _ => i = j
  | _, _ => false

theorem nextSlot_pc (s : Switcher) (i : Nat) :
    (s.nextSlot i).pc = if i + 1 < kMaxSimSlot then .lookup (i + 1) else .returned := rfl

theorem setNrModeResponse_pc (s : Switcher) (i : Nat) (result : Int) (aliased : Bool) :
    (s.setNrModeResponse i result aliased).pc = s.pc := by
  unfold setNrModeResponse
  split
  · rfl
  · split <;> rfl

theorem setNrModeResponse_rc (s : Switcher) (i : Nat) (result : Int) (aliased : Bool) :
    (s.setNrModeResponse i result aliased).rc = s.rc := by
  unfold setNrModeResponse
  split
  · rfl
  · split <;> rfl

/-- Leaving a slot costs nothing of the later ones. -/
theorem callsLeft_nextSlot (s : Switcher) (i : Nat) :
    (s.nextSlot i).pc.callsLeft ≤ (kMaxSimSlot - 1 - i) * slotCalls := by
  rw [nextSlot_pc]
  split
  · rename_i hlt
    have hsame : kMaxSimSlot - (i + 1) = kMaxSimSlot - 1 - i := by omega
    apply Nat.le_of_eq
    rw [Pc.callsLeft, if_pos hlt, hsame]
  · exact Nat.zero_le _

/-- The calls of slot `i` and of the later ones, before the lookup. -/
theorem callsLeft_lookup (i : Nat) :
    (kMaxSimSlot - 1 - i) * slotCalls + slotCalls = (Pc.lookup i).callsLeft := by
  rw [Pc.callsLeft]
  split
  · rename_i hlt
    have hslots : kMaxSimSlot - i = kMaxSimSlot - 1 - i + 1 := by omega
    rw [hslots, Nat.succ_mul]
  · rename_i hge
    have hnone : kMaxSimSlot - 1 - i = 0 := by omega
    rw [hnone, Nat.zero_mul, Nat.zero_add]

theorem callsLeft_step (hs : step s a = some t) :
    (own (s, a)).toNat + t.pc.callsLeft ≤ s.pc.callsLeft := by
  have hcalls : slotCalls = 2 * kRetries + 2 := rfl
  have hone := Bool.toNat_le (own (s, a))
  cases step_cases hs with
  | @skip i declared obtained hpc hb =>
      have hnext := callsLeft_nextSlot s i
      rw [hpc, ← callsLeft_lookup]
      omega
  | @enter i hpc =>
      have hloop : (s.enterLoop i).pc.callsLeft =
          (kMaxSimSlot - 1 - i) * slotCalls + 2 * kRetries + 1 := rfl
      rw [hpc, hloop, ← callsLeft_lookup]
      omega
  | @request i retry isOk hpc =>
      rw [hpc]
      show _ + ((kMaxSimSlot - 1 - i) * slotCalls + 2 * (retry + 1 - 1) + 2) ≤
        (kMaxSimSlot - 1 - i) * slotCalls + 2 * (retry + 1) + 1
      omega
  | @again i retry isOk hpc =>
      rw [hpc]
      show _ + ((kMaxSimSlot - 1 - i) * slotCalls + 2 * (retry - 1) + 1) ≤
        (kMaxSimSlot - 1 - i) * slotCalls + 2 * (retry - 1) + 2
      omega
  | @succeed i retry hpc hres =>
      have hnext := callsLeft_nextSlot s i
      rw [hpc, Pc.callsLeft]
      omega
  | @giveUp i hpc =>
      have hnext := callsLeft_nextSlot { s with rc := exitFailure } i
      rw [hpc, Pc.callsLeft]
      show _ + (nextSlot _ i).pc.callsLeft ≤ _
      omega
  | respond result aliased hrq =>
      rw [setNrModeResponse_pc]
      exact Nat.le_of_eq (Nat.zero_add _)

/-! ## Requests -/

/-- The requests each slot had. -/
def requestCount (h : List (Switcher × Action)) (j : Nat) : Nat := h.countP (requests j)

theorem requestCount_snoc :
    requestCount (h ++ [(s, a)]) j = requestCount h j + (requests j (s, a)).toNat :=
  countP_snoc (requests j) h (s, a)

/-- The requests, the slots that were given up and the exit code. -/
structure Asked (h : List (Switcher × Action)) (s : Switcher) : Prop where
  here : s.pc.Asked (requestCount h)
  le : ∀ j, requestCount h j ≤ kRetries
  failure : s.rc = exitFailure ↔ ∃ x ∈ h, x.2 = .giveUp
  gaveUp : ∀ x ∈ h, x.2 = .giveUp → ∃ i, x.1.pc = .request i 0 ∧ requestCount h i = kRetries

theorem asked_nextSlot {count : Nat → Nat} (hlater : ∀ j, i < j → count j = 0) :
    (s.nextSlot i).pc.Asked count := by
  rw [nextSlot_pc]
  split
  · exact hlater
  · trivial

theorem exists_giveUp_snoc (ha : a ≠ .giveUp) :
    (∃ x ∈ h ++ [(s, a)], x.2 = .giveUp) ↔ ∃ x ∈ h, x.2 = .giveUp := by
  simp only [List.mem_append, List.mem_singleton]
  constructor
  · rintro ⟨x, hx | rfl, hgive⟩
    · exact ⟨x, hx, hgive⟩
    · exact absurd hgive ha
  · rintro ⟨x, hx, hgive⟩
    exact ⟨x, .inl hx, hgive⟩

/-- A step that neither asks nor gives up. -/
theorem Asked.quiet (hi : Asked h s) (hquiet : ∀ j, requests j (s, a) = false)
    (ha : a ≠ .giveUp) (hrc : t.rc = s.rc) (hpc : t.pc.Asked (requestCount h)) :
    Asked (h ++ [(s, a)]) t := by
  have hsame : requestCount (h ++ [(s, a)]) = requestCount h := by
    funext j
    rw [requestCount_snoc, hquiet j, Bool.toNat_false, Nat.add_zero]
  refine ⟨by rwa [hsame], by rw [hsame]; exact hi.le, ?_, ?_⟩
  · rw [hrc, exists_giveUp_snoc ha]
    exact hi.failure
  · intro x hx hgive
    rw [hsame]
    rcases List.mem_append.mp hx with hx | hx
    · exact hi.gaveUp x hx hgive
    · cases List.mem_singleton.mp hx
      exact absurd hgive ha

/-- One more request of slot `i`, which had less than its attempts. -/
theorem Asked.request (hi : Asked h s) {retry : Nat} {isOk : Bool}
    (hpc : s.pc = .request i (retry + 1)) :
    Asked (h ++ [(s, .setNrMode isOk)]) (s.setNrMode i (retry + 1) isOk) := by
  have hreq : ∀ j, requests j (s, .setNrMode isOk) = decide (i = j) := by
    intro j
    simp only [requests, hpc]
  have hhere := hi.here
  rw [hpc] at hhere
  obtain ⟨hcount, hlater⟩ := hhere
  have hne : Action.setNrMode isOk ≠ .giveUp := by simp
  have hother : ∀ j, i ≠ j →
      requestCount (h ++ [(s, .setNrMode isOk)]) j = requestCount h j := by
    intro j hj
    rw [requestCount_snoc, hreq, decide_eq_false hj, Bool.toNat_false, Nat.add_zero]
  have hown : requestCount (h ++ [(s, .setNrMode isOk)]) i = requestCount h i + 1 := by
    rw [requestCount_snoc, hreq, decide_eq_true rfl, Bool.toNat_true]
  constructor
  · refine ⟨Nat.succ_pos _, by omega, ?_⟩
    intro j hj
    rw [hother j (Nat.ne_of_lt hj)]
    exact hlater j hj
  · intro j
    by_cases hj : i = j
    · subst hj
      omega
    · rw [hother j hj]
      exact hi.le j
  · rw [exists_giveUp_snoc hne]
    exact hi.failure
  · intro x hx hgive
    rcases List.mem_append.mp hx with hx | hx
    · obtain ⟨k, hk, hfull⟩ := hi.gaveUp x hx hgive
      -- a slot that was given up has had all its attempts
      have hik : i ≠ k := by
        rintro rfl
        omega
      exact ⟨k, hk, (hother k hik).trans hfull⟩
    · cases List.mem_singleton.mp hx
      exact absurd hgive hne

/-- Slot `i` is given up, after all its attempts. -/
theorem Asked.giveUp (hi : Asked h s) (hpc : s.pc = .request i 0) :
    Asked (h ++ [(s, .giveUp)]) (s.giveUp i) := by
  have hsame : requestCount (h ++ [(s, .giveUp)]) = requestCount h := by
    funext j
    rw [requestCount_snoc]
    rfl
  have hhere := hi.here
  rw [hpc] at hhere
  obtain ⟨hcount, hlater⟩ := hhere
  refine ⟨?_, by rw [hsame]; exact hi.le, ?_, ?_⟩
  · rw [hsame]
    exact asked_nextSlot hlater
  · exact ⟨fun _ => ⟨(s, .giveUp), by simp, rfl⟩, fun _ => rfl⟩
  · intro x hx hgive
    rw [hsame]
    rcases List.mem_append.mp hx with hx | hx
    · exact hi.gaveUp x hx hgive
    · cases List.mem_singleton.mp hx
      exact ⟨i, hpc, hcount⟩

theorem asked_step (hi : Asked h s) (hs : step s a = some t) : Asked (h ++ [(s, a)]) t := by
  have hhere := hi.here
  cases step_cases hs with
  | @skip i declared obtained hpc hb =>
      rw [hpc] at hhere
      refine hi.quiet (fun _ => rfl) (by simp) rfl ?_
      exact asked_nextSlot fun j hj => hhere j (Nat.le_of_lt hj)
  | @enter i hpc =>
      rw [hpc] at hhere
      refine hi.quiet (fun _ => rfl) (by simp) rfl ?_
      have hnone := hhere i (Nat.le_refl i)
      exact ⟨by omega, fun j hj => hhere j (Nat.le_of_lt hj)⟩
  | request isOk hpc => exact hi.request hpc
  | @again i retry isOk hpc =>
      rw [hpc] at hhere
      obtain ⟨hpos, hcount, hlater⟩ := hhere
      refine hi.quiet (fun _ => rfl) (by simp) rfl ?_
      exact ⟨by omega, hlater⟩
  | succeed hpc hres =>
      rw [hpc] at hhere
      exact hi.quiet (fun _ => rfl) (by simp) rfl (asked_nextSlot hhere.2.2)
  | giveUp hpc => exact hi.giveUp hpc
  | respond result aliased hrq =>
      refine hi.quiet (fun _ => rfl) (by simp) (setNrModeResponse_rc _ _ _ _) ?_
      rw [setNrModeResponse_pc]
      exact hhere

/-- **The end of main**: in any run `main` takes at most 404 steps and asks
no slot more than 100 times, however the services answer; it has the exit
code of a failure exactly when it gave a slot up, and a slot that it gave up
was asked 100 times. -/
theorem exit_counts_requests (hp : Path step (start mode) h t) :
    h.countP own ≤ kMaxSimSlot * slotCalls ∧ (∀ j, h.countP (requests j) ≤ kRetries) ∧
      (t.rc = exitFailure ↔ ∃ x ∈ h, x.2 = .giveUp) ∧
      ∀ x ∈ h, x.2 = .giveUp →
        ∃ i, x.1.pc = .request i 0 ∧ h.countP (requests i) = kRetries := by
  have hcalls : h.countP own + t.pc.callsLeft ≤ (start mode).pc.callsLeft :=
    hp.countP_add_le fun s a t hs => callsLeft_step hs
  have hasked : Asked h t := by
    refine hp.history_inv Asked (fun _ _ => True) ?_ ?_ fun _ _ => trivial
    · intro h s a t hi _ hs
      exact asked_step hi hs
    · refine ⟨fun _ _ => rfl, fun _ => Nat.zero_le _, ?_, ?_⟩
      · simp [start, exitSuccess, exitFailure]
      · simp
  have hstart : (start mode).pc.callsLeft = kMaxSimSlot * slotCalls := rfl
  refine ⟨?_, hasked.le, hasked.failure, hasked.gaveUp⟩
  omega

/-- Slot 0 is refused a hundred times and slot 1 is not declared. -/
def refused : List Action :=
  .lookup true true :: (List.replicate kRetries [Action.setNrMode false, .test]).flatten ++
    [.giveUp, .lookup false false]

theorem exit_counts_requests_refused :
    ∃ r ∈ follow step (start 3) refused, r.2.pc = .returned ∧ r.2.rc = exitFailure ∧
      r.1.countP own ≤ kMaxSimSlot * slotCalls := by
  have hrun : ∃ r ∈ follow step (start 3) refused, r.2.pc = .returned ∧
      ∃ x ∈ r.1, x.2 = .giveUp := by
    decide +kernel
  obtain ⟨r, hr, hret, hgave⟩ := hrun
  have hend := exit_counts_requests (path_of_follow hr)
  exact ⟨r, hr, hret, hend.2.2.1.mpr hgave, hend.1⟩

end Switcher

end OplusHardware.NrModeSwitcher
