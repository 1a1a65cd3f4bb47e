import OplusHardware.NrModeSwitcher.Switcher

/-!
# NrModeSwitcher — what a success says

The result variable starts at the value that stands for success and is
looked at as soon as the request was accepted. A slot whose loop ends well
has received a response with result 0, provided that some response had
come before the look and that no response for an earlier slot writes
through its dangling reference.
-/

namespace OplusHardware.NrModeSwitcher

open OplusHardware.Base

/-! ## The responses of a slot -/

/-- The result of the newest response for a slot; 0 where there is none,
as `result` is initialised. -/
def lastResult (i : Nat) : List Response → Int
  | [] => 0
  | r :: rs => if r.slot = i then r.result else lastResult i rs

section Responses

variable {i : Nat} {rs : List Response}

theorem lastResult_eq_zero (h : ∀ r ∈ rs, r.slot < i) : lastResult i rs = 0 := by
  induction rs with
  | nil => rfl
  | cons r rs ih =>
      have hne : r.slot ≠ i := Nat.ne_of_lt (h r (by simp))
      rw [lastResult, if_neg hne]
      exact ih fun r' hr' => h r' (by simp [hr'])

/-- Where a slot has responses, its last result is that of one of them. -/
theorem mem_of_lastResult (h : ∃ r ∈ rs, r.slot = i) : ⟨i, lastResult i rs⟩ ∈ rs := by
  induction rs with
  | nil => simp at h
  | cons r rs ih =>
      by_cases hr : r.slot = i
      · rw [lastResult, if_pos hr]
        subst hr
        exact List.mem_cons_self
      · rw [lastResult, if_neg hr]
        obtain ⟨r', hmem, hslot⟩ := h
        rcases List.mem_cons.mp hmem with rfl | hmem
        · exact absurd hslot hr
        · exact List.mem_cons_of_mem _ (ih ⟨r', hmem, hslot⟩)

end Responses

namespace Switcher

variable {s t : Switcher} {a : Action} {i j : Nat} {mode : Int}
  {h : List (Switcher × Action)}

/-! ## What a step does -/

/-- **The ways a step goes.** -/
inductive StepCase (s : Switcher) : Action → Switcher → Prop where
  | skip {i : Nat} (declared obtained : Bool) (hpc : s.pc = .lookup i)
      (hb : (declared && obtained) = false) :
      StepCase s (.lookup declared obtained) (s.nextSlot i)
  | enter {i : Nat} (hpc : s.pc = .lookup i) : StepCase s (.lookup true true) (s.enterLoop i)
  | request {i retry : Nat} (isOk : Bool) (hpc : s.pc = .request i (retry + 1)) :
      StepCase s (.setNrMode isOk) (s.setNrMode i (retry + 1) isOk)
  | again {i retry : Nat} (isOk : Bool) (hpc : s.pc = .test i retry isOk) :
      StepCase s .test { s with pc := .request i (retry - 1) }
  | succeed {i retry : Nat} (hpc : s.pc = .test i retry true) (hres : s.result = 0) :
      StepCase s .test (s.nextSlot i)
  | giveUp {i : Nat} (hpc : s.pc = .request i 0) : StepCase s .giveUp (s.giveUp i)
  | respond {k : Nat} {rq : Request} (result : Int) (aliased : Bool)
      (hrq : s.pending[k]? = some rq) :
      StepCase s (.respond k result aliased)
        ({ s with pending := s.pending.eraseIdx k }.setNrModeResponse rq.slot result aliased)

theorem step_cases (hs : step s a = some t) : StepCase s a t := by
  unfold step at hs
  split at hs
  · rename_i declared obtained i hpc
    cases hs
    cases hb : declared && obtained with
    | false => exact .skip declared obtained hpc hb
    | true =>
        obtain ⟨rfl, rfl⟩ := Bool.and_eq_true_iff.mp hb
        exact .enter hpc
  · rename_i isOk i retry hpc
    cases hs
    exact .request isOk hpc
  · rename_i i hpc
    cases hs
    exact .giveUp hpc
  · rename_i i retry isOk hpc
    cases hs
    unfold afterTest
    split
    · exact .again isOk hpc
    · rename_i hfine
      simp only [Bool.or_eq_true, Bool.not_eq_true', decide_eq_true_eq, not_or,
        Bool.not_eq_false, not_not] at hfine
      obtain ⟨rfl, hres⟩ := hfine
      exact .succeed hpc hres
  · rename_i k result aliased
    rw [Option.map_eq_some_iff] at hs
    obtain ⟨rq, hrq, rfl⟩ := hs
    exact .respond result aliased hrq
  · cases hs

/-! ## Earned success -/

/-- Slot `i` was found in the manifest. -/
def Declared (h : List (Switcher × Action)) (i : Nat) : Prop :=
  ∃ x ∈ h, x.1.pc = .lookup i ∧ ∃ obtained, x.2 = .lookup true obtained

/-- A look at the result of an accepted request before any response for
the slot came. -/
def testsUnanswered (s : Switcher) (a : Action) : Bool :=
  match a, s.pc with
  | .test, .test i _ true => s.received.all (·.slot ≠ i)
  | _, _ => false

/-- A response that writes to the variable of another slot than its own. -/
def writesOther (s : Switcher) (a : Action) : Bool :=
  match a, s.pc.slot? with
  | .respond k _ true, some i => s.pending[k]?.any (·.slot ≠ i)
  | _, _ => false

/-- What holds of a run as long as no look is unanswered and no response
writes to another slot's variable. -/
structure Earning (h : List (Switcher × Action)) (s : Switcher) : Prop where
  result : ∀ i, s.pc.slot? = some i → s.result = lastResult i s.received
  old : ∀ i, s.pc = .lookup i → ∀ r ∈ s.received, r.slot < i
  current : ∀ i, s.pc.slot? = some i → ∀ r ∈ s.received, r.slot ≤ i
  earned : s.rc = exitSuccess → ∀ i, Declared h i →
    s.pc.slot? = some i ∨ ⟨i, 0⟩ ∈ s.received

theorem declared_snoc :
    Declared (h ++ [(s, a)]) i ↔
      Declared h i ∨ s.pc = .lookup i ∧ ∃ obtained, a = .lookup true obtained := by
  constructor
  · rintro ⟨x, hx, hd⟩
    rcases List.mem_append.mp hx with hx | hx
    · exact .inl ⟨x, hx, hd⟩
    · cases List.mem_singleton.mp hx
      exact .inr hd
  · rintro (⟨x, hx, hd⟩ | hd)
    · exact ⟨x, List.mem_append_left _ hx, hd⟩
    · exact ⟨(s, a), by simp, hd⟩

theorem nextSlot_slot? : (s.nextSlot i).pc.slot? = none := by
  simp only [nextSlot]
  split <;> rfl

theorem nextSlot_lookup (hpc : (s.nextSlot i).pc = .lookup j) : j = i + 1 := by
  simp only [nextSlot] at hpc
  split at hpc
  · cases hpc
    rfl
  · cases hpc

/-- Steps other than lookups declare nothing. -/
theorem Earning.declared (hi : Earning h s) (hrc : s.rc = exitSuccess)
    (ha : ∀ obtained, a ≠ .lookup true obtained) (hd : Declared (h ++ [(s, a)]) j) :
    s.pc.slot? = some j ∨ ⟨j, 0⟩ ∈ s.received := by
  rcases declared_snoc.mp hd with hd | ⟨-, obtained, rfl⟩
  · exact hi.earned hrc j hd
  · exact absurd rfl (ha obtained)

/-- Leaving slot `i` for the next one. -/
theorem earning_nextSlot (hle : ∀ r ∈ s.received, r.slot ≤ i)
    (hearned : s.rc = exitSuccess → ∀ j, Declared h j → ⟨j, 0⟩ ∈ s.received) :
    Earning h (s.nextSlot i) where
  result j hj := by
    rw [nextSlot_slot?] at hj
    cases hj
  old j hj r hr := by
    rw [nextSlot_lookup hj]
    exact Nat.lt_succ_of_le (hle r hr)
  current j hj := by
    rw [nextSlot_slot?] at hj
    cases hj
  earned hrc j hd := .inr (hearned hrc j hd)

/-- A step inside the loop of slot `i` that writes nothing. -/
theorem Earning.inLoop (hi : Earning h s) (ha : ∀ obtained, a ≠ .lookup true obtained)
    (hpc : s.pc.slot? = some i) (hpc' : t.pc.slot? = some i) (hrc : t.rc = s.rc)
    (hres : t.result = s.result) (hrec : t.received = s.received) :
    Earning (h ++ [(s, a)]) t where
  result j hj := by
    rw [hpc'] at hj
    cases hj
    rw [hres, hrec]
    exact hi.result i hpc
  old j hj := by
    rw [hj] at hpc'
    cases hpc'
  current j hj := by
    rw [hpc'] at hj
    cases hj
    rw [hrec]
    exact hi.current i hpc
  earned hrc' j hd := by
    rw [hrc] at hrc'
    rw [hpc', ← hpc, hrec]
    exact hi.declared hrc' ha hd

/-- A response for the slot whose loop runs. -/
theorem Earning.receive {v : Int} (hi : Earning h s)
    (ha : ∀ obtained, a ≠ .lookup true obtained) (hpc : s.pc.slot? = some i)
    (hpc' : t.pc = s.pc) (hrc : t.rc = s.rc) (hres : t.result = v)
    (hrec : t.received = ⟨i, v⟩ :: s.received) : Earning (h ++ [(s, a)]) t where
  result j hj := by
    rw [hpc', hpc] at hj
    cases hj
    rw [hres, hrec, lastResult, if_pos rfl]
  old j hj := by
    rw [hpc'] at hj
    rw [hj] at hpc
    cases hpc
  current j hj r hr := by
    rw [hpc', hpc] at hj
    cases hj
    rw [hrec] at hr
    rcases List.mem_cons.mp hr with rfl | hr
    · exact Nat.le_refl _
    · exact hi.current i hpc r hr
  earned hrc' j hd := by
    rw [hrc] at hrc'
    rw [hpc', hrec]
    rcases hi.declared hrc' ha hd with hj | hj
    · exact .inl hj
    · exact .inr (List.mem_cons_of_mem _ hj)

theorem Earning.succeed (hi : Earning h s) {retry : Nat} (hpc : s.pc = .test i retry true)
    (hres : s.result = 0) (hanswered : testsUnanswered s .test = false) :
    Earning (h ++ [(s, .test)]) (s.nextSlot i) := by
  have hslot : s.pc.slot? = some i := by
    rw [hpc]
    rfl
  have hsome : ∃ r ∈ s.received, r.slot = i := by
    simpa [testsUnanswered, hpc] using hanswered
  have hmem : ⟨i, 0⟩ ∈ s.received := by
    rw [← hres, hi.result i hslot]
    exact mem_of_lastResult hsome
  apply earning_nextSlot (hi.current i hslot)
  intro hrc j hd
  rcases hi.declared hrc (by simp) hd with hj | hj
  · rw [hslot] at hj
    cases hj
    exact hmem
  · exact hj

/-- The loop of a slot that is there starts, with nothing received for it. -/
theorem Earning.enter (hi : Earning h s) (hpc : s.pc = .lookup i) :
    Earning (h ++ [(s, .lookup true true)]) (s.enterLoop i) where
  result j hj := by
    cases hj
    exact (lastResult_eq_zero (hi.old i hpc)).symm
  old j hj := by
    cases hj
  current j hj r hr := by
    cases hj
    exact Nat.le_of_lt (hi.old i hpc r hr)
  earned hrc j hd := by
    rcases declared_snoc.mp hd with hd | ⟨hj, -⟩
    · rcases hi.earned hrc j hd with hj | hj
      · rw [hpc] at hj
        cases hj
      · exact .inr hj
    · rw [hpc] at hj
      cases hj
      exact .inl rfl

/-- A response that comes too late, or for a slot whose loop does not run,
leaves the result alone unless no loop runs at all. -/
theorem Earning.late (hi : Earning h s) {k : Nat} {rq : Request} {result : Int}
    {aliased : Bool} (hrq : s.pending[k]? = some rq) (hlive : s.pc.slot? ≠ some rq.slot)
    (hok : writesOther s (.respond k result aliased) = false) :
    Earning (h ++ [(s, .respond k result aliased)])
      ({ s with pending := s.pending.eraseIdx k }.setNrModeResponse rq.slot result
        aliased) := by
  cases aliased with
  | false =>
      simp only [setNrModeResponse, hlive, if_false, Bool.false_eq_true]
      refine ⟨hi.result, hi.old, hi.current, ?_⟩
      intro hrc j hd
      exact hi.declared hrc (by simp) hd
  | true =>
      -- no loop runs, and the next one initialises the variable
      have hidle : s.pc.slot? = none := by
        cases hpc : s.pc.slot? with
        | none => rfl
        | some j =>
            have heq : rq.slot = j := by simpa [writesOther, hpc, hrq] using hok
            rw [hpc, heq] at hlive
            exact absurd rfl hlive
      simp only [setNrModeResponse, hlive, if_false, if_true]
      refine ⟨?_, hi.old, hi.current, ?_⟩
      · intro j hj
        rw [hidle] at hj
        cases hj
      · intro hrc j hd
        exact hi.declared hrc (by simp) hd

theorem earning_step (hi : Earning h s) (hobt : a ≠ .lookup true false)
    (hok : testsUnanswered s a = false ∧ writesOther s a = false) (hs : step s a = some t) :
    Earning (h ++ [(s, a)]) t := by
  cases step_cases hs with
  | @skip i declared obtained hpc hb =>
      have hundeclared : ∀ ob, Action.lookup declared obtained ≠ .lookup true ob := by
        intro ob heq
        cases heq
        cases obtained with
        | true => cases hb
        | false => exact hobt rfl
      apply earning_nextSlot
      · intro r hr
        exact Nat.le_of_lt (hi.old i hpc r hr)
      · intro hrc j hd
        rcases hi.declared hrc hundeclared hd with hj | hj
        · rw [hpc] at hj
          cases hj
        · exact hj
  | @enter i hpc => exact hi.enter hpc
  | @request i retry isOk hpc =>
      exact hi.inLoop (i := i) (by simp) (by rw [hpc]; rfl) rfl rfl rfl rfl
  | @again i retry isOk hpc =>
      exact hi.inLoop (i := i) (by simp) (by rw [hpc]; rfl) rfl rfl rfl rfl
  | succeed hpc hres => exact hi.succeed hpc hres hok.1
  | @giveUp i hpc =>
      apply earning_nextSlot (s := { s with rc := exitFailure })
      · exact hi.current i (by rw [hpc]; rfl)
      · intro hrc
        cases hrc
  | @respond k rq result aliased hrq =>
      by_cases hlive : s.pc.slot? = some rq.slot
      · apply hi.receive (i := rq.slot) (v := result) (by simp) hlive
        all_goals simp [setNrModeResponse, hlive]
      · exact hi.late hrq hlive hok.2

/-- **An earned success**: when `main` returns success after every declared
slot's service was obtained, each of these slots had a response with result
0 while its loop ran. -/
theorem success_is_earned (hp : Path step (start mode) h t) (hret : t.pc = .returned)
    (hrc : t.rc = exitSuccess) (hobt : ∀ x ∈ h, x.2 ≠ .lookup true false)
    (hok : ∀ x ∈ h, testsUnanswered x.1 x.2 = false ∧ writesOther x.1 x.2 = false) :
    ∀ i, Declared h i → ⟨i, 0⟩ ∈ t.received := by
  have hearning : Earning h t := by
    refine hp.history_inv Earning (fun s a => a ≠ .lookup true false ∧
      testsUnanswered s a = false ∧ writesOther s a = false) ?_ ?_ ?_
    · intro h s a u hi ha hs
      exact earning_step hi ha.1 ha.2 hs
    · constructor <;> simp [start, Pc.slot?, Declared]
    · intro x hx
      exact ⟨hobt x hx, hok x hx⟩
  intro i hd
  rcases hearning.earned hrc i hd with hslot | hmem
  · rw [hret] at hslot
    cases hslot
  · exact hmem

/-- One slot, whose second attempt is answered by 0 before the look. -/
def secondAttempt : List Action :=
  [.lookup true true, .setNrMode true, .respond 0 5 false, .test, .setNrMode true,
    .respond 0 0 false, .test, .lookup false false]

theorem success_is_earned_secondAttempt :
    ∃ r ∈ follow step (start 3) secondAttempt, r.2.rc = exitSuccess ∧ ⟨0, 0⟩ ∈ r.2.received := by
  have hrun : ∃ r ∈ follow step (start 3) secondAttempt, r.2.pc = .returned ∧
      r.2.rc = exitSuccess ∧ (∀ x ∈ r.1, x.2 ≠ .lookup true false) ∧
      (∀ x ∈ r.1, testsUnanswered x.1 x.2 = false ∧ writesOther x.1 x.2 = false) ∧
      ∃ x ∈ r.1, x.1.pc = .lookup 0 ∧ x.2 = .lookup true true := by
    decide
  obtain ⟨r, hr, hret, hrc, hobt, hok, x, hx, hpc, ha⟩ := hrun
  exact ⟨r, hr, hrc,
    success_is_earned (path_of_follow hr) hret hrc hobt hok 0 ⟨x, hx, hpc, true, ha⟩⟩

/-- **Success before any response**: the request is accepted, and the
result that is looked at is the initial one. -/
theorem success_unanswered :
    ∃ r ∈ follow step (start 3)
        [.lookup true true, .setNrMode true, .test, .lookup false false],
      r.2.pc = .returned ∧ r.2.rc = exitSuccess ∧ (∀ x ∈ r.1, x.2 ≠ .lookup true false) ∧
        (∃ x ∈ r.1, x.1.pc = .lookup 0 ∧ x.2 = .lookup true true) ∧ r.2.received = [] := by
  decide

end Switcher

end OplusHardware.NrModeSwitcher
