import Mathlib.Logic.Function.Basic
import OplusHardware.Base.Path

/-!
# IFAA service — the proxy of the fingerprint-pay HAL

`getFpPayService` keeps the proxy it has got and asks to be told of the
HAL's death, upon which the proxy is dropped. Calls come in on any number
of binder threads and take no lock. HAL processes are numbered in the order
they start; a proxy is the number of the process it leads to.
-/

namespace OplusHardware.Ifaa

open OplusHardware.Base

/-- Where a call of `processCmd` is. -/
inductive Call where
  /-- Not called, or back. -/
  | idle
  /-- `_fpPayService` was null. -/
  | fetching
  /-- `ServiceManager.getService` has answered. -/
  | fetched (hal : Nat)
  /-- `linkToDeath` is done, `_fpPayService` is not set yet. -/
  | linked (hal : Nat)
  /-- `ifaa_invoke_command` comes next. -/
  | holding (hal : Nat)
  deriving DecidableEq, Repr

structure IfaaService where
  fpPayService : Option Nat
  calls : Nat → Call
  /-- The HAL process that runs, and the number of the next one. -/
  alive : Option Nat
  next : Nat
  /-- How many links there are to the process that runs. -/
  links : Nat
  /-- Deaths that the recipient has not been told of, one for each link. -/
  deaths : Nat

namespace IfaaService

/-- The service is created while process 0 runs. -/
def initial : IfaaService where
  fpPayService := none
  calls _ := .idle
  alive := some 0
  next := 1
  links := 0
  deaths := 0

def setCall (s : IfaaService) (i : Nat) (c : Call) : IfaaService :=
  { s with calls := Function.update s.calls i c }

inductive Action where
  /-- Thread `i` calls `processCmd`, which reads `_fpPayService`. -/
  | processCmd (i : Nat)
  | getService (i : Nat)
  | linkToDeath (i : Nat)
  | assign (i : Nat)
  | invoke (i : Nat)
  /-- The death recipient is called. -/
  | binderDied
  | halDies
  | halStarts
  deriving DecidableEq, Repr

def step (s : IfaaService) : Action → Option IfaaService
  | .processCmd i =>
      match s.calls i, s.fpPayService with
      | .idle, none => some (s.setCall i .fetching)
      | .idle, some hal => some (s.setCall i (.holding hal))
      | _, _ => none
  | .getService i =>
      match s.calls i, s.alive with
      | .fetching, none => some (s.setCall i .idle)
      | .fetching, some hal => some (s.setCall i (.fetched hal))
      | _, _ => none
  | .linkToDeath i =>
      match s.calls i with
      | .fetched hal =>
          -- linking to a dead binder throws, and `processCmd` answers null
          if s.alive = some hal then
            some { s.setCall i (.linked hal) with links := s.links + 1 }
          else some (s.setCall i .idle)
      | _ => none
  | .assign i =>
      match s.calls i with
      | .linked hal => some { s.setCall i (.holding hal) with fpPayService := some hal }
      | _ => none
  | .invoke i =>
      match s.calls i with
      | .holding _ => some (s.setCall i .idle)
      | _ => none
  | .binderDied =>
      if 0 < s.deaths then some { s with deaths := s.deaths - 1, fpPayService := none } else none
  | .halDies =>
      if s.alive.isSome then
        some { s with alive := none, deaths := s.deaths + s.links, links := 0 }
      else none
  | .halStarts =>
      if s.alive.isNone then some { s with alive := some s.next, next := s.next + 1 } else none

/-- A call is answered by the HAL in this step. -/
def served (x : IfaaService × Action) : Bool :=
  match x.2 with
  | .invoke i =>
      match x.1.calls i with
      | .holding hal => x.1.alive = some hal
      | _ => false
  | _ => false

/-! ## What a step does -/

/-- **The ways a step goes.** -/
inductive StepCase (s : IfaaService) : Action → IfaaService → Prop where
  | processNew {i : Nat} (hnone : s.fpPayService = none) :
      StepCase s (.processCmd i) (s.setCall i .fetching)
  | processKept {i hal : Nat} (hsome : s.fpPayService = some hal) :
      StepCase s (.processCmd i) (s.setCall i (.holding hal))
  | noService {i : Nat} (hc : s.calls i = .fetching) :
      StepCase s (.getService i) (s.setCall i .idle)
  | fetch {i hal : Nat} (hc : s.calls i = .fetching) (halive : s.alive = some hal) :
      StepCase s (.getService i) (s.setCall i (.fetched hal))
  | link {i hal : Nat} (hc : s.calls i = .fetched hal) (halive : s.alive = some hal) :
      StepCase s (.linkToDeath i) { s.setCall i (.linked hal) with links := s.links + 1 }
  | linkThrows {i hal : Nat} (hc : s.calls i = .fetched hal) :
      StepCase s (.linkToDeath i) (s.setCall i .idle)
  | assign {i hal : Nat} (hc : s.calls i = .linked hal) :
      StepCase s (.assign i) { s.setCall i (.holding hal) with fpPayService := some hal }
  | invoke {i hal : Nat} (hc : s.calls i = .holding hal) :
      StepCase s (.invoke i) (s.setCall i .idle)
  | binderDied (hdeaths : 0 < s.deaths) :
      StepCase s .binderDied { s with deaths := s.deaths - 1, fpPayService := none }
  | halDies {hal : Nat} (halive : s.alive = some hal) :
      StepCase s .halDies { s with alive := none, deaths := s.deaths + s.links, links := 0 }
  | halStarts (hnone : s.alive = none) :
      StepCase s .halStarts { s with alive := some s.next, next := s.next + 1 }

variable {s t : IfaaService} {a : Action} {h : List (IfaaService × Action)} {hal : Nat}

theorem step_cases (hs : step s a = some t) : StepCase s a t := by
  cases a with
  | processCmd i =>
      simp only [step] at hs
      split at hs
      · rename_i hnone
        cases hs
        exact .processNew hnone
      · rename_i hal _ hsome
        cases hs
        exact .processKept hsome
      · cases hs
  | getService i =>
      simp only [step] at hs
      split at hs
      · rename_i hc _
        cases hs
        exact .noService hc
      · rename_i hal hc halive
        cases hs
        exact .fetch hc halive
      · cases hs
  | linkToDeath i =>
      simp only [step] at hs
      split at hs
      · rename_i hal hc
        split at hs
        · rename_i halive
          cases hs
          exact .link hc halive
        · cases hs
          exact .linkThrows hc
      · cases hs
  | assign i =>
      simp only [step] at hs
      split at hs
      · rename_i hal hc
        cases hs
        exact .assign hc
      · cases hs
  | invoke i =>
      simp only [step] at hs
      split at hs
      · rename_i hal hc
        cases hs
        exact .invoke hc
      · cases hs
  | binderDied =>
      simp only [step, Option.ite_none_right_eq_some] at hs
      obtain ⟨hdeaths, hs⟩ := hs
      cases hs
      exact .binderDied hdeaths
  | halDies =>
      simp only [step, Option.ite_none_right_eq_some, Option.isSome_iff_exists] at hs
      obtain ⟨⟨hal, halive⟩, hs⟩ := hs
      cases hs
      exact .halDies halive
  | halStarts =>
      simp only [step, Option.ite_none_right_eq_some, Option.isNone_iff_eq_none] at hs
      obtain ⟨hnone, hs⟩ := hs
      cases hs
      exact .halStarts hnone

/-- What a call is at, after one of them has moved. -/
theorem setCall_calls (s : IfaaService) (i j : Nat) (c : Call) :
    (s.setCall i c).calls j = if j = i then c else s.calls j := by
  rw [setCall]
  exact Function.update_apply s.calls i c j

/-! ## Watched proxies -/

/-- The proxy is kept, or about to be. -/
def InUse (s : IfaaService) (hal : Nat) : Prop :=
  s.fpPayService = some hal ∨ ∃ i, s.calls i = .linked hal

/-- A proxy that is kept leads to the process that runs, with a link to it,
or a death has still to be told. -/
structure Watched (s : IfaaService) : Prop where
  old : ∀ hal, s.InUse hal ∨ s.alive = some hal → hal < s.next
  linked : ∀ hal, s.InUse hal → s.alive = some hal → 0 < s.links
  told : ∀ hal, s.InUse hal → s.alive ≠ some hal → 0 < s.deaths

/-- The recipient is not called while a dead process is about to be kept. -/
def inTime (s : IfaaService) (a : Action) : Prop :=
  a = .binderDied → ∀ i hal, s.calls i = .linked hal → s.alive = some hal

/-- A step that uses no new proxy and leaves the HAL alone. -/
theorem Watched.of_inUse (hi : s.Watched) (huse : ∀ hal, t.InUse hal → s.InUse hal)
    (halive : t.alive = s.alive) (hnext : t.next = s.next) (hlinks : s.links ≤ t.links)
    (hdeaths : s.deaths ≤ t.deaths) : t.Watched := by
  constructor
  · intro hal hor
    rw [hnext]
    rw [halive] at hor
    exact hi.old hal (hor.imp (huse hal) id)
  · intro hal huse' hrun
    rw [halive] at hrun
    exact Nat.lt_of_lt_of_le (hi.linked hal (huse hal huse') hrun) hlinks
  · intro hal huse' hdead
    rw [halive] at hdead
    exact Nat.lt_of_lt_of_le (hi.told hal (huse hal huse') hdead) hdeaths

/-- What is in use once a call has moved to `c`. -/
theorem inUse_setCall {i : Nat} {c : Call} (huse : (s.setCall i c).InUse hal) :
    s.InUse hal ∨ c = .linked hal := by
  rcases huse with hkept | ⟨j, hj⟩
  · exact .inl (.inl hkept)
  · rw [setCall_calls] at hj
    split at hj
    · exact .inr hj
    · exact .inl (.inr ⟨j, hj⟩)

theorem Watched.setCall (hi : s.Watched) {i : Nat} {c : Call} (hc : ∀ hal, c ≠ .linked hal) :
    (s.setCall i c).Watched := by
  refine hi.of_inUse (fun hal huse => ?_) rfl rfl (Nat.le_refl _) (Nat.le_refl _)
  exact (inUse_setCall huse).resolve_right (hc hal)

theorem Watched.step (hi : s.Watched) (hok : s.inTime a) (hs : IfaaService.step s a = some t) :
    t.Watched := by
  cases step_cases hs with
  | processNew hnone => exact hi.setCall (by simp)
  | processKept hsome => exact hi.setCall (by simp)
  | noService hc => exact hi.setCall (by simp)
  | fetch hc halive => exact hi.setCall (by simp)
  | linkThrows hc => exact hi.setCall (by simp)
  | invoke hc => exact hi.setCall (by simp)
  | @link i hal hc halive =>
      have huse : ∀ g, InUse { s.setCall i (.linked hal) with links := s.links + 1 } g →
          s.InUse g ∨ g = hal := by
        intro g hg
        have hg : (s.setCall i (.linked hal)).InUse g := hg
        rcases inUse_setCall hg with hold | hnew
        · exact .inl hold
        · cases hnew
          exact .inr rfl
      constructor
      · intro g hor
        rcases hor with hg | hg
        · rcases huse g hg with hold | rfl
          · exact hi.old g (.inl hold)
          · exact hi.old g (.inr halive)
        · exact hi.old g (.inr hg)
      · intro g _ _
        exact Nat.succ_pos _
      · intro g hg hdead
        rcases huse g hg with hold | rfl
        · exact hi.told g hold hdead
        · exact absurd halive hdead
  | @assign i hal hc =>
      refine hi.of_inUse ?_ rfl rfl (Nat.le_refl _) (Nat.le_refl _)
      rintro g (hkept | ⟨j, hj⟩)
      · cases hkept
        exact .inr ⟨i, hc⟩
      · have hg : (s.setCall i (.holding hal)).InUse g := .inr ⟨j, hj⟩
        exact (inUse_setCall hg).resolve_right (by simp)
  | binderDied hdeaths =>
      have huse : ∀ g, InUse { s with deaths := s.deaths - 1, fpPayService := none } g →
          s.InUse g ∧ s.alive = some g := by
        rintro g (hkept | ⟨j, hj⟩)
        · cases hkept
        · exact ⟨.inr ⟨j, hj⟩, hok rfl j g hj⟩
      constructor
      · intro g hor
        exact hi.old g (hor.imp (fun hg => (huse g hg).1) id)
      · intro g hg hrun
        exact hi.linked g (huse g hg).1 hrun
      · intro g hg hdead
        exact absurd (huse g hg).2 hdead
  | @halDies hal halive =>
      constructor
      · intro g hor
        rcases hor with hg | hg
        · exact hi.old g (.inl hg)
        · cases hg
      · intro g _ hrun
        cases hrun
      · intro g hg _
        show 0 < s.deaths + s.links
        by_cases hsame : s.alive = some g
        · have := hi.linked g hg hsame
          omega
        · have := hi.told g hg hsame
          omega
  | halStarts hnone =>
      have hdead : ∀ g, s.alive ≠ some g := by simp [hnone]
      constructor
      · intro g hor
        show g < s.next + 1
        rcases hor with hg | hg
        · exact Nat.lt_succ_of_lt (hi.old g (.inl hg))
        · cases hg
          exact Nat.lt_succ_self _
      · intro g hg hrun
        cases hrun
        exact absurd (hi.old _ (.inl hg)) (Nat.lt_irrefl _)
      · intro g hg _
        exact hi.told g hg (hdead g)

/-! ## A dead proxy for good -/

/-- A dead process is kept, nothing is left to tell of a death, now or when
the process that runs dies, and no call is on its way to another proxy. -/
structure Stuck (hal : Nat) (s : IfaaService) : Prop where
  kept : s.fpPayService = some hal
  dead : s.alive ≠ some hal
  old : hal < s.next
  deaths : s.deaths = 0
  links : s.links = 0
  calls : ∀ i, s.calls i = .idle ∨ s.calls i = .holding hal

theorem Stuck.setCall (hi : Stuck hal s) {i : Nat} {c : Call}
    (hc : c = .idle ∨ c = .holding hal) : Stuck hal (s.setCall i c) := by
  refine ⟨hi.kept, hi.dead, hi.old, hi.deaths, hi.links, ?_⟩
  intro j
  rw [setCall_calls]
  split
  · exact hc
  · exact hi.calls j

theorem Stuck.step (hi : Stuck hal s) (hs : IfaaService.step s a = some t) : Stuck hal t := by
  have hnot : ∀ i c, s.calls i = c → c = .idle ∨ c = .holding hal := fun i c hc =>
    hc ▸ hi.calls i
  cases step_cases hs with
  | processNew hnone =>
      rw [hi.kept] at hnone
      cases hnone
  | processKept hsome =>
      rw [hi.kept] at hsome
      cases hsome
      exact hi.setCall (.inr rfl)
  | noService hc => exact hi.setCall (.inl rfl)
  | fetch hc halive => simpa using hnot _ _ hc
  | link hc halive => simpa using hnot _ _ hc
  | linkThrows hc => exact hi.setCall (.inl rfl)
  | assign hc => simpa using hnot _ _ hc
  | invoke hc => exact hi.setCall (.inl rfl)
  | binderDied hdeaths =>
      rw [hi.deaths] at hdeaths
      cases hdeaths
  | halDies halive =>
      refine ⟨hi.kept, by simp, hi.old, ?_, rfl, hi.calls⟩
      show s.deaths + s.links = 0
      rw [hi.deaths, hi.links]
  | halStarts hnone =>
      refine ⟨hi.kept, ?_, Nat.lt_succ_of_lt hi.old, hi.deaths, hi.links, hi.calls⟩
      intro hsame
      cases hsame
      exact absurd hi.old (Nat.lt_irrefl _)

theorem Stuck.not_served (hi : Stuck hal s) : served (s, a) = false := by
  cases a with
  | invoke i =>
      rcases hi.calls i with hc | hc
      · simp [served, hc]
      · simp [served, hc, hi.dead]
  | _ => rfl

/-! ## Whole runs -/

theorem watched_initial : initial.Watched where
  old hal hor := by
    rcases hor with (hkept | ⟨i, hi⟩) | halive
    · cases hkept
    · cases hi
    · cases halive
      exact Nat.zero_lt_one
  linked hal huse _ := by
    rcases huse with hkept | ⟨i, hi⟩
    · cases hkept
    · cases hi
  told hal huse _ := by
    rcases huse with hkept | ⟨i, hi⟩
    · cases hkept
    · cases hi

/-- **A dead proxy is dropped, or kept for good.** In every interleaving of
the calls with the deaths and starts of the HAL: as long as the death
recipient is not called while a thread is between linking to a process that
has died and keeping its proxy, a dead proxy is never kept without a death
left to be told, which drops it. But once one is kept with none left, no
link to the process that runs now and no call on its way to another proxy,
then whatever happens, it stays, and no call is served again. -/
theorem dead_proxy (h : List (IfaaService × Action)) (s : IfaaService)
    (hp : Path step initial h s) :
    ((∀ x ∈ h, x.1.inTime x.2) → ∀ hal, s.fpPayService = some hal → s.alive ≠ some hal →
      0 < s.deaths) ∧
    ∀ hal, Stuck hal s → ∀ h' t, Path step s h' t →
      t.fpPayService = some hal ∧ ∀ x ∈ h', served x = false := by
  constructor
  · intro hok hal hkept hdead
    have hwatched : s.Watched :=
      hp.inv Watched inTime (fun _ _ _ hi hok hs => hi.step hok hs) watched_initial hok
    exact hwatched.told hal (.inl hkept) hdead
  · intro hal hstuck h' t hp'
    have hkeep : ∀ s a t, Stuck hal s → True → step s a = some t → Stuck hal t :=
      fun _ _ _ hi _ hs => hi.step hs
    refine ⟨(hp'.inv (Stuck hal) (fun _ _ => True) hkeep hstuck fun _ _ => trivial).kept, ?_⟩
    intro x hx
    exact (hp'.inv_along (Stuck hal) (fun _ _ => True) hkeep hstuck
      (fun _ _ => trivial) x hx).not_served

/-- The HAL dies while its proxy is kept. -/
def diesKept : List Action :=
  [.processCmd 0, .getService 0, .linkToDeath 0, .assign 0, .halDies]

/-- The HAL dies, and the recipient is called, before its proxy is kept. -/
def diesBetween : List Action :=
  [.processCmd 0, .getService 0, .linkToDeath 0, .halDies, .binderDied, .assign 0, .invoke 0]

theorem dead_proxy_both :
    (∃ r ∈ follow step initial diesKept, r.2.fpPayService = some 0 ∧ 0 < r.2.deaths) ∧
    ∃ r ∈ follow step initial diesBetween, r.2.fpPayService = some 0 ∧
      ∃ r' ∈ follow step r.2 [.halStarts, .processCmd 1, .invoke 1],
        r'.2.alive = some 1 ∧ ∀ x ∈ r'.1, served x = false := by
  constructor
  · have hrun : ∃ r ∈ follow step initial diesKept, r.2.fpPayService = some 0 ∧
        r.2.alive ≠ some 0 ∧ ∀ x ∈ r.1, x.2 ≠ .binderDied := by
      decide +kernel
    obtain ⟨r, hr, hkept, hdead, hnone⟩ := hrun
    have hlaw := (dead_proxy r.1 r.2 (path_of_follow hr)).1
    exact ⟨r, hr, hkept, hlaw (fun x hx hdied => absurd hdied (hnone x hx)) 0 hkept hdead⟩
  · have hrun : ∃ r r', follow step initial diesBetween = some r ∧ Stuck 0 r.2 ∧
        follow step r.2 [.halStarts, .processCmd 1, .invoke 1] = some r' ∧
        r'.2.alive = some 1 := by
      refine ⟨_, _, rfl, ?_, rfl, rfl⟩
      refine ⟨rfl, by decide, by decide, rfl, rfl, ?_⟩
      intro i
      left
      by_cases hi : i = 0
      · subst hi
        rfl
      · simp [setCall, initial]
    obtain ⟨r, r', hr, hstuck, hr', halive⟩ := hrun
    have hlaw := (dead_proxy r.1 r.2 (path_of_follow hr)).2 0 hstuck r'.1 r'.2
      (path_of_follow hr')
    exact ⟨r, hr, hstuck.kept, r', hr', halive, hlaw.2⟩

end IfaaService

end OplusHardware.Ifaa
