import OplusHardware.AlertSlider.KeyHandler

/-!
# AlertSlider — the final position

The tasks are run in the order they were submitted, so the modes end as
the task submitted last sets them. With two threads this need not be the
task of the last read.
-/

namespace OplusHardware.AlertSlider

open OplusHardware.Base

/-- What an instruction does to the ringer mode and to the zen mode that
was last asked for. -/
def effect (modes : Int × Int) : Instr → Int × Int
  | .requestZenMode z => (modes.1, z)
  | .setRingerMode mode => (mode, modes.2)
  | _ => modes

theorem foldl_effect_feedback (task : Task) (modes : Int × Int) :
    (feedback task).foldl effect modes = modes := by
  unfold feedback
  split_ifs <;> rfl

theorem foldl_effect_switchMode (mode : Int) (muteMedia : Bool) (modes : Int × Int) :
    (switchMode mode muteMedia).foldl effect modes = (modesOf mode).getD modes := by
  unfold switchMode modesOf setZenMode
  split_ifs <;> simp_all [effect]

/-- A task ends with the modes that its mode stands for. -/
theorem foldl_effect_program (task : Task) (modes : Int × Int) :
    task.program.foldl effect modes = (modesOf task.mode).getD modes := by
  rw [Task.program, List.foldl_append, foldl_effect_switchMode, foldl_effect_feedback]

namespace KeyHandler

variable {s t : KeyHandler} {a : Action} {h : List (KeyHandler × Action)}
  {i : Instr} {is : List Instr} {p : Preferences}

/-! ## Where the modes are going -/

/-- The zen mode once every request is committed, in order. -/
def zenGoal (s : KeyHandler) : Int := s.requests.getLast?.getD s.zenMode

def modes (s : KeyHandler) : Int × Int := (s.ringerMode, s.zenGoal)

/-- The modes when all that is submitted has run. -/
def eventually (s : KeyHandler) : Int × Int :=
  s.executorService.eventual Task.program effect s.modes

theorem eventually_congr (he : t.executorService = s.executorService)
    (hm : t.modes = s.modes) : t.eventually = s.eventually := by
  rw [eventually, eventually, he, hm]

theorem eventually_goOn (hrun : s.executorService.running = i :: is)
    (he : t.executorService = s.executorService.goOn is)
    (hm : t.modes = effect s.modes i) : t.eventually = s.eventually := by
  rw [eventually, eventually, he, hm]
  exact SerialExecutor.eventual_goOn hrun

theorem eventually_runInstr (hrun : s.executorService.running = i :: is) :
    (s.runInstr is i).eventually = s.eventually := by
  cases i with
  | requestZenMode z =>
      exact eventually_goOn hrun rfl (by simp [modes, zenGoal, runInstr, effect])
  | awaitZenMode z =>
      simp only [runInstr]
      split
      · exact eventually_goOn hrun rfl rfl
      · rfl
  | testWasMuted muteMedia =>
      cases hb : muteMedia && s.wasMuted with
      | true =>
          have hsame : [Instr.adjustUnmute].foldl effect s.modes =
              effect s.modes (.testWasMuted muteMedia) := rfl
          simp only [runInstr, hb]
          exact SerialExecutor.eventual_branch hrun hsame
      | false =>
          simp only [runInstr, hb]
          exact eventually_goOn hrun rfl rfl
  | _ => exact eventually_goOn hrun rfl rfl

theorem eventually_commitZen {z : Int} (hz : s.requests[0]? = some z) :
    KeyHandler.eventually { s with zenMode := z, requests := s.requests.eraseIdx 0 } =
      s.eventually := by
  refine eventually_congr rfl ?_
  cases hreqs : s.requests with
  | nil => simp [hreqs] at hz
  | cons z' zs =>
      rw [hreqs] at hz
      cases hz
      simp [modes, zenGoal, hreqs, List.getLast?_cons]

/-! ## The reads -/

/-- What the threads work on. -/
def front (s : KeyHandler) :=
  (s.preferences, s.node, s.keyEvents, s.bootPending, s.handling, s.reads, s.lastText, s.newest)

theorem front_runInstr : (s.runInstr is i).front = s.front := by
  cases i with
  | awaitZenMode z =>
      simp only [runInstr]
      split <;> rfl
  | _ => rfl

/-- What a thread holds from its read to its submission. -/
structure Holds (p : Preferences) (reads : Nat) (lastText : List Char)
    (newest : Option (Nat × Int)) (thread : Thread) (x : Handling) : Prop where
  le : x.read ≤ reads
  text : x.read = reads → x.text = lastText
  task : ∀ task, x.task = some task →
    (positionOf x.text).bind (fun q => handleMode p q (thread = .main)) = some task
  unsubmitted : ∀ m q, newest = some (m, q) → x.read ≠ m

/-- The threads hold different reads. -/
def Apart (handling : Thread → Option Handling) : Prop :=
  ∀ thread thread' x x', handling thread = some x → handling thread' = some x' →
    thread ≠ thread' → x.read ≠ x'.read

theorem Apart.update {handling : Thread → Option Handling} (h : Apart handling)
    {thread : Thread} {v : Option Handling}
    (hv : ∀ x thread' x', v = some x → thread' ≠ thread → handling thread' = some x' →
      x.read ≠ x'.read) :
    Apart (Function.update handling thread v) := by
  intro thread₁ thread₂ x₁ x₂ h₁ h₂ hne
  rw [Function.update_apply] at h₁ h₂
  split at h₁ <;> split at h₂
  · rename_i heq₁ heq₂
    exact absurd (heq₁.trans heq₂.symm) hne
  · rename_i _ hne₂
    exact hv x₁ thread₂ x₂ h₁ hne₂ h₂
  · rename_i hne₁ _
    exact (hv x₂ thread₁ x₁ h₂ hne₁ h₁).symm
  · exact h _ _ _ _ h₁ h₂ hne

/-- **The newest read is not lost**: it is submitted, or a thread holds it,
or it selects no mode. -/
structure NewestKept (p : Preferences) (s : KeyHandler) : Prop where
  preferences : s.preferences = p
  booted : s.bootPending = false → 0 < s.reads
  last : s.keyEvents = 0 → 0 < s.reads → s.lastText = s.node
  held : ∀ thread x, s.handling thread = some x →
    Holds p s.reads s.lastText s.newest thread x
  apart : Apart s.handling
  newest : ∀ m q, s.newest = some (m, q) → m ≤ s.reads
  latest : 0 < s.reads → ∀ q, positionOf s.lastText = some q → p.mode q ≠ none →
    s.newest = some (s.reads, q) ∨ ∃ thread x, s.handling thread = some x ∧ x.read = s.reads

/-- Steps that leave the threads alone. -/
theorem NewestKept.congr (hi : NewestKept p s) (hf : t.front = s.front) :
    NewestKept p t := by
  simp only [front, Prod.mk.injEq] at hf
  obtain ⟨hpref, hnode, hkeys, hboot, hhand, hreads, hlast, hnew⟩ := hf
  constructor
  · rw [hpref]
    exact hi.preferences
  · rw [hboot, hreads]
    exact hi.booted
  · rw [hkeys, hreads, hlast, hnode]
    exact hi.last
  · rw [hhand, hreads, hlast, hnew]
    exact hi.held
  · rw [hhand]
    exact hi.apart
  · rw [hnew, hreads]
    exact hi.newest
  · rw [hreads, hlast, hnew, hhand]
    exact hi.latest

@[simp] theorem setHandling_handling {thread thread' : Thread} {v : Option Handling} :
    (s.setHandling thread v).handling thread' =
      if thread' = thread then v else s.handling thread' := by
  simp [setHandling, Function.update_apply]

theorem NewestKept.readNode (hi : NewestKept p s) (thread : Thread) (k : Nat) (b : Bool) :
    NewestKept p { s.readNode thread with keyEvents := k, bootPending := b } where
  preferences := hi.preferences
  booted _ := Nat.succ_pos _
  last _ _ := rfl
  held thread' x hx := by
    simp only [KeyHandler.readNode, setHandling_handling] at hx
    split at hx
    · cases hx
      refine ⟨Nat.le_refl _, fun _ => rfl, ?_, ?_⟩
      · intro task htask
        cases htask
      · intro m q hm
        exact Nat.ne_of_gt (Nat.lt_succ_of_le (hi.newest m q hm))
    · obtain ⟨hle, -, htask, hun⟩ := hi.held thread' x hx
      refine ⟨Nat.le_succ_of_le hle, ?_, htask, hun⟩
      intro heq
      exact absurd heq (Nat.ne_of_lt (Nat.lt_succ_of_le hle))
  apart := by
    apply hi.apart.update
    -- a new read is later than the one the other thread holds
    intro x thread' x' hx _ hx'
    cases hx
    exact Nat.ne_of_gt (Nat.lt_succ_of_le (hi.held _ _ hx').le)
  newest m q hm := Nat.le_succ_of_le (hi.newest m q hm)
  latest _ q _ _ := by
    refine .inr ⟨thread, ⟨s.reads + 1, s.node, none⟩, ?_, rfl⟩
    simp [KeyHandler.readNode]

/-- The newest read of all is submitted, or this thread holds it, or another
one does. -/
theorem NewestKept.latest_cases (hi : NewestKept p s) {thread : Thread} {x : Handling}
    (hx : s.handling thread = some x) (hpos : 0 < s.reads) {q : Int}
    (hq : positionOf s.lastText = some q) (hmode : p.mode q ≠ none) :
    s.newest = some (s.reads, q) ∨ x.read = s.reads ∨
      ∃ thread' x', thread' ≠ thread ∧ s.handling thread' = some x' ∧ x'.read = s.reads := by
  rcases hi.latest hpos q hq hmode with hnew | ⟨thread', x', hx', hlast⟩
  · exact .inl hnew
  · right
    by_cases heq : thread' = thread
    · subst heq
      rw [hx] at hx'
      cases hx'
      exact .inl hlast
    · exact .inr ⟨thread', x', heq, hx', hlast⟩

/-- The thread holds on to its read. -/
theorem NewestKept.keep (hi : NewestKept p s) {thread : Thread} {x y : Handling}
    (hx : s.handling thread = some x) (hread : y.read = x.read) (htext : y.text = x.text)
    (htask : ∀ task, y.task = some task →
      (positionOf y.text).bind (fun q => handleMode p q (thread = .main)) = some task) :
    NewestKept p (s.setHandling thread (some y)) where
  preferences := hi.preferences
  booted := hi.booted
  last := hi.last
  held thread' x' hx' := by
    rw [setHandling_handling] at hx'
    split at hx'
    · rename_i heq
      cases hx'
      subst heq
      obtain ⟨hle, hte, -, hun⟩ := hi.held _ _ hx
      rw [← hread] at hle hte hun
      rw [← htext] at hte
      exact ⟨hle, hte, htask, hun⟩
    · exact hi.held thread' x' hx'
  apart := by
    apply hi.apart.update
    intro z thread' x' hz hne hx'
    cases hz
    rw [hread]
    exact hi.apart _ _ _ _ hx hx' hne.symm
  newest := hi.newest
  latest hpos q hq hmode := by
    rcases hi.latest_cases hx hpos hq hmode with hnew | hlast | ⟨thread', x', hne, hx', hlast⟩
    · exact .inl hnew
    · exact .inr ⟨thread, y, by simp, hread.trans hlast⟩
    · exact .inr ⟨thread', x', by simp [hne, hx'], hlast⟩

theorem Apart.drop (h : Apart s.handling) {thread : Thread} :
    Apart (s.setHandling thread none).handling := by
  apply h.update
  intro x _ _ hx
  cases hx

/-- The thread lets go of a read that selects no mode. -/
theorem NewestKept.drop (hi : NewestKept p s) {thread : Thread} {x : Handling}
    (hx : s.handling thread = some x)
    (hnone : ∀ q, positionOf x.text = some q → p.mode q = none) :
    NewestKept p (s.setHandling thread none) where
  preferences := hi.preferences
  booted := hi.booted
  last := hi.last
  held thread' x' hx' := by
    rw [setHandling_handling] at hx'
    split at hx'
    · cases hx'
    · exact hi.held thread' x' hx'
  apart := hi.apart.drop
  newest := hi.newest
  latest hpos q hq hmode := by
    rcases hi.latest_cases hx hpos hq hmode with hnew | hlast | ⟨thread', x', hne, hx', hlast⟩
    · exact .inl hnew
    · -- the newest read does have a mode
      have hq' : positionOf x.text = some q := by
        rw [(hi.held _ _ hx).text hlast]
        exact hq
      exact absurd (hnone q hq') hmode
    · exact .inr ⟨thread', x', by simp [hne, hx'], hlast⟩

theorem NewestKept.readPreferences (hi : NewestKept p s) {thread : Thread} {x : Handling}
    (hx : s.handling thread = some x) : NewestKept p (s.readPreferences thread x) := by
  unfold KeyHandler.readPreferences
  rw [hi.preferences]
  cases htask : (positionOf x.text).bind fun q => handleMode p q (thread = .main) with
  | none =>
      apply hi.drop hx
      intro q hq
      simpa [hq, handleMode] using htask
  | some task =>
      refine hi.keep hx rfl rfl ?_
      intro task' htask'
      cases htask'
      exact htask

/-! ## Submissions -/

theorem handleMode_some {q : Int} {first : Bool} {task : Task}
    (h : handleMode p q first = some task) : task.position = q ∧ p.mode q = some task.mode := by
  obtain ⟨mode, hmode, rfl⟩ := Option.map_eq_some_iff.mp h
  exact ⟨rfl, hmode⟩

/-- The newest read after a submission is the submitted one or a later
one. -/
theorem newest_submit {thread : Thread} {x : Handling} (task : Task)
    (hi : NewestKept p s) (hx : s.handling thread = some x) :
    (s.submit thread x task).newest = some (x.read, task.position) ∧
        (∀ m q, s.newest = some (m, q) → m < x.read) ∨
      ∃ m q, s.newest = some (m, q) ∧ x.read < m ∧
        (s.submit thread x task).newest = some (m, q) := by
  show noteSubmitted s.newest x.read task.position = _ ∧ _ ∨
    ∃ m q, _ ∧ _ ∧ noteSubmitted s.newest x.read task.position = _
  cases hnew : s.newest with
  | none => simp [noteSubmitted]
  | some mq =>
      obtain ⟨m, q⟩ := mq
      have hne := (hi.held _ _ hx).unsubmitted m q hnew
      by_cases hlt : m < x.read
      · refine .inl ⟨by simp [noteSubmitted, hlt], ?_⟩
        intro m' q' heq
        cases heq
        exact hlt
      · have hgt : x.read < m := by omega
        exact .inr ⟨m, q, rfl, hgt, by simp [noteSubmitted, hlt]⟩

/-- What is newest after a submission was newest before or is what the
thread has submitted. -/
theorem newest_submit_inv {thread : Thread} {x : Handling} {task : Task}
    (hi : NewestKept p s) (hx : s.handling thread = some x) {m : Nat} {q : Int}
    (hm : (s.submit thread x task).newest = some (m, q)) :
    m = x.read ∨ s.newest = some (m, q) := by
  rcases newest_submit task hi hx with ⟨hnew, -⟩ | ⟨m', q', hold, -, hnew⟩
  · rw [hnew] at hm
    cases hm
    exact .inl rfl
  · rw [hnew] at hm
    cases hm
    exact .inr hold

theorem NewestKept.submit (hi : NewestKept p s) {thread : Thread} {x : Handling} {task : Task}
    (hx : s.handling thread = some x) (htask : x.task = some task) :
    NewestKept p (s.submit thread x task) where
  preferences := hi.preferences
  booted := hi.booted
  last := hi.last
  held thread' x' hx' := by
    have hne : thread' ≠ thread := by
      rintro rfl
      simp [KeyHandler.submit] at hx'
    have hx'' : s.handling thread' = some x' := by simpa [KeyHandler.submit, hne] using hx'
    obtain ⟨hle', htext', htasks', hun'⟩ := hi.held thread' x' hx''
    refine ⟨hle', htext', htasks', ?_⟩
    intro m q hm
    rcases newest_submit_inv hi hx hm with rfl | hold
    · exact hi.apart _ _ _ _ hx'' hx hne
    · exact hun' m q hold
  apart := hi.apart.drop
  newest m q hm := by
    rcases newest_submit_inv hi hx hm with rfl | hold
    · exact (hi.held _ _ hx).le
    · exact hi.newest m q hold
  latest hpos q hq hmode := by
    rcases hi.latest_cases hx hpos hq hmode with
      hlast | hlast | ⟨thread', x', hne, hx', hlast⟩
    · -- an older read is submitted behind the newest one
      rcases newest_submit task hi hx with ⟨-, hlt⟩ | ⟨m, q', hold, -, hnew⟩
      · have hbefore := hlt _ _ hlast
        have hle := (hi.held _ _ hx).le
        omega
      · rw [hlast] at hold
        cases hold
        exact .inl hnew
    · obtain ⟨hle, htext, htasks, -⟩ := hi.held _ _ hx
      obtain ⟨q', hq', hmode'⟩ := Option.bind_eq_some_iff.mp (htasks task htask)
      obtain ⟨rfl, -⟩ := handleMode_some hmode'
      have hsame : some task.position = some q := by
        rw [← hq', ← hq, htext hlast]
        rfl
      cases hsame
      rcases newest_submit task hi hx with ⟨hnew, -⟩ | ⟨m, q', hold, hlt, -⟩
      · rw [hlast] at hnew
        exact .inl hnew
      · have hbound := hi.newest m _ hold
        omega
    · exact .inr ⟨thread', x', by simp [KeyHandler.submit, hne, hx'], hlast⟩

/-- What is taken to be fixed: the preferences, and the order in which zen
modes are committed. Nobody else sets the zen mode. -/
def undisturbed : Action → Bool
  | .setPreferences _ => false
  | .otherZen _ => false
  | .commitZen k => k = 0
  | _ => true

theorem newestKept_step (hi : NewestKept p s) (hfix : undisturbed a = true)
    (hs : step s a = some t) : NewestKept p t := by
  cases step_cases hs with
  | slide text =>
      refine ⟨hi.preferences, hi.booted, ?_, hi.held, hi.apart, hi.newest, hi.latest⟩
      intro hkeys
      cases hkeys
  | setPreferences p => cases hfix
  | readInput _ _ => exact hi.readNode .input (s.keyEvents - 1) s.bootPending
  | readMain _ _ => exact hi.readNode .main s.keyEvents false
  | readPreferences thread hx _ => exact hi.readPreferences hx
  | submit thread hx htask => exact hi.submit hx htask
  | run hrun => exact hi.congr front_runInstr
  | broadcast _ _ =>
      simp only [onMuteChanged]
      split <;> exact hi.congr rfl
  | _ => exact hi.congr rfl

/-! ## The task submitted last -/

/-- The position of the task that a step submits. -/
def submitted (x : KeyHandler × Action) : Option Int :=
  match x.2 with
  | .submit thread => (x.1.handling thread).bind fun y => y.task.map Task.position
  | _ => none

/-- The position of the task that was submitted last. -/
def lastSubmitted (h : List (KeyHandler × Action)) : Option Int :=
  (h.filterMap submitted).getLast?

theorem lastSubmitted_snoc (x : KeyHandler × Action) :
    lastSubmitted (h ++ [x]) = (submitted x).or (lastSubmitted h) := by
  rw [lastSubmitted, filterMap_snoc]
  cases submitted x <;> simp [lastSubmitted]

/-- Only a submission changes where the modes are going. -/
theorem eventually_step (hfix : undisturbed a = true) (hs : step s a = some t) :
    (submitted (s, a) = none ∧ t.eventually = s.eventually) ∨
      ∃ thread x task, s.handling thread = some x ∧ x.task = some task ∧
        submitted (s, a) = some task.position ∧
        t.eventually = (modesOf task.mode).getD s.eventually := by
  cases step_cases hs with
  | setPreferences p => cases hfix
  | readPreferences thread hx htask =>
      refine .inl ⟨rfl, ?_⟩
      simp only [readPreferences]
      split <;> rfl
  | @submit thread x task hx htask =>
      refine .inr ⟨thread, x, task, hx, htask, by simp [submitted, hx, htask], ?_⟩
      rw [← foldl_effect_program]
      exact SerialExecutor.eventual_submit
  | @start task q hrun hq => exact .inl ⟨rfl, SerialExecutor.eventual_start hrun hq⟩
  | run hrun => exact .inl ⟨rfl, eventually_runInstr hrun⟩
  | @commitZen k z hz =>
      have hk : k = 0 := by simpa [undisturbed] using hfix
      subst hk
      exact .inl ⟨rfl, eventually_commitZen hz⟩
  | otherZen z => cases hfix
  | broadcast _ _ =>
      refine .inl ⟨rfl, ?_⟩
      simp only [onMuteChanged]
      split <;> rfl
  | _ => exact .inl ⟨rfl, rfl⟩

/-- The newest read is not lost, and the modes are going to be those of the
task submitted last. -/
structure LastWins (p : Preferences) (h : List (KeyHandler × Action)) (s : KeyHandler) :
    Prop where
  kept : NewestKept p s
  wins : ∀ q c, lastSubmitted h = some q → (p.mode q).bind modesOf = some c → s.eventually = c

theorem LastWins.step (hi : LastWins p h s) (hfix : undisturbed a = true)
    (hs : step s a = some t) : LastWins p (h ++ [(s, a)]) t where
  kept := newestKept_step hi.kept hfix hs
  wins := by
    intro q c hq hc
    rw [lastSubmitted_snoc] at hq
    rcases eventually_step hfix hs with ⟨hnone, he⟩ | ⟨thread, x, task, hx, htask, hsub, he⟩
    · rw [hnone, Option.none_or] at hq
      rw [he]
      exact hi.wins q c hq hc
    · rw [hsub, Option.some_or] at hq
      cases hq
      obtain ⟨q', -, hmode⟩ :=
        Option.bind_eq_some_iff.mp ((hi.kept.held _ _ hx).task task htask)
      obtain ⟨rfl, hmode⟩ := handleMode_some hmode
      rw [hmode] at hc
      rw [he, show modesOf task.mode = some c from hc]
      rfl

/-- **The final position wins** where the task submitted last is of the
newest submitted read, or of its position: when everything is drained, the
modes are those configured for the position in the node. -/
theorem final_position_wins {node : List Char} {ringerMode zenMode : Int} {muted : Bool}
    (hp : Path step (construct p node ringerMode zenMode muted) h t)
    (hok : ∀ x ∈ h, undisturbed x.2 = true)
    (hlast : lastSubmitted h = t.newest.map Prod.snd) (ht : t.Drained) :
    ∀ q mode c, positionOf t.node = some q → p.mode q = some mode → modesOf mode = some c →
      (t.ringerMode, t.zenMode) = c := by
  have hi : LastWins p h t := by
    refine hp.history_inv (LastWins p) (fun _ a => undisturbed a = true)
      (fun h s a t hi ha hs => hi.step ha hs) ⟨?_, ?_⟩ hok
    · constructor <;> simp [construct, Apart]
    · simp [lastSubmitted]
  intro q mode c hq hmode hc
  have hreads := hi.kept.booted ht.boot
  rw [← hi.kept.last ht.keyEvents hreads] at hq
  have hnew : t.newest = some (t.reads, q) := by
    rcases hi.kept.latest hreads q hq (by simp [hmode]) with hnew | ⟨thread, x, hx, -⟩
    · exact hnew
    · rw [ht.handling thread] at hx
      cases hx
  rw [hnew] at hlast
  have hwins := hi.wins q c hlast (by rw [hmode]; exact hc)
  rw [← hwins, eventually, SerialExecutor.eventual_drained ht.running ht.queue, modes, zenGoal,
    ht.requests]
  rfl

/-- Boot reads the top position and submits it behind the bottom position of
a later read; then the slider moves to the middle. -/
def repairedByMove : List Action :=
  [.readNode .main, .slide ['3', '\n'], .readNode .input, .readPreferences .input,
    .submit .input, .readPreferences .main, .submit .main, .slide ['2', '\n'],
    .readNode .input, .readPreferences .input, .submit .input,
    .exec, .exec, .commitZen 0, .exec, .exec, .exec, .exec, .exec,
    .exec, .exec, .commitZen 0, .exec, .exec,
    .exec, .exec, .commitZen 0, .exec, .exec, .exec, .exec, .exec]

theorem final_position_wins_repaired :
    ∃ r ∈ follow step (construct defaultPreferences ['1', '\n'] 1 1 false) repairedByMove,
      (r.2.ringerMode, r.2.zenMode) = (ringerModeVibrate, zenModeOff) := by
  have hrun : ∃ r ∈ follow step (construct defaultPreferences ['1', '\n'] 1 1 false)
      repairedByMove,
      (∀ x ∈ r.1, undisturbed x.2 = true) ∧ lastSubmitted r.1 = r.2.newest.map Prod.snd ∧
        r.2.Drained ∧ positionOf r.2.node = some positionMiddle := by
    decide +kernel
  obtain ⟨r, hr, hok, hlast, hd, hpos⟩ := hrun
  exact ⟨r, hr, final_position_wins (path_of_follow hr) hok hlast hd positionMiddle 1 _ hpos
    rfl rfl⟩

/-- **An older position wins**: the boot thread reads the top position, the
slider moves to the bottom, and the input thread reads and submits first. -/
theorem older_position_wins :
    ∃ r ∈ follow step (construct defaultPreferences ['1', '\n'] 1 1 false)
        [.readNode .main, .slide ['3', '\n'], .readNode .input, .readPreferences .input,
          .submit .input, .readPreferences .main, .submit .main,
          .exec, .exec, .commitZen 0, .exec, .exec, .exec, .exec, .exec,
          .exec, .exec, .commitZen 0, .exec, .exec],
      (∀ x ∈ r.1, undisturbed x.2 = true) ∧ r.2.Drained ∧
        positionOf r.2.node = some positionBottom ∧
        defaultPreferences.mode positionBottom = some ringerModeNormal ∧
        r.2.ringerMode = ringerModeSilent := by
  decide

end KeyHandler

end OplusHardware.AlertSlider
