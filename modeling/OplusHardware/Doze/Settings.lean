import OplusHardware.Base.Path
import OplusHardware.Doze.Utils

/-!
# Doze — DozeSettingsFragment

Every change of a preference runs `onPreferenceChange`, which posts a check
of `DozeService` to the main thread; the value of a gesture is stored after
it has returned. What is posted asks the fragment for its context, also when
the fragment is gone by then.
-/

namespace OplusHardware.Doze

open OplusHardware.Base

/-! ## The main thread -/

/-- The preferences that have the fragment as their listener, each with its
new value. -/
inductive Preference where
  | alwaysOnDisplay (newValue : Bool)
  | dozeEnable (newValue : Bool)
  | gesturePickUp (newValue : String)
  | gesturePocket (newValue : Bool)
  deriving DecidableEq, Repr

/-- What the main thread handles. -/
inductive Callback where
  | onPreferenceChange (preference : Preference)
  /-- the posted runnable -/
  | checkDozeService
  | onDetach
  deriving DecidableEq, Repr

namespace Callback

/-- It asks the fragment for its context. -/
def asks : Callback → Bool
  | .onPreferenceChange (.alwaysOnDisplay _) => true
  | .onPreferenceChange (.dozeEnable _) => true
  | .onPreferenceChange (.gesturePickUp _) => false
  | .onPreferenceChange (.gesturePocket _) => false
  | .checkDozeService => true
  | .onDetach => false

/-- What it posts. -/
def posts : Callback → List Callback
  | .onPreferenceChange _ => [.checkDozeService]
  | .checkDozeService => []
  | .onDetach => []

theorem onDetach_notMem_posts (c : Callback) : .onDetach ∉ c.posts := by
  cases c <;> simp [posts]

end Callback

/-- The settings and preferences, whether `DozeService` runs, whether the
fragment is attached, and the main thread: what is queued for it, and
whether a callback has thrown. -/
structure MainThread where
  settings : SecureSettings
  prefs : SharedPreferences
  running : Bool
  attached : Bool
  queue : List Callback
  crashed : Bool
  deriving DecidableEq, Repr

namespace MainThread

def startService (s : MainThread) : MainThread := { s with running := true }

def stopService (s : MainThread) : MainThread := { s with running := false }

def checkDozeService (s : MainThread) : MainThread :=
  if s.settings.isDozeEnabled && !s.settings.isAlwaysOnEnabled && s.prefs.areGesturesEnabled then
    s.startService
  else s.stopService

/-- `handler.post` -/
def post (s : MainThread) (c : Callback) : MainThread := { s with queue := s.queue ++ [c] }

/-- It throws (`none`) when the fragment is detached. -/
def requireContext (s : MainThread) : Option MainThread := if s.attached then some s else none

/-- A callback that throws has asked for the context first, so it has changed
nothing. What the preferences show (`isChecked`, `isEnabled`) is left out. -/
def onPreferenceChange (s : MainThread) (preference : Preference) : Option MainThread := do
  let s ←
    match preference with
    | .alwaysOnDisplay isChecked => do
        let s ← s.requireContext
        pure { s with settings := s.settings.enableAlwaysOn isChecked }
    | .dozeEnable isChecked => do
        let s ← s.requireContext
        let s := { s with settings := s.settings.enableDoze isChecked }
        let s ← s.requireContext
        let s := s.checkDozeService
        if isChecked then pure s
        else do
          let s ← s.requireContext
          pure { s with settings := s.settings.enableAlwaysOn false }
    | .gesturePickUp _ => pure s
    | .gesturePocket _ => pure s
  pure (s.post .checkDozeService)

/-- What is stored after `onPreferenceChange`. `doze_enable` is stored too,
but nothing reads it, and `always_on_display` is not persistent. -/
def persist (s : MainThread) : Preference → MainThread
  | .alwaysOnDisplay _ => s
  | .dozeEnable _ => s
  | .gesturePickUp newValue => { s with prefs.gesture_pick_up_type := some newValue }
  | .gesturePocket newValue => { s with prefs.gesture_pocket := some newValue }

/-- A callback is run; `none` when it throws. -/
def run (s : MainThread) : Callback → Option MainThread
  | .onPreferenceChange preference =>
      (s.onPreferenceChange preference).map (·.persist preference)
  | .checkDozeService => s.requireContext.map checkDozeService
  | .onDetach => some { s with attached := false }

/-- The next callback is handled. -/
def handle (s : MainThread) : Option MainThread :=
  match s.queue with
  | [] => none
  | c :: queue =>
      let s := { s with queue := queue }
      some ((s.run c).getD { s with crashed := true })

/-- The fragment is attached, and nothing is queued. -/
def opened (settings : SecureSettings) (prefs : SharedPreferences) (running : Bool) :
    MainThread where
  settings := settings
  prefs := prefs
  running := running
  attached := true
  queue := []
  crashed := false

end MainThread

/-! ## Events -/

inductive Action where
  /-- the user changes a preference -/
  | change (preference : Preference)
  /-- the fragment is to be detached -/
  | detach
  /-- the main thread handles the next callback -/
  | handle
  deriving DecidableEq, Repr

namespace MainThread

/-- What has thrown does not go on. -/
def step (s : MainThread) : Action → Option MainThread
  | .change preference =>
      if s.crashed then none else some (s.post (.onPreferenceChange preference))
  | .detach => if s.crashed then none else some (s.post .onDetach)
  | .handle => if s.crashed then none else s.handle

variable {s t u : MainThread} {a : Action} {c : Callback} {queue : List Callback}
  {h : List (MainThread × Action)}

/-- What the settings ask for. -/
def Wanted (s : MainThread) : Prop :=
  s.settings.isDozeEnabled = true ∧ s.settings.isAlwaysOnEnabled = false ∧
    s.prefs.areGesturesEnabled = true

/-- The service runs if and only if the settings ask for it. -/
def Follows (s : MainThread) : Prop := s.running = true ↔ s.Wanted

/-- **Nothing has thrown, and the service follows the settings** whenever no
posted runnable waits. -/
structure Fine (s : MainThread) : Prop where
  runs : s.crashed = false
  follows : .checkDozeService ∉ s.queue → s.Follows

/-! ## Callbacks -/

@[simp] theorem crashed_checkDozeService : s.checkDozeService.crashed = s.crashed := by
  rw [checkDozeService]; split <;> rfl

@[simp] theorem attached_checkDozeService : s.checkDozeService.attached = s.attached := by
  rw [checkDozeService]; split <;> rfl

@[simp] theorem queue_checkDozeService : s.checkDozeService.queue = s.queue := by
  rw [checkDozeService]; split <;> rfl

@[simp] theorem crashed_persist {p : Preference} : (s.persist p).crashed = s.crashed := by
  cases p <;> rfl

@[simp] theorem attached_persist {p : Preference} : (s.persist p).attached = s.attached := by
  cases p <;> rfl

@[simp] theorem queue_persist {p : Preference} : (s.persist p).queue = s.queue := by
  cases p <;> rfl

theorem requireContext_of_attached (hs : s.attached = true) : s.requireContext = some s :=
  if_pos hs

theorem requireContext_of_detached (hs : s.attached = false) : s.requireContext = none := by
  rw [requireContext, if_neg (by simp [hs])]

/-- **The check**: afterwards the service follows the settings. -/
theorem follows_checkDozeService (s : MainThread) : s.checkDozeService.Follows := by
  simp only [checkDozeService, Follows]
  split
  · rename_i hwanted
    simp only [Bool.and_eq_true, Bool.not_eq_true'] at hwanted
    exact ⟨fun _ => ⟨hwanted.1.1, hwanted.1.2, hwanted.2⟩, fun _ => rfl⟩
  · rename_i hwanted
    simp only [Bool.and_eq_true, Bool.not_eq_true'] at hwanted
    constructor
    · intro hrun
      cases hrun
    · rintro ⟨hdoze, halways, hgestures⟩
      exact absurd ⟨⟨hdoze, halways⟩, hgestures⟩ hwanted

/-- A change with the context at hand, or one of a gesture. -/
theorem onPreferenceChange_some {p : Preference}
    (hs : (Callback.onPreferenceChange p).asks = true → s.attached = true) :
    ∃ t, s.onPreferenceChange p = some t ∧ t.crashed = s.crashed ∧ t.attached = s.attached ∧
      t.queue = s.queue ++ [.checkDozeService] := by
  cases p with
  | alwaysOnDisplay isChecked =>
      simp [onPreferenceChange, requireContext_of_attached (hs rfl), post]
  | dozeEnable isChecked =>
      have hdoze : ({ s with settings := s.settings.enableDoze isChecked } :
          MainThread).attached = true := hs rfl
      have hcheck : ({ s with settings := s.settings.enableDoze isChecked } :
          MainThread).checkDozeService.attached = true := by
        rw [attached_checkDozeService]
        exact hdoze
      cases isChecked <;>
        simp [onPreferenceChange, requireContext_of_attached (hs rfl),
          requireContext_of_attached hdoze, requireContext_of_attached hcheck, post]
  | gesturePickUp newValue => exact ⟨_, rfl, rfl, rfl, rfl⟩
  | gesturePocket newValue => exact ⟨_, rfl, rfl, rfl, rfl⟩

/-- A callback with the context at hand, or one that does not ask for it. -/
theorem run_some (hs : c.asks = true → s.attached = true) :
    ∃ t, s.run c = some t ∧ t.crashed = s.crashed ∧
      t.attached = (s.attached && c != .onDetach) ∧ t.queue = s.queue ++ c.posts := by
  cases c with
  | onPreferenceChange p =>
      obtain ⟨t, ht, hcrashed, hattached, hqueue⟩ := onPreferenceChange_some hs
      refine ⟨t.persist p, by rw [run, ht]; rfl, ?_, ?_, ?_⟩
      · rw [crashed_persist, hcrashed]
      · rw [attached_persist, hattached]
        simp
      · rw [queue_persist, hqueue]
        rfl
  | checkDozeService =>
      refine ⟨s.checkDozeService, ?_, crashed_checkDozeService, ?_, ?_⟩
      · rw [run, requireContext_of_attached (hs rfl)]
        rfl
      · rw [attached_checkDozeService]
        simp
      · rw [queue_checkDozeService]
        exact (List.append_nil _).symm
  | onDetach => exact ⟨_, rfl, rfl, by simp, (List.append_nil _).symm⟩

/-- A callback that asks a detached fragment throws. -/
theorem run_none (hs : s.attached = false) (hc : c.asks = true) : s.run c = none := by
  cases c with
  | onPreferenceChange p =>
      cases p with
      | alwaysOnDisplay isChecked =>
          simp [run, onPreferenceChange, requireContext_of_detached hs]
      | dozeEnable isChecked =>
          simp [run, onPreferenceChange, requireContext_of_detached hs]
      | gesturePickUp newValue => cases hc
      | gesturePocket newValue => cases hc
  | checkDozeService => rw [run, requireContext_of_detached hs, Option.map_none]
  | onDetach => cases hc

/-- What a callback that posts nothing leaves. -/
theorem follows_run (hrun : s.run c = some t) (hc : c.posts = [])
    (hs : c = .onDetach → s.Follows) : t.Follows := by
  cases c with
  | onPreferenceChange p => cases hc
  | checkDozeService =>
      rw [run, Option.map_eq_some_iff] at hrun
      obtain ⟨u, -, rfl⟩ := hrun
      exact follows_checkDozeService u
  | onDetach =>
      cases hrun
      exact hs rfl

/-! ## Steps -/

/-- The callback that a step handles does not ask a detached fragment. -/
def Harmless (s : MainThread) (a : Action) : Prop :=
  a = .handle → s.attached = false → ∀ c ∈ s.queue.head?, c.asks = false

theorem Harmless.head (h : Harmless s .handle) (hq : s.queue = c :: queue) :
    c.asks = true → s.attached = true := by
  intro hc
  by_contra hs
  have hasks := h rfl (Bool.not_eq_true _ ▸ hs) c (by rw [hq]; rfl)
  rw [hc] at hasks
  cases hasks

/-- A callback is handled. -/
theorem handle_some (hs : s.crashed = false) (hq : s.queue = c :: queue)
    (hc : c.asks = true → s.attached = true) :
    ∃ t, step s .handle = some t ∧ run { s with queue := queue } c = some t ∧
      t.crashed = false ∧ t.attached = (s.attached && c != .onDetach) ∧
      t.queue = queue ++ c.posts := by
  obtain ⟨t, ht, hcrashed, hattached, hqueue⟩ :=
    run_some (s := { s with queue := queue }) (c := c) hc
  refine ⟨t, ?_, ht, hcrashed.trans hs, hattached, hqueue⟩
  rw [step, hs, if_neg (by simp), handle, hq]
  show some ((run { s with queue := queue } c).getD _) = some t
  rw [ht, Option.getD_some]

/-- A callback throws. -/
theorem handle_throws (hs : s.crashed = false) (hq : s.queue = c :: queue)
    (hattached : s.attached = false) (hc : c.asks = true) :
    step s .handle = some { s with queue := queue, crashed := true } := by
  rw [step, hs, if_neg (by simp), handle, hq]
  have hnone : run { s with queue := queue } c = none := run_none hattached hc
  show some ((run { s with queue := queue } c).getD _) = _
  rw [hnone, Option.getD_none]

/-- Nothing is handled when nothing is queued. -/
theorem handle_nil (hq : s.queue = []) : step s .handle = none := by
  rw [step, handle, hq]
  exact ite_self none

/-- What arrives leaves the rest alone. -/
theorem Fine.post (h : Fine s) : Fine (s.post c) := by
  refine ⟨h.runs, ?_⟩
  intro hnot
  apply h.follows
  intro hin
  exact hnot (List.mem_append_left _ hin)

/-- **Harmless steps keep the service right.** -/
theorem Fine.step (h : Fine s) (ha : Harmless s a) (hstep : step s a = some t) : Fine t := by
  cases a with
  | change p =>
      rw [MainThread.step, h.runs, if_neg (by simp)] at hstep
      cases hstep
      exact h.post
  | detach =>
      rw [MainThread.step, h.runs, if_neg (by simp)] at hstep
      cases hstep
      exact h.post
  | handle =>
      cases hq : s.queue with
      | nil =>
          rw [handle_nil hq] at hstep
          cases hstep
      | cons c queue =>
          obtain ⟨u, hu, hrun, hcrashed, -, hqueue⟩ := handle_some h.runs hq (ha.head hq)
          rw [hu] at hstep
          cases hstep
          refine ⟨hcrashed, ?_⟩
          intro hnot
          rw [hqueue, List.mem_append, not_or] at hnot
          apply follows_run hrun
          · cases c with
            | onPreferenceChange p => exact absurd (List.mem_singleton.mpr rfl) hnot.2
            | checkDozeService => rfl
            | onDetach => rfl
          · rintro rfl
            apply h.follows
            rw [hq, List.mem_cons, not_or]
            exact ⟨by simp, hnot.1⟩

/-- **Every other step throws.** -/
theorem not_fine_of_not_harmless (h : Fine s) (ha : ¬ Harmless s a) (hstep : step s a = some t) :
    ¬ Fine t := by
  simp only [Harmless, Classical.not_imp, not_forall] at ha
  obtain ⟨rfl, hattached, c, hc, hasks⟩ := ha
  cases hq : s.queue with
  | nil =>
      rw [hq] at hc
      cases hc
  | cons d queue =>
      rw [hq] at hc
      cases hc
      rw [handle_throws h.runs hq hattached (by simpa using hasks)] at hstep
      cases hstep
      intro ht
      cases ht.runs

/-! ## What is queued -/

/-- The main thread throws while it handles what is queued. -/
def Throws (s : MainThread) : Prop :=
  ∃ h t, Path step s h t ∧ (∀ x ∈ h, x.2 = .handle) ∧ t.crashed = true

theorem throws_of_handle (hstep : step s .handle = some t) (ht : t.Throws) : s.Throws := by
  obtain ⟨h, u, hp, hhandle, hcrashed⟩ := ht
  exact ⟨_, u, .cons hstep hp, List.forall_mem_cons.mpr ⟨rfl, hhandle⟩, hcrashed⟩

theorem throws_of_path (hp : Path step s h t) (hhandle : ∀ x ∈ h, x.2 = .handle)
    (ht : t.Throws) : s.Throws := by
  obtain ⟨h', u, hp', hhandle', hcrashed⟩ := ht
  exact ⟨_, u, hp.append hp', List.forall_mem_append.mpr ⟨hhandle, hhandle'⟩, hcrashed⟩

/-- The first callbacks of the queue are handled, unless one of them throws. -/
theorem throws_or_handled (first rest : List Callback) (s : MainThread)
    (hs : s.crashed = false) (hq : s.queue = first ++ rest) :
    s.Throws ∨ ∃ h t, Path step s h t ∧ (∀ x ∈ h, x.2 = .handle) ∧ t.crashed = false ∧
      t.attached = (s.attached && !first.contains .onDetach) ∧
      t.queue = rest ++ first.flatMap Callback.posts := by
  induction first generalizing s rest with
  | nil => exact .inr ⟨[], s, .nil, by simp, hs, by simp, by simpa using hq⟩
  | cons c first ih =>
      by_cases hc : c.asks = true → s.attached = true
      · obtain ⟨t, hstep, -, hcrashed, hattached, hqueue⟩ := handle_some hs hq hc
        rcases ih (rest ++ c.posts) t hcrashed (hqueue.trans (List.append_assoc _ _ _)) with ht |
          ⟨h, u, hp, hhandle, hu, huattached, huqueue⟩
        · exact .inl (throws_of_handle hstep ht)
        · refine .inr ⟨_, u, .cons hstep hp, List.forall_mem_cons.mpr ⟨rfl, hhandle⟩, hu, ?_, ?_⟩
          · rw [huattached, hattached, List.contains_cons, Bool.not_or, Bool.and_assoc]
            congr 2
            cases c <;> rfl
          · rw [huqueue, List.flatMap_cons, List.append_assoc]
      · rw [Classical.not_imp, Bool.not_eq_true] at hc
        exact .inl ⟨_, _, .single (handle_throws hs hq hc.2 hc.1), by simp, rfl⟩

/-- A callback that asks for the context is queued for a detached fragment. -/
theorem throws_of_asks (hs : s.crashed = false) (hattached : s.attached = false)
    (hin : c ∈ s.queue) (hc : c.asks = true) : s.Throws := by
  obtain ⟨first, rest, hq⟩ := List.append_of_mem hin
  rcases throws_or_handled first (c :: rest) s hs hq with h |
    ⟨h, t, hp, hhandle, ht, htattached, htqueue⟩
  · exact h
  · rw [hattached, Bool.false_and] at htattached
    apply throws_of_path hp hhandle
    exact ⟨_, _, .single (handle_throws ht htqueue htattached hc), by simp, rfl⟩

/-- **A detached fragment throws** unless only its detachment is queued. -/
theorem throws_of_detached (hs : s.crashed = false) (hattached : s.attached = false)
    (hin : c ∈ s.queue) (hc : c ≠ .onDetach) : s.Throws := by
  cases hasks : c.asks with
  | true => exact throws_of_asks hs hattached hin hasks
  | false =>
      -- the change of a gesture posts one that does
      rcases throws_or_handled s.queue [] s hs (List.append_nil _).symm with h |
        ⟨h, t, hp, hhandle, ht, htattached, htqueue⟩
      · exact h
      · rw [hattached, Bool.false_and] at htattached
        apply throws_of_path hp hhandle
        refine throws_of_asks (c := .checkDozeService) ht htattached ?_ rfl
        rw [htqueue, List.nil_append, List.mem_flatMap]
        refine ⟨c, hin, ?_⟩
        cases c with
        | onPreferenceChange p => exact List.mem_singleton.mpr rfl
        | checkDozeService => cases hasks
        | onDetach => exact absurd rfl hc

/-- What is queued, behind the detachment if it has been. -/
def waiting (s : MainThread) : List Callback :=
  if s.attached then s.queue else .onDetach :: s.queue

theorem waiting_of_attached (hs : s.attached = true) : s.waiting = s.queue := if_pos hs

theorem waiting_of_detached (hs : s.attached = false) : s.waiting = .onDetach :: s.queue := by
  rw [waiting, if_neg (by simp [hs])]

/-- Only runnables are ahead of the detachment, and nothing is behind it. -/
def Clear (s : MainThread) : Prop :=
  ∀ first rest, s.waiting = first ++ .onDetach :: rest →
    (∀ c ∈ first, c.posts = []) ∧ ∀ c ∈ rest, c = .onDetach

theorem Clear.eq_onDetach (h : Clear s) (hs : s.attached = false) (hc : c ∈ s.queue) :
    c = .onDetach :=
  (h [] s.queue (waiting_of_detached hs)).2 c hc

theorem Clear.harmless (h : Clear s) : Harmless s .handle := by
  intro _ hattached c hc
  rw [h.eq_onDetach hattached (List.mem_of_mem_head? hc)]
  rfl

/-- What is ahead of a detachment posts nothing. -/
theorem Clear.posts_eq_nil (h : Clear s) (hs : s.waiting = c :: queue)
    (hin : .onDetach ∈ queue) : c.posts = [] := by
  obtain ⟨first, rest, rfl⟩ := List.append_of_mem hin
  exact (h (c :: first) rest hs).1 c (by simp)

theorem Clear.of_cons (h : Clear s) (hs : s.waiting = c :: t.waiting) : Clear t := by
  intro first rest hwaiting
  rw [hwaiting] at hs
  obtain ⟨hfirst, hrest⟩ := h (c :: first) rest hs
  exact ⟨fun d hd => hfirst d (List.mem_cons_of_mem _ hd), hrest⟩

/-- Handling a callback leaves it so. -/
theorem Clear.handle (h : Clear s) (hs : s.crashed = false) (hstep : step s .handle = some t) :
    Clear t := by
  cases hq : s.queue with
  | nil =>
      rw [handle_nil hq] at hstep
      cases hstep
  | cons c queue =>
      obtain ⟨u, hu, -, -, hattached, hqueue⟩ := handle_some hs hq (h.harmless.head hq)
      rw [hu] at hstep
      cases hstep
      by_cases hc : c = .onDetach
      · -- the fragment is detached afterwards, and nothing is posted
        subst hc
        rw [bne_self_eq_false, Bool.and_false] at hattached
        have hafter : t.waiting = .onDetach :: queue := by
          rw [waiting_of_detached hattached, hqueue]
          exact congrArg (_ :: ·) (List.append_nil _)
        cases hs : s.attached with
        | true =>
            intro first rest ht
            apply h first rest
            rw [← ht, hafter, waiting_of_attached hs, hq]
        | false =>
            apply h.of_cons (c := .onDetach)
            rw [hafter, waiting_of_detached hs, hq]
      · cases hs : s.attached with
        | false => exact absurd (h.eq_onDetach hs (by rw [hq]; simp)) hc
        | true =>
            rw [hs, Bool.true_and, bne_iff_ne.mpr hc] at hattached
            have hbefore : s.waiting = c :: queue := (waiting_of_attached hs).trans hq
            have hafter : t.waiting = queue ++ c.posts :=
              (waiting_of_attached hattached).trans hqueue
            intro first rest ht
            have hin : .onDetach ∈ queue ++ c.posts := by
              rw [← hafter, ht]
              simp
            have hposts : c.posts = [] :=
              h.posts_eq_nil hbefore
                ((List.mem_append.mp hin).resolve_right c.onDetach_notMem_posts)
            apply h.of_cons (c := c) (t := t) _ first rest ht
            rw [hbefore, hafter, hposts, List.append_nil]

/-- A queue that is handled without throwing is clear. -/
theorem clear_of_not_throws (hs : s.crashed = false) (hnot : ¬ s.Throws) : Clear s := by
  intro first rest hwaiting
  cases hattached : s.attached with
  | false =>
      have hall : ∀ c ∈ s.waiting, c = .onDetach := by
        rw [waiting_of_detached hattached]
        refine List.forall_mem_cons.mpr ⟨rfl, ?_⟩
        intro c hin
        by_contra hc
        exact hnot (throws_of_detached hs hattached hin hc)
      rw [hwaiting, List.forall_mem_append, List.forall_mem_cons] at hall
      refine ⟨?_, hall.2.2⟩
      intro c hc
      rw [hall.1 c hc]
      rfl
  | true =>
      rw [waiting_of_attached hattached, List.append_cons] at hwaiting
      rcases throws_or_handled (first ++ [.onDetach]) rest s hs hwaiting with h |
        ⟨h, t, hp, hhandle, ht, htattached, htqueue⟩
      · exact absurd h hnot
      · have hdetached : t.attached = false := by
          rw [htattached]
          simp
        have hall : ∀ c ∈ t.queue, c = .onDetach := by
          intro c hin
          by_contra hc
          exact hnot (throws_of_path hp hhandle (throws_of_detached ht hdetached hin hc))
        rw [htqueue, List.forall_mem_append, List.flatMap_append, List.forall_mem_append] at hall
        refine ⟨?_, hall.1⟩
        intro c hc
        apply List.eq_nil_iff_forall_not_mem.mpr
        intro d hd
        rw [hall.2.1 d (List.mem_flatMap.mpr ⟨c, hc, hd⟩)] at hd
        exact c.onDetach_notMem_posts hd

/-- **The queue decides**: handling what is queued goes well if and only if it
is clear. -/
theorem fine_handled_iff (hf : Fine s) :
    (∀ h t, Path step s h t → (∀ x ∈ h, x.2 = .handle) → Fine t) ↔ Clear s := by
  constructor
  · intro hall
    apply clear_of_not_throws hf.runs
    rintro ⟨h, t, hp, hhandle, hcrashed⟩
    rw [(hall h t hp hhandle).runs] at hcrashed
    cases hcrashed
  · intro hclear h t hp hhandle
    have hinv : Fine t ∧ Clear t := by
      refine hp.inv (fun s => Fine s ∧ Clear s) (fun _ a => a = .handle) ?_ ⟨hf, hclear⟩ hhandle
      rintro s a t ⟨hf, hclear⟩ rfl hstep
      exact ⟨hf.step hclear.harmless hstep, hclear.handle hf.runs hstep⟩
    exact hinv.1

/-! ## The fragment over a run -/

/-- **When the service follows the settings.** From every state in which it
does, for every run of changes, of detachments and of the main thread: no
callback throws and the service follows the settings whenever no runnable
waits, if and only if no callback that asks for the context is handled once
the fragment is detached. After such a run, what is queued is handled as well
if and only if only runnables are ahead of the detachment, and nothing is
behind it. -/
theorem follows_always_iff (s : MainThread) (hs : s.crashed = false) (hfollows : s.Follows)
    (h : List (MainThread × Action)) (q : MainThread) (hp : Path step s h q) :
    (((∀ x ∈ h, Fine x.1) ∧ Fine q) ↔ ∀ x ∈ h, Harmless x.1 x.2) ∧
      ((∀ x ∈ h, Harmless x.1 x.2) →
        ((∀ h' t, Path step q h' t → (∀ x ∈ h', x.2 = .handle) → Fine t) ↔ Clear q)) := by
  have hiff : ((∀ x ∈ h, Fine x.1) ∧ Fine q) ↔ ∀ x ∈ h, Harmless x.1 x.2 := by
    apply hp.always_iff Fine Fine Harmless
    · exact fun _ _ _ hf ha hstep => hf.step ha hstep
    · exact fun _ hf => hf
    · exact fun _ _ _ hf ha hstep => not_fine_of_not_harmless hf ha hstep
    · exact ⟨hs, fun _ => hfollows⟩
  refine ⟨hiff, ?_⟩
  intro hharmless
  exact fine_handled_iff (hiff.mpr hharmless).2

end MainThread

theorem MainThread.follows_opened :
    (MainThread.opened ⟨none, none⟩ ⟨none, none⟩ false).Follows := by
  constructor
  · intro h
    cases h
  · rintro ⟨-, -, h⟩
    cases h

/-- Both gestures are tried, doze is switched off and on again, and the
fragment is left when all has been handled. -/
theorem follows_always_iff_left :
    ∃ r ∈ follow MainThread.step (MainThread.opened ⟨none, none⟩ ⟨none, none⟩ false)
        [.change (.gesturePocket true), .handle, .handle, .change (.gesturePickUp "2"),
          .change (.dozeEnable false), .handle, .handle, .handle, .change (.dozeEnable true),
          .handle, .handle, .handle, .detach, .handle],
      r.2.attached = false ∧ ((∀ x ∈ r.1, x.1.Fine) ∧ r.2.Fine) ∧
        ∀ h' t, Path MainThread.step r.2 h' t → (∀ x ∈ h', x.2 = .handle) → t.Fine := by
  have hrun : ∃ r ∈ follow MainThread.step (MainThread.opened ⟨none, none⟩ ⟨none, none⟩ false)
      [.change (.gesturePocket true), .handle, .handle, .change (.gesturePickUp "2"),
        .change (.dozeEnable false), .handle, .handle, .handle, .change (.dozeEnable true),
        .handle, .handle, .handle, .detach, .handle],
      r.2.attached = false ∧ r.2.queue = [] ∧ r.1.all (fun x => x.1.attached) = true :=
    ⟨_, rfl, rfl, rfl, rfl⟩
  obtain ⟨r, hr, hdetached, hqueue, hattached⟩ := hrun
  obtain ⟨hfine, hhandled⟩ := MainThread.follows_always_iff
    (MainThread.opened ⟨none, none⟩ ⟨none, none⟩ false) rfl MainThread.follows_opened r.1 r.2
    (path_of_follow hr)
  have hharmless : ∀ x ∈ r.1, x.1.Harmless x.2 := by
    intro x hx _ hoff
    rw [List.all_eq_true.mp hattached x hx] at hoff
    cases hoff
  refine ⟨r, hr, hdetached, hfine.mpr hharmless, (hhandled hharmless).mpr ?_⟩
  intro first rest hwaiting
  rw [MainThread.waiting_of_detached hdetached, hqueue] at hwaiting
  cases first with
  | nil =>
      cases hwaiting
      exact ⟨by simp, by simp⟩
  | cons c first => simp at hwaiting

/-- **A gesture switched on while the fragment is left**: the runnable that it
posts is behind the detachment. -/
theorem check_after_detach_throws :
    ∃ r ∈ follow MainThread.step (MainThread.opened ⟨none, none⟩ ⟨none, none⟩ false)
        [.change (.gesturePocket true), .detach, .handle, .handle, .handle],
      (MainThread.opened ⟨none, none⟩ ⟨none, none⟩ false).Follows ∧
        r.2.crashed = true ∧ r.2.queue = [] ∧ ¬ r.2.Follows := by
  refine ⟨_, rfl, MainThread.follows_opened, rfl, rfl, ?_⟩
  intro h
  have hrun := h.mpr ⟨rfl, rfl, rfl⟩
  cases hrun

end OplusHardware.Doze
