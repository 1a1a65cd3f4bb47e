import OplusHardware.AlertSlider.KeyHandler

/-!
# AlertSlider — what the key handler announces

Every `CHANGED_ACTION` broadcast is paid for by a move of the slider: the
one run after boot announces nothing. What is announced was read by the
input thread, with the dialog switched on, and carries the mode that was
then configured for the position.
-/

namespace OplusHardware.AlertSlider

open OplusHardware.Base

namespace KeyHandler

variable {s t : KeyHandler} {a : Action} {h : List (KeyHandler × Action)}

/-! ## Notifications in a program -/

def isNotification : Instr → Bool
  | .sendNotification _ _ => true
  | _ => false

def notifications (is : List Instr) : Nat := is.countP isNotification

theorem notifications_append (is js : List Instr) :
    notifications (is ++ js) = notifications is + notifications js :=
  List.countP_append

theorem notifications_switchMode (mode : Int) (muteMedia : Bool) :
    notifications (switchMode mode muteMedia) = 0 := by
  unfold switchMode
  split
  · cases muteMedia <;> rfl
  · split
    · rfl
    · split <;> rfl

theorem notifications_program_le (x : Task) : notifications x.program ≤ 1 := by
  rw [Task.program, notifications_append, notifications_switchMode, feedback]
  cases x.firstRun <;> cases x.showDialog <;>
    simp [notifications, isNotification, List.countP_cons]

/-- The task of the first run announces nothing. -/
theorem notifications_program_firstRun {x : Task} (hx : x.firstRun = true) :
    notifications x.program = 0 := by
  rw [Task.program, notifications_append, notifications_switchMode, feedback, if_pos hx]
  rfl

/-- A notification in a program is that of its task. -/
theorem mem_program {x : Task} {position mode : Int}
    (hx : Instr.sendNotification position mode ∈ x.program) :
    position = x.position ∧ mode = x.mode ∧ x.showDialog = true ∧ x.firstRun = false := by
  have hfeedback : Instr.sendNotification position mode ∈ feedback x := by
    rcases List.mem_append.mp hx with hswitch | hfeedback
    · have hzero := notifications_switchMode x.mode x.muteMedia
      rw [notifications, List.countP_eq_zero] at hzero
      exact absurd rfl (hzero _ hswitch)
    · exact hfeedback
  rw [feedback] at hfeedback
  cases hfirst : x.firstRun with
  | true => simp [hfirst] at hfeedback
  | false =>
      cases hshow : x.showDialog with
      | false => simp [hfirst, hshow] at hfeedback
      | true =>
          simp [hfirst, hshow] at hfeedback
          exact ⟨hfeedback.1, hfeedback.2, rfl, rfl⟩

/-! ## Notifications are paid for -/

/-- The notifications a `populateKeyState` may still lead to: on the input
thread one, until the task says. -/
def handlingCredit : Thread → Option Handling → Nat
  | _, none => 0
  | _, some ⟨_, _, some task⟩ => notifications task.program
  | .input, some ⟨_, _, none⟩ => 1
  | .main, some ⟨_, _, none⟩ => 0

def handlingCredits (handling : Thread → Option Handling) : Nat :=
  handlingCredit .input (handling .input) + handlingCredit .main (handling .main)

/-- The notifications that may come without another move. -/
def credit (s : KeyHandler) : Nat :=
  s.keyEvents + handlingCredits s.handling +
    notifications (s.executorService.remaining Task.program)

/-- A thread goes on with its handling. -/
theorem handlingCredits_update (handling : Thread → Option Handling) (thread : Thread)
    (x : Option Handling) :
    handlingCredits (Function.update handling thread x) +
        handlingCredit thread (handling thread) =
      handlingCredits handling + handlingCredit thread x := by
  cases thread with
  | input =>
      rw [handlingCredits, Function.update_self, Function.update_of_ne (by decide),
        handlingCredits]
      omega
  | main =>
      rw [handlingCredits, Function.update_self, Function.update_of_ne (by decide),
        handlingCredits]
      omega

/-- The slider moves. -/
def slides (x : KeyHandler × Action) : Bool :=
  match x.2 with
  | .slide _ => true
  | _ => false

/-- The executor runs a `sendNotification`. -/
def announces (x : KeyHandler × Action) : Bool :=
  match x.2, x.1.executorService.running with
  | .exec, i :: _ => isNotification i
  | _, _ => false

/-- The task that a thread submits announces no more than the thread was
good for. -/
theorem handlingCredit_task {thread : Thread} {x : Handling} {p : Preferences} {task : Task}
    (hx : x.task = none)
    (htask : ((positionOf x.text).bind fun pos => handleMode p pos (thread = .main)) =
      some task) :
    notifications task.program ≤ handlingCredit thread (some x) := by
  obtain ⟨read, text, task'⟩ := x
  cases hx
  cases thread with
  | input => exact notifications_program_le task
  | main =>
      obtain ⟨position, -, hmode⟩ := Option.bind_eq_some_iff.mp htask
      obtain ⟨mode, -, rfl⟩ := Option.map_eq_some_iff.mp hmode
      exact (notifications_program_firstRun rfl).le

/-- A thread goes on, and nothing else changes. -/
theorem credit_setHandling (s : KeyHandler) (thread : Thread) (x : Option Handling) :
    credit (s.setHandling thread x) + handlingCredit thread (s.handling thread) =
      credit s + handlingCredit thread x := by
  have hcredits := handlingCredits_update s.handling thread x
  have hnew : credit (s.setHandling thread x) = s.keyEvents +
      handlingCredits (Function.update s.handling thread x) +
      notifications (s.executorService.remaining Task.program) := rfl
  rw [hnew, credit]
  omega

theorem handlingCredit_none (thread : Thread) : handlingCredit thread none = 0 := by
  cases thread <;> rfl

theorem credit_readPreferences {thread : Thread} {x : Handling}
    (hx : s.handling thread = some x) (htask : x.task = none) :
    credit (s.readPreferences thread x) ≤ credit s := by
  unfold readPreferences
  split
  · rename_i task hsome
    have hle := handlingCredit_task htask hsome
    have hcredit := credit_setHandling s thread (some { x with task := some task })
    have hnew : handlingCredit thread (some { x with task := some task }) =
        notifications task.program := by cases thread <;> rfl
    rw [hx, hnew] at hcredit
    omega
  · have hcredit := credit_setHandling s thread none
    rw [handlingCredit_none] at hcredit
    omega

theorem credit_submit {thread : Thread} {x : Handling} {task : Task}
    (hx : s.handling thread = some x) (htask : x.task = some task) :
    credit (s.submit thread x task) ≤ credit s := by
  have hcredit := credit_setHandling s thread none
  have hold : handlingCredit thread (some x) = notifications task.program := by
    obtain ⟨read, text, task'⟩ := x
    cases htask
    cases thread <;> rfl
  rw [hx, hold, handlingCredit_none] at hcredit
  have hnew : credit (s.submit thread x task) = credit (s.setHandling thread none) +
      notifications task.program := by
    show s.keyEvents + handlingCredits (Function.update s.handling thread none) +
      notifications ((s.executorService.submit task).remaining Task.program) = _
    rw [SerialExecutor.remaining_submit, notifications_append, ← Nat.add_assoc]
    rfl
  omega

/-- One instruction of the executor pays for what it announces. -/
theorem credit_runInstr {i : Instr} {is : List Instr}
    (hrun : s.executorService.running = i :: is) :
    (isNotification i).toNat + credit (s.runInstr is i) ≤ credit s := by
  have hremaining : notifications (s.executorService.remaining Task.program) =
      (isNotification i).toNat +
        notifications ((s.executorService.goOn is).remaining Task.program) := by
    rw [SerialExecutor.remaining, hrun, List.cons_append, notifications, List.countP_cons]
    cases isNotification i with
    | true =>
        show _ + 1 = 1 + _
        rw [Nat.add_comm]
        rfl
    | false =>
        show _ + 0 = 0 + _
        rw [Nat.add_comm]
        rfl
  have hplain : ∀ k : KeyHandler, k.keyEvents = s.keyEvents → k.handling = s.handling →
      k.executorService = s.executorService.goOn is →
      (isNotification i).toNat + credit k ≤ credit s := by
    intro k hkeys hhandling hexecutor
    rw [credit, credit, hkeys, hhandling, hexecutor]
    omega
  cases i with
  | awaitZenMode z =>
      simp only [runInstr]
      split
      · exact hplain _ rfl rfl rfl
      · exact (Nat.zero_add _).le
  | testWasMuted muteMedia =>
      simp only [runInstr]
      split
      · -- an `adjustUnmute` takes the place of the test
        have hbranch : notifications
            ((s.executorService.goOn (.adjustUnmute :: is)).remaining Task.program) =
            notifications ((s.executorService.goOn is).remaining Task.program) := by
          simp [SerialExecutor.remaining, SerialExecutor.goOn, notifications, isNotification]
        show 0 + (s.keyEvents + handlingCredits s.handling + notifications _) ≤ credit s
        rw [hbranch, credit]
        omega
      · exact hplain _ rfl rfl rfl
  | _ => exact hplain _ rfl rfl rfl

theorem credit_onMuteChanged (s : KeyHandler) (b : MuteChanged) :
    credit (s.onMuteChanged b) = credit s := by
  unfold onMuteChanged
  split <;> rfl

/-- **Each step pays for what it announces**, and only a move earns. -/
theorem credit_step (hs : step s a = some t) :
    (announces (s, a)).toNat + credit t ≤ credit s + (slides (s, a)).toNat := by
  cases step_cases hs with
  | slide text =>
      show 0 + (s.keyEvents + 1 + handlingCredits s.handling +
        notifications (s.executorService.remaining Task.program)) ≤ credit s + 1
      rw [credit]
      omega
  | setPreferences p => exact (Nat.zero_add _).le
  | readInput hkey hidle =>
      have hcredit := credit_setHandling s .input (some ⟨s.reads + 1, s.node, none⟩)
      have hone : handlingCredit .input (some ⟨s.reads + 1, s.node, none⟩) = 1 := rfl
      rw [hidle, handlingCredit_none, hone] at hcredit
      -- the key event pays for the read
      have hnew : credit { s.readNode .input with keyEvents := s.keyEvents - 1 } + 1 =
          credit (s.setHandling .input (some ⟨s.reads + 1, s.node, none⟩)) := by
        show s.keyEvents - 1 + handlingCredits (Function.update s.handling .input _) +
            notifications (s.executorService.remaining Task.program) + 1 =
          s.keyEvents + handlingCredits (Function.update s.handling .input _) +
            notifications (s.executorService.remaining Task.program)
        omega
      show 0 + credit _ ≤ credit s + 0
      omega
  | readMain hboot hidle =>
      have hcredit := credit_setHandling s .main (some ⟨s.reads + 1, s.node, none⟩)
      have hzero : handlingCredit .main (some ⟨s.reads + 1, s.node, none⟩) = 0 := rfl
      rw [hidle, handlingCredit_none, hzero] at hcredit
      show 0 + credit (s.setHandling .main (some ⟨s.reads + 1, s.node, none⟩)) ≤ credit s + 0
      omega
  | readPreferences thread hx htask =>
      have hle := credit_readPreferences hx htask
      show 0 + credit _ ≤ credit s + 0
      omega
  | submit thread hx htask =>
      have hle := credit_submit hx htask
      show 0 + credit _ ≤ credit s + 0
      omega
  | @start task q hrun hq =>
      have hsame : SerialExecutor.remaining Task.program ⟨q, task.program⟩ =
          s.executorService.remaining Task.program := SerialExecutor.remaining_start hrun hq
      have hquiet : announces (s, .exec) = false := by simp [announces, hrun]
      rw [hquiet]
      show 0 + (s.keyEvents + handlingCredits s.handling + notifications _) ≤ credit s + 0
      rw [hsame, credit]
      omega
  | @run i is hrun =>
      have hpaid := credit_runInstr hrun
      have hannounced : announces (s, .exec) = isNotification i := by simp [announces, hrun]
      rw [hannounced]
      exact hpaid
  | commitZen hz => exact (Nat.zero_add _).le
  | otherZen z => exact (Nat.zero_add _).le
  | userMute v => exact (Nat.zero_add _).le
  | otherStream muted hne => exact (Nat.zero_add _).le
  | broadcast hidle hb =>
      rw [credit_onMuteChanged]
      exact (Nat.zero_add _).le

/-! ## What is sent -/

/-- What a step sends. -/
def announced (x : KeyHandler × Action) : List NotificationInfo :=
  match x.2, x.1.executorService.running with
  | .exec, .sendNotification position mode :: _ => [⟨position, mode⟩]
  | _, _ => []

theorem announced_length (x : KeyHandler × Action) :
    (announced x).length = (announces x).toNat := by
  obtain ⟨s, a⟩ := x
  cases a with
  | exec =>
      cases hrun : s.executorService.running with
      | nil => simp [announced, announces, hrun]
      | cons i is => cases i <;> simp [announced, announces, isNotification, hrun]
  | _ => rfl

theorem runInstr_sent {i : Instr} {is : List Instr}
    (hrun : s.executorService.running = i :: is) :
    (s.runInstr is i).sent = s.sent ++ announced (s, .exec) := by
  cases i with
  | awaitZenMode z =>
      simp only [runInstr, announced, hrun, List.append_nil]
      split <;> rfl
  | sendNotification position mode => simp [runInstr, announced, hrun]
  | _ =>
      simp only [announced, hrun, List.append_nil]
      rfl

theorem readPreferences_sent (s : KeyHandler) (thread : Thread) (x : Handling) :
    (s.readPreferences thread x).sent = s.sent := by
  unfold readPreferences
  split <;> rfl

theorem onMuteChanged_sent (s : KeyHandler) (b : MuteChanged) :
    (s.onMuteChanged b).sent = s.sent := by
  unfold onMuteChanged
  split <;> rfl

theorem sent_step (hs : step s a = some t) : t.sent = s.sent ++ announced (s, a) := by
  cases step_cases hs with
  | @run i is hrun => exact runInstr_sent hrun
  | @start task q hrun hq => simp [announced, hrun]
  | readPreferences thread hx htask =>
      rw [readPreferences_sent]
      exact (List.append_nil _).symm
  | broadcast hidle hb =>
      rw [onMuteChanged_sent]
      exact (List.append_nil _).symm
  | _ => exact (List.append_nil _).symm

/-! ## What is announced was configured -/

/-- The input thread came on the position with this mode configured for it,
and with the dialog switched on. -/
def Configured (h : List (KeyHandler × Action)) (i : NotificationInfo) : Prop :=
  ∃ x ∈ h, x.2 = .readPreferences .input ∧
    (∃ y, x.1.handling .input = some y ∧ positionOf y.text = some i.position) ∧
    x.1.preferences.mode i.position = some i.mode ∧
    x.1.preferences.configShowDialog.getD true = true

theorem Configured.append {i : NotificationInfo} (hi : Configured h i)
    (h' : List (KeyHandler × Action)) : Configured (h ++ h') i := by
  obtain ⟨x, hx, hrest⟩ := hi
  exact ⟨x, List.mem_append_left h' hx, hrest⟩

/-- Whatever a task is to announce, whatever is left to announce and whatever
was announced was configured. -/
structure Announcing (h : List (KeyHandler × Action)) (s : KeyHandler) : Prop where
  task : ∀ thread x task, s.handling thread = some x → x.task = some task →
    task.firstRun = false → task.showDialog = true → Configured h ⟨task.position, task.mode⟩
  remaining : ∀ position mode,
    Instr.sendNotification position mode ∈ s.executorService.remaining Task.program →
    Configured h ⟨position, mode⟩
  sent : ∀ i ∈ s.sent, Configured h i

/-- A step that announces nothing new. -/
theorem Announcing.mono (hi : Announcing h s) (x : KeyHandler × Action)
    (htask : ∀ thread y task, t.handling thread = some y → y.task = some task →
      s.handling thread = some y)
    (hremaining : ∀ position mode,
      Instr.sendNotification position mode ∈ t.executorService.remaining Task.program →
      Instr.sendNotification position mode ∈ s.executorService.remaining Task.program)
    (hsent : t.sent = s.sent) : Announcing (h ++ [x]) t where
  task := by
    intro thread y task hy hytask hfirst hshow
    exact (hi.task thread y task (htask thread y task hy hytask) hytask hfirst hshow).append _
  remaining := fun position mode hmem =>
    (hi.remaining position mode (hremaining position mode hmem)).append _
  sent := by
    rw [hsent]
    exact fun i hmem => (hi.sent i hmem).append _

/-- A thread that is done with its handling, or has no task yet. -/
theorem handling_of_setHandling {thread other : Thread} {x : Option Handling} {y : Handling}
    {task : Task} (hx : ∀ z, x = some z → z.task = none)
    (hy : (s.setHandling thread x).handling other = some y) (htask : y.task = some task) :
    s.handling other = some y := by
  have hupdate : Function.update s.handling thread x other = some y := hy
  by_cases hother : other = thread
  · subst hother
    rw [Function.update_self] at hupdate
    rw [hx y hupdate] at htask
    cases htask
  · rwa [Function.update_of_ne hother] at hupdate

/-- The task that a thread has looked up was configured when it did. -/
theorem Announcing.readPreferences (hi : Announcing h s) {thread : Thread} {x : Handling}
    (hx : s.handling thread = some x) :
    Announcing (h ++ [(s, .readPreferences thread)]) (s.readPreferences thread x) := by
  unfold KeyHandler.readPreferences
  split
  · rename_i task htask
    refine ⟨?_, fun p m hmem => (hi.remaining p m hmem).append _,
      fun i hmem => (hi.sent i hmem).append _⟩
    intro other y task' hy hytask hfirst hshow
    have hupdate : Function.update s.handling thread (some { x with task := some task }) other =
        some y := hy
    by_cases hother : other = thread
    · subst hother
      rw [Function.update_self, Option.some.injEq] at hupdate
      subst hupdate
      cases hytask
      obtain ⟨position, hposition, htask⟩ := Option.bind_eq_some_iff.mp htask
      obtain ⟨mode, hconfigured, rfl⟩ := Option.map_eq_some_iff.mp htask
      have hinput : other = .input := by
        cases other with
        | input => rfl
        | main => cases hfirst
      subst hinput
      exact ⟨(s, .readPreferences .input), by simp, rfl, ⟨x, hx, hposition⟩, hconfigured, hshow⟩
    · rw [Function.update_of_ne hother] at hupdate
      exact (hi.task other y task' hupdate hytask hfirst hshow).append _
  · apply hi.mono
    · intro other y task' hy hytask
      exact handling_of_setHandling (fun z hz => by cases hz) hy hytask
    · exact fun _ _ hmem => hmem
    · rfl

/-- What a submitted task announces was configured. -/
theorem Announcing.submit (hi : Announcing h s) {thread : Thread} {x : Handling} {task : Task}
    (hx : s.handling thread = some x) (htask : x.task = some task) :
    Announcing (h ++ [(s, .submit thread)]) (s.submit thread x task) where
  task := by
    intro other y task' hy hytask hfirst hshow
    have hold := handling_of_setHandling (fun z hz => by cases hz) hy hytask
    exact (hi.task other y task' hold hytask hfirst hshow).append _
  remaining := by
    intro position mode hmem
    have hmem' : Instr.sendNotification position mode ∈
        (s.executorService.submit task).remaining Task.program := hmem
    rw [SerialExecutor.remaining_submit] at hmem'
    rcases List.mem_append.mp hmem' with hmem | hmem
    · exact (hi.remaining position mode hmem).append _
    · obtain ⟨rfl, rfl, hshow, hfirst⟩ := mem_program hmem
      exact (hi.task thread x task hx htask hfirst hshow).append _
  sent := fun i hmem => (hi.sent i hmem).append _

theorem runInstr_handling (s : KeyHandler) (is : List Instr) (i : Instr) :
    (s.runInstr is i).handling = s.handling := by
  cases i with
  | awaitZenMode z =>
      simp only [runInstr]
      split <;> rfl
  | _ => rfl

/-- The executor's instructions announce what was left to announce. -/
theorem runInstr_remaining {i : Instr} {is : List Instr} {position mode : Int}
    (hrun : s.executorService.running = i :: is)
    (hmem : Instr.sendNotification position mode ∈
      (s.runInstr is i).executorService.remaining Task.program) :
    Instr.sendNotification position mode ∈ s.executorService.remaining Task.program := by
  have hgo : ∀ e : SerialExecutor Task Instr, e = s.executorService.goOn is →
      Instr.sendNotification position mode ∈ e.remaining Task.program →
      Instr.sendNotification position mode ∈ s.executorService.remaining Task.program := by
    rintro _ rfl hmem
    rw [SerialExecutor.remaining, hrun]
    exact List.mem_cons_of_mem i hmem
  cases i with
  | awaitZenMode z =>
      simp only [runInstr] at hmem
      split at hmem
      · exact hgo _ rfl hmem
      · exact hmem
  | testWasMuted muteMedia =>
      simp only [runInstr] at hmem
      split at hmem
      · rcases List.mem_cons.mp hmem with hne | hmem
        · cases hne
        · exact hgo _ rfl hmem
      · exact hgo _ rfl hmem
  | _ => exact hgo _ rfl hmem

theorem Announcing.runInstr (hi : Announcing h s) {i : Instr} {is : List Instr}
    (hrun : s.executorService.running = i :: is) :
    Announcing (h ++ [(s, .exec)]) (s.runInstr is i) where
  task := by
    intro thread y task hy hytask hfirst hshow
    rw [runInstr_handling] at hy
    exact (hi.task thread y task hy hytask hfirst hshow).append _
  remaining := fun position mode hmem =>
    (hi.remaining position mode (runInstr_remaining hrun hmem)).append _
  sent := by
    rw [runInstr_sent hrun]
    intro j hj
    rcases List.mem_append.mp hj with hj | hj
    · exact (hi.sent j hj).append _
    · -- it was the next instruction
      cases i with
      | sendNotification position mode =>
          simp only [announced, hrun, List.mem_singleton] at hj
          subst hj
          apply (hi.remaining position mode _).append
          rw [SerialExecutor.remaining, hrun]
          exact List.mem_cons_self
      | _ => simp [announced, hrun] at hj

/-- **Every step keeps what is announced configured.** -/
theorem Announcing.step (hi : Announcing h s) (hs : step s a = some t) :
    Announcing (h ++ [(s, a)]) t := by
  have hstay : ∀ k : KeyHandler, k.handling = s.handling →
      k.executorService = s.executorService → k.sent = s.sent →
      Announcing (h ++ [(s, a)]) k := by
    intro k hhandling hexecutor hsent
    refine hi.mono _ ?_ ?_ hsent
    · intro thread y task hy _
      rwa [hhandling] at hy
    · intro position mode hmem
      rwa [hexecutor] at hmem
  have hread : ∀ (thread : Thread) (k : KeyHandler),
      k.handling = Function.update s.handling thread (some ⟨s.reads + 1, s.node, none⟩) →
      k.executorService = s.executorService → k.sent = s.sent →
      Announcing (h ++ [(s, a)]) k := by
    intro thread k hhandling hexecutor hsent
    refine hi.mono _ ?_ ?_ hsent
    · intro other y task hy hytask
      rw [hhandling] at hy
      exact handling_of_setHandling (fun z hz => by cases hz; rfl) hy hytask
    · intro position mode hmem
      rwa [hexecutor] at hmem
  cases step_cases hs with
  | readInput hkey hidle => exact hread .input _ rfl rfl rfl
  | readMain hboot hidle => exact hread .main _ rfl rfl rfl
  | readPreferences thread hx htask => exact hi.readPreferences hx
  | submit thread hx htask => exact hi.submit hx htask
  | @start task q hrun hq =>
      have hsame : SerialExecutor.remaining Task.program ⟨q, task.program⟩ =
          s.executorService.remaining Task.program := SerialExecutor.remaining_start hrun hq
      refine hi.mono _ (fun _ _ _ hy _ => hy) ?_ rfl
      intro position mode hmem
      rwa [← hsame]
  | @run i is hrun => exact hi.runInstr hrun
  | broadcast hidle hb =>
      unfold onMuteChanged
      split
      · exact hstay _ rfl rfl rfl
      · exact hstay _ rfl rfl rfl
  | _ => exact hstay _ rfl rfl rfl

/-! ## Whole runs -/

section Runs

variable {p : Preferences} {node : List Char} {ringerMode zenMode : Int} {muted : Bool}

/-- Everything that was sent was configured. -/
theorem announcing_run (hp : Path step (construct p node ringerMode zenMode muted) h t) :
    Announcing h t := by
  apply hp.history_inv Announcing (fun _ _ => True) (fun _ _ _ _ hi _ hs => hi.step hs)
  · refine ⟨?_, ?_, ?_⟩
    · intro thread x task hx
      cases hx
    · intro position mode hmem
      cases hmem
    · intro i hmem
      cases hmem
  · exact fun _ _ => trivial

theorem sent_run (hp : Path step (construct p node ringerMode zenMode muted) h t) :
    t.sent.length = h.countP announces := by
  apply hp.history_inv (fun h s => s.sent.length = h.countP announces) (fun _ _ => True)
  · intro h s a t hlen _ hs
    rw [sent_step hs, List.length_append, hlen, announced_length, countP_snoc]
  · rfl
  · exact fun _ _ => trivial

/-- There are at most as many notifications as moves of the slider. -/
theorem sent_le_slides (hp : Path step (construct p node ringerMode zenMode muted) h t) :
    t.sent.length ≤ h.countP slides := by
  have hcredit := hp.countP_le fun _ _ _ hs => credit_step hs
  have hzero : credit (construct p node ringerMode zenMode muted) = 0 := rfl
  rw [sent_run hp]
  omega

end Runs

end KeyHandler

end OplusHardware.AlertSlider
