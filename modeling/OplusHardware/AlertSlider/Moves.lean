import OplusHardware.AlertSlider.Runs

/-!
# AlertSlider — a slider move is shown

A move posts an `UPDATE` and a `SHOW`. No handler removes an `UPDATE`; a
`SHOW` is removed by whatever turns the overlay on or off. The run of a
move has two parts: until its `UPDATE` is handled, every dismissal that
could come first either finds the `SHOW` still queued or is due later than
the `UPDATE`; after that, every dismissal is a later one.

The exception is a dismissal that is overdue when the move arrives. It is
handled first, takes the shown dialog down and with it the new `SHOW`.
-/

namespace OplusHardware.AlertSlider

open OplusHardware.Base

namespace NotificationHandler

variable {s t : NotificationHandler} {a : Action} {w : Msg} {m x U S : Message Msg}
  {rest : MessageQueue Msg} {B : NotificationInfo → Prop} {k : Nat}

/-! ## What a handler leaves in the queue -/

theorem Handled.now_eq (hh : Handled s w t) : t.now = s.now := by
  cases hh <;> rfl

/-- A handler posts dismissals only, and those are due later. -/
theorem Handled.mem_or (hh : Handled s w t) (hx : x ∈ t.queue) :
    x ∈ s.queue ∨ (x.what.isDismiss = true ∧ x.due = s.now + dialogTimeout) := by
  cases hh with
  | showAgain hs => exact .inl hx
  | showNow hs =>
      rcases mem_rearmed.mp hx with rfl | ⟨hx, -⟩
      · exact .inr ⟨rfl, rfl⟩
      · exact .inl (mem_cleared.mp hx).1
  | dismissAgain hs => exact .inl hx
  | dismissNow hs => exact .inl (mem_cleared.mp hx).1
  | reset | update =>
      rcases mem_rearmed.mp hx with rfl | ⟨hx, -⟩
      · exact .inr ⟨rfl, rfl⟩
      · exact .inl hx
  | recreateSame => exact .inl hx
  | recreateHidden hs => exact .inl hx
  | recreateShown hs =>
      rcases mem_rearmed.mp hx with rfl | ⟨hx, -⟩
      · exact .inr ⟨rfl, rfl⟩
      · exact .inl (mem_cleared.mp (mem_cleared.mp hx).1).1

theorem not_update_of_dismiss (hx : w.isDismiss = true) : w.isUpdate = false := by
  cases w with
  | dialogDismiss => rfl
  | _ => cases hx

/-- No handler removes or posts an `UPDATE`. -/
theorem Handled.update_mem_iff (hh : Handled s w t) (hx : x.what.isUpdate = true) :
    x ∈ t.queue ↔ x ∈ s.queue := by
  constructor
  · intro hmem
    rcases hh.mem_or hmem with hmem | ⟨hdis, -⟩
    · exact hmem
    · rw [not_update_of_dismiss hdis] at hx
      cases hx
  · intro hmem
    have hother : x.what.isShow = false ∧ x.what.isDismiss = false ∧
        x.what.isReset = false := by
      cases hw : x.what with
      | dialogUpdate i => exact ⟨rfl, rfl, rfl⟩
      | _ => rw [hw] at hx; cases hx
    have hcleared : ∀ {q : MessageQueue Msg}, x ∈ q → x ∈ cleared q :=
      fun hq => mem_cleared.mpr ⟨hq, hother⟩
    have hrearmed : ∀ {q : MessageQueue Msg}, x ∈ q → x ∈ rearmed q s.now :=
      fun hq => mem_rearmed.mpr (.inr ⟨hq, hother.2.1⟩)
    cases hh with
    | showAgain hs => exact hmem
    | showNow hs => exact hrearmed (hcleared hmem)
    | dismissAgain hs => exact hmem
    | dismissNow hs => exact hcleared hmem
    | reset => exact hrearmed hmem
    | update i => exact hrearmed hmem
    | recreateSame => exact hmem
    | recreateHidden hs => exact hmem
    | recreateShown hs => exact hrearmed (hcleared (hcleared hmem))

/-- Every `UPDATE` is stamped with the time it was posted at. -/
def Stamped (s : NotificationHandler) : Prop :=
  ∀ u ∈ s.queue, u.what.isUpdate = true → u.due ≤ s.now

theorem Stamped.step (hi : s.Stamped) (hs : s.step a = some t) : t.Stamped := by
  intro u hu hup
  cases a with
  | changedAction position mode between =>
      cases hs
      by_cases hmode : mode.getD modeNone = modeNone
      · rw [onChanged, if_pos hmode] at hu ⊢
        exact hi u hu hup
      · rw [onChanged_eq between hmode] at hu ⊢
        simp only [MessageQueue.mem_post] at hu
        show u.due ≤ s.now + between
        rcases hu with rfl | rfl | hu
        · cases hup
        · simp
        · have := hi u hu hup
          omega
  | configurationChanged =>
      cases hs
      rcases MessageQueue.mem_post.mp hu with rfl | hu
      · cases hup
      · exact hi u hu hup
  | setConfiguration config =>
      cases hs
      exact hi u hu hup
  | deliver =>
      obtain ⟨m, rest, hpop, -, hh⟩ := deliver_inv hs
      have hmem := (hh.update_mem_iff hup).mp hu
      have hold := hi u (((MessageQueue.pop_some hpop).1 u).mpr (.inr hmem)) hup
      rwa [hh.now_eq]
  | tick ms =>
      cases hs
      have := hi u hu hup
      show u.due ≤ s.now + ms
      omega

/-! ## Until the `UPDATE` is handled -/

/-- The broadcast is one of those the information may come from. -/
def announces (B : NotificationInfo → Prop) (a : Action) : Prop :=
  ∀ position mode between, a = .changedAction position mode between →
    mode.getD modeNone ≠ modeNone → B (info position mode)

/-- A `DISMISS` is handled that takes down the shown dialog while a `SHOW`
waits. -/
def dropsShow (x : NotificationHandler × Action) : Bool :=
  match delivered x with
  | some m => m.what.isDismiss && x.1.showing && decide (0 < x.1.queue.count Msg.isShow)
  | none => false

/-- The `UPDATE` waits, and its `SHOW` waits with it unless the overlay is
shown and will stay so until the `UPDATE` is handled. -/
structure Waiting (U S : Message Msg) (B : NotificationInfo → Prop)
    (s : NotificationHandler) : Prop where
  due : U.due ≤ s.now
  queued : U ∈ s.queue
  shown : S ∈ s.queue ∨
    (s.showing = true ∧ ∀ d ∈ s.queue, d.what.isDismiss = true → U.due < d.due)
  later : ∀ u ∈ s.queue, ∀ i, u.what = .dialogUpdate i → B i ∨ u.before U

/-- What a handler does to the second half of `Waiting.shown`. -/
theorem Handled.shown (hh : Handled s w t) (hdue : U.due ≤ s.now)
    (hS : S.what = .dialogShow)
    (hdrop : w = .dialogDismiss → s.showing = false)
    (hs : S ∈ s.queue ∨
      (s.showing = true ∧ ∀ d ∈ s.queue, d.what.isDismiss = true → U.due < d.due)) :
    S ∈ t.queue ∨
      (t.showing = true ∧ ∀ d ∈ t.queue, d.what.isDismiss = true → U.due < d.due) := by
  have hlate : (∀ d ∈ s.queue, d.what.isDismiss = true → U.due < d.due) →
      ∀ d ∈ t.queue, d.what.isDismiss = true → U.due < d.due := by
    intro hall d hd hdis
    rcases hh.mem_or hd with hd | ⟨-, hdue'⟩
    · exact hall d hd hdis
    · rw [hdue', dialogTimeout]
      omega
  have hkeep : S ∈ s.queue → S ∈ rearmed s.queue s.now := fun hmem =>
    mem_rearmed.mpr (.inr ⟨hmem, by rw [hS]; rfl⟩)
  -- a queue whose only dismissal is the new one
  have hnew : ∀ q : MessageQueue Msg, ∀ d ∈ rearmed q s.now, d.what.isDismiss = true →
      U.due < d.due := by
    intro q d hd hdis
    rcases mem_rearmed.mp hd with rfl | ⟨-, hno⟩
    · show U.due < s.now + dialogTimeout
      rw [dialogTimeout]
      omega
    · rw [hno] at hdis
      cases hdis
  cases hh with
  | showAgain hshow => exact hs
  | showNow hshow => exact .inr ⟨rfl, hnew _⟩
  | dismissAgain hshow => exact hs
  | dismissNow hshow =>
      rw [hdrop rfl] at hshow
      cases hshow
  | reset | update =>
      rcases hs with hs | ⟨hshow, -⟩
      · exact .inl (hkeep hs)
      · exact .inr ⟨hshow, hnew _⟩
  | recreateSame => exact hs
  | recreateHidden hshow => exact hs
  | recreateShown hshow => exact .inr ⟨hshow, hnew _⟩

/-- A posted message other than a `DISMISS` leaves both waiting. -/
theorem Waiting.posted (hi : Waiting U S B s) {w : Msg} {d now : Nat} (hnow : s.now ≤ now)
    (hdis : w.isDismiss = false) (hw : ∀ i, w = .dialogUpdate i → B i) :
    Waiting U S B { s with queue := s.queue.post w d, now := now } where
  due := hi.due.trans hnow
  queued := MessageQueue.mem_post.mpr (.inr hi.queued)
  shown := by
    rcases hi.shown with hS | ⟨hshow, hlate⟩
    · exact .inl (MessageQueue.mem_post.mpr (.inr hS))
    · refine .inr ⟨hshow, fun x hx hxdis => ?_⟩
      rcases MessageQueue.mem_post.mp hx with rfl | hx
      · rw [hdis] at hxdis
        cases hxdis
      · exact hlate x hx hxdis
  later := by
    intro u hu i hui
    rcases MessageQueue.mem_post.mp hu with rfl | hu
    · exact .inl (hw i hui)
    · exact hi.later u hu i hui

/-- **One delivery before the `UPDATE` is handled.** -/
theorem Waiting.deliver (hi : Waiting U S B s) (hU : U.what.isUpdate = true)
    (hS : S.what = .dialogShow) (hord : U.before S)
    (hok : dropsShow (s, .deliver) = false) (hs : s.step .deliver = some t) :
    Waiting U S B t ∨ delivered (s, .deliver) = some U := by
  obtain ⟨m, rest, hpop, -, hh⟩ := deliver_inv hs
  obtain ⟨hmem, -⟩ := MessageQueue.pop_some hpop
  rcases (hmem U).mp hi.queued with hUm | hUrest
  · refine .inr ?_
    simp [delivered, hpop, hUm]
  · refine .inl ⟨?_, (hh.update_mem_iff hU).mpr hUrest, ?_, fun u hu i hui => ?_⟩
    · rw [hh.now_eq]
      exact hi.due
    · refine hh.shown hi.due hS (fun hm => ?_) ?_
      · -- a dismissal comes first: either it is late, or it drops the `SHOW`
        apply Bool.eq_false_of_not_eq_true
        intro hshow
        rcases hi.shown with hSmem | ⟨-, hlate⟩
        · have hpos : 0 < s.queue.count Msg.isShow :=
            MessageQueue.count_pos.mpr ⟨S, hSmem, by rw [hS]; rfl⟩
          have hshow' : s.showing = true := hshow
          simp [dropsShow, delivered, hpop, hm, Msg.isDismiss, hshow'] at hok
          omega
        · have hlt := hlate m ((hmem m).mpr (.inl rfl)) (by rw [hm]; rfl)
          have hle := MessageQueue.due_le_of_pop hpop hi.queued
          omega
      · rcases hi.shown with hSmem | ⟨hshow, hlate⟩
        · rcases (hmem S).mp hSmem with rfl | hSrest
          · exact absurd hord (MessageQueue.not_before_of_pop hpop hi.queued)
          · exact .inl hSrest
        · exact .inr ⟨hshow, fun d hd => hlate d ((hmem d).mpr (.inr hd))⟩
    · have hup : u.what.isUpdate = true := by rw [hui]; rfl
      have hold := (hh.update_mem_iff hup).mp hu
      exact hi.later u ((hmem u).mpr (.inr hold)) i hui

/-- **One step before the `UPDATE` is handled.** -/
theorem Waiting.step (hi : Waiting U S B s) (hU : U.what.isUpdate = true)
    (hS : S.what = .dialogShow) (hord : U.before S)
    (hok : dropsShow (s, a) = false ∧ announces B a) (hs : s.step a = some t) :
    Waiting U S B t ∨ delivered (s, a) = some U := by
  cases a with
  | changedAction position mode between =>
      cases hs
      refine .inl ?_
      by_cases hmode : mode.getD modeNone = modeNone
      · rw [onChanged, if_pos hmode]
        exact hi
      · have hB := hok.2 position mode between rfl hmode
        rw [onChanged_eq between hmode]
        have hU : Waiting U S B { s with
            queue := s.queue.post (.dialogUpdate (info position mode)) s.now
            now := s.now } := hi.posted (Nat.le_refl _) rfl fun i hw => by
          cases hw
          exact hB
        exact hU.posted (Nat.le_add_right _ _) rfl fun i hw => by cases hw
  | configurationChanged =>
      cases hs
      exact .inl (hi.posted (Nat.le_refl _) rfl fun i hw => by cases hw)
  | setConfiguration config =>
      cases hs
      exact .inl ⟨hi.due, hi.queued, hi.shown, hi.later⟩
  | deliver => exact hi.deliver hU hS hord hok.1 hs
  | tick ms =>
      cases hs
      exact .inl ⟨hi.due.trans (Nat.le_add_right _ _), hi.queued, hi.shown, hi.later⟩

/-! ## After the `UPDATE` is handled -/

/-- The overlay is shown or its `SHOW` waits, every waiting dismissal was
posted after the `UPDATE` was handled, and what is known and what will be
comes from the broadcast or a later one. -/
structure Updated (S : Message Msg) (B : NotificationInfo → Prop) (k : Nat)
    (s : NotificationHandler) : Prop where
  shown : S ∈ s.queue ∨ s.showing = true
  dismiss : ∀ d ∈ s.queue, d.what.isDismiss = true → k ≤ d.seq
  seq : k ≤ s.queue.nextSeq
  known : ∃ i, s.lastInfo = some i ∧ B i
  later : ∀ u ∈ s.queue, ∀ i, u.what = .dialogUpdate i → B i

/-- The `UPDATE` is handled. -/
theorem Waiting.updated {i : NotificationInfo} (hi : Waiting U S B s)
    (hU : U.what = .dialogUpdate i) (hS : S.what = .dialogShow) (hB : B i)
    (hm : delivered (s, a) = some U) (hs : s.step a = some t) :
    Updated S B s.queue.nextSeq t := by
  unfold delivered at hm
  split at hm
  · rename_i heq
    have ha : a = .deliver := heq
    subst ha
    obtain ⟨m, rest, hpop, -, hh⟩ := deliver_inv hs
    obtain ⟨hmem, hbefore, hseq, -⟩ := MessageQueue.pop_some hpop
    have hmU : m = U := by
      rw [hpop] at hm
      simpa using hm
    subst hmU
    rw [hU] at hh
    cases hh with
    | update =>
        refine ⟨?_, fun d hd hdis => ?_, ?_, ⟨i, rfl, hB⟩, fun u hu j huj => ?_⟩
        · rcases hi.shown with hSmem | ⟨hshow, -⟩
          · rcases (hmem S).mp hSmem with hSm | hSrest
            · rw [hSm, hU] at hS
              cases hS
            · exact .inl (mem_rearmed.mpr (.inr ⟨hSrest, by rw [hS]; rfl⟩))
          · exact .inr hshow
        · -- the dismissal posted here is the only one left
          rcases mem_rearmed.mp hd with rfl | ⟨-, hno⟩
          · exact hseq.ge
          · rw [hno] at hdis
            cases hdis
        · show s.queue.nextSeq ≤ rest.nextSeq + 1
          omega
        · rcases mem_rearmed.mp hu with rfl | ⟨hrest, -⟩
          · cases huj
          · rcases hi.later u ((hmem u).mpr (.inr hrest)) j huj with hBj | hbef
            · exact hBj
            · exact absurd (hbefore u hrest) fun h => h.asymm hbef
  · cases hm

/-- A message a later step posts leaves the older dismissals alone. -/
theorem Updated.posted (hi : Updated S B k s) {w : Msg} {d now : Nat}
    (hw : ∀ i, w = .dialogUpdate i → B i) :
    Updated S B k { s with queue := s.queue.post w d, now := now } where
  shown := by
    rcases hi.shown with hS | hshow
    · exact .inl (MessageQueue.mem_post.mpr (.inr hS))
    · exact .inr hshow
  dismiss := by
    intro x hx hdis
    rcases MessageQueue.mem_post.mp hx with rfl | hx
    · exact hi.seq
    · exact hi.dismiss x hx hdis
  seq := by
    show k ≤ s.queue.nextSeq + 1
    have := hi.seq
    omega
  known := hi.known
  later := by
    intro u hu i hui
    rcases MessageQueue.mem_post.mp hu with rfl | hu
    · exact hw i hui
    · exact hi.later u hu i hui

theorem Handled.nextSeq_le (hh : Handled s w t) : s.queue.nextSeq ≤ t.queue.nextSeq := by
  cases hh <;> simp

theorem Handled.dismiss_seq (hh : Handled s w t) (hx : x ∈ t.queue)
    (hold : ∀ d ∈ s.queue, d.what.isDismiss = true → k ≤ d.seq)
    (hseq : k ≤ s.queue.nextSeq) (hdis : x.what.isDismiss = true) : k ≤ x.seq := by
  have hre : ∀ q : MessageQueue Msg, q.nextSeq = s.queue.nextSeq → x ∈ rearmed q s.now →
      k ≤ x.seq := by
    intro q hq hx
    rcases mem_rearmed.mp hx with rfl | ⟨-, hno⟩
    · show k ≤ q.nextSeq
      omega
    · rw [hno] at hdis
      cases hdis
  cases hh with
  | showAgain hs => exact hold x hx hdis
  | showNow hs => exact hre (cleared s.queue) rfl hx
  | dismissAgain hs => exact hold x hx hdis
  | dismissNow hs => exact hold x (mem_cleared.mp hx).1 hdis
  | reset => exact hre _ rfl hx
  | update i => exact hre _ rfl hx
  | recreateSame => exact hold x hx hdis
  | recreateHidden hs => exact hold x hx hdis
  | recreateShown hs => exact hre (cleared (cleared s.queue)) rfl hx

/-- A handler other than that of a dismissal keeps the overlay up, or its
`SHOW` in the queue. -/
theorem Handled.stays (hh : Handled s w t) (hw : w.isDismiss = false)
    (hS : S.what = .dialogShow) (hs : S ∈ s.queue ∨ s.showing = true ∨ w = .dialogShow) :
    S ∈ t.queue ∨ t.showing = true := by
  have hkeep : S ∈ s.queue → S ∈ rearmed s.queue s.now := fun hmem =>
    mem_rearmed.mpr (.inr ⟨hmem, by rw [hS]; rfl⟩)
  cases hh with
  | showAgain hshow => exact .inr hshow
  | showNow hshow => exact .inr rfl
  | dismissAgain hshow => cases hw
  | dismissNow hshow => cases hw
  | reset | update =>
      rcases hs with hs | hs | hs
      · exact .inl (hkeep hs)
      · exact .inr hs
      · cases hs
  | recreateSame | recreateHidden =>
      rcases hs with hs | hs | hs
      · exact .inl hs
      · exact .inr hs
      · cases hs
  | recreateShown hshow => exact .inr hshow

/-- What is known after a handler comes from what was known before, or
from the handled message. -/
theorem Handled.known (hh : Handled s w t) (hs : ∃ i, s.lastInfo = some i ∧ B i)
    (hw : ∀ i, w = .dialogUpdate i → B i) : ∃ i, t.lastInfo = some i ∧ B i := by
  cases hh with
  | update i => exact ⟨i, rfl, hw i rfl⟩
  | _ => exact hs

/-- **One step after the `UPDATE` is handled**, other than a later
dismissal. -/
theorem Updated.step (hi : Updated S B k s) (hS : S.what = .dialogShow)
    (hok : (∀ d, delivered (s, a) = some d → d.what.isDismiss = true → d.seq < k) ∧
      announces B a) (hs : s.step a = some t) : Updated S B k t := by
  cases a with
  | changedAction position mode between =>
      cases hs
      by_cases hmode : mode.getD modeNone = modeNone
      · rw [onChanged, if_pos hmode]
        exact hi
      · have hB := hok.2 position mode between rfl hmode
        rw [onChanged_eq between hmode]
        have hU : Updated S B k { s with
            queue := s.queue.post (.dialogUpdate (info position mode)) s.now
            now := s.now } := hi.posted fun i hw => by
          cases hw
          exact hB
        exact hU.posted fun i hw => by cases hw
  | configurationChanged =>
      cases hs
      exact hi.posted fun i hw => by cases hw
  | setConfiguration config =>
      cases hs
      exact ⟨hi.shown, hi.dismiss, hi.seq, hi.known, hi.later⟩
  | deliver =>
      obtain ⟨m, rest, hpop, -, hh⟩ := deliver_inv hs
      obtain ⟨hmem, -, hseq, -⟩ := MessageQueue.pop_some hpop
      have hin : m ∈ s.queue := (hmem m).mpr (.inl rfl)
      have hnot : m.what.isDismiss = false := by
        apply Bool.eq_false_of_not_eq_true
        intro hdis
        have hlt := hok.1 m (by simp [delivered, hpop]) hdis
        have hge := hi.dismiss m hin hdis
        omega
      have hge : k ≤ rest.nextSeq := by
        have := hi.seq
        omega
      refine ⟨hh.stays hnot hS ?_, fun d hd hdis => ?_, ?_, ?_, fun u hu i hui => ?_⟩
      · rcases hi.shown with hSmem | hshow
        · rcases (hmem S).mp hSmem with rfl | hSrest
          · exact .inr (.inr hS)
          · exact .inl hSrest
        · exact .inr (.inl hshow)
      · exact hh.dismiss_seq hd (fun d hd => hi.dismiss d ((hmem d).mpr (.inr hd))) hge hdis
      · exact hge.trans hh.nextSeq_le
      · exact hh.known hi.known fun i hw => hi.later m hin i hw
      · have hup : u.what.isUpdate = true := by rw [hui]; rfl
        have hold := (hh.update_mem_iff hup).mp hu
        exact hi.later u ((hmem u).mpr (.inr hold)) i hui
  | tick ms =>
      cases hs
      exact ⟨hi.shown, hi.dismiss, hi.seq, hi.known, hi.later⟩

/-! ## Whole runs -/

/-- The two messages of a broadcast in a state. -/
def updateOf (s : NotificationHandler) (position mode : Option Int) : Message Msg :=
  ⟨.dialogUpdate (info position mode), s.now, s.queue.nextSeq⟩

def showOf (s : NotificationHandler) (between : Nat) : Message Msg :=
  ⟨.dialogShow, s.now + between, s.queue.nextSeq + 1⟩

/-- The information of the broadcast or of one in `later`. -/
def fromHere (position mode : Option Int) (later : List (NotificationHandler × Action))
    (i : NotificationInfo) : Prop :=
  i = info position mode ∨ ∃ x ∈ later, ∃ p m b, x.2 = .changedAction p m b ∧
    m.getD modeNone ≠ modeNone ∧ i = info p m

/-- Right after the broadcast. -/
theorem waiting_onChanged {position mode : Option Int} (between : Nat)
    {later : List (NotificationHandler × Action)} (hst : s.Stamped)
    (hmode : mode.getD modeNone ≠ modeNone) :
    Waiting (updateOf s position mode) (showOf s between) (fromHere position mode later)
      (s.onChanged position mode between) := by
  rw [onChanged_eq between hmode]
  refine ⟨?_, by simp [updateOf], .inl (by simp [showOf]), fun u hu i hui => ?_⟩
  · show s.now ≤ s.now + between
    omega
  · simp only [MessageQueue.mem_post] at hu
    rcases hu with rfl | rfl | hu
    · cases hui
    · cases hui
      exact .inl (.inl rfl)
    · have hdue := hst u hu (by rw [hui]; rfl)
      have hseq := s.queue.fresh u hu
      refine .inr ?_
      show u.due < s.now ∨ (u.due = s.now ∧ u.seq < s.queue.nextSeq)
      omega

/-- **A slider move is shown.** Take any run, any `CHANGED_ACTION`
broadcast in it with a mode to show, and let no dismissal handled since
then have taken down a shown dialog while a `SHOW` was waiting. Once the
`UPDATE` and the `SHOW` of the broadcast have left the queue, and as long
as no dismissal posted after the `UPDATE` was handled has been handled,
the overlay is shown and the current dialog's last state is that of this
broadcast or of a later one. -/
theorem move_is_shown (now : Nat) (config : Configuration)
    (pre : List (NotificationHandler × Action)) (s : NotificationHandler)
    (position mode : Option Int) (between : Nat)
    (post : List (NotificationHandler × Action)) (t : NotificationHandler)
    (hp : Path step (construct now config)
      (pre ++ (s, .changedAction position mode between) :: post) t)
    (hmode : mode.getD modeNone ≠ modeNone)
    (hdrop : ∀ x ∈ post, dropsShow x = false)
    (hU : updateOf s position mode ∉ t.queue) (hS : showOf s between ∉ t.queue)
    (hdis : ∀ mid y rest, post = mid ++ y :: rest →
      delivered y = some (updateOf s position mode) → ∀ z ∈ rest, ∀ d,
      delivered z = some d → d.what.isDismiss = true → d.seq < y.1.queue.nextSeq) :
    t.showing = true ∧ ∃ i, t.dialog.state = some i ∧ fromHere position mode post i := by
  obtain ⟨hpre, u, hu, hpost⟩ := hp.at_step
  cases hu
  have hst : s.Stamped := by
    refine hpre.inv Stamped (fun _ _ => True) (fun _ _ _ hi _ hs => hi.step hs) ?_
      (fun _ _ => trivial)
    intro u hu
    exact absurd hu MessageQueue.notMem_empty
  have hB : ∀ x ∈ post, announces (fromHere position mode post) x.2 := by
    intro x hx p m b hxa hm
    exact .inr ⟨x, hx, p, m, b, hxa, hm, rfl⟩
  have hord : (updateOf s position mode).before (showOf s between) := by
    unfold Message.before updateOf showOf
    simp only
    omega
  have hlast : t.Inv := hp.inv Inv (fun _ _ => True) (fun _ _ _ hi _ hs => hi.step hs)
    (inv_construct now config) (fun _ _ => trivial)
  -- the run up to the handling of the `UPDATE`
  rcases hpost.inv_or_exit
      (Waiting (updateOf s position mode) (showOf s between) (fromHere position mode post))
      (fun v a => delivered (v, a) = some (updateOf s position mode))
      (fun v a => dropsShow (v, a) = false ∧ announces (fromHere position mode post) a)
      (fun _ _ _ hi hok hs => hi.step rfl rfl hord hok hs)
      (waiting_onChanged between hst hmode) (fun x hx => ⟨hdrop x hx, hB x hx⟩)
    with hi | ⟨mid, y, rest, heq, hi, hexit⟩
  · exact absurd hi.queued hU
  · -- and from there to the end
    rw [heq] at hpost
    obtain ⟨-, v, hv, hrest⟩ := hpost.at_step
    have hup := hi.updated rfl rfl (.inl rfl) hexit hv
    have hend := hrest.inv
      (Updated (showOf s between) (fromHere position mode post) y.1.queue.nextSeq)
      (fun s a => (∀ d, delivered (s, a) = some d → d.what.isDismiss = true →
        d.seq < y.1.queue.nextSeq) ∧ announces (fromHere position mode post) a)
      (fun _ _ _ hi hok hs => hi.step rfl hok hs) hup
      (fun z hz => ⟨hdis mid y rest heq hexit z hz, hB z (by simp [heq, hz])⟩)
    refine ⟨hend.shown.resolve_left hS, ?_⟩
    obtain ⟨i, hi, hBi⟩ := hend.known
    exact ⟨i, by rw [hlast.state, hi], hBi⟩

/-- A first move is shown. -/
theorem move_is_shown_first :
    ∃ r ∈ follow step ((construct 0 portrait).onChanged (some 1) (some 2) 0)
      [.deliver, .deliver], r.2.showing = true := by
  have hrun : ∃ r ∈ follow step ((construct 0 portrait).onChanged (some 1) (some 2) 0)
      [.deliver, .deliver],
      (∀ x ∈ r.1, dropsShow x = false) ∧
      updateOf (construct 0 portrait) (some 1) (some 2) ∉ r.2.queue ∧
      showOf (construct 0 portrait) 0 ∉ r.2.queue ∧
      ∀ z ∈ r.1, ∀ d ∈ delivered z, d.what.isDismiss = false := by
    decide +kernel
  obtain ⟨r, hr, hdrop, hU, hS, hnone⟩ := hrun
  have hp : Path step (construct 0 portrait)
      ([] ++ (construct 0 portrait, .changedAction (some 1) (some 2) 0) :: r.1) r.2 :=
    .cons rfl (path_of_follow hr)
  refine ⟨r, hr, (move_is_shown 0 portrait [] _ (some 1) (some 2) 0 r.1 r.2 hp (by decide)
    hdrop hU hS fun mid y rest heq _ z hz d hd hdis => ?_).1⟩
  rw [hnone z (by simp [heq, hz]) d hd] at hdis
  cases hdis

/-- A move is shown; the main thread is busy until after its dismissal is
due; then the slider moves again. -/
def overdueDismissal : List Action :=
  [.changedAction (some 1) (some 2) 0, .deliver, .deliver, .tick 3005,
    .changedAction (some 3) (some 1) 0, .deliver, .deliver]

/-- **A lost move.** The overdue dismissal of the first move is handled
first and removes the `SHOW` of the second. When the `UPDATE` of the
second has been handled, nothing of it is left in the queue and the
overlay is hidden. -/
theorem second_move_not_shown :
    ∃ r ∈ follow step (construct 0 portrait) overdueDismissal,
      ((r.1.getLast?.bind delivered).map fun m => m.what) = some (.dialogUpdate ⟨3, 1⟩) ∧
      r.2.queue.count Msg.isUpdate = 0 ∧ r.2.queue.count Msg.isShow = 0 ∧
      r.2.showing = false := by
  decide +kernel

end NotificationHandler

end OplusHardware.AlertSlider
