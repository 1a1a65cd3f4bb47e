import OplusHardware.AlertSlider.Overlay

/-!
# AlertSlider — the overlay between two messages

In every state between two messages a shown dialog is the current one,
shows what was last announced and has one dismissal to come.
-/

namespace OplusHardware.AlertSlider

open OplusHardware.Base

namespace NotificationHandler

variable {s t : NotificationHandler} {a : Action} {m : Message Msg}
  {rest : MessageQueue Msg} {h : List (NotificationHandler × Action)}

/-! ## The representation invariant -/

/-- A `SHOW` is never handled before the handler knows what to show. -/
def Announced (s : NotificationHandler) : Prop :=
  ∀ m ∈ s.queue, m.what.isShow = true →
    s.lastInfo ≠ none ∨ ∃ u ∈ s.queue, u.what.isUpdate = true ∧ u.before m

structure Inv (s : NotificationHandler) : Prop where
  dismiss : s.queue.count Msg.isDismiss ≤ 1
  pending : s.showing = true → s.queue.count Msg.isDismiss = 1
  informed : s.showing = true → s.lastInfo ≠ none
  screen : s.onScreen = if s.showing then [s.dialog.id] else []
  state : s.dialog.state = s.lastInfo
  announced : s.Announced

theorem inv_construct (now : Nat) (config : Configuration) : (construct now config).Inv where
  dismiss := Nat.zero_le _
  pending := by intro h; cases h
  informed := by intro h; cases h
  screen := rfl
  state := rfl
  announced := by
    intro m hm
    exact absurd hm MessageQueue.notMem_empty

/-- Once something was announced, every `SHOW` may be handled. -/
theorem announced_of_lastInfo (h : s.lastInfo ≠ none) : s.Announced :=
  fun _ _ _ => .inl h

/-- A message of another kind that is handled leaves the `SHOW`s
announced. -/
theorem Announced.tail (ha : s.Announced) (hpop : s.queue.pop = some (m, rest))
    (hm : m.what.isUpdate = false) :
    ({ s with queue := rest } : NotificationHandler).Announced := by
  obtain ⟨hmem, -⟩ := MessageQueue.pop_some hpop
  intro x hx hshow
  rcases ha x ((hmem x).mpr (.inr hx)) hshow with hinfo | ⟨u, hu, hup, hux⟩
  · exact .inl hinfo
  · rcases (hmem u).mp hu with rfl | hu
    · rw [hm] at hup
      cases hup
    · exact .inr ⟨u, hu, hup, hux⟩

/-- The first message is a `SHOW` only where something was announced. -/
theorem Announced.head (ha : s.Announced) (hpop : s.queue.pop = some (m, rest))
    (hm : m.what.isShow = true) : s.lastInfo ≠ none := by
  obtain ⟨hmem, -⟩ := MessageQueue.pop_some hpop
  rcases ha m ((hmem m).mpr (.inl rfl)) hm with hinfo | ⟨u, hu, -, hum⟩
  · exact hinfo
  · exact absurd hum (MessageQueue.not_before_of_pop hpop hu)

/-- Posting a message that is not a `SHOW`. -/
theorem Announced.post (ha : s.Announced) {w : Msg} {d : Nat} (hw : w.isShow = false) :
    ({ s with queue := s.queue.post w d } : NotificationHandler).Announced := by
  intro x hx hshow
  rcases MessageQueue.mem_post.mp hx with rfl | hx
  · rw [hw] at hshow
    cases hshow
  · rcases ha x hx hshow with hinfo | ⟨u, hu, hrest⟩
    · exact .inl hinfo
    · exact .inr ⟨u, MessageQueue.mem_post.mpr (.inr hu), hrest⟩

/-- A new dismissal leaves the `SHOW`s announced. -/
theorem Announced.rearmed (ha : s.Announced) (now : Nat) :
    ({ s with queue := rearmed s.queue now } : NotificationHandler).Announced := by
  intro x hx hshow
  rcases mem_rearmed.mp hx with rfl | ⟨hx, -⟩
  · cases hshow
  · rcases ha x hx hshow with hinfo | ⟨u, hu, hup, hux⟩
    · exact .inl hinfo
    · refine .inr ⟨u, mem_rearmed.mpr (.inr ⟨hu, ?_⟩), hup, hux⟩
      -- only a `DISMISS` is removed, so the `UPDATE` ahead stays
      cases hu' : u.what with
      | dialogUpdate i => rfl
      | _ => rw [hu'] at hup; cases hup

/-! ## Steps -/

theorem Inv.screen_shown (hi : s.Inv) (hshow : s.showing = true) :
    s.onScreen = [s.dialog.id] := by
  rw [hi.screen, if_pos hshow]

theorem Inv.screen_hidden (hi : s.Inv) (hshow : s.showing = false) : s.onScreen = [] := by
  rw [hi.screen, hshow]
  rfl

/-- A message is taken out that is no `UPDATE`, and no `DISMISS` while the
overlay is shown. -/
theorem Inv.tail (hi : s.Inv) (hpop : s.queue.pop = some (m, rest))
    (hup : m.what.isUpdate = false) (hdis : s.showing = true → m.what.isDismiss = false) :
    ({ s with queue := rest } : NotificationHandler).Inv := by
  obtain ⟨-, -, -, hcount⟩ := MessageQueue.pop_some hpop
  have hcount := hcount Msg.isDismiss
  exact {
    dismiss := by
      have hle := hi.dismiss
      show rest.count Msg.isDismiss ≤ 1
      omega
    pending := by
      intro hshow
      have hone := hi.pending hshow
      rw [hdis hshow, Bool.toNat_false, Nat.zero_add] at hcount
      exact hcount ▸ hone
    informed := hi.informed
    screen := hi.screen
    state := hi.state
    announced := hi.announced.tail hpop hup }

/-- A handler that has armed a new dismissal, once something was announced. -/
theorem Inv.of_rearmed {queue : MessageQueue Msg} {now : Nat}
    (hqueue : t.queue = rearmed queue now) (hinfo : t.lastInfo ≠ none)
    (hscreen : t.onScreen = if t.showing then [t.dialog.id] else [])
    (hstate : t.dialog.state = t.lastInfo) : t.Inv := by
  have hone : t.queue.count Msg.isDismiss = 1 := by
    rw [hqueue]
    exact count_dismiss_rearmed
  exact {
    dismiss := hone.le
    pending := fun _ => hone
    informed := fun _ => hinfo
    screen := hscreen
    state := hstate
    announced := announced_of_lastInfo hinfo }

/-- **Every handler keeps the invariant.** -/
theorem Inv.deliver (hi : s.Inv) (hs : s.step .deliver = some t) : t.Inv := by
  obtain ⟨m, rest, hpop, -, hm⟩ := deliver_inv hs
  have htail := hi.tail hpop
  generalize hw : m.what = w at hm htail
  cases hm with
  | showAgain hshow => exact htail rfl fun _ => rfl
  | recreateSame => exact htail rfl fun _ => rfl
  | dismissAgain hshow =>
      apply htail rfl
      intro hshow'
      have hhidden : s.showing = false := hshow
      rw [hhidden] at hshow'
      cases hshow'
  | showNow hshow =>
      have hinfo := hi.announced.head hpop (by rw [hw]; rfl)
      have hempty : s.onScreen = [] := hi.screen_hidden hshow
      exact .of_rearmed rfl hinfo (by simp [hempty]) hi.state
  | dismissNow hshow =>
      have honly : s.onScreen = [s.dialog.id] := hi.screen_shown hshow
      exact {
        dismiss := by show (cleared rest).count _ ≤ 1; rw [count_dismiss_cleared]; omega
        pending := by intro h; cases h
        informed := by intro h; cases h
        screen := by simp [honly]
        state := hi.state
        announced := by
          -- no `SHOW` is left
          intro x hx hshow
          rw [(mem_cleared.mp hx).2.1] at hshow
          cases hshow }
  | reset =>
      exact {
        dismiss := count_dismiss_rearmed.le
        pending := fun _ => count_dismiss_rearmed
        informed := hi.informed
        screen := hi.screen
        state := hi.state
        announced := (hi.announced.tail hpop (by rw [hw]; rfl)).rearmed s.now }
  | update i => exact .of_rearmed rfl (by simp) hi.screen rfl
  | recreateHidden hshow =>
      have hi := htail rfl fun _ => rfl
      have hempty : s.onScreen = [] := hi.screen_hidden hshow
      have hhidden : s.showing = false := hshow
      exact {
        dismiss := hi.dismiss
        pending := hi.pending
        informed := hi.informed
        screen := by simp [hempty, hhidden]
        state := rfl
        announced := hi.announced }
  | recreateShown hshow =>
      have hshow' : s.showing = true := hshow
      have hinfo := hi.informed hshow'
      have honly : s.onScreen = [s.dialog.id] := hi.screen_shown hshow'
      exact .of_rearmed rfl hinfo (by simp [honly, hshow']) rfl

/-- A message that is neither a `SHOW` nor a `DISMISS` is posted. -/
theorem Inv.post (hi : s.Inv) {w : Msg} {d : Nat} (hw : w.isShow = false)
    (hw' : w.isDismiss = false) :
    ({ s with queue := s.queue.post w d } : NotificationHandler).Inv := by
  have hcount : (s.queue.post w d).count Msg.isDismiss = s.queue.count Msg.isDismiss := by
    simp [hw']
  exact {
    dismiss := by rw [hcount]; exact hi.dismiss
    pending := by intro h; rw [hcount]; exact hi.pending h
    informed := hi.informed
    screen := hi.screen
    state := hi.state
    announced := hi.announced.post hw }

/-- The two posts of a broadcast, for a mode to show. -/
theorem onChanged_eq {position mode : Option Int} (between : Nat)
    (hmode : mode.getD modeNone ≠ modeNone) :
    s.onChanged position mode between =
      { s with
        queue := (s.queue.post (.dialogUpdate (info position mode)) s.now).post .dialogShow
          (s.now + between)
        now := s.now + between } := by
  rw [onChanged, if_neg hmode]
  rfl

theorem Inv.onChanged (hi : s.Inv) (position mode : Option Int) (between : Nat) :
    (s.onChanged position mode between).Inv := by
  by_cases hmode : mode.getD modeNone = modeNone
  · rw [NotificationHandler.onChanged, if_pos hmode]
    exact hi
  · have hi' : ({ s with
        queue := s.queue.post (.dialogUpdate (info position mode)) s.now } :
        NotificationHandler).Inv := hi.post rfl rfl
    rw [onChanged_eq between hmode]
    exact {
      dismiss := by simpa [Msg.isDismiss] using hi'.dismiss
      pending := by intro h; simpa [Msg.isDismiss] using hi'.pending h
      informed := hi.informed
      screen := hi.screen
      state := hi.state
      announced := by
        intro x hx hshow
        rcases MessageQueue.mem_post.mp hx with rfl | hx
        · -- the `UPDATE` of the same broadcast is before its `SHOW`
          refine .inr ⟨⟨.dialogUpdate (info position mode), s.now, s.queue.nextSeq⟩,
            by simp, rfl, ?_⟩
          unfold Message.before
          simp only [MessageQueue.nextSeq_post]
          omega
        · rcases hi'.announced x hx hshow with hinfo | ⟨u, hu, hrest⟩
          · exact .inl hinfo
          · exact .inr ⟨u, MessageQueue.mem_post.mpr (.inr hu), hrest⟩ }

theorem Inv.step (hi : s.Inv) (hs : s.step a = some t) : t.Inv := by
  cases a with
  | changedAction position mode between =>
      cases hs
      exact hi.onChanged position mode between
  | configurationChanged =>
      cases hs
      exact hi.post rfl rfl
  | setConfiguration config =>
      cases hs
      exact ⟨hi.dismiss, hi.pending, hi.informed, hi.screen, hi.state, hi.announced⟩
  | deliver => exact hi.deliver hs
  | tick ms =>
      cases hs
      exact ⟨hi.dismiss, hi.pending, hi.informed, hi.screen, hi.state, hi.announced⟩

/-- **The representation invariant.** In every state that any sequence of
broadcasts and configuration changes and any schedule of deliveries leads
to: at most one `DISMISS` is queued; while `showing`, exactly one is, the
information is known and the one dialog on screen is the current one;
and the current dialog's last state is `lastInfo`. -/
theorem shown_dialog_is_current (now : Nat) (config : Configuration)
    (h : List (NotificationHandler × Action)) (t : NotificationHandler)
    (hp : Path step (construct now config) h t) :
    t.queue.count Msg.isDismiss ≤ 1 ∧
    (t.showing = true → t.queue.count Msg.isDismiss = 1 ∧ t.lastInfo ≠ none ∧
      t.onScreen = [t.dialog.id] ∧ t.dialog.state = t.lastInfo) := by
  have hi : t.Inv := hp.inv Inv (fun _ _ => True) (fun _ _ _ hi _ hs => hi.step hs)
    (inv_construct now config) (fun _ _ => trivial)
  refine ⟨hi.dismiss, fun hshow => ⟨hi.pending hshow, hi.informed hshow, ?_, hi.state⟩⟩
  rw [hi.screen, if_pos hshow]

/-- A portrait screen, and the same screen turned. -/
def portrait : Configuration := ⟨420, 0, 411, 17⟩
def landscape : Configuration := ⟨420, 1, 411, 17⟩

/-- A slider move, shown, with the screen turned while it is. -/
def moveAndTurn : List Action :=
  [.changedAction (some 1) (some 2) 0, .deliver, .deliver, .setConfiguration landscape,
    .configurationChanged, .deliver]

theorem shown_dialog_is_current_move_and_turn :
    ∃ r ∈ follow step (construct 0 portrait) moveAndTurn,
      r.2.showing = true ∧ r.2.dialog.id = 1 ∧ r.2.queue.count Msg.isDismiss = 1 ∧
      r.2.onScreen = [r.2.dialog.id] := by
  have hrun : ∃ r ∈ follow step (construct 0 portrait) moveAndTurn,
      r.2.showing = true ∧ r.2.dialog.id = 1 := by
    decide +kernel
  obtain ⟨r, hr, hshow, hid⟩ := hrun
  have hinv := (shown_dialog_is_current 0 portrait r.1 r.2 (path_of_follow hr)).2 hshow
  exact ⟨r, hr, hshow, hid, hinv.1, hinv.2.2.1⟩

end NotificationHandler

end OplusHardware.AlertSlider
