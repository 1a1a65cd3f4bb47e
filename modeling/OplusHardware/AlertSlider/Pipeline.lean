import OplusHardware.AlertSlider.Moves
import OplusHardware.AlertSlider.Notifications

/-!
# AlertSlider — from the slider to the screen

The key handler runs in the system server, the overlay in another process.
Between them are the `CHANGED_ACTION` broadcasts, which arrive in the order
in which they were sent, as late as they like. The two sides take their
steps in any order.
-/

namespace OplusHardware.AlertSlider

open OplusHardware.Base

/-! ## The updates that wait -/

namespace NotificationHandler

variable {s t : NotificationHandler} {a : Action} {w : Msg}

def updateInfo : Msg → Option NotificationInfo
  | .dialogUpdate i => some i
  | _ => none

/-- The updates that are queued, in the order in which they will be
handled. -/
def pending (s : NotificationHandler) : List NotificationInfo := s.queue.carried updateInfo

theorem carried_cleared (q : MessageQueue Msg) :
    (cleared q).carried updateInfo = q.carried updateInfo := by
  have hremove : ∀ (p : Msg → Bool) (q : MessageQueue Msg),
      (∀ w, p w = true → updateInfo w = none) →
      (q.remove p).carried updateInfo = q.carried updateInfo :=
    fun p q hp => MessageQueue.carried_remove hp
  rw [cleared, hremove, hremove, hremove]
  · intro w hw
    cases w <;> first | rfl | cases hw
  · intro w hw
    cases w <;> first | rfl | cases hw
  · intro w hw
    cases w <;> first | rfl | cases hw

theorem carried_rearmed (q : MessageQueue Msg) (now : Nat) :
    (rearmed q now).carried updateInfo = q.carried updateInfo := by
  rw [rearmed, MessageQueue.carried_post_none rfl, MessageQueue.carried_remove]
  intro w hw
  cases w <;> first | rfl | cases hw

/-- No handler touches the updates that wait. -/
theorem Handled.pending_eq (hh : Handled s w t) : t.pending = s.pending := by
  cases hh with
  | showNow hs =>
      show (rearmed (cleared s.queue) s.now).carried updateInfo = _
      rw [carried_rearmed, carried_cleared]
      rfl
  | dismissNow hs => exact carried_cleared s.queue
  | reset => exact carried_rearmed s.queue s.now
  | update i => exact carried_rearmed s.queue s.now
  | recreateShown hs =>
      show (rearmed (cleared (cleared s.queue)) s.now).carried updateInfo = _
      rw [carried_rearmed, carried_cleared, carried_cleared]
      rfl
  | _ => rfl

/-- What a handler knows is what the last update told it. -/
theorem Handled.lastInfo_eq (hh : Handled s w t) :
    t.lastInfo = ((updateInfo w) <|> s.lastInfo) := by
  cases hh <;> rfl

/-- What `handleUpdate` is given in a step, if it is called. -/
def updatedWith (x : NotificationHandler × Action) : Option NotificationInfo :=
  (delivered x).bind fun m => updateInfo m.what

/-- A delivery gives `handleUpdate` the first update that waits, or leaves
them all. -/
theorem deliver_pending (hs : s.step .deliver = some t) :
    s.pending = (updatedWith (s, .deliver)).toList ++ t.pending ∧
      t.lastInfo = (updatedWith (s, .deliver) <|> s.lastInfo) := by
  obtain ⟨m, rest, hpop, -, hh⟩ := deliver_inv hs
  have hwith : updatedWith (s, .deliver) = updateInfo m.what := by
    simp [updatedWith, delivered, hpop]
  rw [hwith, hh.pending_eq]
  exact ⟨MessageQueue.carried_pop hpop, hh.lastInfo_eq⟩

/-- A broadcast queues its update behind the others. -/
theorem onChanged_pending (hstamped : s.Stamped) {position mode : Option Int} (between : Nat)
    (hmode : mode.getD modeNone ≠ modeNone) :
    (s.onChanged position mode between).pending = s.pending ++ [info position mode] := by
  rw [onChanged_eq between hmode]
  show MessageQueue.carried updateInfo (MessageQueue.post _ _ _) = _
  have hupdate : updateInfo (.dialogUpdate (info position mode)) = some (info position mode) :=
    rfl
  rw [MessageQueue.carried_post_none rfl]
  apply MessageQueue.carried_post_some hupdate
  intro m hm hne
  apply hstamped m hm
  cases hw : m.what with
  | dialogUpdate i => rfl
  | _ => rw [hw] at hne; exact absurd rfl hne

end NotificationHandler

/-! ## The two sides -/

structure Pipeline where
  key : KeyHandler
  overlay : NotificationHandler
  /-- Broadcasts of `key` that the overlay has received. -/
  received : Nat

namespace Pipeline

inductive Action where
  /-- A step of the key handler or of the system around it. -/
  | key (a : KeyHandler.Action)
  /-- The oldest broadcast on its way arrives. -/
  | receive (between : Nat)
  /-- Another step of the overlay. -/
  | overlay (a : NotificationHandler.Action)

/-- The only `CHANGED_ACTION`s are those of the key handler. -/
def isChanged : NotificationHandler.Action → Bool
  | .changedAction _ _ _ => true
  | _ => false

def step (s : Pipeline) : Action → Option Pipeline
  | .key a => (s.key.step a).map fun k => { s with key := k }
  | .receive between =>
      s.key.sent[s.received]?.bind fun i =>
        (s.overlay.step (.changedAction (some i.position) (some i.mode) between)).map
          fun o => { s with overlay := o, received := s.received + 1 }
  | .overlay a =>
      if isChanged a then none
      else (s.overlay.step a).map fun o => { s with overlay := o }

/-- **The ways a step goes.** -/
inductive StepCase (s : Pipeline) : Action → Pipeline → Prop where
  | key {a : KeyHandler.Action} {k : KeyHandler} (hk : s.key.step a = some k) :
      StepCase s (.key a) { s with key := k }
  | receive (between : Nat) {i : NotificationInfo} (hi : s.key.sent[s.received]? = some i) :
      StepCase s (.receive between)
        { s with
          overlay := s.overlay.onChanged (some i.position) (some i.mode) between
          received := s.received + 1 }
  | overlay {a : NotificationHandler.Action} {o : NotificationHandler}
      (ha : isChanged a = false) (ho : s.overlay.step a = some o) :
      StepCase s (.overlay a) { s with overlay := o }

variable {s t : Pipeline} {a : Action} {h : List (Pipeline × Action)}

theorem step_cases (hs : step s a = some t) : StepCase s a t := by
  cases a with
  | key a =>
      obtain ⟨k, hk, rfl⟩ := Option.map_eq_some_iff.mp hs
      exact .key hk
  | receive between =>
      obtain ⟨i, hi, hs⟩ := Option.bind_eq_some_iff.mp hs
      obtain ⟨o, ho, rfl⟩ := Option.map_eq_some_iff.mp hs
      cases ho
      exact .receive between hi
  | overlay a =>
      simp only [step] at hs
      split at hs
      · cases hs
      · rename_i ha
        obtain ⟨o, ho, rfl⟩ := Option.map_eq_some_iff.mp hs
        exact .overlay (Bool.eq_false_of_not_eq_true ha) ho

/-! ## What the overlay knows -/

/-- What the broadcasts that have arrived announce; one without a mode
announces nothing. -/
def arrived (s : Pipeline) : List NotificationInfo :=
  (s.key.sent.take s.received).filter fun i => i.mode ≠ modeNone

/-- What the overlay's `handleUpdate` was given, call by call. -/
def toldBy (x : Pipeline × Action) : Option NotificationInfo :=
  match x.2 with
  | .overlay a => NotificationHandler.updatedWith (x.1.overlay, a)
  | _ => none

def told (h : List (Pipeline × Action)) : List NotificationInfo := h.filterMap toldBy

theorem told_snoc (x : Pipeline × Action) : told (h ++ [x]) = told h ++ (toldBy x).toList :=
  filterMap_snoc toldBy h x

/-- The overlay shows the last it was told, and what has arrived is that and
the updates that wait. -/
structure Inv (h : List (Pipeline × Action)) (s : Pipeline) : Prop where
  received : s.received ≤ s.key.sent.length
  overlay : s.overlay.Inv
  stamped : s.overlay.Stamped
  arrived : told h ++ s.overlay.pending = s.arrived
  lastInfo : s.overlay.lastInfo = (told h).getLast?

/-- The first broadcasts are the same when more are sent. -/
theorem arrived_key {k : KeyHandler} (hreceived : s.received ≤ s.key.sent.length)
    {l : List NotificationInfo} (hk : k.sent = s.key.sent ++ l) :
    arrived { s with key := k } = s.arrived := by
  show (k.sent.take s.received).filter _ = _
  rw [hk, List.take_append_of_le_length hreceived]
  rfl

/-- A broadcast that arrives is the next update that waits, if it announces
anything. -/
theorem arrived_receive (hstamped : s.overlay.Stamped) (between : Nat) {i : NotificationInfo}
    (hi : s.key.sent[s.received]? = some i) :
    ∃ l, (s.overlay.onChanged (some i.position) (some i.mode) between).pending =
        s.overlay.pending ++ l ∧
      arrived { s with
        overlay := s.overlay.onChanged (some i.position) (some i.mode) between
        received := s.received + 1 } = s.arrived ++ l ∧
      (s.overlay.onChanged (some i.position) (some i.mode) between).lastInfo =
        s.overlay.lastInfo := by
  have htake : s.key.sent.take (s.received + 1) = s.key.sent.take s.received ++ [i] := by
    rw [List.take_add_one, hi]
    rfl
  by_cases hmode : i.mode = modeNone
  · have hsame : s.overlay.onChanged (some i.position) (some i.mode) between = s.overlay :=
      if_pos hmode
    refine ⟨[], by rw [hsame, List.append_nil], ?_, by rw [hsame]⟩
    show (s.key.sent.take (s.received + 1)).filter _ = _
    rw [htake, List.filter_append]
    simp [Pipeline.arrived, hmode]
  · have hsome : (some i.mode).getD modeNone ≠ modeNone := hmode
    refine ⟨[i], NotificationHandler.onChanged_pending hstamped between hsome, ?_, ?_⟩
    · show (s.key.sent.take (s.received + 1)).filter _ = _
      rw [htake, List.filter_append]
      simp [Pipeline.arrived, hmode]
    · rw [NotificationHandler.onChanged_eq between hsome]

/-- A step of the overlay gives `handleUpdate` the first update, or none. -/
theorem overlay_pending {a : NotificationHandler.Action} {o : NotificationHandler}
    (ha : isChanged a = false) (ho : s.overlay.step a = some o) :
    s.overlay.pending = (toldBy (s, .overlay a)).toList ++ o.pending ∧
      o.lastInfo = (toldBy (s, .overlay a) <|> s.overlay.lastInfo) := by
  cases a with
  | changedAction position mode between => cases ha
  | deliver => exact NotificationHandler.deliver_pending ho
  | configurationChanged =>
      cases ho
      exact ⟨(MessageQueue.carried_post_none rfl).symm, rfl⟩
  | setConfiguration config =>
      cases ho
      exact ⟨rfl, rfl⟩
  | tick ms =>
      cases ho
      exact ⟨rfl, rfl⟩

/-- **Every step keeps the invariant.** -/
theorem Inv.step (hi : Inv h s) (hs : step s a = some t) : Inv (h ++ [(s, a)]) t := by
  cases step_cases hs with
  | @key b k hk =>
      have hsent := KeyHandler.sent_step hk
      have hnone : told (h ++ [(s, .key b)]) = told h := by
        rw [told_snoc]
        exact List.append_nil _
      refine ⟨?_, hi.overlay, hi.stamped, ?_, hi.lastInfo.trans (by rw [hnone])⟩
      · have hle := hi.received
        show s.received ≤ _
        rw [hsent, List.length_append]
        omega
      · rw [hnone, arrived_key hi.received hsent]
        exact hi.arrived
  | @receive between i hget =>
      have hlt := (List.getElem?_eq_some_iff.mp hget).1
      have hnone : told (h ++ [(s, .receive between)]) = told h := by
        rw [told_snoc]
        exact List.append_nil _
      obtain ⟨l, hpending, harrived, hinfo⟩ := arrived_receive hi.stamped between hget
      refine ⟨hlt, hi.overlay.onChanged _ _ between,
        NotificationHandler.Stamped.step (a := .changedAction _ _ between) hi.stamped rfl,
        ?_, ?_⟩
      · rw [hnone, harrived, hpending, ← List.append_assoc, hi.arrived]
      · rw [hnone]
        exact hinfo.trans hi.lastInfo
  | @overlay b o hb ho =>
      obtain ⟨hpending, hinfo⟩ := overlay_pending hb ho
      refine ⟨hi.received, hi.overlay.step ho, hi.stamped.step ho, ?_, ?_⟩
      · rw [told_snoc, List.append_assoc, ← hpending]
        exact hi.arrived
      · rw [told_snoc]
        refine hinfo.trans ?_
        rw [hi.lastInfo]
        cases toldBy (s, .overlay b) <;> simp

/-! ## Whole runs -/

/-- Both sides have just been made. -/
def boot (preferences : Preferences) (node : List Char) (ringerMode zenMode : Int)
    (muted : Bool) (now : Nat) (config : Configuration) : Pipeline where
  key := .construct preferences node ringerMode zenMode muted
  overlay := .construct now config
  received := 0

/-- The steps of the key handler. -/
def keyPart (x : Pipeline × Action) : Option (KeyHandler × KeyHandler.Action) :=
  match x.2 with
  | .key a => some (x.1.key, a)
  | _ => none

/-- The slider moves. -/
def slides (x : Pipeline × Action) : Bool := ((keyPart x).map KeyHandler.slides).getD false

/-- The key handler goes its own way, whatever the overlay does. -/
theorem key_path (hp : Path step s h t) :
    Path KeyHandler.step s.key (h.filterMap keyPart) t.key := by
  induction hp with
  | nil => exact .nil
  | @snoc h u v a _ hs ih =>
      rw [List.filterMap_append]
      cases step_cases hs with
      | key hk => exact ih.snoc hk
      | receive between hi =>
          show Path KeyHandler.step s.key (h.filterMap keyPart ++ []) u.key
          rw [List.append_nil]
          exact ih
      | overlay ha ho =>
          show Path KeyHandler.step s.key (h.filterMap keyPart ++ []) u.key
          rw [List.append_nil]
          exact ih

theorem countP_slides (h : List (Pipeline × Action)) :
    (h.filterMap keyPart).countP KeyHandler.slides = h.countP slides := by
  rw [List.countP_filterMap]
  rfl

section Runs

variable (preferences : Preferences) (node : List Char) (ringerMode zenMode : Int)
  (muted : Bool) (now : Nat) (config : Configuration)

theorem inv_boot : Inv [] (boot preferences node ringerMode zenMode muted now config) where
  received := Nat.le_refl _
  overlay := NotificationHandler.inv_construct now config
  stamped := by
    intro u hu
    exact absurd hu MessageQueue.notMem_empty
  arrived := rfl
  lastInfo := rfl

theorem inv_run
    (hp : Path step (boot preferences node ringerMode zenMode muted now config) h t) : Inv h t :=
  hp.history_inv Inv (fun _ _ => True) (fun _ _ _ _ hi _ hs => hi.step hs)
    (inv_boot preferences node ringerMode zenMode muted now config) (fun _ _ => trivial)

/-- **The overlay follows the key handler.** However the two processes
interleave and however late the broadcasts arrive: what `handleUpdate` was
given, call by call, and then the updates still queued, are the
notifications that have arrived, in the order in which the executor sent
them; and while it is shown, the one dialog on screen shows the last it was
told. -/
theorem overlay_follows_key (h : List (Pipeline × Action)) (q : Pipeline)
    (hp : Path step (boot preferences node ringerMode zenMode muted now config) h q) :
    told h ++ q.overlay.pending = q.arrived ∧ q.overlay.lastInfo = (told h).getLast? ∧
      (q.overlay.showing = true → told h ≠ [] ∧
        q.overlay.onScreen = [q.overlay.dialog.id] ∧
        q.overlay.dialog.state = (told h).getLast?) := by
  have hi := inv_run preferences node ringerMode zenMode muted now config hp
  refine ⟨hi.arrived, hi.lastInfo, fun hshow => ?_⟩
  refine ⟨fun hnone => ?_, hi.overlay.screen_shown hshow, hi.overlay.state.trans hi.lastInfo⟩
  apply hi.overlay.informed hshow
  rw [hi.lastInfo, hnone]
  rfl

/-- **Nothing is shown that the user did not do.** In every state of every
run: what a shown dialog shows is the position of a key event, with a mode
that was configured for it while the dialog was switched on; and the
notifications sent are no more than the moves of the slider, so that the
run after boot shows nothing. -/
theorem shown_was_moved (h : List (Pipeline × Action)) (q : Pipeline)
    (hp : Path step (boot preferences node ringerMode zenMode muted now config) h q) :
    q.key.sent.length ≤ h.countP slides ∧
      (q.overlay.showing = true → ∃ i, q.overlay.dialog.state = some i ∧
        i.mode ≠ modeNone ∧ KeyHandler.Configured (h.filterMap keyPart) i) := by
  have hkey := key_path hp
  constructor
  · rw [← countP_slides]
    exact KeyHandler.sent_le_slides hkey
  · intro hshow
    have hi := inv_run preferences node ringerMode zenMode muted now config hp
    have hstate := hi.overlay.state.trans hi.lastInfo
    have hinformed := hi.overlay.informed hshow
    rw [hi.lastInfo] at hinformed
    obtain ⟨i, hlast⟩ := Option.ne_none_iff_exists'.mp hinformed
    refine ⟨i, hstate.trans hlast, ?_⟩
    -- it is one of those that have arrived
    have hmem : i ∈ q.arrived := by
      rw [← hi.arrived]
      exact List.mem_append_left _ (List.mem_of_getLast? hlast)
    obtain ⟨hsent, hmode⟩ := List.mem_filter.mp hmem
    have hannouncing := KeyHandler.announcing_run hkey
    exact ⟨by simpa using hmode, hannouncing.sent i (List.mem_of_mem_take hsent)⟩

end Runs

/-- The slider is moved to the top, and the overlay shows it. -/
def moveToTop : List Action :=
  [.key (.slide ['1', '\n']), .key (.readNode .input), .key (.readPreferences .input),
    .key (.submit .input), .key .exec, .key .exec, .key .exec, .key .exec, .key .exec,
    .receive 0, .key .exec, .overlay .deliver, .overlay .deliver]

def bootMiddle : Pipeline :=
  boot defaultPreferences ['2', '\n'] 1 0 false 0 NotificationHandler.portrait

/-- A move to the bottom whose broadcast has arrived and waits. -/
def thenToBottom : List Action :=
  [.key (.slide ['3', '\n']), .key (.readNode .input), .key (.readPreferences .input),
    .key (.submit .input), .key .exec, .key .exec, .key (.commitZen 0), .key .exec, .key .exec,
    .key .exec, .key .exec, .receive 0]

theorem overlay_follows_key_two_moves :
    ∃ r ∈ follow step bootMiddle (moveToTop ++ thenToBottom),
      r.2.arrived = [⟨positionTop, 0⟩, ⟨positionBottom, 2⟩] ∧
      told r.1 = [⟨positionTop, 0⟩] ∧ r.2.overlay.dialog.state = some ⟨positionTop, 0⟩ := by
  have hrun : ∃ r ∈ follow step bootMiddle (moveToTop ++ thenToBottom),
      r.2.overlay.showing = true ∧ r.2.overlay.pending = [⟨positionBottom, 2⟩] ∧
        r.2.arrived = [⟨positionTop, 0⟩, ⟨positionBottom, 2⟩] := by
    decide +kernel
  obtain ⟨r, hr, hshow, hpending, harrived⟩ := hrun
  obtain ⟨htold, -, hshown⟩ := overlay_follows_key defaultPreferences ['2', '\n']
    1 0 false 0 NotificationHandler.portrait r.1 r.2 (path_of_follow hr)
  rw [hpending, harrived] at htold
  have happend : told r.1 ++ [⟨positionBottom, 2⟩] =
      [⟨positionTop, 0⟩] ++ [⟨positionBottom, 2⟩] := htold
  have hfirst := List.append_cancel_right happend
  exact ⟨r, hr, harrived, hfirst, by rw [(hshown hshow).2.2, hfirst]; rfl⟩

theorem shown_was_moved_move_to_top :
    ∃ r ∈ follow step bootMiddle moveToTop, r.2.key.sent.length ≤ r.1.countP slides ∧
      ∃ i, r.2.overlay.dialog.state = some i ∧
        KeyHandler.Configured (r.1.filterMap keyPart) i := by
  have hrun : ∃ r ∈ follow step bootMiddle moveToTop, r.2.overlay.showing = true := by
    decide +kernel
  obtain ⟨r, hr, hshow⟩ := hrun
  obtain ⟨hle, hshown⟩ := shown_was_moved defaultPreferences ['2', '\n'] 1 0 false 0
    NotificationHandler.portrait r.1 r.2 (path_of_follow hr)
  obtain ⟨i, hi, -, hconfigured⟩ := hshown hshow
  exact ⟨r, hr, hle, i, hi, hconfigured⟩

end Pipeline

end OplusHardware.AlertSlider
