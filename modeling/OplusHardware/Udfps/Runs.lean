import OplusHardware.Udfps.Sensor

/-!
# Udfps — what a posted event stands for

Three statements about every interleaving of the run thread, the clients
and the node. Events are one-shot: each needs an activation of its own,
and carries what its own read of the node stored. That the sensor is on
when an event is posted, and that the press came after the activation,
holds as long as no client call falls into the time the run thread spends
in `poll`, where nothing protects what the head of the loop has checked.
-/

namespace OplusHardware.Udfps

open OplusHardware.Base

namespace UdfpsSensor

variable {s t u : UdfpsSensor} {a : Action} {h : List (UdfpsSensor × Action)}
  {sensorHandle mScreenX mScreenY : Int32}

/-- The runs of the sensor from its constructor. -/
abbrev Run (sensorHandle mScreenX mScreenY : Int32) (h : List (UdfpsSensor × Action))
    (t : UdfpsSensor) : Prop :=
  Path step (construct sensorHandle mScreenX mScreenY) h t

/-! ## One activation for each event -/

/-- Disabled, and not in `poll`: no event can come before an activation. -/
def quiet (s : UdfpsSensor) : Bool := !s.mIsEnabled && !s.inPoll

theorem quiet_congr (he : t.mIsEnabled = s.mIsEnabled) (hp : t.pc = s.pc) :
    t.quiet = s.quiet := by
  unfold quiet inPoll
  rw [he, hp]

theorem posts_not_quiet (h : posts (s, a) = true) : s.quiet = false := by
  obtain ⟨io, now, pipe, -, hp, -⟩ := posts_cases h
  simp [quiet, inPoll, hp]

/-- A posting step leaves the sensor quiet. -/
theorem quiet_of_posts (h : posts (s, a) = true) (hs : step s a = some t) :
    t.quiet = true := by
  obtain ⟨io, now, pipe, rfl, hp, hread, hreport, -⟩ := posts_cases h
  have hf : s.fires true io = true := by simp [fires, hread, hreport]
  simp only [step, hp, Option.ite_none_right_eq_some, Option.some.injEq] at hs
  obtain ⟨-, rfl⟩ := hs
  simp [afterPoll, hf, quiet, inPoll]

/-- Only an activation ends the quiet. -/
theorem quiet_step (hq : s.quiet = true) (ha : enables (s, a) = false)
    (hs : step s a = some t) : t.quiet = true := by
  have hboth := hq
  simp only [quiet, Bool.and_eq_true, Bool.not_eq_true'] at hboth
  obtain ⟨hoff, hpoll⟩ := hboth
  have hon : s.on = false := on_eq_false_iff.mpr (.inl hoff)
  cases step_cases hs with
  | activateSame hfree hb => exact hq
  | @activateChange b hfree hb =>
      -- with the sensor disabled the change can only be to enabled
      cases b with
      | false => exact absurd hoff hb
      | true => simp [enables, hoff] at ha
  | modeSame hfree hm => exact (quiet_congr rfl rfl).trans hq
  | modeChange hfree hm => exact (quiet_congr rfl rfl).trans hq
  | interrupt hc => exact (quiet_congr rfl rfl).trans hq
  | notify => exact (quiet_congr rfl rfl).trans hq
  | begin hp => simp [quiet, inPoll, hoff]
  | finish hp hstop => simp [quiet, inPoll, hoff]
  | sleep hp hstop hon => simp [quiet, inPoll, hoff]
  | poll hp hstop hon' =>
      rw [hon] at hon'
      cases hon'
  | wakeUp hp hon => simp [quiet, inPoll, hoff]
  | sleepOn hp hon => simp [quiet, inPoll, hoff]
  | pollReturn hp hready => simp [inPoll, hp] at hpoll
  | pollFail hp => simp [inPoll, hp] at hpoll
  | failed hp => simp [inPoll, hp] at hpoll
  | post hp hread hreport => simp [inPoll, hp] at hpoll
  | discard hp hquiet => simp [inPoll, hp] at hpoll
  | drain hp => simp [inPoll, hp] at hpoll

/-- One event may still come without a further activation. -/
def credit (s : UdfpsSensor) : Nat := if s.quiet then 0 else 1

/-- A step pays for the event it posts, from an activation or from the
credit of an earlier one. -/
theorem credit_step (hs : step s a = some t) :
    (posts (s, a)).toNat + t.credit ≤ s.credit + (enables (s, a)).toNat := by
  cases hp : posts (s, a) with
  | true =>
      rw [credit, credit, quiet_of_posts hp hs, posts_not_quiet hp]
      simp
  | false =>
      cases hq : s.quiet with
      | true =>
          cases ha : enables (s, a) with
          | true => simp [credit]; split <;> omega
          | false =>
              have ht := quiet_step hq ha hs
              simp [credit, ht]
      | false =>
          simp only [credit, hq, Bool.toNat_false]
          split <;> simp

/-- Along any run, events are paid for by activations. -/
theorem countP_posts_le (hp : Path step s h t) :
    h.countP posts + t.credit ≤ s.credit + h.countP enables :=
  hp.countP_le fun _ _ _ hs => credit_step hs

/-- The event of a posting step, from the text its own read gave. -/
theorem mem_posted {e : Event} (he : e ∈ s.posted a) :
    ∃ io now bytes, a = .relock io now ∧ io.read = some bytes ∧ ∀ x y state,
      let r := sscanf (scannedText bytes.val io.stack) x y state
      r.rc = 3 ∧ 0 < r.state ∧ e.data0 = r.x ∧ e.data1 = r.y := by
  have hposts : posts (s, a) = true := by
    rw [posts, Bool.not_eq_true', List.isEmpty_eq_false_iff]
    exact List.ne_nil_of_mem he
  obtain ⟨io, now, pipe, rfl, -, hread, -, hev⟩ := posts_cases hposts
  obtain ⟨bytes, -, hbytes, hscan⟩ := readFpState_pressed hread
  refine ⟨io, now, bytes, rfl, hbytes, fun x y state => ?_⟩
  obtain ⟨hrc, hstate, hx, hy⟩ := hscan x y state
  rw [hev] at he
  cases List.mem_singleton.mp he
  exact ⟨hrc, hstate, by simp [readNode, hx], by simp [readNode, hy]⟩

/-- **The one-shot law.** In every run, between any two events lies an
`activate(true)` that changed `mIsEnabled`, so there are at most as many
events as such activations; and the data of each event are the two
coordinates scanned by the `readFpState` call of its own step, whatever
was stored before. -/
theorem one_shot (sensorHandle mScreenX mScreenY : Int32)
    (h : List (UdfpsSensor × Action)) (t : UdfpsSensor)
    (hp : Run sensorHandle mScreenX mScreenY h t) :
    (∀ pre x mid y post, h = pre ++ x :: (mid ++ y :: post) → posts x = true →
      posts y = true → ∃ z ∈ mid, enables z = true) ∧
    h.countP posts ≤ h.countP enables ∧
    ∀ x ∈ h, ∀ e ∈ x.1.posted x.2, ∃ io now bytes, x.2 = .relock io now ∧
      io.read = some bytes ∧ ∀ u v state,
        let r := sscanf (scannedText bytes.val io.stack) u v state
        r.rc = 3 ∧ 0 < r.state ∧ e.data0 = r.x ∧ e.data1 = r.y := by
  refine ⟨fun pre x mid y post heq hx hy => ?_, ?_, fun x _ e he => mem_posted he⟩
  · subst heq
    obtain ⟨-, u, hu, hrest⟩ := hp.at_step
    obtain ⟨hmid, v, hv, -⟩ := hrest.at_step
    -- after the first event the credit is used up
    have hcredit : u.credit = 0 := by simp [credit, quiet_of_posts hx hu]
    have hcount := countP_posts_le (hmid.snoc hv)
    have hlast : enables (y.1, y.2) = false := by
      obtain ⟨io, now, pipe, hrelock, -⟩ := posts_cases hy
      rw [enables, hrelock]
    have hpost : posts (y.1, y.2) = true := hy
    rw [List.countP_append, List.countP_append, List.countP_singleton,
      List.countP_singleton, hlast, hpost, hcredit] at hcount
    have hpos : 0 < mid.countP enables := by
      simp only [if_true, Bool.false_eq_true, if_false] at hcount
      omega
    obtain ⟨z, hz, hen⟩ := List.countP_pos_iff.mp hpos
    exact ⟨z, hz, hen⟩
  · have hcount := countP_posts_le hp
    have hstart : (construct sensorHandle mScreenX mScreenY).credit = 0 := rfl
    omega

/-- The node reads `10,20,1`. -/
def pressAt : NodeIo where
  lseek := 0
  read := some ⟨[49, 48, 44, 50, 48, 44, 49, 10], by decide⟩
  stack := []

/-- A press with nothing else going on. -/
def onePress : List Action :=
  [.begin, .loop, .activate true, .wake false, .loop, .pollReturn, .relock pressAt 1,
    .loop, .notifyFpState, .pollReturn, .relock pressAt 2]

/-- And a second one after the next activation. -/
def twoPresses : List Action :=
  onePress ++ [.loop, .activate true, .wake false, .loop, .pollReturn, .relock pressAt 3,
    .loop, .notifyFpState, .pollReturn, .relock pressAt 4]

theorem one_shot_two_presses :
    ∃ r ∈ follow step (construct 1 0 0) twoPresses,
      r.1.countP posts = 2 ∧ r.1.countP posts ≤ r.1.countP enables ∧
        ∀ pre x mid y post, r.1 = pre ++ x :: (mid ++ y :: post) → posts x = true →
          posts y = true → ∃ z ∈ mid, enables z = true := by
  have hrun : ∃ r ∈ follow step (construct 1 0 0) twoPresses, r.1.countP posts = 2 := by
    decide +kernel
  obtain ⟨r, hr, htwo⟩ := hrun
  obtain ⟨hbetween, hcount, -⟩ := one_shot 1 0 0 r.1 r.2 (path_of_follow hr)
  exact ⟨r, hr, htwo, hcount, hbetween⟩

/-! ## Events while the sensor is on -/

/-- A client call that switches the sensor off. -/
def switchesOff (x : UdfpsSensor × Action) : Bool :=
  match x.2 with
  | .activate false => x.1.on
  | .setOperationMode .dataInjection => x.1.on
  | _ => false

/-- A step that switches the sensor on. -/
def switchesOn (x : UdfpsSensor × Action) : Bool :=
  !x.1.on && (step x.1 x.2).any on

/-- The run thread does not hold the mutex, and what it has been told ends
this iteration with an event: `fp_state` has notified while it is in
`poll`, or `poll` has returned with the node ready. -/
def mayPost (s : UdfpsSensor) : Bool :=
  s.reportEvent &&
    match s.pc with
    | .polling => s.fpPending
    | .polled (.ready _ fp) => fp
    | _ => false

/-- A step by which an event comes too late: the sensor is switched off
with the event on its way, or `fp_state` notifies a run thread that has
not yet come back from `poll` since the sensor was switched off. -/
def lateOff (x : UdfpsSensor × Action) : Bool :=
  match x.2 with
  | .notifyFpState => x.1.reportEvent && x.1.pc = .polling && !x.1.on
  | _ => x.1.mayPost && switchesOff x

theorem mayPost_of_posts (h : posts (s, a) = true) : s.mayPost = true := by
  obtain ⟨io, now, pipe, -, hp, -, hreport, -⟩ := posts_cases h
  simp [mayPost, hp, hreport]

/-- Outside `poll` a notification waits for the next iteration. -/
theorem mayPost_notify (hp : s.pc ≠ .polling) :
    ({ s with fpPending := true } : UdfpsSensor).mayPost = s.mayPost := by
  unfold mayPost
  cases hpc : s.pc with
  | polling => exact absurd hpc hp
  | polled r => cases r <;> rfl
  | _ => rfl

/-- An event gets on its way with the sensor on, and while it is on its
way only a client switches the sensor off. -/
theorem on_step (hi : s.mayPost = true → s.on = true) (hok : lateOff (s, a) = false)
    (hs : step s a = some t) (ht : t.mayPost = true) : t.on = true := by
  have hsame : t.mIsEnabled = s.mIsEnabled → t.mMode = s.mMode → s.on = true →
      t.on = true := by
    intro he hm hon
    rw [on, he, hm]
    exact hon
  cases step_cases hs with
  | activateSame hfree hb => exact hi ht
  | @activateChange b hfree hb =>
      have hmay : s.mayPost = true := ht
      have hon := on_eq_true_iff.mp (hi hmay)
      cases b with
      | false => simp [lateOff, switchesOff, hmay, on, hon.1, hon.2] at hok
      | true => exact absurd hon.1 hb
  | modeSame hfree hm => exact hsame rfl rfl (hi ht)
  | @modeChange m hfree hm =>
      have hmay : s.mayPost = true := ht
      have hon := on_eq_true_iff.mp (hi hmay)
      cases m with
      | normal => exact absurd hon.2 hm
      | dataInjection => simp [lateOff, switchesOff, hmay, on, hon.1, hon.2] at hok
  | interrupt hc => exact hsame rfl rfl (hi ht)
  | notify =>
      -- inside `poll` this is where the event gets on its way
      by_cases hp : s.pc = .polling
      · simp only [mayPost, hp, Bool.and_true] at ht
        have hon : s.on = true := by simpa [lateOff, hp, ht] using hok
        exact hsame rfl rfl hon
      · rw [mayPost_notify hp] at ht
        exact hsame rfl rfl (hi ht)
  | begin hp => simp [mayPost] at ht
  | finish hp hstop => simp [mayPost] at ht
  | sleep hp hstop hon => simp [mayPost] at ht
  -- the head of the loop lets only an enabled sensor through
  | poll hp hstop hon => exact hsame rfl rfl hon
  | wakeUp hp hon => simp [mayPost] at ht
  | sleepOn hp hon => simp [mayPost] at ht
  | pollReturn hp hready =>
      have hboth : s.reportEvent = true ∧ s.fpPending = true := by simpa [mayPost] using ht
      exact hsame rfl rfl (hi (by simp [mayPost, hp, hboth.1, hboth.2]))
  | pollFail hp => simp [mayPost] at ht
  | failed hp => simp [mayPost] at ht
  | post hp hread hreport => simp [mayPost] at ht
  | discard hp hquiet => simp [mayPost] at ht
  | drain hp => simp [mayPost] at ht

/-- A sensor that is off stays off until a step switches it on. -/
theorem exists_switchesOn (hp : Path step s h t) (hs : s.on = false) (ht : t.on = true) :
    ∃ z ∈ h, switchesOn z = true := by
  by_contra hnone
  have hoff : t.on = false := by
    refine hp.inv (fun s => s.on = false) (fun s a => switchesOn (s, a) = false)
      (fun s a u hs hok hstep => ?_) hs (fun z hz => ?_)
    · simpa [switchesOn, hs, hstep] using hok
    · exact Bool.eq_false_of_not_eq_true fun hz' => hnone ⟨z, hz, hz'⟩
  rw [hoff] at ht
  cases ht

/-- The two calls that switch the sensor off leave it off. -/
theorem off_after_call (ha : a = .activate false ∨ a = .setOperationMode .dataInjection)
    (hs : step s a = some t) : t.on = false := by
  rcases ha with rfl | rfl
  · cases step_cases hs with
    | activateSame hfree hb => exact on_eq_false_iff.mpr (.inl hb)
    | activateChange hfree hb => rfl
  · cases step_cases hs with
    | modeSame hfree hm => exact on_eq_false_iff.mpr (.inr hm)
    | modeChange hfree hm => exact on_eq_false_iff.mpr (.inr rfl)

/-- Where no event is overtaken, the sensor is on when one is posted. -/
theorem on_of_posts {pre post : List (UdfpsSensor × Action)} {x : UdfpsSensor × Action}
    (hp : Run sensorHandle mScreenX mScreenY (pre ++ x :: post) t)
    (hok : ∀ y ∈ pre, lateOff y = false) (hx : posts x = true) : x.1.on = true := by
  obtain ⟨hpre, -⟩ := hp.at_step
  have hinv : x.1.mayPost = true → x.1.on = true := by
    refine hpre.inv (fun s => s.mayPost = true → s.on = true)
      (fun s a => lateOff (s, a) = false) (fun s a u hi hok hs => on_step hi hok hs) ?_ hok
    intro hstart
    cases hstart
  exact hinv (mayPost_of_posts hx)

/-- **No event while off.** In every run in which no client switches the
sensor off with an event on its way, and `fp_state` does not notify a run
thread still in `poll` for a sensor that is off, every event is posted
from a state that is enabled and in `NORMAL` mode; so between an
`activate(false)` or a switch to data injection and a later event, some
step switched the sensor on again. -/
theorem posts_while_on (sensorHandle mScreenX mScreenY : Int32)
    (h : List (UdfpsSensor × Action)) (t : UdfpsSensor)
    (hp : Run sensorHandle mScreenX mScreenY h t)
    (hok : ∀ x ∈ h, lateOff x = false) :
    (∀ x ∈ h, posts x = true → x.1.mIsEnabled = true ∧ x.1.mMode = .normal) ∧
    ∀ pre x mid y post, h = pre ++ x :: (mid ++ y :: post) →
      (x.2 = .activate false ∨ x.2 = .setOperationMode .dataInjection) →
      posts y = true → ∃ z ∈ mid, switchesOn z = true := by
  constructor
  · intro x hx hpost
    obtain ⟨pre, post, rfl⟩ := List.append_of_mem hx
    have hon := on_of_posts hp (fun y hy => hok y (by simp [hy])) hpost
    exact on_eq_true_iff.mp hon
  · rintro pre x mid y post rfl hcall hy
    have hcut : Run sensorHandle mScreenX mScreenY ((pre ++ x :: mid) ++ y :: post) t := by
      simpa using hp
    have hon : y.1.on = true := by
      refine on_of_posts hcut (fun z hz => hok z ?_) hy
      simp only [List.mem_append, List.mem_cons] at hz ⊢
      tauto
    -- the call leaves the sensor off, so what lies between switches it on
    obtain ⟨-, u, hu, hrest⟩ := hp.at_step
    obtain ⟨hmid, -⟩ := hrest.at_step
    exact exists_switchesOn hmid (off_after_call hcall hu) hon

/-- The idle sensor is switched off inside `poll`, and pressed once it is
on again. -/
def switchedOffIdle : List Action :=
  [.begin, .loop, .activate true, .wake false, .loop, .pollReturn, .relock pressAt 1,
    .loop, .activate false, .pollReturn, .relock pressAt 2, .loop, .activate true,
    .wake false, .loop, .pollReturn, .relock pressAt 3, .loop, .notifyFpState,
    .pollReturn, .relock pressAt 4]

theorem posts_while_on_switched_off :
    ∃ r ∈ follow step (construct 1 0 0) switchedOffIdle,
      r.1.countP switchesOff = 1 ∧ r.1.countP posts = 1 ∧
      ∀ x ∈ r.1, posts x = true → x.1.mIsEnabled = true ∧ x.1.mMode = .normal := by
  have hrun : ∃ r ∈ follow step (construct 1 0 0) switchedOffIdle,
      r.1.countP switchesOff = 1 ∧ r.1.countP posts = 1 ∧ ∀ x ∈ r.1, lateOff x = false := by
    decide +kernel
  obtain ⟨r, hr, hoff, hone, hok⟩ := hrun
  exact ⟨r, hr, hoff, hone, (posts_while_on 1 0 0 r.1 r.2 (path_of_follow hr) hok).1⟩

/-- A press is notified, `poll` returns, and the sensor is deactivated
before the run thread has the mutex back. -/
def deactivatedInPoll : List Action :=
  [.begin, .loop, .activate true, .wake false, .loop, .pollReturn, .relock pressAt 1,
    .loop, .notifyFpState, .pollReturn, .activate false, .relock pressAt 2]

/-- **An event from a disabled sensor.** The last step posts an event
although `activate(false)` has returned. -/
theorem event_after_deactivation :
    ∃ r ∈ follow step (construct 1 0 0) deactivatedInPoll,
      ∃ x ∈ r.1, posts x = true ∧ x.1.mIsEnabled = false := by
  decide +kernel

/-! ## Events for presses after the activation -/

/-- The step reads the node, and with that takes every notification it
has raised so far. -/
def reads (x : UdfpsSensor × Action) : Bool :=
  match x.2, x.1.pc with
  | .relock _ _, .polled (.ready _ fp) => fp
  | _, _ => false

/-- A notification has been raised that no read has taken, and no
activation came after it. -/
def Fresh (h : List (UdfpsSensor × Action)) : Prop :=
  ∃ pre x post, h = pre ++ x :: post ∧ x.2 = .notifyFpState ∧
    (∀ y ∈ post, enables y = false) ∧ ∀ y ∈ post, reads y = false

/-- Such a notification, and `poll` has returned since. -/
def FreshSeen (h : List (UdfpsSensor × Action)) : Prop :=
  ∃ pre x post, h = pre ++ x :: post ∧ x.2 = .notifyFpState ∧
    (∀ y ∈ post, enables y = false) ∧ (∀ y ∈ post, reads y = false) ∧
    ∃ y ∈ post, y.2 = .pollReturn

/-- A notification that is pending now would be reported, not discarded,
by this iteration of the run thread or the next one. -/
def willReport (s : UdfpsSensor) : Bool :=
  s.fpPending &&
    match s.pc with
    | .head => s.reportEvent && !s.mStopThread
    | .polling => s.reportEvent
    | .polled (.ready _ fp) => s.reportEvent || !fp
    | _ => false

theorem fresh_notify (h : List (UdfpsSensor × Action)) (s : UdfpsSensor) :
    Fresh (h ++ [(s, .notifyFpState)]) :=
  ⟨h, (s, .notifyFpState), [], rfl, rfl, by simp, by simp⟩

theorem Fresh.snoc {x : UdfpsSensor × Action} (hf : Fresh h) (he : enables x = false)
    (hr : reads x = false) : Fresh (h ++ [x]) := by
  obtain ⟨pre, n, post, rfl, hn, hen, hre⟩ := hf
  refine ⟨pre, n, post ++ [x], by simp, hn, ?_, ?_⟩
  · exact List.forall_mem_append.mpr ⟨hen, List.forall_mem_singleton.mpr he⟩
  · exact List.forall_mem_append.mpr ⟨hre, List.forall_mem_singleton.mpr hr⟩

theorem Fresh.pollReturn (hf : Fresh h) (s : UdfpsSensor) :
    FreshSeen (h ++ [(s, .pollReturn)]) := by
  obtain ⟨pre, n, post, rfl, hn, hen, hre⟩ := hf
  refine ⟨pre, n, post ++ [(s, .pollReturn)], by simp, hn, ?_, ?_,
    (s, .pollReturn), by simp, rfl⟩
  · exact List.forall_mem_append.mpr ⟨hen, List.forall_mem_singleton.mpr rfl⟩
  · exact List.forall_mem_append.mpr ⟨hre, List.forall_mem_singleton.mpr rfl⟩

theorem FreshSeen.snoc {x : UdfpsSensor × Action} (hf : FreshSeen h)
    (he : enables x = false) (hr : reads x = false) : FreshSeen (h ++ [x]) := by
  obtain ⟨pre, n, post, rfl, hn, hen, hre, w, hw, hpoll⟩ := hf
  refine ⟨pre, n, post ++ [x], by simp, hn, ?_, ?_, w, by simp [hw], hpoll⟩
  · exact List.forall_mem_append.mpr ⟨hen, List.forall_mem_singleton.mpr he⟩
  · exact List.forall_mem_append.mpr ⟨hre, List.forall_mem_singleton.mpr hr⟩

/-- Why an event can only come from a fresh notification: whatever would
be reported is fresh, and the iteration that is about to report has been
woken by a fresh one. -/
structure Armed (h : List (UdfpsSensor × Action)) (s : UdfpsSensor) : Prop where
  fresh : s.willReport = true → Fresh h
  seen : ∀ pipe, s.pc = .polled (.ready pipe true) → s.reportEvent = true → FreshSeen h
  pending : ∀ pipe, s.pc = .polled (.ready pipe true) → s.fpPending = true
  asleep : s.pc = .starting ∨ s.pc = .waiting → s.reportEvent = false

/-- A step of a client, which touches nothing the run thread decides by. -/
theorem Armed.client {x : UdfpsSensor × Action} (hi : Armed h s) (hpc : t.pc = s.pc)
    (hreport : t.reportEvent = s.reportEvent) (hpend : t.fpPending = s.fpPending)
    (hstop : t.mStopThread = s.mStopThread)
    (hok : enables x = true → s.willReport = false) (hr : reads x = false) :
    Armed (h ++ [x]) t where
  fresh := by
    intro ht
    have hs : s.willReport = true := by
      rw [← ht]
      unfold willReport
      rw [hpc, hreport, hpend, hstop]
    refine (hi.fresh hs).snoc (Bool.eq_false_of_not_eq_true fun he => ?_) hr
    rw [hok he] at hs
    cases hs
  seen := by
    intro pipe hp hrep
    rw [hpc] at hp
    rw [hreport] at hrep
    refine (hi.seen pipe hp hrep).snoc (Bool.eq_false_of_not_eq_true fun he => ?_) hr
    have hs : s.willReport = true := by simp [willReport, hp, hrep, hi.pending pipe hp]
    rw [hok he] at hs
    cases hs
  pending := by
    intro pipe hp
    rw [hpend]
    exact hi.pending pipe (hpc ▸ hp)
  asleep := by
    rw [hpc, hreport]
    exact hi.asleep

/-- A step that leaves the run thread outside `poll`. -/
theorem Armed.outside {x : UdfpsSensor × Action} (hpoll : t.inPoll = false)
    (hfresh : t.willReport = true → Fresh (h ++ [x]))
    (hasleep : t.pc = .starting ∨ t.pc = .waiting → t.reportEvent = false) :
    Armed (h ++ [x]) t where
  fresh := hfresh
  seen := by
    intro pipe hp
    simp [inPoll, hp] at hpoll
  pending := by
    intro pipe hp
    simp [inPoll, hp] at hpoll
  asleep := hasleep

theorem Armed.step (hi : Armed h s)
    (hok : enables (s, a) = true → s.willReport = false) (hs : step s a = some t) :
    Armed (h ++ [(s, a)]) t := by
  cases step_cases hs with
  | activateSame hfree hb => exact hi.client rfl rfl rfl rfl hok rfl
  | activateChange hfree hb => exact hi.client rfl rfl rfl rfl hok rfl
  | modeSame hfree hm => exact hi.client rfl rfl rfl rfl hok rfl
  | modeChange hfree hm => exact hi.client rfl rfl rfl rfl hok rfl
  | interrupt hc => exact hi.client rfl rfl rfl rfl hok rfl
  | notify =>
      exact {
        fresh := fun _ => fresh_notify h s
        seen := fun pipe hp hrep => (hi.seen pipe hp hrep).snoc rfl rfl
        pending := fun _ _ => rfl
        asleep := hi.asleep }
  | begin hp =>
      refine .outside rfl (fun ht => ?_) (by simp)
      have hrep := hi.asleep (.inl hp)
      simp [willReport, hrep] at ht
  | finish hp hstop => exact .outside rfl (by simp [willReport]) (by simp)
  | sleep hp hstop hon => exact .outside rfl (by simp [willReport]) (by simp)
  | poll hp hstop hon =>
      -- what would be reported from inside `poll` would be from the head
      refine ⟨fun ht => ?_, by simp, by simp, by simp⟩
      have hs : s.willReport = true := by simpa [willReport, hp, hstop] using ht
      exact (hi.fresh hs).snoc rfl rfl
  | wakeUp hp hon =>
      refine .outside rfl (fun ht => ?_) (by simp)
      have hrep := hi.asleep (.inr hp)
      simp [willReport, hrep] at ht
  | sleepOn hp hon =>
      exact .outside rfl (by simp [willReport]) fun _ => hi.asleep (.inr hp)
  | pollReturn hp hready =>
      -- before `poll` returned, what was pending was what is reported now
      have hfresh : s.fpPending = true → s.reportEvent = true → Fresh h := by
        intro hpend hrep
        exact hi.fresh (by simp [willReport, hp, hpend, hrep])
      refine ⟨fun ht => ?_, fun pipe hp' hrep => ?_, fun pipe hp' => ?_, by simp⟩
      · simp only [willReport, Bool.and_eq_true, Bool.or_eq_true, Bool.not_eq_true'] at ht
        obtain ⟨hpend, hrep | hnot⟩ := ht
        · exact (hfresh hpend hrep).snoc rfl rfl
        · rw [hpend] at hnot
          cases hnot
      · simp only [Pc.polled.injEq, Polled.ready.injEq] at hp'
        exact (hfresh hp'.2 hrep).pollReturn s
      · simp only [Pc.polled.injEq, Polled.ready.injEq] at hp'
        exact hp'.2
  | pollFail hp => exact ⟨by simp [willReport], by simp, by simp, by simp⟩
  | failed hp => exact .outside rfl (by simp [willReport]) (by simp)
  | post hp hread hreport => exact .outside rfl (by simp [willReport]) (by simp)
  | discard hp hquiet => exact .outside rfl (by simp [willReport]) (by simp)
  | drain hp =>
      -- `poll` returned for the pipe alone: what came since waits for the next one
      refine .outside rfl (fun ht => ?_) (by simp)
      have hpend : s.fpPending = true := by
        simp only [willReport, Bool.and_eq_true] at ht
        exact ht.1
      have hs : s.willReport = true := by simp [willReport, hp, hpend]
      exact (hi.fresh hs).snoc rfl (by simp [reads, hp])

/-- **No stale press.** In every run in which no activation takes place
while a pending notification would be reported by the iteration the run
thread is in or by the next one, every event is triggered by a
notification raised after the last activation: one that no earlier read
took, and that was raised before `poll` returned. -/
theorem posts_fresh (sensorHandle mScreenX mScreenY : Int32)
    (h : List (UdfpsSensor × Action)) (t : UdfpsSensor)
    (hp : Run sensorHandle mScreenX mScreenY h t)
    (hok : ∀ x ∈ h, enables x = true → x.1.willReport = false) :
    ∀ pre x post, h = pre ++ x :: post → posts x = true →
      ∃ old n new, pre = old ++ n :: new ∧ n.2 = .notifyFpState ∧
        (∀ y ∈ new, enables y = false) ∧ (∀ y ∈ new, reads y = false) ∧
        ∃ y ∈ new, y.2 = .pollReturn := by
  intro pre x post heq hx
  subst heq
  obtain ⟨hpre, -⟩ := hp.at_step
  have hinv : Armed pre x.1 := by
    refine hpre.history_inv Armed (fun s a => enables (s, a) = true → s.willReport = false)
      (fun h s a u hi hok hs => hi.step hok hs) ?_ (fun y hy => hok y (by simp [hy]))
    exact ⟨by simp [construct, willReport], by simp [construct], by simp [construct],
      fun _ => rfl⟩
  obtain ⟨io, now, pipe, -, hpc, -, hreport, -⟩ := posts_cases hx
  exact hinv.seen pipe hpc hreport

theorem posts_fresh_one_press :
    ∃ r ∈ follow step (construct 1 0 0) onePress, r.1.countP posts = 1 ∧
      ∀ pre x post, r.1 = pre ++ x :: post → posts x = true →
        ∃ n ∈ pre, n.2 = .notifyFpState := by
  have hrun : ∃ r ∈ follow step (construct 1 0 0) onePress, r.1.countP posts = 1 ∧
      ∀ x ∈ r.1, enables x = true → x.1.willReport = false := by
    decide +kernel
  obtain ⟨r, hr, hone, hok⟩ := hrun
  refine ⟨r, hr, hone, fun pre x post heq hx => ?_⟩
  obtain ⟨old, n, new, rfl, hn, -⟩ :=
    posts_fresh 1 0 0 r.1 r.2 (path_of_follow hr) hok pre x post heq hx
  exact ⟨n, by simp, hn⟩

/-- The sensor is disabled, pressed, and enabled again, all inside one
`poll`. -/
def pressWhileDisabled : List Action :=
  [.begin, .loop, .activate true, .wake false, .loop, .pollReturn, .relock pressAt 1,
    .loop, .activate false, .notifyFpState, .activate true, .pollReturn,
    .relock pressAt 2]

/-- **A stale press.** The only notification of the run is raised while
the sensor is disabled, and the event of the last step reports it. -/
theorem stale_press_reported :
    ∃ r ∈ follow step (construct 1 0 0) pressWhileDisabled,
      r.1.countP posts = 1 ∧
      ∀ x ∈ r.1, x.2 matches .notifyFpState → x.1.mIsEnabled = false := by
  decide +kernel

end UdfpsSensor

end OplusHardware.Udfps
