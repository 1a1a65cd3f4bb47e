import OplusHardware.Base.Spacing
import OplusHardware.FolioDaemon.Daemon

/-!
# Folio daemon — the lid follows the sensor

Two results about whole runs. Up to the polling loop the daemon makes a
bounded number of calls and warns at a low rate, however the sensor service
answers; and what it has written to the device is, event for event, what
the sensor has reported.
-/

namespace OplusHardware.FolioDaemon

open OplusHardware.Base

/-! ## Where the calls are -/

namespace Pc

/-- The sensor has not turned up. -/
def searching : Pc → Bool
  | .registerSensor => false
  | .poll => false
  | .getEvents => false
  | .writeSw _ => false
  | .writeSyn _ => false
  | .out => false
  | .returned => false
  | _ => true

/-- The calls that are left, up to the next attempt to get the sensor. -/
def toAttempt : Pc → Nat
  | .openUinput => 12
  | .setEvbitSw => 11
  | .setEvbitSyn => 10
  | .setSwbit => 9
  | .writeDevice => 8
  | .devCreate => 7
  | .getManager => 6
  | .createEventQueue => 5
  | .sleep => 4
  | .time => 3
  | .getSensor _ => 2
  | .registerSensor => 1
  | _ => 0

/-- What has been taken from the queue and not sent. -/
def Unsent (rest : List Bool) : Pc → Prop
  | .writeSw isClosed => rest = [isClosed]
  | .writeSyn isClosed => rest = [isClosed]
  | .out => rest.length ≤ 1
  | .returned => rest.length ≤ 1
  | _ => rest = []

theorem Unsent.eq_nil {rest : List Bool} {pc : Pc} (hsearch : pc.searching = true)
    (hr : Unsent rest pc) : rest = [] := by
  cases pc with
  | registerSensor => cases hsearch
  | poll => cases hsearch
  | getEvents => cases hsearch
  | writeSw c => cases hsearch
  | writeSyn c => cases hsearch
  | out => cases hsearch
  | returned => cases hsearch
  | _ => exact hr

theorem Unsent.length_le {rest : List Bool} {pc : Pc} (hr : Unsent rest pc) :
    rest.length ≤ 1 := by
  cases pc with
  | writeSw c => exact (congrArg List.length hr).le
  | writeSyn c => exact (congrArg List.length hr).le
  | out => exact hr
  | returned => exact hr
  | _ => exact (congrArg List.length hr).trans_le (Nat.zero_le 1)

theorem Unsent.nil_out : Unsent [] .out := Nat.zero_le 1

theorem Unsent.nil_searching {pc : Pc} (hsearch : pc.searching = true) : Unsent [] pc := by
  cases pc with
  | writeSw c => cases hsearch
  | writeSyn c => cases hsearch
  | out => cases hsearch
  | returned => cases hsearch
  | _ => rfl

end Pc

namespace Daemon

variable {d e : Daemon} {a : Action} {h : List (Daemon × Action)}

/-- Setting up gets nearer to the first attempt, or to the end. -/
theorem setUpEdges_lt : ∀ x ∈ setUpEdges, x.1.searching = true ∧
    x.2.toAttempt < x.1.toAttempt ∧ (x.2 = .out ∨ x.2.searching = true) := by
  decide

/-! ## Starting up -/

/-- The calls that are left before the polling loop, or the end. -/
def callsLeft (d : Daemon) : Nat :=
  (if d.pc.searching then 3 * (retryLimit - d.attemptCount) else 0) + d.pc.toAttempt

/-- A call of `main` before the polling loop, interruptions not counted. -/
def startsUp (x : Daemon × Action) : Bool :=
  match x.2 with
  | .sys .interrupted => false
  | .deliver _ => false
  | _ => x.1.pc.searching || x.1.pc = .registerSensor

theorem callsLeft_searching (hsearch : d.pc.searching = true) :
    d.callsLeft = 3 * (retryLimit - d.attemptCount) + d.pc.toAttempt := by
  rw [callsLeft, if_pos hsearch]

theorem callsLeft_step (hs : step d a = some e) :
    (startsUp (d, a)).toNat + e.callsLeft ≤ d.callsLeft := by
  cases step_cases hs with
  | interrupted => exact Nat.le_of_eq (Nat.zero_add _)
  | @setUp ok uinputFd err pc hpc =>
      obtain ⟨hsearch, hlt, hnext⟩ := setUpEdges_lt _ hpc
      have hone := Bool.toNat_le (startsUp (d, .sys (if ok then .ok else .failed)))
      have hlt : pc.toAttempt < d.pc.toAttempt := hlt
      rw [callsLeft_searching hsearch]
      rcases hnext with hout | hnext
      · obtain rfl : pc = .out := hout
        show _ + 0 ≤ _
        omega
      · rw [callsLeft_searching hnext]
        show _ + (3 * (retryLimit - d.attemptCount) + pc.toAttempt) ≤ _
        omega
  | writeFailed hp =>
      rcases hp with hp | hp
      · simp [startsUp, callsLeft, Pc.searching, Pc.toAttempt, hp]
      · simp [startsUp, callsLeft, Pc.searching, Pc.toAttempt, hp]
  | writeSw hp => simp [startsUp, callsLeft, Pc.searching, Pc.toAttempt, hp]
  | writeSyn hp => simp [startsUp, callsLeft, Pc.searching, Pc.toAttempt, hp]
  | getManager hp => simp [startsUp, callsLeft, Pc.searching, Pc.toAttempt, hp]; omega
  | createEventQueue hp => simp [startsUp, callsLeft, Pc.searching, Pc.toAttempt, hp]; omega
  | time hp => simp [startsUp, callsLeft, Pc.searching, Pc.toAttempt, hp]; omega
  | found hp => simp [startsUp, callsLeft, Pc.searching, Pc.toAttempt, hp]
  | exhausted hp hlimit => simp [startsUp, callsLeft, Pc.searching, Pc.toAttempt, hp]
  | warn hp hlimit hdue =>
      simp only [startsUp, callsLeft, Pc.searching, Pc.toAttempt, hp, retryLimit] at *
      simp
      omega
  | retry hp hlimit hearly =>
      simp only [startsUp, callsLeft, Pc.searching, Pc.toAttempt, hp, retryLimit] at *
      simp
      omega
  | sleep hp => simp [startsUp, callsLeft, Pc.searching, Pc.toAttempt, hp]; omega
  | registered hp => simp [startsUp, callsLeft, Pc.searching, Pc.toAttempt, hp]
  | unregistered hp => simp [startsUp, callsLeft, Pc.searching, Pc.toAttempt, hp]
  | polled hp hok => simp [startsUp, callsLeft, Pc.searching, Pc.toAttempt, hp]
  | pollEnded hp => simp [startsUp, callsLeft, Pc.searching, Pc.toAttempt, hp]
  | noEvent hp hq => simp [startsUp, callsLeft, Pc.searching, Pc.toAttempt, hp]
  | event hp hq => simp [startsUp, callsLeft, Pc.searching, Pc.toAttempt, hp]
  | cleanUp hp => simp [startsUp, callsLeft, Pc.searching, Pc.toAttempt, hp]
  | deliver hq => exact Nat.le_of_eq (Nat.zero_add _)

/-- The step asks for the sensor. -/
def asks (x : Daemon × Action) : Bool :=
  match x.2 with
  | .getSensor _ => true
  | _ => false

/-- While the sensor has not turned up, `attemptCount` counts. -/
structure Attempts (h : List (Daemon × Action)) (d : Daemon) : Prop where
  count : d.pc.searching = true → h.countP asks = d.attemptCount ∧ d.attemptCount < retryLimit
  le : h.countP asks ≤ retryLimit

/-- A step that does not ask. -/
theorem Attempts.snoc (hi : Attempts h d) (hasks : asks (d, a) = false)
    (hcount : e.attemptCount = d.attemptCount)
    (hsearch : e.pc.searching = true → d.pc.searching = true) :
    Attempts (h ++ [(d, a)]) e := by
  have hsame : (h ++ [(d, a)]).countP asks = h.countP asks := by
    rw [countP_snoc, hasks, Bool.toNat_false, Nat.add_zero]
  constructor
  · intro hs
    rw [hsame, hcount]
    exact hi.count (hsearch hs)
  · rw [hsame]
    exact hi.le

theorem countP_asks (h : List (Daemon × Action)) (d : Daemon) (found : Bool) :
    (h ++ [(d, Action.getSensor found)]).countP asks = h.countP asks + 1 :=
  countP_snoc asks h (d, .getSensor found)

theorem Attempts.step (hi : Attempts h d) (hs : Daemon.step d a = some e) :
    Attempts (h ++ [(d, a)]) e := by
  cases step_cases hs with
  | interrupted => exact hi.snoc rfl rfl id
  | setUp ok uinputFd err hpc => exact hi.snoc rfl rfl fun _ => (setUpEdges_lt _ hpc).1
  | writeFailed hp => exact hi.snoc rfl rfl fun hs => by cases hs
  | writeSw hp => exact hi.snoc rfl rfl fun hs => by cases hs
  | writeSyn hp => exact hi.snoc rfl rfl fun hs => by cases hs
  | getManager hp => exact hi.snoc rfl rfl fun _ => by rw [hp]; rfl
  | createEventQueue hp => exact hi.snoc rfl rfl fun _ => by rw [hp]; rfl
  | time hp => exact hi.snoc rfl rfl fun _ => by rw [hp]; rfl
  | found hp =>
      obtain ⟨hcount, hlt⟩ := hi.count (by rw [hp]; rfl)
      constructor
      · intro hs
        cases hs
      · rw [countP_asks]
        omega
  | exhausted hp hlimit =>
      obtain ⟨hcount, hlt⟩ := hi.count (by rw [hp]; rfl)
      constructor
      · intro hs
        cases hs
      · rw [countP_asks]
        omega
  | warn hp hlimit hdue =>
      obtain ⟨hcount, hlt⟩ := hi.count (by rw [hp]; rfl)
      rw [← hcount] at hlimit
      refine ⟨fun _ => ⟨?_, by rwa [hcount] at hlimit⟩, ?_⟩
      · rw [countP_asks, hcount]
      · rw [countP_asks]
        omega
  | retry hp hlimit hearly =>
      obtain ⟨hcount, hlt⟩ := hi.count (by rw [hp]; rfl)
      rw [← hcount] at hlimit
      refine ⟨fun _ => ⟨?_, by rwa [hcount] at hlimit⟩, ?_⟩
      · rw [countP_asks, hcount]
      · rw [countP_asks]
        omega
  | sleep hp => exact hi.snoc rfl rfl fun _ => by rw [hp]; rfl
  | registered hp => exact hi.snoc rfl rfl fun hs => by cases hs
  | unregistered hp => exact hi.snoc rfl rfl fun hs => by cases hs
  | polled hp hok => exact hi.snoc rfl rfl fun hs => by cases hs
  | pollEnded hp => exact hi.snoc rfl rfl fun hs => by cases hs
  | noEvent hp hq => exact hi.snoc rfl rfl fun hs => by cases hs
  | event hp hq => exact hi.snoc rfl rfl fun hs => by cases hs
  | cleanUp hp => exact hi.snoc rfl rfl fun hs => by cases hs
  | deliver hq => exact hi.snoc rfl rfl id

/-- The clock's time of a warning: a step that moves `lastWarn` writes one
to the log. -/
def warnTime (x : Daemon × Action) : Option Int :=
  (Daemon.step x.1 x.2).bind fun d =>
    if d.lastWarn = x.1.lastWarn then none else some d.lastWarn

theorem warnTime_of_step (hs : Daemon.step d a = some e) :
    warnTime (d, a) = if e.lastWarn = d.lastWarn then none else some e.lastWarn := by
  rw [warnTime, hs]
  rfl

/-- A step that leaves `lastWarn` does not warn. -/
theorem warnTime_eq_none (hs : Daemon.step d a = some e) (hsame : e.lastWarn = d.lastWarn) :
    warnTime (d, a) = none := by
  rw [warnTime_of_step hs, if_pos hsame]

theorem warnTime_step (hs : Daemon.step d a = some e) :
    d.lastWarn ≤ e.lastWarn ∧ ∀ x, warnTime (d, a) = some x →
      d.lastWarn + (warnPeriod + 1) ≤ x ∧ x ≤ e.lastWarn := by
  have hperiod : warnPeriod = 300 := rfl
  have hsame : e.lastWarn = d.lastWarn → d.lastWarn ≤ e.lastWarn ∧
      ∀ x, warnTime (d, a) = some x → d.lastWarn + (warnPeriod + 1) ≤ x ∧ x ≤ e.lastWarn := by
    intro hsame
    refine ⟨hsame.ge, fun x hx => ?_⟩
    rw [warnTime_eq_none hs hsame] at hx
    cases hx
  cases step_cases hs with
  | @warn now hp hlimit hdue =>
      constructor
      · show d.lastWarn ≤ now
        omega
      · intro x hx
        have hnow : (if now = d.lastWarn then none else some now) = some x := by
          rwa [warnTime_of_step hs] at hx
        rw [if_neg (by omega), Option.some.injEq] at hnow
        subst hnow
        exact ⟨by omega, Int.le_refl _⟩
  | _ => exact hsame rfl

/-- **Starting up comes to an end.** In every run, whatever the calls
answer: the daemon asks for the sensor at most 120 times, makes at most 372
calls, interruptions not counted, before it polls or leaves, and two
warnings are more than five minutes apart on its clock. -/
theorem startup_bounded (h : List (Daemon × Action)) (d : Daemon)
    (hp : Path step start h d) :
    h.countP asks ≤ retryLimit ∧ h.countP startsUp ≤ 372 ∧
      Spaced (warnPeriod + 1) (h.filterMap warnTime) := by
  refine ⟨?_, ?_, ?_⟩
  · have hattempts : Attempts h d := by
      apply hp.history_inv Attempts (fun _ _ => True)
      · exact fun h t a u hi _ hs => hi.step hs
      · exact ⟨fun _ => ⟨rfl, by decide⟩, by decide⟩
      · exact fun _ _ => trivial
    exact hattempts.le
  · have hcount : h.countP startsUp + d.callsLeft ≤ start.callsLeft :=
      hp.countP_add_le fun _ _ _ hs => callsLeft_step hs
    have hstart : start.callsLeft = 372 := rfl
    omega
  · exact hp.spaced (fun _ => True) (fun _ _ => True) (fun _ _ _ _ _ _ => trivial)
      (fun _ _ _ _ _ hs => warnTime_step hs) trivial fun _ _ => trivial

/-! ## The lid -/

/-- The event the sensor service adds to the queue in a step. -/
def delivered (x : Daemon × Action) : Option UInt32 :=
  match x.2 with
  | .deliver data0 => some data0
  | _ => none

/-- The event a step takes from the queue. -/
def taken (x : Daemon × Action) : Option UInt32 :=
  match x.2 with
  | .getEvents false => x.1.queue.head?
  | _ => none

/-- The switch value that has been written to the device when a step writes
the `EV_SYN` after it. -/
def sent (x : Daemon × Action) : Option Bool :=
  match x.2, x.1.pc with
  | .sys .ok, .writeSyn _ => some x.1.switch
  | _, _ => none

/-- What the device has of what the sensor has reported. -/
structure Follows (h : List (Daemon × Action)) (d : Daemon) : Prop where
  queue : h.filterMap delivered = h.filterMap taken ++ d.queue
  sent : ∃ rest, (h.filterMap taken).map isClosed = h.filterMap sent ++ rest ∧
    Pc.Unsent rest d.pc
  switch : ∀ c, d.pc = .writeSyn c → d.switch = c
  lid : d.lid = (h.filterMap Daemon.sent).getLastD false

/-- One more step, by what it moves: what it takes comes after what is on
its way, and what it sends comes from the front. -/
theorem Follows.snoc (hi : Follows h d)
    (hqueue : d.queue ++ (delivered (d, a)).toList = (taken (d, a)).toList ++ e.queue)
    (hsent : ∀ rest, Pc.Unsent rest d.pc → ∃ rest',
      rest ++ (taken (d, a)).toList.map isClosed = (Daemon.sent (d, a)).toList ++ rest' ∧
        Pc.Unsent rest' e.pc)
    (hswitch : ∀ c, e.pc = .writeSyn c → e.switch = c)
    (hlid : e.lid = (Daemon.sent (d, a)).getD d.lid) : Follows (h ++ [(d, a)]) e := by
  obtain ⟨rest, hrest, hunsent⟩ := hi.sent
  obtain ⟨rest', hnext, hunsent'⟩ := hsent rest hunsent
  constructor
  · rw [filterMap_snoc, filterMap_snoc, hi.queue, List.append_assoc, hqueue, List.append_assoc]
  · refine ⟨rest', ?_, hunsent'⟩
    rw [filterMap_snoc, filterMap_snoc, List.map_append, hrest, List.append_assoc, hnext,
      List.append_assoc]
  · exact hswitch
  · rw [getLastD_filterMap_snoc, ← hi.lid, hlid]

/-- A step that has nothing to do with events. -/
theorem Follows.quiet (hi : Follows h d) (hd : delivered (d, a) = none)
    (ht : taken (d, a) = none) (hsent : Daemon.sent (d, a) = none) (hq : e.queue = d.queue)
    (hlid : e.lid = d.lid) (hpc : ∀ rest, Pc.Unsent rest d.pc → Pc.Unsent rest e.pc)
    (hswitch : ∀ c, e.pc = .writeSyn c → e.switch = c) : Follows (h ++ [(d, a)]) e := by
  apply hi.snoc
  · rw [hd, ht, hq]
    simp
  · intro rest hr
    refine ⟨rest, ?_, hpc rest hr⟩
    rw [ht, hsent]
    simp
  · exact hswitch
  · rw [hsent, hlid]
    rfl

/-- Nothing is sent before the sensor is found. -/
theorem sent_of_searching (hsearch : d.pc.searching = true) : Daemon.sent (d, a) = none := by
  unfold Daemon.sent
  split
  · rename_i isClosed _ hp
    have hp : d.pc = .writeSyn isClosed := hp
    rw [hp] at hsearch
    cases hsearch
  · rfl

theorem Follows.step (hi : Follows h d) (hs : Daemon.step d a = some e) :
    Follows (h ++ [(d, a)]) e := by
  cases step_cases hs with
  | @writeSw isClosed hp =>
      have hsent : Daemon.sent (d, .sys .ok) = none := by simp [Daemon.sent, hp]
      refine hi.quiet rfl rfl hsent rfl rfl (fun rest hr => ?_) ?_
      · rwa [hp] at hr
      · intro c hc
        cases hc
        rfl
  | @writeSyn isClosed hp =>
      have hsent : Daemon.sent (d, .sys .ok) = some isClosed := by
        simp [Daemon.sent, hp, hi.switch isClosed hp]
      apply hi.snoc
      · exact List.append_nil _
      · intro rest hr
        rw [hp] at hr
        obtain rfl : rest = [isClosed] := hr
        exact ⟨[], by rw [hsent]; rfl, rfl⟩
      · intro c hc
        cases hc
      · rw [hsent]
        exact hi.switch isClosed hp
  | @event data0 queue hp hq =>
      have htaken : taken (d, .getEvents false) = some data0 := by simp [taken, hq]
      apply hi.snoc
      · rw [htaken, hq]
        exact List.append_nil _
      · intro rest hr
        rw [hp] at hr
        obtain rfl : rest = [] := hr
        exact ⟨[isClosed data0], by rw [htaken]; rfl, rfl⟩
      · intro c hc
        cases hc
      · rfl
  | deliver hq =>
      apply hi.snoc
      · rfl
      · exact fun rest hr => ⟨rest, List.append_nil _, hr⟩
      · exact hi.switch
      · rfl
  | interrupted => exact hi.quiet rfl rfl rfl rfl rfl (fun _ hr => hr) hi.switch
  | @setUp ok uinputFd err pc hpc =>
      obtain ⟨hsearch, -, hnext⟩ := setUpEdges_lt _ hpc
      refine hi.quiet rfl rfl (sent_of_searching hsearch) rfl rfl ?_ ?_
      · intro rest hr
        cases Pc.Unsent.eq_nil hsearch hr
        rcases hnext with hout | hnext
        · obtain rfl : pc = .out := hout
          exact .nil_out
        · exact .nil_searching hnext
      · intro c hc
        obtain rfl : pc = .writeSyn c := hc
        rcases hnext with hout | hnext
        · cases hout
        · cases hnext
  | writeFailed hp =>
      refine hi.quiet rfl rfl rfl rfl rfl (fun rest hr => ?_) fun c hc => by cases hc
      rcases hp with hp | hp
      · rw [hp] at hr
        obtain rfl : rest = [_] := hr
        exact Nat.le_refl 1
      · rw [hp] at hr
        obtain rfl : rest = [_] := hr
        exact Nat.le_refl 1
  | getManager hp =>
      exact hi.quiet rfl rfl rfl rfl rfl (by rw [hp]; exact fun _ hr => hr) (by simp)
  | createEventQueue hp =>
      exact hi.quiet rfl rfl rfl rfl rfl (by rw [hp]; exact fun _ hr => hr) (by simp)
  | time hp => exact hi.quiet rfl rfl rfl rfl rfl (by rw [hp]; exact fun _ hr => hr) (by simp)
  | found hp => exact hi.quiet rfl rfl rfl rfl rfl (by rw [hp]; exact fun _ hr => hr) (by simp)
  | exhausted hp hlimit =>
      exact hi.quiet rfl rfl rfl rfl rfl (by rw [hp]; rintro _ rfl; exact .nil_out) (by simp)
  | warn hp hlimit hdue =>
      exact hi.quiet rfl rfl rfl rfl rfl (by rw [hp]; exact fun _ hr => hr) (by simp)
  | retry hp hlimit hearly =>
      exact hi.quiet rfl rfl rfl rfl rfl (by rw [hp]; exact fun _ hr => hr) (by simp)
  | sleep hp => exact hi.quiet rfl rfl rfl rfl rfl (by rw [hp]; exact fun _ hr => hr) (by simp)
  | registered hp =>
      exact hi.quiet rfl rfl rfl rfl rfl (by rw [hp]; exact fun _ hr => hr) (by simp)
  | unregistered hp =>
      exact hi.quiet rfl rfl rfl rfl rfl (by rw [hp]; rintro _ rfl; exact .nil_out) (by simp)
  | polled hp hok =>
      exact hi.quiet rfl rfl rfl rfl rfl (by rw [hp]; exact fun _ hr => hr) (by simp)
  | pollEnded hp =>
      exact hi.quiet rfl rfl rfl rfl rfl (by rw [hp]; rintro _ rfl; exact .nil_out) (by simp)
  | @noEvent failed hp hq =>
      have htaken : taken (d, .getEvents failed) = none := by
        rcases hq with hq | rfl
        · cases failed with
          | false => simp [taken, hq]
          | true => rfl
        · rfl
      exact hi.quiet rfl htaken rfl rfl rfl (by rw [hp]; exact fun _ hr => hr) (by simp)
  | cleanUp hp => exact hi.quiet rfl rfl rfl rfl rfl (by rw [hp]; exact fun _ hr => hr) (by simp)

/-- **The lid follows the sensor.** In every run: events leave the queue in
the order the sensor reported them; their states are written to the device
in that order, each followed by an `EV_SYN`, without one left out, repeated
or made up, up to one that is being written; and whenever the daemon waits
with an empty queue, the value at the last `EV_SYN` is what the last report
says, open before the first. -/
theorem lid_follows_sensor (h : List (Daemon × Action)) (d : Daemon)
    (hp : Path step start h d) :
    h.filterMap delivered = h.filterMap taken ++ d.queue ∧
    (∃ rest, (h.filterMap taken).map isClosed = h.filterMap sent ++ rest ∧ rest.length ≤ 1) ∧
    (d.pc = .poll → d.queue = [] →
      d.lid = ((h.filterMap delivered).map isClosed).getLastD false) := by
  have hall : Follows h d := by
    apply hp.history_inv Follows (fun _ _ => True)
    · exact fun h t a u hi _ hs => hi.step hs
    · constructor
      · rfl
      · exact ⟨[], rfl, rfl⟩
      · intro c hc
        cases hc
      · rfl
    · exact fun _ _ => trivial
  obtain ⟨rest, hrest, hunsent⟩ := hall.sent
  refine ⟨hall.queue, ⟨rest, hrest, hunsent.length_le⟩, ?_⟩
  intro hpoll hempty
  rw [hpoll] at hunsent
  obtain rfl : rest = [] := hunsent
  have hqueue := hall.queue
  rw [hempty, List.append_nil] at hqueue
  rw [hqueue, hrest, List.append_nil]
  exact hall.lid

/-- The device is set up; the sensor turns up at the third attempt and
reports a closed and an open folio. The second write of the first event is
interrupted once. -/
def closedThenOpen : List Action :=
  List.replicate 6 (.sys .ok) ++
    [.getManager true, .createEventQueue true, .time 1000, .getSensor false, .sleep, .time 1030,
      .getSensor false, .sleep, .time 1060, .getSensor true, .registerSensor true,
      .deliver 0, .deliver 0x3f800000, .poll 1, .getEvents false, .sys .ok,
      .sys .interrupted, .sys .ok, .getEvents false, .sys .ok, .sys .ok, .getEvents false]

theorem startup_bounded_third_attempt :
    ∃ r ∈ follow step start closedThenOpen, r.1.countP asks = 3 ∧
      r.1.filterMap warnTime = [1000] ∧ Spaced (warnPeriod + 1) (r.1.filterMap warnTime) := by
  have hrun : ∃ r ∈ follow step start closedThenOpen, r.1.countP asks = 3 ∧
      r.1.filterMap warnTime = [1000] := by
    decide +kernel
  obtain ⟨r, hr, hasks, hwarn⟩ := hrun
  exact ⟨r, hr, hasks, hwarn, (startup_bounded r.1 r.2 (path_of_follow hr)).2.2⟩

theorem lid_follows_sensor_closed_then_open :
    ∃ r ∈ follow step start closedThenOpen, r.1.filterMap sent = [true, false] ∧
      r.2.lid = ((r.1.filterMap delivered).map isClosed).getLastD false := by
  have hrun : ∃ r ∈ follow step start closedThenOpen, r.1.filterMap sent = [true, false] ∧
      r.2.pc = .poll ∧ r.2.queue = [] := by
    decide +kernel
  obtain ⟨r, hr, hsent, hpoll, hempty⟩ := hrun
  exact ⟨r, hr, hsent, (lid_follows_sensor r.1 r.2 (path_of_follow hr)).2.2 hpoll hempty⟩

end Daemon

end OplusHardware.FolioDaemon
