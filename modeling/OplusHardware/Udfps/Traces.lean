import OplusHardware.Base.Calls
import OplusHardware.Udfps.Wakeups

/-!
# Udfps — what a client sees, statement by statement

`Sections.lean` matches the states of the two machines. Here it is what
they show: the activations, each where it takes effect, and the events
between them.
-/

namespace OplusHardware.Udfps

open OplusHardware.Base

/-- An `activate(true)` that changes `mIsEnabled` takes effect, or an event
is posted. -/
inductive Shown where
  | enabled
  | posted (e : Event)
  deriving DecidableEq, Repr

/-! ## The one-shot language -/

/-- Whether an event may come next, after what has been shown; `none` when
one came that might not. -/
def armedAfter : Option Bool → Shown → Option Bool
  | none, _ => none
  | some _, .enabled => some true
  | some armed, .posted _ => if armed then some false else none

/-- **The one-shot language**: each event uses up an activation. -/
def OneShot (trace : List Shown) : Prop := trace.foldl armedAfter (some false) ≠ none

namespace UdfpsSensor

variable {s t : UdfpsSensor} {a : Action} {h : List (UdfpsSensor × Action)}
  {sensorHandle mScreenX mScreenY : Int32}

def shown (x : UdfpsSensor × Action) : List Shown :=
  if enables x then [.enabled] else (x.1.posted x.2).map .posted

theorem posted_eq_nil (h : posts (s, a) = false) : s.posted a = [] := by
  rw [posts, Bool.not_eq_false', List.isEmpty_iff] at h
  exact h

/-- An armed trace, or a sensor that cannot post. -/
def ArmedOrQuiet (trace : List Shown) (s : UdfpsSensor) : Prop :=
  ∃ armed, trace.foldl armedAfter (some false) = some armed ∧
    (armed = true ∨ s.quiet = true)

theorem ArmedOrQuiet.step {trace : List Shown} (hi : ArmedOrQuiet trace s)
    (hs : step s a = some t) : ArmedOrQuiet (trace ++ shown (s, a)) t := by
  obtain ⟨armed, hfold, harmed⟩ := hi
  unfold ArmedOrQuiet
  rw [List.foldl_append, hfold]
  cases hen : enables (s, a) with
  | true => exact ⟨true, by simp [shown, hen, armedAfter], .inl rfl⟩
  | false =>
      cases hpost : posts (s, a) with
      | false =>
          refine ⟨armed, by simp [shown, hen, posted_eq_nil hpost], ?_⟩
          rcases harmed with harmed | hq
          · exact .inl harmed
          · exact .inr (quiet_step hq hen hs)
      | true =>
          have hon : armed = true := by
            rcases harmed with harmed | hq
            · exact harmed
            · rw [posts_not_quiet hpost] at hq
              cases hq
          obtain ⟨io, now, pipe, -, -, -, -, hev⟩ := posts_cases hpost
          refine ⟨false, ?_, .inr (quiet_of_posts hpost hs)⟩
          simp [shown, hen, hev, readEvents, armedAfter, hon]

theorem Run.armedOrQuiet (hp : Run sensorHandle mScreenX mScreenY h t) :
    ArmedOrQuiet (h.flatMap shown) t := by
  apply hp.history_inv (fun h t => ArmedOrQuiet (h.flatMap shown) t) (fun _ _ => True)
  · intro h t a u hi _ hs
    rw [List.flatMap_append, List.flatMap_singleton]
    exact hi.step hs
  · exact ⟨false, rfl, .inr rfl⟩
  · exact fun _ _ => trivial

end UdfpsSensor

namespace Threads

open UdfpsSensor (Action construct)

variable {m m' : Threads} {s t : UdfpsSensor} {a : Action} {v : Move}
  {h : List (Threads × Move)} {sensorHandle mScreenX mScreenY : Int32}

/-- `activate` takes effect where it writes its byte. -/
def shown (x : Threads × Move) : List Shown :=
  match x.2 with
  | .statement =>
      if x.1.client = some .activateInterrupt ∧ x.1.sensor.mIsEnabled then [.enabled] else []
  | .other a => (x.1.sensor.posted a).map .posted
  | _ => []

/-- Only the run thread posts, and it needs the mutex for it. -/
theorem posted_unlocked (hu : a.unlocked = true) : s.posted a = [] := by
  cases a with
  | relock io now => cases hu
  | _ => rfl

theorem enables_of_not_call (hcall : a.isCall = false) : UdfpsSensor.enables (s, a) = false := by
  cases a with
  | activate enable => cases hcall
  | _ => rfl

/-- What a statement shows is what its whole call shows. -/
theorem shown_effect {c : ClientPc} (heff : effect s c = some a) :
    UdfpsSensor.shown (whole ⟨s, some c⟩, a) = shown (⟨s, some c⟩, .statement) := by
  cases c with
  | activateInterrupt =>
      cases heff
      cases hon : s.mIsEnabled with
      | false => simp [shown, UdfpsSensor.shown, UdfpsSensor.enables, UdfpsSensor.posted, hon]
      | true => simp [shown, UdfpsSensor.shown, UdfpsSensor.enables, whole, wholeEnabled, hon]
  | modeIf mode =>
      cases heff
      rfl
  | _ => cases heff

theorem shown_of_no_effect {c : ClientPc} (heff : effect s c = none) :
    shown (⟨s, some c⟩, .statement) = [] := by
  cases c with
  | activateInterrupt => cases heff
  | _ => simp [shown]

/-- **Every step** shows what the step of whole calls behind it shows. -/
theorem Matches.step_shown (hi : m.Matches s) (hs : Threads.step m v = some m') :
    (shown (m, v) = [] ∧ m'.Matches s) ∨
      ∃ b t, UdfpsSensor.step s b = some t ∧
        UdfpsSensor.shown (s, b) = shown (m, v) ∧ m'.Matches t := by
  have hexcl := hi.exclusive.step hs
  obtain rfl := hi.whole
  obtain ⟨s, client⟩ := m
  cases step_cases hs with
  | lockActivate hfree =>
      exact .inl ⟨rfl, whole_lock hfree (.activateIf _) rfl rfl rfl, hexcl⟩
  | lockMode hfree => exact .inl ⟨rfl, whole_lock hfree (.modeIf _) rfl rfl rfl, hexcl⟩
  | @statement c hc =>
      obtain rfl : client = some c := hc
      rcases execute_effect (hi.exclusive (by simp)) c with ⟨heff, hsame⟩ | ⟨b, heff, hb⟩
      · exact .inl ⟨shown_of_no_effect heff, hsame, hexcl⟩
      · exact .inr ⟨b, _, hb, shown_effect heff, rfl, hexcl⟩
  | @other a t hcall hfree ht =>
      right
      cases client with
      | none =>
          refine ⟨a, t, ht, ?_, rfl, hexcl⟩
          simp [UdfpsSensor.shown, enables_of_not_call hcall, shown, Threads.whole]
      | some c =>
          have hu : a.unlocked = true := hfree.resolve_left (by simp)
          refine ⟨a, _, unlocked_step hu ht, ?_, rfl, hexcl⟩
          simp [UdfpsSensor.shown, enables_of_not_call hcall, shown, posted_unlocked hu]

/-- **The calls are atomic to a client.** Whatever the statements of the
calls, the run thread and the node are interleaved to, there is a run of
whole calls that shows the same activations and the same events in the
same order; and in that order each event uses up an activation. -/
theorem one_shot_trace (sensorHandle mScreenX mScreenY : Int32)
    (h : List (Threads × Move)) (m : Threads)
    (hp : Run sensorHandle mScreenX mScreenY h m) :
    OneShot (h.flatMap shown) ∧
      ∃ h', UdfpsSensor.Run sensorHandle mScreenX mScreenY h' m.whole ∧
        h'.flatMap UdfpsSensor.shown = h.flatMap shown := by
  have hstart : (start sensorHandle mScreenX mScreenY).Matches
      (construct sensorHandle mScreenX mScreenY) :=
    ⟨rfl, fun hc => absurd rfl hc⟩
  obtain ⟨h', s, hp', hm, hshow⟩ := Path.refines (R := Matches)
    (fun _ _ _ _ hi hs => hi.step_shown hs) hp hstart
  have hword : OneShot (h'.flatMap UdfpsSensor.shown) := by
    obtain ⟨armed, hfold, -⟩ := UdfpsSensor.Run.armedOrQuiet hp'
    rw [OneShot, hfold]
    exact Option.some_ne_none armed
  rw [hshow] at hword
  rw [hm.whole]
  exact ⟨hword, h', hp', hshow⟩

/-- The calls of `modeChanged`, with a press in between. -/
def pressBetween : List Move :=
  activated ++
    [.other (.wake false), .other .loop, .other .pollReturn,
      .other (.relock UdfpsSensor.pressAt 1), .other .loop, .lockActivate true, .statement,
      .other .notifyFpState, .other .pollReturn, .statement,
      .other (.relock UdfpsSensor.pressAt 2)]

theorem one_shot_trace_press :
    ∃ r ∈ follow step (start 1 0 0) pressBetween,
      (r.1.flatMap shown).length = 2 ∧ OneShot (r.1.flatMap shown) := by
  have hrun : ∃ r ∈ follow step (start 1 0 0) pressBetween,
      (r.1.flatMap shown).length = 2 := by
    decide +kernel
  obtain ⟨r, hr, htwo⟩ := hrun
  exact ⟨r, hr, htwo, (one_shot_trace 1 0 0 r.1 r.2 (path_of_follow hr)).1⟩

end Threads

end OplusHardware.Udfps
