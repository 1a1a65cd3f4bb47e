import OplusHardware.Base.Detached
import OplusHardware.QtiVibrator.Service

/-!
# Richtap vibrator — IVibrator over the AAC library

`class Vibrator` of the richtap service. The AAC library plays; the
service checks what it is asked for, passes it on and completes it from a
thread of its own.
-/

namespace OplusHardware.Richtap

open OplusHardware.Base
open OplusHardware.QtiVibrator (Effect CallbackThread)
open OplusHardware.QtiVibrator.InputFFDevice (EffectStrength)

/-- The calls into the AAC library. -/
inductive AacCall where
  | init
  | looperStart
  | off
  | looperOn (timeOut : UInt32)
  | looperPrebakedEffect (effectId : UInt32) (strength : Int32)
  | setAmplitude (amplitude : UInt8)
  deriving DecidableEq, Repr

def richtapLightStrength : Int32 := 69
def richtapMediumStrength : Int32 := 89
def richtapStrongStrength : Int32 := 99

/-- The service object, with the calls it has made into the library. -/
structure Vibrator where
  aac : List AacCall
  deriving DecidableEq, Repr

structure Reply where
  status : AStatus
  out : Option Int32
  thread : Option CallbackThread
  vib : Vibrator
  deriving DecidableEq, Repr

namespace Vibrator

/-- `Vibrator::Vibrator`; `ret` is what `aac_vibra_init` answers. -/
def construct (ret : Int32) : Vibrator := if ret ≠ 0 then ⟨[.init]⟩ else ⟨[.init, .looperStart]⟩

/-- A call into the library. -/
def call (v : Vibrator) (c : AacCall) : Vibrator := ⟨v.aac ++ [c]⟩

def refuse (v : Vibrator) (status : AStatus) : Reply :=
  { status, out := none, thread := none, vib := v }

/-- `Vibrator::off`; here and below `ret` is the library's answer. -/
def off (v : Vibrator) (ret : Int32) : Reply :=
  (v.call .off).refuse (if ret ≠ 0 then .exServiceSpecific else .ok)

/-- The thread that completes a request which plays for `ret` ms. -/
def completion (callback : Bool) (ret : Int32) : Option CallbackThread :=
  if callback then some ⟨(ret * 1000).toUInt32⟩ else none

/-- `Vibrator::on`. -/
def on (v : Vibrator) (timeoutMs : Int32) (callback : Bool) (ret : Int32) : Reply :=
  let v := v.call (.looperOn timeoutMs.toUInt32)
  if ret < 0 then v.refuse .exServiceSpecific
  else { v.refuse .ok with thread := completion callback ret }

/-- The strength of a prebaked effect. -/
def strength (es : EffectStrength) : Option Int32 :=
  if es = .light then some richtapLightStrength
  else if es = .medium then some richtapMediumStrength
  else if es = .strong then some richtapStrongStrength
  else none

/-- `Vibrator::perform`. -/
def perform (v : Vibrator) (effect : Effect) (es : EffectStrength) (callback : Bool)
    (ret : Int32) : Reply :=
  if effect.value < Effect.click.value ∨ effect.value > Effect.heavyClick.value then
    v.refuse .exUnsupportedOperation
  else
    match strength es with
    | none => v.refuse .exUnsupportedOperation
    | some strength =>
        let v := v.call (.looperPrebakedEffect effect.value.toUInt32 strength)
        if ret < 0 then v.refuse .exServiceSpecific
        else { v.refuse .ok with out := some ret, thread := completion callback ret }

/-- `Vibrator::getSupportedEffects`. -/
def getSupportedEffects : List Effect :=
  [.click, .doubleClick, .tick, .thud, .pop, .heavyClick]

/-- `Vibrator::setAmplitude`; `amplitude` is `(uint8_t)(amplitude * 0xff)`. -/
def setAmplitude (v : Vibrator) (amplitude : UInt8) (ret : Int32) : Reply :=
  (v.call (.setAmplitude amplitude)).refuse (if ret ≠ 0 then .exServiceSpecific else .ok)

/-- `Vibrator::setExternalControl`. -/
def setExternalControl (v : Vibrator) : Reply := v.refuse .exUnsupportedOperation

/-! ## Calls -/

inductive Call where
  | on (timeoutMs : Int32) (callback : Bool)
  | off
  | perform (effect : Effect) (es : EffectStrength) (callback : Bool)
  | setAmplitude (amplitude : UInt8)
  | setExternalControl
  deriving DecidableEq, Repr

def serve (v : Vibrator) (c : Call) (ret : Int32) : Reply :=
  match c with
  | .on timeoutMs callback => v.on timeoutMs callback ret
  | .off => v.off ret
  | .perform effect es callback => v.perform effect es callback ret
  | .setAmplitude amplitude => v.setAmplitude amplitude ret
  | .setExternalControl => v.setExternalControl

def hasCallback : Call → Bool
  | .on _ callback => callback
  | .perform _ _ callback => callback
  | _ => false

/-- One call, with the thread it starts. -/
def answer (v : Vibrator) (a : Call × Int32) : Vibrator × Option (Nat × Int32) :=
  let r := v.serve a.1 a.2
  (r.vib, r.thread.map fun thread => (thread.sleepUs.toNat, a.2))

/-- A call with a callback that answers ok is to be completed, after the ms
that the library answered. -/
def owes (v : Vibrator) (a : Call × Int32) : Option Int32 :=
  if hasCallback a.1 = true ∧ (v.serve a.1 a.2).status = .ok then some a.2 else none

variable {v : Vibrator} {c : Call} {ret : Int32} {effect : Effect} {es : EffectStrength}

/-! ## What reaches the library -/

/-- The effects that `perform` lets through are those that are supported. -/
theorem mem_getSupportedEffects :
    effect ∈ getSupportedEffects ↔
      ¬ (effect.value < Effect.click.value ∨ effect.value > Effect.heavyClick.value) := by
  obtain ⟨x⟩ := effect
  have hmem : (⟨x⟩ : Effect) ∈ getSupportedEffects ↔
      x = 0 ∨ x = 1 ∨ x = 2 ∨ x = 3 ∨ x = 4 ∨ x = 5 := by
    simp [getSupportedEffects, Effect.click, Effect.doubleClick, Effect.tick, Effect.thud,
      Effect.pop, Effect.heavyClick]
  have hlow : x < Effect.click.value ↔ x.toInt < 0 := Int32.lt_iff_toInt_lt
  have hhigh : x > Effect.heavyClick.value ↔ 5 < x.toInt := Int32.lt_iff_toInt_lt
  rw [hmem, hlow, hhigh, ← Int32.toInt_inj, ← Int32.toInt_inj, ← Int32.toInt_inj,
    ← Int32.toInt_inj, ← Int32.toInt_inj, ← Int32.toInt_inj]
  show x.toInt = 0 ∨ x.toInt = 1 ∨ x.toInt = 2 ∨ x.toInt = 3 ∨ x.toInt = 4 ∨ x.toInt = 5 ↔ _
  omega

/-- What a call asks of the library. -/
def asked : Call → List AacCall
  | .on timeoutMs _ => [.looperOn timeoutMs.toUInt32]
  | .off => [.off]
  | .perform effect es _ =>
      if effect ∈ getSupportedEffects then
        (strength es).toList.map fun s => .looperPrebakedEffect effect.value.toUInt32 s
      else []
  | .setAmplitude amplitude => [.setAmplitude amplitude]
  | .setExternalControl => []

theorem perform_aac {callback : Bool} :
    (v.perform effect es callback ret).vib.aac = v.aac ++ asked (.perform effect es callback) := by
  rw [asked]
  by_cases heffect : effect ∈ getSupportedEffects
  · rw [if_pos heffect, perform, if_neg (mem_getSupportedEffects.mp heffect)]
    cases strength es with
    | none => exact (List.append_nil _).symm
    | some s =>
        simp only [call]
        split <;> rfl
  · have hrange := not_not.mp (mt mem_getSupportedEffects.mpr heffect)
    rw [if_neg heffect, perform, if_pos hrange]
    exact (List.append_nil _).symm

/-- The library sees what a call asks, whatever it answers. -/
theorem serve_aac : (v.serve c ret).vib.aac = v.aac ++ asked c := by
  cases c with
  | on timeoutMs callback =>
      simp only [serve, on]
      split <;> rfl
  | off => rfl
  | perform effect es callback => exact perform_aac
  | setAmplitude amplitude => rfl
  | setExternalControl => exact (List.append_nil _).symm

/-- A prebaked effect is one that the service supports, at one of its
strengths. -/
def Supported : AacCall → Prop
  | .looperPrebakedEffect effectId strength =>
      (∃ effect ∈ getSupportedEffects, effectId = effect.value.toUInt32) ∧
        strength ∈ [richtapLightStrength, richtapMediumStrength, richtapStrongStrength]
  | _ => True

theorem supported_asked : ∀ x ∈ asked c, Supported x := by
  intro x hx
  cases c with
  | perform effect es callback =>
      rw [asked] at hx
      split at hx
      · rename_i heffect
        obtain ⟨s, hs, rfl⟩ := List.mem_map.mp hx
        refine ⟨⟨effect, heffect, rfl⟩, ?_⟩
        rw [Option.mem_toList, strength] at hs
        split_ifs at hs <;> cases hs <;> simp
      · cases hx
  | setExternalControl => cases hx
  | _ =>
      cases List.mem_singleton.mp hx
      trivial

/-! ## Completions -/

theorem perform_thread {callback : Bool} :
    (v.perform effect es callback ret).thread =
      if callback = true ∧ (v.perform effect es callback ret).status = .ok then
        some ⟨(ret * 1000).toUInt32⟩
      else none := by
  rw [perform]
  split
  · exact (if_neg (by simp [refuse])).symm
  · split
    · exact (if_neg (by simp [refuse])).symm
    · split
      · exact (if_neg (by simp [refuse])).symm
      · simp [refuse, completion]

theorem serve_thread :
    (v.serve c ret).thread =
      if hasCallback c = true ∧ (v.serve c ret).status = .ok then
        some ⟨(ret * 1000).toUInt32⟩
      else none := by
  cases c with
  | on timeoutMs callback =>
      simp only [serve, on, hasCallback]
      split
      · exact (if_neg (by simp [refuse])).symm
      · simp [refuse, completion]
  | off => exact (if_neg (by simp [hasCallback])).symm
  | perform effect es callback => exact perform_thread
  | setAmplitude amplitude => exact (if_neg (by simp [hasCallback])).symm
  | setExternalControl => exact (if_neg (by simp [hasCallback])).symm

theorem answer_pays : Detached.Pays answer owes := by
  intro v a
  rw [answer, serve_thread, owes]
  split <;> rfl

/-- What the calls of a run ask of the library. -/
def askedIn (x : Detached Vibrator Int32 × DetachedEvent (Call × Int32)) : List AacCall :=
  match x.2 with
  | .call a => asked a.1
  | _ => []

theorem aac_run {h : List (Detached Vibrator Int32 × DetachedEvent (Call × Int32))}
    {t : Detached Vibrator Int32} (hp : Path (Detached.step answer) (Detached.start v) h t) :
    t.server.aac = v.aac ++ h.flatMap askedIn := by
  refine hp.history_inv (fun h t => t.server.aac = v.aac ++ h.flatMap askedIn)
    (fun _ _ => True) ?_ (List.append_nil _).symm fun _ _ => trivial
  intro h s e u hi _ hs
  have hlast : (h ++ [(s, e)]).flatMap askedIn = h.flatMap askedIn ++ askedIn (s, e) := by
    simp
  rw [hlast, ← List.append_assoc, ← hi]
  cases e with
  | call a =>
      cases hs
      exact serve_aac
  | pass time =>
      cases hs
      exact (List.append_nil _).symm
  | wake i =>
      have hserver : u.server = s.server := by
        simp only [Detached.step] at hs
        split at hs
        · split at hs
          · cases hs
            rfl
          · cases hs
        · cases hs
      rw [hserver]
      exact (List.append_nil _).symm

/-- **The service over the AAC library**: in every run the library sees
exactly what the calls ask, in their order, only effects that are supported;
and the completions that were made and those still to come are those of the
calls with a callback that answered ok, each once and none before the time
the library answered has gone by. -/
theorem requests_completed (ret : Int32)
    (h : List (Detached Vibrator Int32 × DetachedEvent (Call × Int32)))
    (t : Detached Vibrator Int32)
    (hp : Path (Detached.step answer) (Detached.start (construct ret)) h t) :
    t.server.aac = (construct ret).aac ++ h.flatMap askedIn ∧
      (∀ x ∈ t.server.aac, Supported x) ∧
      ((h.filterMap Detached.woken ++ t.threads).map Sleeper.call).Perm
        (h.filterMap (Detached.owed owes)) ∧
      (h.filterMap (Detached.owed owes)).Nodup ∧
      ∀ x ∈ h, ∀ r, Detached.woken x = some r →
        ∃ y ∈ h, ∃ a ms, y.2 = .call a ∧ owes y.1.server a = some ms ∧ r.call = y.1.calls ∧
          (0 ≤ ms → ms.toInt ≤ 4294967 → (y.1.now : Int) + 1000 * ms.toInt ≤ x.1.now) := by
  have haac := aac_run hp
  refine ⟨haac, ?_, Detached.completions answer_pays hp⟩
  intro x hx
  rw [haac] at hx
  rcases List.mem_append.mp hx with hx | hx
  · rw [construct] at hx
    split at hx
    · cases List.mem_singleton.mp hx
      trivial
    · rcases List.mem_cons.mp hx with rfl | hx
      · trivial
      · cases List.mem_singleton.mp hx
        trivial
  · obtain ⟨⟨s, e⟩, -, he⟩ := List.mem_flatMap.mp hx
    cases e with
    | call a => exact supported_asked x he
    | pass time => cases he
    | wake i => cases he

/-- A prebaked click of 20 ms, and one that the library refuses. -/
def twoClicks : List (DetachedEvent (Call × Int32)) :=
  [.call (.perform .click .light true, 20), .call (.perform .click .strong true, -1),
    .pass 20000, .wake 0]

theorem requests_completed_twoClicks :
    ∃ r ∈ follow (Detached.step answer) (Detached.start (construct 0)) twoClicks,
      r.2.server.aac = [.init, .looperStart, .looperPrebakedEffect 0 69,
        .looperPrebakedEffect 0 99] ∧
      (∀ x ∈ r.2.server.aac, Supported x) ∧
      (r.1.filterMap Detached.woken).map Sleeper.call = [0] ∧
      ∀ x ∈ r.1, (Detached.woken x).isSome → 20000 ≤ x.1.now := by
  have hrun : ∃ r ∈ follow (Detached.step answer) (Detached.start (construct 0)) twoClicks,
      r.2.server.aac = [.init, .looperStart, .looperPrebakedEffect 0 69,
        .looperPrebakedEffect 0 99] ∧
      r.2.threads = [] ∧ r.1.filterMap (Detached.owed owes) = [0] ∧
      ∀ y ∈ r.1, ∀ a, y.2 = .call a → ∀ ms, owes y.1.server a = some ms → ms = 20 := by
    refine ⟨_, rfl, by decide, rfl, rfl, ?_⟩
    intro y hy a hcall ms hms
    have hfirst : ∀ v, owes v (.perform .click .light true, 20) = some 20 := fun _ => rfl
    have hsecond : ∀ v, owes v (.perform .click .strong true, -1) = none := fun _ => rfl
    simp only [List.mem_cons, List.not_mem_nil, or_false] at hy
    rcases hy with rfl | rfl | rfl | rfl
    · cases hcall
      rw [hfirst] at hms
      exact (Option.some.inj hms).symm
    · cases hcall
      rw [hsecond] at hms
      cases hms
    · cases hcall
    · cases hcall
  obtain ⟨r, hr, haac, hthreads, howed, hms⟩ := hrun
  obtain ⟨-, hsupported, hperm, -, htime⟩ := requests_completed 0 _ _ (path_of_follow hr)
  refine ⟨r, hr, haac, hsupported, ?_, ?_⟩
  · rw [hthreads, List.append_nil, howed] at hperm
    exact List.perm_singleton.mp hperm
  · intro x hx hwoken
    obtain ⟨r', hr'⟩ := Option.isSome_iff_exists.mp hwoken
    obtain ⟨y, hy, a, ms, hcall, hms', -, hnow⟩ := htime x hx r' hr'
    cases hms y hy a hcall ms hms'
    have hslept := hnow (by decide) (by decide)
    have htwenty : (20 : Int32).toInt = 20 := rfl
    omega

end Vibrator

end OplusHardware.Richtap
