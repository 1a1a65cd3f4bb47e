import OplusHardware.Base.Detached
import OplusHardware.QtiVibrator.Runs

/-!
# QtiVibrator — every accepted request is completed once

The detached threads of `on` and `perform`, between any further calls. A
call with a callback that answers ok is completed once, and not before
what it promised has gone by; one that answers an error never is.
-/

namespace OplusHardware.QtiVibrator

open OplusHardware.Base InputFFDevice

namespace Hal

variable (getEffectStream : UInt32 → Option EffectStream)

/-- The call comes with a callback. -/
def hasCallback : Call → Bool
  | .on _ callback => callback
  | .perform _ _ callback _ => callback
  | _ => false

/-- How long a call says that the motor runs, in ms: `on` the timeout it was
given, `perform` what it answers. -/
def promisedMs (c : Call) (r : Reply) : Int32 :=
  match c with
  | .on timeoutMs _ => timeoutMs
  | _ => r.out.getD 0

/-- One call, with the thread it starts. -/
def answer (s : Hal) (a : Call × CallEnv) : Hal × Option (Nat × Int32) :=
  let r := s.serve getEffectStream a.1 a.2
  (after r, r.thread.map fun thread => (thread.sleepUs.toNat, promisedMs a.1 r))

/-- A call with a callback that answers ok is to be completed. -/
def owes (s : Hal) (a : Call × CallEnv) : Option Int32 :=
  let r := s.serve getEffectStream a.1 a.2
  if hasCallback a.1 = true ∧ r.status = .ok then some (promisedMs a.1 r) else none

variable {getEffectStream} {s : Hal} {c : Call} {env : CallEnv}

/-- The `long` that `perform` sleeps for and the `int32_t` it answers agree
in the bits that `usleep` takes. -/
theorem ofInt_mul_1000 (ms : Int) :
    UInt32.ofInt (ms * 1000) = (Int32.ofInt ms * 1000).toUInt32 := by
  have hbits : (Int32.ofInt ms).toUInt32 = UInt32.ofInt ms := by
    apply UInt32.toNat_inj.mp
    show (BitVec.ofInt 32 ms).toNat = (UInt32.ofNat (ms % 2 ^ 32).toNat).toNat
    rw [BitVec.toNat_ofInt, UInt32.toNat_ofNat']
    omega
  rw [Int32.toUInt32_mul, UInt32.ofInt_mul, hbits]
  rfl

theorem performed_thread (v : Vibrator) (kernel : FfKernel) (callback : Bool) (ms : Int) :
    (v.performed kernel callback ms).thread =
      if callback = true then some ⟨(Int32.ofInt ms * 1000).toUInt32⟩ else none := by
  rw [← ofInt_mul_1000]
  rfl

theorem perform_thread {effect : Effect} {es : EffectStrength} {callback : Bool} {uninit : Int} :
    let r := s.vib.perform getEffectStream s.kernel effect es callback uninit env
    r.thread =
      if callback = true ∧ r.status = .ok then some ⟨(r.out.getD 0 * 1000).toUInt32⟩
      else none := by
  intro r
  have hrefused : ∀ (v : Vibrator) (k : FfKernel) (st : AStatus), st ≠ .ok →
      (v.refuse k st).thread =
        if callback = true ∧ (v.refuse k st).status = .ok then
          some ⟨((v.refuse k st).out.getD 0 * 1000).toUInt32⟩
        else none := by
    intro v k st hst
    exact (if_neg fun h => hst h.2).symm
  have hperformed : ∀ (v : Vibrator) (k : FfKernel) (ms : Int),
      (v.performed k callback ms).thread =
        if callback = true ∧ (v.performed k callback ms).status = .ok then
          some ⟨((v.performed k callback ms).out.getD 0 * 1000).toUInt32⟩
        else none := by
    intro v k ms
    rw [performed_thread]
    simp [Vibrator.performed]
  show (s.vib.perform getEffectStream s.kernel effect es callback uninit env).thread = _
  simp only [r, Vibrator.perform]
  split
  · split
    · exact hrefused _ _ _ (by simp)
    · exact hperformed _ _ _
  · split
    · split
      · exact hrefused _ _ _ (by simp)
      · exact hperformed _ _ _
    · exact hrefused _ _ _ (by simp)

/-- **The thread of a call**: there is one exactly for a call with a callback
that answers ok, and it sleeps for what the call says. -/
theorem serve_thread (s : Hal) (c : Call) (env : CallEnv) :
    let r := s.serve getEffectStream c env
    r.thread =
      if hasCallback c = true ∧ r.status = .ok then
        some ⟨(promisedMs c r * 1000).toUInt32⟩
      else none := by
  intro r
  cases c with
  | on timeoutMs callback =>
      simp only [r, serve, Vibrator.on, Vibrator.refuse, Vibrator.onThread, hasCallback,
        promisedMs]
      split_ifs <;> simp_all
  | off =>
      rw [if_neg (by simp [hasCallback])]
      simp only [r, serve, Vibrator.off, Vibrator.refuse]
      split_ifs <;> rfl
  | perform effect es callback uninit => exact perform_thread
  | setAmplitude amplitude =>
      rw [if_neg (by simp [hasCallback])]
      simp only [r, serve, Vibrator.setAmplitude, Vibrator.refuse]
      split_ifs <;> rfl
  | setExternalControl enabled =>
      rw [if_neg (by simp [hasCallback])]
      simp only [r, serve, Vibrator.setExternalControl, Vibrator.refuse]
      split_ifs <;> rfl

theorem pays (getEffectStream : UInt32 → Option EffectStream) :
    Detached.Pays (answer getEffectStream) (owes getEffectStream) := by
  intro s a
  rw [answer, serve_thread, owes]
  split <;> rfl

/-- **Completions**: in every run, whatever is called and whenever the
threads get to run, the calls that were completed and those whose thread
sleeps are the calls with a callback that answered ok, each once; and a call
that promises up to 4294967 ms is not completed before they have gone by. -/
theorem completed_once (getEffectStream : UInt32 → Option EffectStream) (server : Hal)
    (h : List (Detached Hal Int32 × DetachedEvent (Call × CallEnv))) (t : Detached Hal Int32)
    (hp : Path (Detached.step (answer getEffectStream)) (Detached.start server) h t) :
    ((h.filterMap Detached.woken ++ t.threads).map Sleeper.call).Perm
        (h.filterMap (Detached.owed (owes getEffectStream))) ∧
      (h.filterMap (Detached.owed (owes getEffectStream))).Nodup ∧
      ∀ x ∈ h, ∀ r, Detached.woken x = some r →
        ∃ y ∈ h, ∃ a ms, y.2 = .call a ∧ owes getEffectStream y.1.server a = some ms ∧
          r.call = y.1.calls ∧
          (0 ≤ ms → ms.toInt ≤ 4294967 → (y.1.now : Int) + 1000 * ms.toInt ≤ x.1.now) :=
  Detached.completions (pays getEffectStream) hp

/-- Two requests overlap, and the second one ends first. -/
theorem completed_once_overlapping :
    ∃ r ∈ follow (Detached.step (answer fun _ => none)) (Detached.start bootOneDevice)
        [.call (.on 200 true, Vibrator.noFailures), .pass 10,
          .call (.on 50 true, Vibrator.noFailures), .pass 60000, .wake 1, .pass 200000, .wake 0],
      r.2.threads = [] ∧ (r.1.filterMap Detached.woken).map Sleeper.call = [1, 0] ∧
        (r.1.filterMap (Detached.owed (owes fun _ => none))).Nodup := by
  have hrun : ∃ r ∈ follow (Detached.step (answer fun _ => none)) (Detached.start bootOneDevice)
      [.call (.on 200 true, Vibrator.noFailures), .pass 10,
        .call (.on 50 true, Vibrator.noFailures), .pass 60000, .wake 1, .pass 200000, .wake 0],
      r.2.threads = [] ∧ (r.1.filterMap Detached.woken).map Sleeper.call = [1, 0] := by
    decide
  obtain ⟨r, hr, hthreads, hwoken⟩ := hrun
  exact ⟨r, hr, hthreads, hwoken, (completed_once _ _ _ _ (path_of_follow hr)).2.1⟩

end Hal

end OplusHardware.QtiVibrator
