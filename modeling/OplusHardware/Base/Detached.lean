import Mathlib.Data.List.Perm.Basic
import OplusHardware.Base.Path

/-!
# Threads that sleep and call back

A server answers its calls at once and may start a thread for one: the
thread sleeps for a while, calls back and is gone. Nobody waits for it, so
calls, time and threads interleave in any way. Calls are numbered.
-/

namespace OplusHardware.Base

/-! ## usleep -/

/-- The microseconds of `usleep(ms * 1000)`: the product is an `int32_t`,
which `usleep` takes as a `useconds_t`. -/
def usleepMs (ms : Int32) : Nat := (ms * 1000).toUInt32.toNat

/-- The 32 bits hold the product up to 4294967 ms. -/
theorem usleepMs_eq {ms : Int32} (h0 : 0 ≤ ms) (hle : ms.toInt ≤ 4294967) :
    (usleepMs ms : Int) = 1000 * ms.toInt := by
  have hpos : (0 : Int) ≤ ms.toInt := Int32.le_iff_toInt_le.mp h0
  have hnat : (ms.toUInt32.toNat : Int) = ms.toInt := by
    rw [Int32.toNat_toUInt32_of_le h0]
    exact Int.toNat_of_nonneg hpos
  have hproduct : usleepMs ms = ms.toUInt32.toNat * 1000 % 4294967296 := by
    rw [usleepMs, Int32.toUInt32_mul, UInt32.toNat_mul]
    rfl
  omega

/-! ## The machine -/

/-- A thread that sleeps; `note` is what it was started for. -/
structure Sleeper (κ : Type) where
  call : Nat
  since : Nat
  duration : Nat
  note : κ
  deriving DecidableEq, Repr

/-- A server, the time, the calls so far and the threads that sleep. -/
structure Detached (σ κ : Type) where
  server : σ
  now : Nat
  calls : Nat
  threads : List (Sleeper κ)

inductive DetachedEvent (β : Type) where
  | call (b : β)
  | pass (time : Nat)
  /-- the thread at place `i` has slept, and calls back -/
  | wake (i : Nat)
  deriving DecidableEq, Repr

namespace Detached

variable {σ β κ : Type} {serve : σ → β → σ × Option (Nat × κ)} {s t : Detached σ κ}
  {e : DetachedEvent β} {h : List (Detached σ κ × DetachedEvent β)} {server : σ}

def start (server : σ) : Detached σ κ := ⟨server, 0, 0, []⟩

/-- The thread that a call starts. -/
def started (serve : σ → β → σ × Option (Nat × κ)) (s : Detached σ κ) (b : β) :
    Option (Sleeper κ) :=
  (serve s.server b).2.map fun r => ⟨s.calls, s.now, r.1, r.2⟩

def step (serve : σ → β → σ × Option (Nat × κ)) (s : Detached σ κ) :
    DetachedEvent β → Option (Detached σ κ)
  | .call b =>
      some
        { s with
          server := (serve s.server b).1
          calls := s.calls + 1
          threads := s.threads ++ (started serve s b).toList }
  | .pass time => some { s with now := s.now + time }
  | .wake i =>
      match s.threads[i]? with
      | some r =>
          if r.since + r.duration ≤ s.now then some { s with threads := s.threads.eraseIdx i }
          else none
      | none => none

/-- The thread that is started in a step. -/
def spawned (serve : σ → β → σ × Option (Nat × κ)) (x : Detached σ κ × DetachedEvent β) :
    Option (Sleeper κ) :=
  match x.2 with
  | .call b => started serve x.1 b
  | _ => none

/-- The thread that calls back in a step. -/
def woken (x : Detached σ κ × DetachedEvent β) : Option (Sleeper κ) :=
  match x.2 with
  | .wake i => x.1.threads[i]?
  | _ => none

/-- Threads that were started call back or still sleep, and the numbers of
their calls tell them apart. -/
structure Accounted (serve : σ → β → σ × Option (Nat × κ))
    (h : List (Detached σ κ × DetachedEvent β)) (s : Detached σ κ) : Prop where
  perm : (h.filterMap woken ++ s.threads).Perm (h.filterMap (spawned serve))
  distinct : ((h.filterMap (spawned serve)).map Sleeper.call).Nodup
  earlier : ∀ r ∈ h.filterMap (spawned serve), r.call < s.calls ∧ r.since ≤ s.now

theorem Accounted.call (hi : Accounted serve h s) {b : β} :
    Accounted serve (h ++ [(s, DetachedEvent.call b)])
      { s with
        server := (serve s.server b).1
        calls := s.calls + 1
        threads := s.threads ++ (started serve s b).toList } := by
  have hspawned : (h ++ [(s, DetachedEvent.call b)]).filterMap (spawned serve) =
      h.filterMap (spawned serve) ++ (started serve s b).toList := filterMap_snoc _ _ _
  have hwoken : (h ++ [(s, DetachedEvent.call b)]).filterMap woken = h.filterMap woken := by
    rw [filterMap_snoc]
    exact List.append_nil _
  refine ⟨?_, ?_, ?_⟩
  · rw [hspawned, hwoken, ← List.append_assoc]
    exact hi.perm.append_right _
  · rw [hspawned, List.map_append]
    refine List.nodup_append.mpr ⟨hi.distinct, ?_, ?_⟩
    · cases started serve s b <;> simp
    · intro n hn m hm
      obtain ⟨r, hr, rfl⟩ := List.mem_map.mp hn
      obtain ⟨r', hr', rfl⟩ := List.mem_map.mp hm
      obtain ⟨p, -, rfl⟩ := Option.map_eq_some_iff.mp (Option.mem_toList.mp hr')
      exact Nat.ne_of_lt (hi.earlier r hr).1
  · intro r hr
    rw [hspawned] at hr
    rcases List.mem_append.mp hr with hr | hr
    · obtain ⟨hcall, hsince⟩ := hi.earlier r hr
      exact ⟨Nat.lt_succ_of_lt hcall, hsince⟩
    · obtain ⟨p, -, rfl⟩ := Option.map_eq_some_iff.mp (Option.mem_toList.mp hr)
      exact ⟨Nat.lt_succ_self _, Nat.le_refl _⟩

theorem Accounted.wake (hi : Accounted serve h s) {i : Nat} {r : Sleeper κ}
    (hr : s.threads[i]? = some r) :
    Accounted serve (h ++ [(s, DetachedEvent.wake i)]) { s with threads := s.threads.eraseIdx i } := by
  have hspawned : (h ++ [(s, DetachedEvent.wake i)]).filterMap (spawned serve) =
      h.filterMap (spawned serve) := by
    rw [filterMap_snoc]
    exact List.append_nil _
  have hwoken : (h ++ [(s, DetachedEvent.wake i)]).filterMap woken = h.filterMap woken ++ [r] := by
    rw [filterMap_snoc]
    show _ ++ (s.threads[i]?).toList = _
    rw [hr]
    rfl
  obtain ⟨hlt, hget⟩ := List.getElem?_eq_some_iff.mp hr
  have hone : (r :: s.threads.eraseIdx i).Perm s.threads := by
    rw [← hget]
    exact List.getElem_cons_eraseIdx_perm hlt
  refine ⟨?_, ?_, ?_⟩
  · rw [hspawned, hwoken, List.append_assoc]
    exact (hone.append_left _).trans hi.perm
  · rw [hspawned]
    exact hi.distinct
  · rw [hspawned]
    exact hi.earlier

theorem accounted_step (hi : Accounted serve h s) (hs : step serve s e = some t) :
    Accounted serve (h ++ [(s, e)]) t := by
  cases e with
  | call b =>
      cases hs
      exact hi.call
  | pass time =>
      cases hs
      have hsame : ∀ f : Detached σ κ × DetachedEvent β → Option (Sleeper κ),
          f (s, DetachedEvent.pass time) = none → (h ++ [(s, DetachedEvent.pass time)]).filterMap f = h.filterMap f := by
        intro f hf
        rw [filterMap_snoc, hf]
        exact List.append_nil _
      have hspawned := hsame (spawned serve) rfl
      refine ⟨?_, ?_, ?_⟩
      · rw [hspawned, hsame woken rfl]
        exact hi.perm
      · rw [hspawned]
        exact hi.distinct
      · intro r hr
        rw [hspawned] at hr
        obtain ⟨hcall, hsince⟩ := hi.earlier r hr
        exact ⟨hcall, Nat.le_add_right_of_le hsince⟩
  | wake i =>
      simp only [step] at hs
      split at hs
      · rename_i r hr
        split at hs
        · cases hs
          exact hi.wake hr
        · cases hs
      · cases hs

/-- **The exactly-once rule**: in every run the threads that have called
back and those that sleep are the threads that were started, each once. -/
theorem accounted_run (hp : Path (step serve) (start server) h t) : Accounted serve h t := by
  refine hp.history_inv (Accounted serve) (fun _ _ => True) ?_ ?_ fun _ _ => trivial
  · intro h s e t hi _ hs
    exact accounted_step hi hs
  · exact ⟨List.Perm.refl _, List.nodup_nil, by simp⟩

/-- A thread calls back only after it has slept. -/
theorem woken_slept {x : Detached σ κ × DetachedEvent β} {r : Sleeper κ}
    (hs : step serve x.1 x.2 = some t) (hr : woken x = some r) :
    r.since + r.duration ≤ x.1.now := by
  obtain ⟨s, e⟩ := x
  cases e with
  | call b => cases hr
  | pass time => cases hr
  | wake i =>
      have hplace : s.threads[i]? = some r := hr
      simp only [step, hplace] at hs
      split at hs
      · assumption
      · cases hs

/-- Every thread of a run was started by one of its calls. -/
theorem exists_call_of_spawned {r : Sleeper κ} (hr : r ∈ h.filterMap (spawned serve)) :
    ∃ x ∈ h, ∃ b, x.2 = .call b ∧ started serve x.1 b = some r := by
  obtain ⟨⟨s, e⟩, hx, hspawned⟩ := List.mem_filterMap.mp hr
  cases e with
  | call b => exact ⟨(s, .call b), hx, b, rfl, hspawned⟩
  | pass time => cases hspawned
  | wake i => cases hspawned

end Detached

/-! ## Completions -/

namespace Detached

variable {σ β : Type} {serve : σ → β → σ × Option (Nat × Int32)} {owes : σ → β → Option Int32}
  {server : σ} {h : List (Detached σ Int32 × DetachedEvent β)} {t : Detached σ Int32}

/-- The number of a call whose client is owed a completion, where `owes`
says after how many ms. -/
def owed (owes : σ → β → Option Int32) : Detached σ Int32 × DetachedEvent β → Option Nat
  | (s, .call b) => (owes s.server b).map fun _ => s.calls
  | _ => none

/-- A server that starts a thread for what it owes, and for nothing else. -/
def Pays (serve : σ → β → σ × Option (Nat × Int32)) (owes : σ → β → Option Int32) : Prop :=
  ∀ s b, (serve s b).2 = (owes s b).map fun ms => (usleepMs ms, ms)

theorem map_spawned (hpays : Pays serve owes) (x : Detached σ Int32 × DetachedEvent β) :
    (spawned serve x).map Sleeper.call = owed owes x := by
  obtain ⟨s, e⟩ := x
  cases e with
  | call b =>
      show (started serve s b).map Sleeper.call = (owes s.server b).map _
      rw [started, hpays, Option.map_map, Option.map_map]
      rfl
  | pass time => rfl
  | wake i => rfl

/-- **The completion rule**: in every run, whatever is called and whenever
the threads get to run, the calls that were completed and those whose thread
sleeps are the calls that are owed it, each once; and a call that is owed it
after up to 4294967 ms is not completed before they have gone by. -/
theorem completions (hpays : Pays serve owes) (hp : Path (step serve) (start server) h t) :
    ((h.filterMap woken ++ t.threads).map Sleeper.call).Perm (h.filterMap (owed owes)) ∧
      (h.filterMap (owed owes)).Nodup ∧
      ∀ x ∈ h, ∀ r, woken x = some r →
        ∃ y ∈ h, ∃ b ms, y.2 = .call b ∧ owes y.1.server b = some ms ∧ r.call = y.1.calls ∧
          (0 ≤ ms → ms.toInt ≤ 4294967 → (y.1.now : Int) + 1000 * ms.toInt ≤ x.1.now) := by
  have haccounted := accounted_run hp
  have howed : (h.filterMap (spawned serve)).map Sleeper.call = h.filterMap (owed owes) := by
    rw [List.map_filterMap]
    exact List.filterMap_congr fun x _ => map_spawned hpays x
  refine ⟨?_, ?_, ?_⟩
  · rw [← howed]
    exact haccounted.perm.map _
  · rw [← howed]
    exact haccounted.distinct
  · intro x hx r hr
    have hmem : r ∈ h.filterMap (spawned serve) := by
      apply haccounted.perm.subset
      exact List.mem_append_left _ (List.mem_filterMap.mpr ⟨x, hx, hr⟩)
    obtain ⟨y, hy, b, hb, hstarted⟩ := exists_call_of_spawned hmem
    rw [started, hpays, Option.map_map] at hstarted
    obtain ⟨ms, hms, heq⟩ := Option.map_eq_some_iff.mp hstarted
    refine ⟨y, hy, b, ms, hb, hms, by rw [← heq]; rfl, ?_⟩
    intro h0 hle
    obtain ⟨pre, post, rfl⟩ := List.append_of_mem hx
    obtain ⟨-, u, hu, -⟩ := hp.at_step
    have hslept : y.1.now + usleepMs ms ≤ x.1.now := by
      have hwoken := woken_slept hu hr
      rwa [← heq] at hwoken
    have hsleep := usleepMs_eq h0 hle
    omega

end Detached

end OplusHardware.Base
