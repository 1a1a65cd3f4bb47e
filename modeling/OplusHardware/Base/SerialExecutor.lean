import Mathlib.Data.List.Basic
import Mathlib.Tactic.Common

/-!
# Single-thread executors

Tasks are taken one at a time, in the order they were submitted. A task is
a program of instructions, and between two of them anything else can
happen. What an executor has yet to do is one list of instructions: the
rest of the running task and the programs of the queued ones. A task may
replace the instruction it runs by others (a branch).
-/

namespace OplusHardware.Base

variable {τ ι β : Type}

/-- The tasks that wait, and what is left of the one that runs. -/
structure SerialExecutor (τ ι : Type) where
  queue : List τ
  running : List ι
  deriving DecidableEq, Repr

namespace SerialExecutor

variable {program : τ → List ι} {e : SerialExecutor τ ι} {t : τ} {q : List τ} {i : ι}
  {is : List ι}

def idle : SerialExecutor τ ι := ⟨[], []⟩

def submit (e : SerialExecutor τ ι) (t : τ) : SerialExecutor τ ι :=
  { e with queue := e.queue ++ [t] }

/-- The executor with its running task at `is`. -/
def goOn (e : SerialExecutor τ ι) (is : List ι) : SerialExecutor τ ι :=
  { e with running := is }

/-- What is left to do. -/
def remaining (program : τ → List ι) (e : SerialExecutor τ ι) : List ι :=
  e.running ++ e.queue.flatMap program

/-- What the remaining instructions make of `x`, each by `f`. -/
def eventual (program : τ → List ι) (f : β → ι → β) (e : SerialExecutor τ ι) (x : β) : β :=
  (e.remaining program).foldl f x

@[simp] theorem goOn_running : (e.goOn is).running = is := rfl

/-- Starting the next task leaves what is left to do as it is. -/
theorem remaining_start (hrun : e.running = []) (hq : e.queue = t :: q) :
    remaining program ⟨q, program t⟩ = e.remaining program := by
  simp [remaining, hrun, hq]

theorem remaining_submit :
    (e.submit t).remaining program = e.remaining program ++ program t := by
  simp [remaining, submit]

section Eventual

variable {f : β → ι → β} {x : β}

theorem eventual_start (hrun : e.running = []) (hq : e.queue = t :: q) :
    eventual program f ⟨q, program t⟩ x = e.eventual program f x := by
  rw [eventual, remaining_start hrun hq, eventual]

theorem eventual_submit :
    (e.submit t).eventual program f x =
      (program t).foldl f (e.eventual program f x) := by
  rw [eventual, remaining_submit, List.foldl_append, eventual]

theorem eventual_goOn (hrun : e.running = i :: is) :
    (e.goOn is).eventual program f (f x i) = e.eventual program f x := by
  simp [eventual, remaining, goOn, hrun]

/-- An instruction that was replaced by others of the same effect. -/
theorem eventual_branch {js : List ι} (hrun : e.running = i :: is)
    (hjs : js.foldl f x = f x i) :
    (e.goOn (js ++ is)).eventual program f x = e.eventual program f x := by
  simp [eventual, remaining, goOn, hrun, hjs]

theorem eventual_drained (hrun : e.running = []) (hq : e.queue = []) :
    e.eventual program f x = x := by
  simp [eventual, remaining, hrun, hq]

end Eventual

end SerialExecutor

end OplusHardware.Base
