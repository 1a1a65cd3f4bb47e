import Mathlib.Logic.Function.Basic
import OplusHardware.Base.Path

/-!
# Sequential programs that call a remote party

A `Prog` is sequential code cut at its remote calls: it has returned, it
has thrown, or it makes a call and goes on with the answer. Programs run
next to each other with their calls interleaved in any order
(`Parallel`).
-/

namespace OplusHardware.Base

/-- Code that makes calls `op : Op` with answers in `Res op`, throws
errors in `ε` and returns in `α`. -/
inductive Prog (Op : Type) (Res : Op → Type) (ε α : Type) where
  | ret (a : α)
  | throw (e : ε)
  | call (op : Op) (k : Res op → Prog Op Res ε α)

namespace Prog

variable {Op : Type} {Res : Op → Type} {ε α β : Type}

def bind : Prog Op Res ε α → (α → Prog Op Res ε β) → Prog Op Res ε β
  | .ret a, f => f a
  | .throw e, _ => .throw e
  | .call op k, f => .call op fun r => (k r).bind f

instance : Monad (Prog Op Res ε) where
  pure := .ret
  bind := bind

/-- One call. -/
def perform (op : Op) : Prog Op Res ε (Res op) := .call op .ret

/-- The outcome of a computation that makes no call. -/
def ofExcept : Except ε α → Prog Op Res ε α
  | .ok a => .ret a
  | .error e => .throw e

theorem bind_ret (x : Prog Op Res ε α) : x.bind .ret = x := by
  induction x with
  | ret a => rfl
  | throw e => rfl
  | call op k ih => exact congrArg (call op) (funext ih)

theorem bind_assoc' {γ : Type} (x : Prog Op Res ε α) (f : α → Prog Op Res ε β)
    (g : β → Prog Op Res ε γ) : (x.bind f).bind g = x.bind fun a => (f a).bind g := by
  induction x with
  | ret a => rfl
  | throw e => rfl
  | call op k ih => exact congrArg (call op) (funext ih)

instance : LawfulMonad (Prog Op Res ε) :=
  LawfulMonad.mk' _ (fun x => bind_ret x) (fun _ _ => rfl) (fun x f g => bind_assoc' x f g)

@[simp] theorem bind_eq (x : Prog Op Res ε α) (f : α → Prog Op Res ε β) :
    x.bind f = x >>= f := rfl

@[simp] theorem ret_bind (a : α) (f : α → Prog Op Res ε β) :
    (Prog.ret a : Prog Op Res ε α) >>= f = f a := rfl

@[simp] theorem throw_bind (e : ε) (f : α → Prog Op Res ε β) :
    (Prog.throw e : Prog Op Res ε α) >>= f = .throw e := rfl

/-- One request after another, whatever each returns. -/
def sequence (f : β → Prog Op Res ε α) : List β → Prog Op Res ε Unit
  | [] => .ret ()
  | b :: bs => f b >>= fun _ => sequence f bs

def isRet : Prog Op Res ε α → Bool
  | .ret _ => true
  | _ => false

/-! ## One program at a time -/

section Run

variable {κ : Type} {serve : κ → (op : Op) → κ × Res op} {s : κ}

/-- The program runs alone against the store that serves its calls. -/
def run (serve : κ → (op : Op) → κ × Res op) : κ → Prog Op Res ε α → κ × Except ε α
  | s, .ret a => (s, .ok a)
  | s, .throw e => (s, .error e)
  | s, .call op k => run serve (serve s op).1 (k (serve s op).2)

/-- The programs run one after another; each starts whatever the ones
before it ended with. -/
def runAll (serve : κ → (op : Op) → κ × Res op) :
    κ → List (Prog Op Res ε α) → κ × List (Except ε α)
  | s, [] => (s, [])
  | s, x :: xs =>
      let r := x.run serve s
      let rs := runAll serve r.1 xs
      (rs.1, r.2 :: rs.2)

@[simp] theorem run_ret (a : α) :
    (Prog.ret a : Prog Op Res ε α).run serve s = (s, .ok a) := rfl

@[simp] theorem run_pure (a : α) :
    (pure a : Prog Op Res ε α).run serve s = (s, .ok a) := rfl

@[simp] theorem run_throw (e : ε) :
    (Prog.throw e : Prog Op Res ε α).run serve s = (s, .error e) := rfl

@[simp] theorem run_perform_bind (op : Op) (f : Res op → Prog Op Res ε α) :
    ((perform op : Prog Op Res ε (Res op)) >>= f).run serve s =
      (f (serve s op).2).run serve (serve s op).1 := rfl

@[simp] theorem run_ofExcept_bind (x : Except ε β) (f : β → Prog Op Res ε α) :
    ((ofExcept x : Prog Op Res ε β) >>= f).run serve s =
      match x with
      | .ok b => (f b).run serve s
      | .error e => (s, .error e) := by
  cases x <;> rfl

/-- A program is run up to its first result, and then the rest of it. -/
theorem run_bind (x : Prog Op Res ε β) (f : β → Prog Op Res ε α) :
    (x >>= f).run serve s =
      match x.run serve s with
      | (s', .ok b) => (f b).run serve s'
      | (s', .error e) => (s', .error e) := by
  induction x generalizing s with
  | ret b => rfl
  | throw e => rfl
  | call op k ih => exact ih (serve s op).2

end Run

end Prog

/-! ## Programs side by side -/

/-- Programs that run next to each other, and the store their calls act
on. -/
structure Parallel (ι κ Op : Type) (Res : Op → Type) (ε : Type) where
  store : κ
  prog : ι → Prog Op Res ε Unit

namespace Parallel

variable {ι κ Op : Type} {Res : Op → Type} {ε : Type} [DecidableEq ι]

/-- One call of program `i`, served atomically. A program that has
returned or thrown makes none. -/
def step (serve : κ → (op : Op) → κ × Res op) (s : Parallel ι κ Op Res ε) (i : ι) :
    Option (Parallel ι κ Op Res ε) :=
  match s.prog i with
  | .call op k =>
      some ⟨(serve s.store op).1, Function.update s.prog i (k (serve s.store op).2)⟩
  | .ret _ => none
  | .throw _ => none

/-- What one step does: the moving program makes its call and goes on
with the answer, the others stay where they are. -/
theorem step_inv {serve : κ → (op : Op) → κ × Res op} {s t : Parallel ι κ Op Res ε}
    {i : ι} (hs : step serve s i = some t) :
    ∃ op k, s.prog i = .call op k ∧ t.store = (serve s.store op).1 ∧
      t.prog i = k (serve s.store op).2 ∧ ∀ j, j ≠ i → t.prog j = s.prog j := by
  rw [step] at hs
  cases hp : s.prog i with
  | call op k =>
      simp only [hp, Option.some.injEq] at hs
      subst hs
      refine ⟨op, k, rfl, rfl, by simp, fun j hj => ?_⟩
      exact Function.update_of_ne hj _ _
  | ret a => simp [hp] at hs
  | throw e => simp [hp] at hs

end Parallel

end OplusHardware.Base
