import OplusHardware.Base.Program

/-!
# A process that serves requests

A process works on one request at a time. The program of a request makes
its calls one by one, and the environment decides how each of them ends
(`ω`). Between any two calls the process may be looked at, or may stop.

`Keeps` is the logic for such programs: an invariant that holds at every
call, however the calls end, and a condition on what the program returns.
-/

namespace OplusHardware.Base

variable {κ Op ω ε α β ρ : Type} {Res : Op → Type}

namespace Prog

variable {serve : κ → (op : Op) → ω → κ × Res op} {Inv : κ → Prop}
  {Post : κ → α → Prop} {s : κ}

/-- Started in `s`, the program has `Inv` before and after each of its
calls, and returns only with `Post`. -/
def Keeps (serve : κ → (op : Op) → ω → κ × Res op) (Inv : κ → Prop)
    (Post : κ → α → Prop) : κ → Prog Op Res ε α → Prop
  | s, .ret a => Inv s ∧ Post s a
  | s, .throw _ => Inv s
  | s, .call op k => Inv s ∧ ∀ o, Keeps serve Inv Post (serve s op o).1 (k (serve s op o).2)

theorem Keeps.inv {x : Prog Op Res ε α} (h : Keeps serve Inv Post s x) : Inv s := by
  cases x with
  | ret a => exact h.1
  | throw e => exact h
  | call op k => exact h.1

theorem Keeps.mono {Inv' : κ → Prop} {Post' : κ → α → Prop} {x : Prog Op Res ε α}
    (h : Keeps serve Inv Post s x) (hinv : ∀ s, Inv s → Inv' s)
    (hpost : ∀ s a, Inv s → Post s a → Post' s a) : Keeps serve Inv' Post' s x := by
  induction x generalizing s with
  | ret a => exact ⟨hinv s h.1, hpost s a h.1 h.2⟩
  | throw e => exact hinv s h
  | call op k ih => exact ⟨hinv s h.1, fun o => ih _ (h.2 o)⟩

/-- A program is looked at up to its first result, and then the rest of it. -/
theorem Keeps.bind {Mid : κ → β → Prop} {x : Prog Op Res ε β} {f : β → Prog Op Res ε α}
    (h : Keeps serve Inv Mid s x)
    (hf : ∀ s b, Inv s → Mid s b → Keeps serve Inv Post s (f b)) :
    Keeps serve Inv Post s (x >>= f) := by
  induction x generalizing s with
  | ret b => exact hf s b h.1 h.2
  | throw e => exact h
  | call op k ih => exact ⟨h.1, fun o => ih _ (h.2 o)⟩

/-- Every call the program may make satisfies `P`. -/
def Calls (P : Op → Prop) : Prog Op Res ε α → Prop
  | .ret _ => True
  | .throw _ => True
  | .call op k => P op ∧ ∀ r, Calls P (k r)

section Calls

variable {P Q : Op → Prop}

theorem Calls.mono {x : Prog Op Res ε α} (hx : x.Calls P) (h : ∀ op, P op → Q op) :
    x.Calls Q := by
  induction x with
  | ret a => exact trivial
  | throw e => exact trivial
  | call op k ih => exact ⟨h op hx.1, fun r => ih r (hx.2 r)⟩

theorem Calls.bind {x : Prog Op Res ε β} {f : β → Prog Op Res ε α} (hx : x.Calls P)
    (hf : ∀ b, (f b).Calls P) : (x >>= f).Calls P := by
  induction x with
  | ret b => exact hf b
  | throw e => exact trivial
  | call op k ih => exact ⟨hx.1, fun r => ih r (hx.2 r)⟩

/-- **The frame rule**: an invariant that every call in `P` keeps is kept by
a program that makes no other. -/
theorem Calls.keeps {x : Prog Op Res ε α} (hx : x.Calls P)
    (hserve : ∀ s op o, Inv s → P op → Inv (serve s op o).1) (hi : Inv s) :
    Keeps serve Inv (fun _ _ => True) s x := by
  induction x generalizing s with
  | ret a => exact ⟨hi, trivial⟩
  | throw e => exact hi
  | call op k ih => exact ⟨hi, fun o => ih _ (hx.2 _) (hserve s op o hi hx.1)⟩

end Calls

/-! ## The same program over other calls -/

section Relabel

variable {Op' : Type} {Res' : Op' → Type}

/-- The program with each call `op` made as `f op`, whose answers `g` reads
as answers of `op`. -/
def relabel (f : Op → Op') (g : (op : Op) → Res' (f op) → Res op) :
    Prog Op Res ε α → Prog Op' Res' ε α
  | .ret a => .ret a
  | .throw e => .throw e
  | .call op k => .call (f op) fun r => relabel f g (k (g op r))

theorem calls_relabel {P : Op' → Prop} {f : Op → Op'}
    {g : (op : Op) → Res' (f op) → Res op} (h : ∀ op, P (f op)) (x : Prog Op Res ε α) :
    (relabel f g x).Calls P := by
  induction x with
  | ret a => exact trivial
  | throw e => exact trivial
  | call op k ih => exact ⟨h op, fun r => ih (g op r)⟩

end Relabel

end Prog

/-- A process: its store, and what is left of the request it serves. -/
structure Process (κ Op : Type) (Res : Op → Type) (ε α : Type) where
  store : κ
  prog : Prog Op Res ε α

/-- What a process does next. -/
inductive ProcessEvent (ρ ω : Type) where
  /-- it takes up a request -/
  | request (r : ρ)
  /-- its next call ends, in the way `o` -/
  | answer (o : ω)

def ProcessEvent.isRequest : ProcessEvent ρ ω → Bool
  | .request _ => true
  | .answer _ => false

theorem ProcessEvent.ne_request {e : ProcessEvent ρ ω} (h : e.isRequest = false) (r : ρ) :
    e ≠ .request r := by
  rintro rfl
  cases h

namespace Process

/-- The last request is served. -/
def idle (p : Process κ Op Res ε α) : Bool := p.prog.isRet

/-- One step of a process that serves the request `r` by `body s r`. -/
def step (body : κ → ρ → Prog Op Res ε α) (serve : κ → (op : Op) → ω → κ × Res op)
    (p : Process κ Op Res ε α) : ProcessEvent ρ ω → Option (Process κ Op Res ε α)
  | .request r => if p.idle then some ⟨p.store, body p.store r⟩ else none
  | .answer o =>
      match p.prog with
      | .call op k => some ⟨(serve p.store op o).1, k (serve p.store op o).2⟩
      | .ret _ => none
      | .throw _ => none

/-- A process that takes up a request is idle, and starts its program. -/
theorem request_inv {body : κ → ρ → Prog Op Res ε α}
    {serve : κ → (op : Op) → ω → κ × Res op} {p q : Process κ Op Res ε α} {r : ρ}
    (hs : step body serve p (.request r) = some q) :
    p.idle = true ∧ q = ⟨p.store, body p.store r⟩ := by
  simp only [step, Option.ite_none_right_eq_some, Option.some.injEq] at hs
  exact ⟨hs.1, hs.2.symm⟩

/-- The program the process runs keeps `Inv`, and returns with `Post`. -/
def Keeping (serve : κ → (op : Op) → ω → κ × Res op) (Inv : κ → Prop) (Post : κ → α → Prop)
    (p : Process κ Op Res ε α) : Prop :=
  p.prog.Keeps serve Inv Post p.store

variable {body : κ → ρ → Prog Op Res ε α} {serve : κ → (op : Op) → ω → κ × Res op}
  {Inv : κ → Prop} {Post : κ → α → Prop} {R : ρ → Prop} {p q : Process κ Op Res ε α}
  {h : List (Process κ Op Res ε α × ProcessEvent ρ ω)}

/-- One step keeps what the program keeps, if the bodies of the requests
`R` do. -/
theorem step_keeping (hbody : ∀ s r, Inv s → R r → (body s r).Keeps serve Inv Post s)
    {e : ProcessEvent ρ ω} (hp : p.Keeping serve Inv Post) (he : ∀ r, e = .request r → R r)
    (hs : step body serve p e = some q) : q.Keeping serve Inv Post := by
  cases e with
  | request r =>
      obtain ⟨-, rfl⟩ := request_inv hs
      exact hbody _ _ hp.inv (he r rfl)
  | answer o =>
      obtain ⟨s, x⟩ := p
      cases x with
      | call op k =>
          cases hs
          exact hp.2 o
      | ret a => cases hs
      | throw e => cases hs

/-- **The process rule**: what the running program keeps, and the body of
every request, is kept to the end of a run. -/
theorem path_keeping (hbody : ∀ s r, Inv s → R r → (body s r).Keeps serve Inv Post s)
    (hp : Path (step body serve) p h q) (h0 : p.Keeping serve Inv Post)
    (hreq : ∀ x ∈ h, ∀ r, x.2 = .request r → R r) : q.Keeping serve Inv Post :=
  hp.inv (Keeping serve Inv Post) (fun _ e => ∀ r, e = .request r → R r)
    (fun _ _ _ hp he hs => step_keeping hbody hp he hs) h0 hreq

/-- It therefore holds in every state of the run. -/
theorem path_always (hbody : ∀ s r, Inv s → R r → (body s r).Keeps serve Inv Post s)
    (hp : Path (step body serve) p h q) (h0 : p.Keeping serve Inv Post)
    (hreq : ∀ x ∈ h, ∀ r, x.2 = .request r → R r) :
    (∀ x ∈ h, Inv x.1.store) ∧ Inv q.store := by
  refine ⟨?_, (path_keeping hbody hp h0 hreq).inv⟩
  intro x hx
  have hkeeping := hp.inv_along (Keeping serve Inv Post)
    (fun _ e => ∀ r, e = .request r → R r)
    (fun _ _ _ hp he hs => step_keeping hbody hp he hs) h0 hreq
  exact (hkeeping x hx).inv

/-- A process that throws nothing can be run to the end of the request it
serves. -/
theorem exists_idle {body : κ → ρ → Prog Op Res Empty α} (o : ω) (p : Process κ Op Res Empty α) :
    ∃ h q, Path (step body serve) p h q ∧ q.idle = true ∧ ∀ x ∈ h, x.2.isRequest = false := by
  obtain ⟨s, x⟩ := p
  induction x generalizing s with
  | ret a => exact ⟨[], _, .nil, rfl, by simp⟩
  | throw e => exact e.elim
  | call op k ih =>
      obtain ⟨h, q, hp, hidle, hreq⟩ := ih (serve s op o).2 (serve s op o).1
      refine ⟨_, q, .cons (a := .answer o) rfl hp, hidle, ?_⟩
      exact List.forall_mem_cons.mpr ⟨rfl, hreq⟩

end Process

end OplusHardware.Base
