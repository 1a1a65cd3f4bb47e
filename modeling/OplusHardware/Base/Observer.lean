import OplusHardware.Base.Process

/-!
# Observers

An observer is told of every request a process takes up and of every call
it makes, with the way the call ends, and keeps what it needs of them. It
does not act on the process: what it keeps at the end of a run is a
function of the history.

A program keeps an invariant beside an observer if it keeps it in the
store that carries both, which is how facts about a run are stated that
the state of the process has forgotten.
-/

namespace OplusHardware.Base

variable {κ Op ω ε α ρ γ : Type} {Res : Op → Type}

/-- What is kept of the requests and of the calls, by the store they meet. -/
structure Observer (κ Op ω ρ γ : Type) where
  take : κ → ρ → γ → γ
  note : κ → Op → ω → γ → γ

namespace Observer

/-- What is kept after one step of a process. -/
def see (ob : Observer κ Op ω ρ γ) (g : γ) (x : Process κ Op Res ε α × ProcessEvent ρ ω) : γ :=
  match x.2, x.1.prog with
  | .request r, _ => ob.take x.1.store r g
  | .answer o, .call op _ => ob.note x.1.store op o g
  | .answer _, .ret _ => g
  | .answer _, .throw _ => g

/-- What is kept after a run, from `g` on. -/
def after (ob : Observer κ Op ω ρ γ) (g : γ)
    (h : List (Process κ Op Res ε α × ProcessEvent ρ ω)) : γ :=
  h.foldl ob.see g

/-- The calls are served, and noted. -/
def serve (ob : Observer κ Op ω ρ γ) (serve : κ → (op : Op) → ω → κ × Res op) (s : κ × γ)
    (op : Op) (o : ω) : (κ × γ) × Res op :=
  (((serve s.1 op o).1, ob.note s.1 op o s.2), (serve s.1 op o).2)

variable {ob : Observer κ Op ω ρ γ} {body : κ → ρ → Prog Op Res ε α}
  {serve : κ → (op : Op) → ω → κ × Res op} {Inv : κ × γ → Prop} {Post : κ × γ → α → Prop}
  {p q : Process κ Op Res ε α} {h : List (Process κ Op Res ε α × ProcessEvent ρ ω)} {g : γ}

theorem after_append (h h' : List (Process κ Op Res ε α × ProcessEvent ρ ω)) :
    ob.after g (h ++ h') = ob.after (ob.after g h) h' :=
  List.foldl_append

/-- The program the process runs keeps `Inv` beside the observer, and
returns with `Post`. -/
def Keeping (ob : Observer κ Op ω ρ γ) (serve : κ → (op : Op) → ω → κ × Res op)
    (Inv : κ × γ → Prop) (Post : κ × γ → α → Prop) (g : γ) (p : Process κ Op Res ε α) : Prop :=
  p.prog.Keeps (ob.serve serve) Inv Post (p.store, g)

/-- An idle process has the invariant and the condition of its last
program. -/
theorem Keeping.of_idle (hp : ob.Keeping serve Inv Post g p) (hidle : p.idle = true) :
    Inv (p.store, g) ∧ ∃ a, p.prog = .ret a ∧ Post (p.store, g) a := by
  obtain ⟨s, x⟩ := p
  cases x with
  | ret a => exact ⟨hp.1, a, rfl, hp.2⟩
  | throw e => cases hidle
  | call op k => cases hidle

theorem keeping_of_idle (hidle : p.idle = true) (hinv : Inv (p.store, g))
    (hpost : ∀ a, Post (p.store, g) a) : ob.Keeping serve Inv Post g p := by
  obtain ⟨s, x⟩ := p
  cases x with
  | ret a => exact ⟨hinv, hpost a⟩
  | throw e => cases hidle
  | call op k => cases hidle

theorem step_keeping {e : ProcessEvent ρ ω}
    (hbody : ∀ s g a r, Inv (s, g) → Post (s, g) a → e = .request r →
      (body s r).Keeps (ob.serve serve) Inv Post (s, ob.take s r g))
    (hp : ob.Keeping serve Inv Post g p) (hs : Process.step body serve p e = some q) :
    ob.Keeping serve Inv Post (ob.see g (p, e)) q := by
  obtain ⟨s, x⟩ := p
  cases e with
  | request r =>
      cases x with
      | ret a =>
          cases hs
          exact hbody s g a r hp.1 hp.2 rfl
      | call op k => cases hs
      | throw e => cases hs
  | answer o =>
      cases x with
      | call op k =>
          cases hs
          exact hp.2 o
      | ret a => cases hs
      | throw e => cases hs

/-- **The process rule, beside an observer**: a request starts from what
the one before it returned with. -/
theorem path_keeping {R : ρ → Prop}
    (hbody : ∀ s g a r, Inv (s, g) → Post (s, g) a → R r →
      (body s r).Keeps (ob.serve serve) Inv Post (s, ob.take s r g))
    (hp : Path (Process.step body serve) p h q) (h0 : ob.Keeping serve Inv Post g p)
    (hreq : ∀ x ∈ h, ∀ r, x.2 = .request r → R r) :
    ob.Keeping serve Inv Post (ob.after g h) q := by
  apply hp.history_inv (fun h p => ob.Keeping serve Inv Post (ob.after g h) p)
    (fun _ e => ∀ r, e = .request r → R r) _ h0 hreq
  intro h t e u ht he hs
  rw [after_append]
  exact step_keeping (fun s g a r hi hpost hr => hbody s g a r hi hpost (he r hr)) ht hs

end Observer

end OplusHardware.Base
