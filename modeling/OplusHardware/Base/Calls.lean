import OplusHardware.Base.Process

/-!
# Calls from many threads

Threads call into one object. A call is a program of operations, and the
programs of the calls in progress interleave operation by operation; the
environment decides how each operation ends (`ω`). Every thread makes one
call at a time.

An object is linearizable when its users cannot tell it from one whose
calls take effect at once, some time between their invocation and their
answer. What a call may answer depends on how its own operations ended, so
these are noted with it and shown with its answer. `linearizable` asks for
one look at each operation: it leaves the abstract value as it is and the
call goes on, or it ends the call with the effect the call is to have.
-/

namespace OplusHardware.Base

universe u v

/-! ## Runs that show the same -/

/-- **The refinement rule**: when every step is matched by one that shows
the same, or shows nothing and is matched by none, every run is matched by
a run that shows the same. -/
theorem Path.refines {σ τ : Type u} {α β : Type v} {γ : Type} {step : σ → α → Option σ}
    {step' : τ → β → Option τ} {show' : σ × α → List γ} {shown : τ × β → List γ}
    {R : σ → τ → Prop} {s t : σ} {s' : τ} {h : List (σ × α)}
    (hstep : ∀ t a u t', R t t' → step t a = some u →
      (show' (t, a) = [] ∧ R u t') ∨
        ∃ b u', step' t' b = some u' ∧ shown (t', b) = show' (t, a) ∧ R u u')
    (hp : Path step s h t) (h0 : R s s') :
    ∃ h' t', Path step' s' h' t' ∧ R t t' ∧ h'.flatMap shown = h.flatMap show' := by
  induction hp with
  | nil => exact ⟨[], s', .nil, h0, rfl⟩
  | snoc _ hs ih =>
      obtain ⟨h', t', hp', hr, hshow⟩ := ih
      rcases hstep _ _ _ _ hr hs with ⟨hnone, hu⟩ | ⟨b, u', hs', hsame, hu⟩
      · exact ⟨h', t', hp', hu, by simp [hshow, hnone]⟩
      · exact ⟨_, u', hp'.snoc hs', hu, by simp [hshow, hsame]⟩

/-! ## Threads and their calls -/

/-- Where a thread is: between calls, in one at `x`, or back from one with
its answer. `os` is how the operations of the call have ended so far. -/
inductive Calling (C χ ω β : Type) where
  | idle
  | pending (c : C) (x : χ) (os : List ω)
  | answered (c : C) (os : List ω) (b : β)

/-- A call goes on, or is answered. -/
def Calling.next {C χ ω β : Type} (c : C) (os : List ω) : χ ⊕ β → Calling C χ ω β
  | .inl x => .pending c x os
  | .inr b => .answered c os b

/-- How the calls `C` of an object go: where one starts, and what its next
operation does to the store. -/
structure Object (κ C χ ω β : Type) where
  start : C → χ
  move : κ → χ → ω → Option (κ × (χ ⊕ β))

/-- A store, and the threads that call. -/
structure Callers (ι κ C χ ω β : Type) where
  store : κ
  thread : ι → Calling C χ ω β

inductive CallEvent (ι C ω : Type) where
  | invoke (i : ι) (c : C)
  /-- the next operation of the call of `i` -/
  | act (i : ι) (o : ω)
  /-- thread `i` takes its answer -/
  | collect (i : ι)

/-- What the threads see, with the ends of the operations of each call. -/
inductive Interaction (ι C ω β : Type) where
  | invoked (i : ι) (c : C)
  | answered (i : ι) (c : C) (os : List ω) (b : β)
  deriving DecidableEq, Repr

variable {ι κ σ C χ ω ω' β Op ε α : Type} {Res : Op → Type}

/-- An event, as the threads see it. -/
def seen (x : Callers ι κ C χ ω β × CallEvent ι C ω') : List (Interaction ι C ω β) :=
  match x.2 with
  | .invoke i c => [.invoked i c]
  | .act _ _ => []
  | .collect i =>
      match x.1.thread i with
      | .answered c os b => [.answered i c os b]
      | _ => []

namespace Object

/-- What is left of a program: operations, or an answer. -/
def rest : Prog Op Res ε α → Prog Op Res ε α ⊕ Except ε α
  | .ret a => .inr (.ok a)
  | .throw e => .inr (.error e)
  | .call op k => .inl (.call op k)

/-- The object whose calls are programs. -/
def ofProg (body : C → Prog Op Res ε α) (serve : κ → (op : Op) → ω → κ × Res op) :
    Object κ C (Prog Op Res ε α) ω (Except ε α) where
  start := body
  move s x o :=
    match x with
    | .call op k => some ((serve s op o).1, rest (k (serve s op o).2))
    | .ret _ => none
    | .throw _ => none

variable [DecidableEq ι]

def step (ob : Object κ C χ ω β) (s : Callers ι κ C χ ω β) :
    CallEvent ι C ω → Option (Callers ι κ C χ ω β)
  | .invoke i c =>
      match s.thread i with
      | .idle => some ⟨s.store, Function.update s.thread i (.pending c (ob.start c) [])⟩
      | _ => none
  | .act i o =>
      match s.thread i with
      | .pending c x os =>
          (ob.move s.store x o).map fun r =>
            ⟨r.1, Function.update s.thread i (.next c (os ++ [o]) r.2)⟩
      | _ => none
  | .collect i =>
      match s.thread i with
      | .answered _ _ _ => some ⟨s.store, Function.update s.thread i .idle⟩
      | _ => none

/-- The object whose calls take effect at once: a call whose operations
ended as `os` may answer `b` where `spec` allows it, and has the effect that
`spec` says. -/
def atomicStep (spec : σ → C → List ω → β → Option σ) (s : Callers ι σ C Unit ω β) :
    CallEvent ι C (List ω × β) → Option (Callers ι σ C Unit ω β)
  | .invoke i c =>
      match s.thread i with
      | .idle => some ⟨s.store, Function.update s.thread i (.pending c () [])⟩
      | _ => none
  | .act i (os, b) =>
      match s.thread i with
      | .pending c _ _ =>
          (spec s.store c os b).map fun s' =>
            ⟨s', Function.update s.thread i (.answered c os b)⟩
      | _ => none
  | .collect i =>
      match s.thread i with
      | .answered _ _ _ => some ⟨s.store, Function.update s.thread i .idle⟩
      | _ => none

/-- Nobody has called yet. -/
def fresh (s : κ) : Callers ι κ C χ ω β := ⟨s, fun _ => .idle⟩

/-- **The ways a step goes.** -/
inductive StepCase (ob : Object κ C χ ω β) (s : Callers ι κ C χ ω β) :
    CallEvent ι C ω → Callers ι κ C χ ω β → Prop where
  | invoke {i : ι} (c : C) (hi : s.thread i = .idle) :
      StepCase ob s (.invoke i c)
        ⟨s.store, Function.update s.thread i (.pending c (ob.start c) [])⟩
  | act {i : ι} {c : C} {x : χ} {os : List ω} (o : ω) {s' : κ} {r : χ ⊕ β}
      (hi : s.thread i = .pending c x os) (hmove : ob.move s.store x o = some (s', r)) :
      StepCase ob s (.act i o)
        ⟨s', Function.update s.thread i (.next c (os ++ [o]) r)⟩
  | collect {i : ι} {c : C} {os : List ω} {b : β} (hi : s.thread i = .answered c os b) :
      StepCase ob s (.collect i) ⟨s.store, Function.update s.thread i .idle⟩

theorem step_cases {ob : Object κ C χ ω β} {s t : Callers ι κ C χ ω β} {e : CallEvent ι C ω}
    (hs : ob.step s e = some t) : StepCase ob s e t := by
  cases e with
  | invoke i c =>
      cases hi : s.thread i with
      | idle =>
          simp only [step, hi, Option.some.injEq] at hs
          subst hs
          exact .invoke c hi
      | pending c' x os => simp [step, hi] at hs
      | answered c' os b => simp [step, hi] at hs
  | act i o =>
      cases hi : s.thread i with
      | pending c x os =>
          simp only [step, hi, Option.map_eq_some_iff] at hs
          obtain ⟨⟨s', r⟩, hmove, rfl⟩ := hs
          exact .act o hi hmove
      | idle => simp [step, hi] at hs
      | answered c os b => simp [step, hi] at hs
  | collect i =>
      cases hi : s.thread i with
      | answered c os b =>
          simp only [step, hi, Option.some.injEq] at hs
          subst hs
          exact .collect hi
      | idle => simp [step, hi] at hs
      | pending c x os => simp [step, hi] at hs

/-! ## Linearizability -/

/-- A thread and its counterpart at the atomic object: the call in progress
has not taken effect. -/
inductive Matches (Pending : C → χ → List ω → Prop) :
    Calling C χ ω β → Calling C Unit ω β → Prop where
  | idle : Matches Pending .idle .idle
  | pending {c : C} {x : χ} {os : List ω} (hx : Pending c x os) :
      Matches Pending (.pending c x os) (.pending c () [])
  | answered (c : C) (os : List ω) (b : β) :
      Matches Pending (.answered c os b) (.answered c os b)

/-- The states of the two objects that belong together. -/
structure Simulates (abs : κ → σ) (Pending : C → χ → List ω → Prop)
    (s : Callers ι κ C χ ω β) (a : Callers ι σ C Unit ω β) : Prop where
  store : a.store = abs s.store
  thread : ∀ i, Matches Pending (s.thread i) (a.thread i)

section Linearize

variable {abs : κ → σ} {Pending : C → χ → List ω → Prop} {ob : Object κ C χ ω β}
  {spec : σ → C → List ω → β → Option σ} {s t : Callers ι κ C χ ω β}
  {a : Callers ι σ C Unit ω β}

/-- **One operation**: the call goes on and nothing has happened, or it is
answered with an effect and an answer that are allowed. -/
def Outcome (abs : κ → σ) (Pending : C → χ → List ω → Prop)
    (spec : σ → C → List ω → β → Option σ) (c : C) (os : List ω) (s s' : κ) (r : χ ⊕ β) :
    Prop :=
  (∃ x', r = .inl x' ∧ Pending c x' os ∧ abs s' = abs s) ∨
    ∃ b, r = .inr b ∧ spec (abs s) c os b = some (abs s')

/-- The thread that moves, and the others. -/
theorem Simulates.update (hsim : Simulates abs Pending s a) {i : ι} {s' : κ} {a' : σ}
    {x : Calling C χ ω β} {y : Calling C Unit ω β} (hstore : a' = abs s')
    (hxy : Matches Pending x y) :
    Simulates abs Pending ⟨s', Function.update s.thread i x⟩
      ⟨a', Function.update a.thread i y⟩ where
  store := hstore
  thread := by
    intro j
    by_cases hj : j = i
    · subst hj
      simpa using hxy
    · simpa [hj] using hsim.thread j

/-- A step, and the step of the atomic object that shows the same. -/
theorem Simulates.step (hstart : ∀ c, Pending c (ob.start c) [])
    (hmove : ∀ s c x os o s' r, Pending c x os → ob.move s x o = some (s', r) →
      Outcome abs Pending spec c (os ++ [o]) s s' r)
    (hsim : Simulates abs Pending s a) {e : CallEvent ι C ω} (hs : ob.step s e = some t) :
    (seen (s, e) = [] ∧ Simulates abs Pending t a) ∨
      ∃ e' a', atomicStep spec a e' = some a' ∧ seen (a, e') = seen (s, e) ∧
        Simulates abs Pending t a' := by
  cases step_cases hs with
  | @invoke i c hi =>
      have hthread := hsim.thread i
      rw [hi] at hthread
      generalize ha : a.thread i = y at hthread
      cases hthread with
      | idle =>
          refine .inr ⟨.invoke i c, ⟨a.store, Function.update a.thread i (.pending c () [])⟩,
            ?_, rfl, hsim.update hsim.store (.pending (hstart c))⟩
          simp only [atomicStep, ha]
  | @act i c x os o s' r hi hr =>
      have hthread := hsim.thread i
      rw [hi] at hthread
      generalize ha : a.thread i = y at hthread
      cases hthread with
      | pending hx =>
          rcases hmove _ _ _ _ _ _ _ hx hr with ⟨x', rfl, hx', habs⟩ | ⟨b, rfl, hspec⟩
          · -- the call goes on, and nothing can be seen of it
            refine .inl ⟨rfl, ?_⟩
            have hstay := hsim.update (i := i) (x := Calling.pending c x' (os ++ [o]))
              (hsim.store.trans habs.symm) (Matches.pending hx')
            rw [← ha, Function.update_eq_self] at hstay
            exact hstay
          · -- the operation that the call takes effect with
            refine .inr ⟨.act i (os ++ [o], b),
              ⟨abs s', Function.update a.thread i (.answered c (os ++ [o]) b)⟩,
              ?_, rfl, hsim.update rfl (.answered c (os ++ [o]) b)⟩
            simp only [atomicStep, ha, hsim.store, hspec]
            rfl
  | @collect i c os b hi =>
      have hthread := hsim.thread i
      rw [hi] at hthread
      generalize ha : a.thread i = y at hthread
      cases hthread with
      | answered =>
          refine .inr ⟨.collect i, ⟨a.store, Function.update a.thread i .idle⟩, ?_, ?_,
            hsim.update hsim.store .idle⟩
          · simp only [atomicStep, ha]
          · simp only [seen, ha, hi]

/-- **Linearizability.** Whatever the threads see of the object, they could
see of the atomic one: the same invocations and the same answers, for the
same ends of the operations, in the same order, with every call taking
effect between its invocation and its answer. -/
theorem linearizable (hstart : ∀ c, Pending c (ob.start c) [])
    (hmove : ∀ s c x os o s' r, Pending c x os → ob.move s x o = some (s', r) →
      Outcome abs Pending spec c (os ++ [o]) s s' r)
    {k : κ} {h : List (Callers ι κ C χ ω β × CallEvent ι C ω)}
    (hp : Path ob.step (fresh k) h t) :
    ∃ h' t', Path (atomicStep spec) (fresh (abs k)) h' t' ∧ t'.store = abs t.store ∧
      h'.flatMap seen = h.flatMap seen := by
  have hfresh : Simulates abs Pending (fresh k : Callers ι κ C χ ω β) (fresh (abs k)) :=
    ⟨rfl, fun _ => .idle⟩
  have hstep : ∀ (t : Callers ι κ C χ ω β) e u (a : Callers ι σ C Unit ω β),
      Simulates abs Pending t a → ob.step t e = some u →
      (seen (t, e) = [] ∧ Simulates abs Pending u a) ∨
        ∃ e' a', atomicStep spec a e' = some a' ∧ seen (a, e') = seen (t, e) ∧
          Simulates abs Pending u a' := by
    intro t e u a hsim hs
    exact hsim.step hstart hmove hs
  obtain ⟨h', t', hp', hsim, hseen⟩ := hp.refines hstep hfresh
  exact ⟨h', t', hp', hsim.store, hseen⟩

end Linearize

end Object

end OplusHardware.Base
