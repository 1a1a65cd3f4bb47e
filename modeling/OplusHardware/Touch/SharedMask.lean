import Mathlib.Data.Fintype.Basic
import OplusHardware.Base.SharedWord
import OplusHardware.Touch.TouchscreenGesture

/-!
# Touch — two HALs on one mask

The touch HAL and the power HAL both keep bits of the mask in
`DOUBLE_TAP_INDEP_NODE`, and both change a bit by reading the node,
changing the copy and writing it back. Nothing orders the calls of the
two processes.
-/

namespace OplusHardware.Touch

open OplusHardware.Base

/-! ## The power HAL -/

/-- The modes of the Power HAL, by whether this code handles them. -/
inductive Mode where
  | doubleTapToWake
  | other (value : Int32)
  deriving DecidableEq, Repr

/-- `setDeviceSpecificMode`: whether the mode is handled here. -/
def setDeviceSpecificMode (type : Mode) (enabled : Bool) : TouchProg Bool :=
  match type with
  | .doubleTapToWake => do
      let tmp ← touchReadNodeFile defaultTpIcId doubleTapIndepNode
      let read ← .ofExcept (stoi16 tmp)
      let contents := if enabled then read ||| doubleTapGesture
        else read &&& ~~~doubleTapGesture
      touchWriteNodeFile defaultTpIcId doubleTapEnableNode ['1']
      touchWriteNodeFile defaultTpIcId doubleTapIndepNode (toText contents.toInt)
      return true
  | .other _ => return false

/-! ## The service -/

/-- The service on the mask node: it renders the mask in base 16 and
parses what is written in base 10. Other nodes hold no mask, and the
files are not its own. -/
def serve (mask : BitVec 32) : (op : TouchOp) → BitVec 32 × op.Res
  | .touchReadNodeFile _ node =>
      (mask, if node = doubleTapIndepNode then Nat.toDigits 16 mask.toNat else [])
  | .touchWriteNodeFile _ node info =>
      if node = doubleTapIndepNode then
        match strtol 10 info with
        | some (v, _) => (BitVec.ofInt 32 v, ())
        | none => (mask, ())
      else (mask, ())
  | .readFileToString _ => (mask, none)
  | .writeStringToFile _ _ => (mask, false)

theorem serve_read {mask : BitVec 32} :
    serve mask (.touchReadNodeFile defaultTpIcId doubleTapIndepNode) =
      (mask, Nat.toDigits 16 mask.toNat) := rfl

theorem serve_enable {mask : BitVec 32} {info : List Char} :
    serve mask (.touchWriteNodeFile defaultTpIcId doubleTapEnableNode info) =
      (mask, ()) := rfl

/-- What the HALs write is what the service stores. -/
theorem serve_write {mask contents : BitVec 32} :
    serve mask (.touchWriteNodeFile defaultTpIcId doubleTapIndepNode
      (toText contents.toInt)) = (contents, ()) := by
  rw [serve, if_pos rfl, strtol_toText_int]
  simp only [BitVec.ofInt_toInt]

/-! ## One read–modify–write -/

section

variable {k : Nat} {value : Bool} {X : TouchProg Unit}

/-- The two writes that end a call. -/
def writeBack (contents : BitVec 32) (rest : TouchProg Unit) : TouchProg Unit :=
  .call (.touchWriteNodeFile defaultTpIcId doubleTapEnableNode ['1']) fun _ =>
    .call (.touchWriteNodeFile defaultTpIcId doubleTapIndepNode
      (toText contents.toInt)) fun _ => rest

/-- A call of either HAL, and what its process does next. -/
def maskUpdate (k : Nat) (value : Bool) (rest : TouchProg Unit) : TouchProg Unit :=
  .call (.touchReadNodeFile defaultTpIcId doubleTapIndepNode) fun tmp =>
    Prog.ofExcept (stoi16 tmp) >>= fun contents => writeBack (setBit contents k value) rest

/-- **`setGestureEnabled` on a gesture of the panel** is a
read–modify–write of its bit. -/
theorem setGestureEnabled_bind {g : Gesture} {id : KGesture}
    (hg : g.keycode = kGestureStartKey + .ofNat id.id) :
    (setGestureEnabled true g value >>= fun _ => X) = maskUpdate id.id value X := by
  have hshift : shl1 (g.keycode.toInt - kGestureStartKey.toInt) = .ok (1#32 <<< id.id) := by
    have hlt := id.id_lt
    rw [hg, keycode_toInt, shl1_ofNat (by omega)]
  refine congrArg (Prog.call _) (funext fun tmp => ?_)
  cases hread : stoi16 tmp with
  | error e => simp [hread, Prog.ofExcept]
  | ok contents =>
      simp only [hread, hshift, Prog.ofExcept, Prog.bind_eq, Prog.ret_bind, pure_bind]
      cases value <;> rfl

/-- **`setDeviceSpecificMode`** is a read–modify–write of the double-tap
bit. -/
theorem setDeviceSpecificMode_bind :
    (setDeviceSpecificMode .doubleTapToWake value >>= fun _ => X) =
      maskUpdate KGesture.doubleTap.id value X := by
  refine congrArg (Prog.call _) (funext fun tmp => ?_)
  cases hread : stoi16 tmp with
  | error e => simp [hread, Prog.ofExcept]
  | ok contents =>
      simp only [hread, Prog.ofExcept, Prog.bind_eq, Prog.ret_bind]
      cases value <;> rfl

end

/-! ## The two processes -/

inductive Client where
  | touch
  | power
  deriving DecidableEq, Repr

instance : Fintype Client := ⟨{.touch, .power}, fun p => by cases p <;> decide⟩

/-- The mask and the two processes at work on it. -/
abbrev Shared := Parallel Client (BitVec 32) TouchOp TouchOp.Res Fault

/-- One node read or write of one process. -/
def step (s : Shared) (p : Client) : Option Shared := Parallel.step serve s p

def touchCalls (requests : List (Gesture × Bool)) : TouchProg Unit :=
  Prog.sequence (fun r => setGestureEnabled true r.1 r.2) requests

def powerCalls (modes : List Bool) : TouchProg Unit :=
  Prog.sequence (fun e => setDeviceSpecificMode .doubleTapToWake e) modes

/-- The two processes before their first call. -/
def start (mask : BitVec 32) (requests : List (Gesture × Bool)) (modes : List Bool) :
    Shared :=
  ⟨mask, fun
    | .touch => touchCalls requests
    | .power => powerCalls modes⟩

/-- All calls have returned. -/
def finished (s : Shared) : Prop := ∀ p, (s.prog p).isRet = true

instance (s : Shared) : Decidable (finished s) :=
  inferInstanceAs (Decidable (∀ p, (s.prog p).isRet = true))

/-- The process has read the mask and not yet written it back. -/
def holdsCopy : TouchProg Unit → Bool
  | .call (.touchWriteNodeFile ..) _ => true
  | _ => false

/-- The process is about to write the mask. -/
def writesMask : TouchProg Unit → Bool
  | .call (.touchWriteNodeFile _ node _) _ => node = doubleTapIndepNode
  | _ => false

/-- The step is a mask write of `p`. Every call makes one. -/
def writes (p : Client) (x : Shared × Client) : Bool :=
  x.2 = p && writesMask (x.1.prog p)

/-- **The mask write of call `n` of `p` does not fall into a window**: when
it is made, no other process is between its read and its write. -/
def ClearWrite (p : Client) (n : Nat) (h : List (Shared × Client)) : Prop :=
  ∀ before x after, h = before ++ x :: after → writes p x = true →
    before.countP (writes p) = n → ∀ q, q ≠ p → holdsCopy (x.1.prog q) = false

instance (p : Client) (n : Nat) (h : List (Shared × Client)) : Decidable (ClearWrite p n h) :=
  decidable_of_iff (∀ i : Fin h.length, writes p h[i] = true →
      (h.take i).countP (writes p) = n → ∀ q, q ≠ p → holdsCopy (h[i].1.prog q) = false) <| by
    constructor
    · rintro hall before x after rfl
      simpa using hall ⟨before.length, by simp⟩
    · intro hclear i
      exact hclear (h.take i) h[i] (h.drop (i + 1)) (by simp)

/-- The bit a gesture stands for. -/
def gestureBit (g : Gesture) : Nat := (g.keycode.toInt - kGestureStartKey.toInt).toNat

/-! ## Simulation by parties on a shared word -/

/-- A process that still has `us` to do, between two calls. -/
def updates : List (Update Nat Bool) → TouchProg Unit
  | [] => .ret ()
  | u :: us => maskUpdate u.cell u.value (updates us)

theorem touchCalls_eq {requests : List (Gesture × Bool)}
    (hr : ∀ r ∈ requests, r.1 ∈ getSupportedGestures kSupportedGestures) :
    touchCalls requests = updates (requests.map fun r => ⟨gestureBit r.1, r.2⟩) := by
  induction requests with
  | nil => rfl
  | cons r rs ih =>
      obtain ⟨id, -, hid⟩ := mem_getSupportedGestures (hr r (by simp))
      have hbit : gestureBit r.1 = id.id := by
        rw [gestureBit, hid, keycode_toInt, Int.toNat_natCast]
      have ih := ih fun r' hr' => hr r' (by simp [hr'])
      rw [touchCalls] at ih ⊢
      rw [Prog.sequence, ih, setGestureEnabled_bind hid]
      simp only [List.map_cons, updates, hbit]

theorem powerCalls_eq (modes : List Bool) :
    powerCalls modes = updates (modes.map fun e => ⟨KGesture.doubleTap.id, e⟩) := by
  induction modes with
  | nil => rfl
  | cons e es ih =>
      rw [powerCalls] at ih ⊢
      rw [Prog.sequence, ih, setDeviceSpecificMode_bind]
      rfl

/-- Where a process is in its list of updates. -/
inductive Runs : TouchProg Unit → Worker Nat Bool → Prop where
  | idle (us : List (Update Nat Bool)) : Runs (updates us) ⟨us, none⟩
  | read (u : Update Nat Bool) (us : List (Update Nat Bool)) (contents : BitVec 32)
      (h : contents.toNat < 2 ^ 31) :
      Runs (writeBack contents (updates us)) ⟨u :: us, some contents.getLsbD⟩
  | armed (u : Update Nat Bool) (us : List (Update Nat Bool)) (contents : BitVec 32)
      (h : contents.toNat < 2 ^ 31) :
      Runs (.call (.touchWriteNodeFile defaultTpIcId doubleTapIndepNode
          (toText contents.toInt)) fun _ => updates us)
        ⟨u :: us, some contents.getLsbD⟩

/-- The processes and the service are a shared word and its parties. -/
structure Simulates (s : Shared) (a : SharedWord Nat Bool Client) : Prop where
  word : a.word = s.store.getLsbD
  bounded : s.store.toNat < 2 ^ 31
  runs : ∀ p, Runs (s.prog p) (a.worker p)
  cells : ∀ p, ∀ u ∈ (a.worker p).todo, u.cell < 31

theorem Runs.holdsCopy_iff {x : TouchProg Unit} {w : Worker Nat Bool} (h : Runs x w) :
    holdsCopy x = true ↔ w.held ≠ none := by
  cases h with
  | idle us => cases us <;> simp [updates, maskUpdate, holdsCopy]
  | read u us contents h => simp [writeBack, holdsCopy]
  | armed u us contents h => simp [holdsCopy]

/-- The state after a step, when the process moves and the word may
change. -/
theorem Simulates.move {s t : Shared} {a b : SharedWord Nat Bool Client} {p : Client}
    (hr : Simulates s a) (hother : ∀ q, q ≠ p → t.prog q = s.prog q)
    (hother' : ∀ q, q ≠ p → b.worker q = a.worker q)
    (hword : b.word = t.store.getLsbD) (hb : t.store.toNat < 2 ^ 31)
    (hp : Runs (t.prog p) (b.worker p))
    (hcells : ∀ u ∈ (b.worker p).todo, u.cell < 31) : Simulates t b where
  word := hword
  bounded := hb
  runs := by
    intro q
    by_cases hq : q = p
    · rw [hq]
      exact hp
    · rw [hother q hq, hother' q hq]
      exact hr.runs q
  cells := by
    intro q
    by_cases hq : q = p
    · rw [hq]
      exact hcells
    · rw [hother' q hq]
      exact hr.cells q

/-- **One step**: the read and the mask write of a call are the two steps
of a party, the write of the enable node is none. -/
theorem Simulates.step {s t : Shared} {a : SharedWord Nat Bool Client} {p : Client}
    (hr : Simulates s a) (hs : step s p = some t) :
    (Simulates t a ∧ writesMask (s.prog p) = false) ∨
      ∃ b, SharedWord.step a p = some b ∧ Simulates t b ∧
        writesMask (s.prog p) = (a.worker p).held.isSome := by
  obtain ⟨op, k, hcall, hstore, hprog, hother⟩ := Parallel.step_inv hs
  have hrun := hr.runs p
  rw [hcall] at hrun
  have hcells := hr.cells p
  generalize hw : a.worker p = w at hrun hcells
  generalize hx : (Prog.call op k : TouchProg Unit) = x at hrun
  cases hrun with
  | idle us =>
      cases us with
      | nil => cases hx
      | cons u us =>
          -- the read: the process goes on with the changed copy
          cases hx
          have hk : u.cell < 31 := hcells u (by simp)
          refine .inr ⟨⟨a.word, Function.update a.worker p ⟨u :: us,
            some (Function.update a.word u.cell u.value)⟩⟩, ?_, ?_, ?_⟩
          · simp [SharedWord.step, hw]
          · have hround : stoi16 (Nat.toDigits 16 s.store.toNat ++ []) = _ :=
              stoi16_renders (renders_toDigits (by omega) (by omega) _ (by simp)) hr.bounded
            rw [List.append_nil] at hround
            refine hr.move hother (fun r hr' => Function.update_of_ne hr' _ _) ?_ ?_ ?_ ?_
            · rw [hstore, serve_read, hr.word]
            · rw [hstore, serve_read]
              exact hr.bounded
            · simp only [hprog, serve_read, hround, Prog.ofExcept, Prog.ret_bind,
                Function.update_self, hr.word]
              rw [← getLsbD_setBit (by omega)]
              exact .read u us _ (setBit_lt hk hr.bounded)
            · simpa using hcells
          · rw [hcall]
            rfl
  | read u us contents h =>
      -- the write of the enable node leaves the mask as it is
      cases hx
      refine .inl ⟨hr.move hother (fun _ _ => rfl) ?_ ?_ ?_ ?_, by rw [hcall]; rfl⟩
      · rw [hstore, serve_enable, hr.word]
      · rw [hstore, serve_enable]
        exact hr.bounded
      · rw [hprog, hw]
        exact .armed u us contents h
      · rwa [hw]
  | armed u us contents h =>
      -- the mask write stores the copy
      cases hx
      refine .inr ⟨⟨contents.getLsbD, Function.update a.worker p ⟨us, none⟩⟩, ?_, ?_, ?_⟩
      · simp [SharedWord.step, hw]
      · refine hr.move hother (fun r hr' => Function.update_of_ne hr' _ _) ?_ ?_ ?_ ?_
        · rw [hstore, serve_write]
        · rw [hstore, serve_write]
          exact h
        · rw [hprog]
          simpa using Runs.idle us
        · simp only [Function.update_self]
          exact fun u' hu' => hcells u' (by simp [hu'])
      · rw [hcall]
        rfl

/-! ## Whole runs -/

/-- What the two processes have to do, as updates of bits. -/
def todo (requests : List (Gesture × Bool)) (modes : List Bool) :
    Client → List (Update Nat Bool)
  | .touch => requests.map fun r => ⟨gestureBit r.1, r.2⟩
  | .power => modes.map fun e => ⟨KGesture.doubleTap.id, e⟩

/-- The parties before their first step. -/
def parties (mask : BitVec 32) (requests : List (Gesture × Bool)) (modes : List Bool) :
    SharedWord Nat Bool Client :=
  ⟨mask.getLsbD, fun p => ⟨todo requests modes p, none⟩⟩

variable {mask : BitVec 32} {requests : List (Gesture × Bool)} {modes : List Bool}
  {h : List (Shared × Client)} {t : Shared}

/-- A supported gesture has a bit of its own, which is not the bit of the
power HAL. -/
theorem gestureBit_supported {g : Gesture}
    (hg : g ∈ getSupportedGestures kSupportedGestures) :
    gestureBit g < 31 ∧ gestureBit g ≠ KGesture.doubleTap.id := by
  obtain ⟨id, hid, hkey⟩ := mem_getSupportedGestures hg
  have hbit : gestureBit g = id.id := by
    rw [gestureBit, hkey, keycode_toInt, Int.toNat_natCast]
  refine ⟨by have := id.id_lt; omega, fun h => ?_⟩
  rw [hbit] at h
  rw [h] at hid
  exact absurd hid (by decide)

theorem simulates_start (hmask : mask.toNat < 2 ^ 31)
    (hr : ∀ r ∈ requests, r.1 ∈ getSupportedGestures kSupportedGestures) :
    Simulates (start mask requests modes) (parties mask requests modes) where
  word := rfl
  bounded := hmask
  runs := by
    intro p
    cases p with
    | touch =>
        rw [start, touchCalls_eq hr]
        exact .idle _
    | power =>
        rw [start, powerCalls_eq]
        exact .idle _
  cells := by
    intro p u hu
    cases p with
    | touch =>
        obtain ⟨r, hmem, rfl⟩ := List.mem_map.mp hu
        exact (gestureBit_supported (hr r hmem)).1
    | power =>
        obtain ⟨e, -, rfl⟩ := List.mem_map.mp hu
        show KGesture.doubleTap.id < 31
        decide

theorem Runs.todo_of_isRet {x : TouchProg Unit} {w : Worker Nat Bool} (h : Runs x w)
    (hx : x.isRet = true) : w.todo = [] := by
  cases h with
  | idle us =>
      cases us with
      | nil => rfl
      | cons u us => cases hx
  | read u us contents h => cases hx
  | armed u us contents h => cases hx

theorem ClearWrite.of_append {p : Client} {n : Nat} {h' : List (Shared × Client)}
    (hclear : ClearWrite p n (h ++ h')) : ClearWrite p n h := by
  rintro before x after rfl
  exact hclear before x (after ++ h') (by simp)

/-- A run of the processes beside one of the parties: a party has an update
less to do after each mask write of its process, and `p` has written into no
window where it had `k` of its `total` updates left. -/
structure Beside (p : Client) (k total : Nat) (h : List (Shared × Client)) (t : Shared)
    (h' : List (SharedWord Nat Bool Client × Client)) (b : SharedWord Nat Bool Client) :
    Prop where
  simulates : Simulates t b
  clear : ∀ x ∈ h', SharedWord.clear p k x.1 x.2
  count : h.countP (writes p) + (b.worker p).todo.length = total

variable {s : Shared} {p q : Client} {n k total : Nat}
  {h' : List (SharedWord Nat Bool Client × Client)} {a b : SharedWord Nat Bool Client}

/-- The write that `ClearWrite` speaks of is the one `SharedWord.clear`
speaks of. -/
theorem Beside.clear_step (hi : Beside p k total h s h' a) (hk : n + k = total)
    (hclear : ClearWrite p n (h ++ [(s, q)]))
    (hwrites : writesMask (s.prog q) = (a.worker q).held.isSome) :
    SharedWord.clear p k a q := by
  rintro rfl hheld hlength r hrq
  have hmark : writes q (s, q) = true := by
    rw [← Option.isSome_iff_ne_none, ← hwrites] at hheld
    simp [writes, hheld]
  have hbefore : h.countP (writes q) = n := by
    have hcount := hi.count
    omega
  have hfree := hclear h (s, q) [] rfl hmark hbefore r hrq
  have hiff := (hi.simulates.runs r).holdsCopy_iff
  rw [hfree] at hiff
  simpa using hiff

theorem Beside.step (hi : Beside p k total h s h' a) (hk : n + k = total)
    (hclear : ClearWrite p n (h ++ [(s, q)])) (hs : step s q = some t) :
    Beside p k total (h ++ [(s, q)]) t h' a ∨
      ∃ b, SharedWord.step a q = some b ∧
        Beside p k total (h ++ [(s, q)]) t (h' ++ [(a, q)]) b := by
  have hcount := hi.count
  rcases hi.simulates.step hs with ⟨hu, hno⟩ | ⟨b, hb, hu, hwrites⟩
  · refine .inl ⟨hu, hi.clear, ?_⟩
    have hidle : writes p (s, q) = false := by
      by_cases hqp : q = p
      · simp [writes, ← hqp, hno]
      · simp [writes, hqp]
    rw [countP_snoc, hidle]
    exact hcount
  · have hstep : (b.worker p).todo.length + (writes p (s, q)).toNat =
        (a.worker p).todo.length := by
      by_cases hqp : q = p
      · subst hqp
        rw [← SharedWord.step_length hb, ← hwrites]
        simp [writes]
      · rw [(SharedWord.step_cases hb).2 p (Ne.symm hqp)]
        simp [writes, hqp]
    refine .inr ⟨b, hb, hu, ?_, by rw [countP_snoc]; omega⟩
    intro x hx
    rcases List.mem_append.mp hx with hx | hx
    · exact hi.clear x hx
    · cases List.mem_singleton.mp hx
      exact hi.clear_step hk hclear hwrites

/-- Every run of the two processes is a run of the parties. -/
theorem run_simulated (p : Client) (hmask : mask.toNat < 2 ^ 31)
    (hr : ∀ r ∈ requests, r.1 ∈ getSupportedGestures kSupportedGestures)
    (hk : n + k = (todo requests modes p).length)
    (hp : Path step (start mask requests modes) h t) (hclear : ClearWrite p n h) :
    ∃ h' b, Path SharedWord.step (parties mask requests modes) h' b ∧
      Beside p k (todo requests modes p).length h t h' b := by
  induction hp with
  | nil => exact ⟨[], _, .nil, simulates_start hmask hr, by simp, Nat.zero_add _⟩
  | snoc _ hs ih =>
      obtain ⟨h', a, hpath, hi⟩ := ih hclear.of_append
      rcases hi.step hk hclear hs with hstill | ⟨b, hb, hnext⟩
      · exact ⟨h', a, hpath, hstill⟩
      · exact ⟨_, b, hpath.snoc hb, hnext⟩

/-- A bit no call targets is unchanged. -/
theorem bit_of_untargeted (hmask : mask.toNat < 2 ^ 31)
    (hr : ∀ r ∈ requests, r.1 ∈ getSupportedGestures kSupportedGestures)
    (hp : Path step (start mask requests modes) h t) {i : Nat}
    (hi : ∀ p, ∀ u ∈ todo requests modes p, u.cell ≠ i) :
    t.store.getLsbD i = mask.getLsbD i := by
  have hstep : ∀ s p u a, Simulates s a → True → step s p = some u →
      Simulates u a ∨ ∃ q b, True ∧ SharedWord.step a q = some b ∧ Simulates u b := by
    intro s p u a hsim _ hs
    rcases hsim.step hs with ⟨hu, -⟩ | ⟨b, hb, hu, -⟩
    · exact .inl hu
    · exact .inr ⟨p, b, trivial, hb, hu⟩
  obtain ⟨h', b, hp', hsim, -⟩ := Path.simulate (fun _ _ => True) (fun _ _ => True) hstep hp
    (simulates_start hmask hr) fun _ _ => trivial
  rw [← hsim.word]
  exact SharedWord.word_of_untargeted hp' (fun _ => rfl) hi

/-- A bit only one process targets ends as that process's last update of it
leaves it, when the mask write of that update is clear. -/
theorem bit_of_owner (hmask : mask.toNat < 2 ^ 31)
    (hr : ∀ r ∈ requests, r.1 ∈ getSupportedGestures kSupportedGestures)
    (hp : Path step (start mask requests modes) h t) (hdone : finished t) {p : Client}
    {i : Nat} (hi : ∀ q, q ≠ p → ∀ u ∈ todo requests modes q, u.cell ≠ i)
    {us vs : List (Update Nat Bool)} {u : Update Nat Bool}
    (htodo : todo requests modes p = us ++ u :: vs) (hcell : u.cell = i)
    (hlast : ∀ u ∈ vs, u.cell ≠ i) (hclear : ClearWrite p us.length h) :
    t.store.getLsbD i = u.value := by
  obtain ⟨h', b, hp', hbeside⟩ := run_simulated p hmask hr (k := vs.length + 1)
    (by rw [htodo, List.length_append, List.length_cons]) hp hclear
  rw [← hbeside.simulates.word]
  exact SharedWord.word_of_owner hp' (fun _ => rfl) hi htodo hcell hlast hbeside.clear
    ((hbeside.simulates.runs p).todo_of_isRet (hdone p))

/-- **The mask when all calls have returned.** In every interleaving of
the node reads and writes of the two processes, a bit no call targets is
unchanged. The last request for a gesture stands as long as the mask write
of that one call does not fall between the read and the write of a call of
the power HAL, and the last request for double tap as long as its mask
write does not fall into a call of the touch HAL. -/
theorem mask_after_calls (mask : BitVec 32) (hmask : mask.toNat < 2 ^ 31)
    (requests : List (Gesture × Bool)) (modes : List Bool)
    (hr : ∀ r ∈ requests, r.1 ∈ getSupportedGestures kSupportedGestures)
    (h : List (Shared × Client)) (t : Shared)
    (hp : Path step (start mask requests modes) h t) (hdone : finished t) :
    (∀ i, (∀ r ∈ requests, gestureBit r.1 ≠ i) →
      (modes = [] ∨ i ≠ KGesture.doubleTap.id) →
      t.store.getLsbD i = mask.getLsbD i) ∧
    (∀ pre g enabled post, requests = pre ++ (g, enabled) :: post →
      (∀ r ∈ post, gestureBit r.1 ≠ gestureBit g) → ClearWrite .touch pre.length h →
      t.store.getLsbD (gestureBit g) = enabled) ∧
    (∀ pre enabled, modes = pre ++ [enabled] → ClearWrite .power pre.length h →
      t.store.getLsbD KGesture.doubleTap.id = enabled) := by
  refine ⟨fun i hi hmodes => ?_, fun pre g enabled post heq hpost hclear => ?_,
    fun pre enabled heq hclear => ?_⟩
  · apply bit_of_untargeted hmask hr hp
    intro p u hu
    cases p with
    | touch =>
        obtain ⟨r, hmem, rfl⟩ := List.mem_map.mp hu
        exact hi r hmem
    | power =>
        obtain ⟨e, hmem, rfl⟩ := List.mem_map.mp hu
        rcases hmodes with rfl | hne
        · cases hmem
        · exact hne.symm
  · have hmem : (g, enabled) ∈ requests := by simp [heq]
    refine bit_of_owner (p := .touch) (u := ⟨gestureBit g, enabled⟩) hmask hr hp hdone
      (fun q hq u hu => ?_) (by rw [todo, heq, List.map_append, List.map_cons]) rfl
      (fun u hu => ?_) (by rwa [List.length_map])
    · cases q with
      | touch => exact absurd rfl hq
      | power =>
          obtain ⟨e, -, rfl⟩ := List.mem_map.mp hu
          exact (gestureBit_supported (hr _ hmem)).2.symm
    · obtain ⟨r, hmem, rfl⟩ := List.mem_map.mp hu
      exact hpost r hmem
  · refine bit_of_owner (p := .power) (u := ⟨KGesture.doubleTap.id, enabled⟩) hmask hr hp
      hdone (fun q hq u hu => ?_) (by rw [todo, heq, List.map_append, List.map_singleton])
      rfl (by simp) (by rwa [List.length_map])
    cases q with
    | touch =>
        obtain ⟨r, hmem, rfl⟩ := List.mem_map.mp hu
        exact (gestureBit_supported (hr r hmem)).2
    | power => exact absurd rfl hq

/-- The gesture "Letter O". -/
def letterO : Gesture := ⟨4, "Letter O", 252⟩

/-- Both HALs read the mask before either writes it. -/
def bothReadFirst : List Client :=
  [.touch, .power, .touch, .touch, .power, .power]

/-- The first write of the touch HAL falls into the call of the power HAL
and is lost, its second call comes after that. -/
def secondCallClear : List Client :=
  [.touch, .power, .touch, .touch, .power, .power, .touch, .touch, .touch]

theorem mask_after_repeated_call :
    ∃ r ∈ follow step (start 0 [(letterO, true), (letterO, true)] [true]) secondCallClear,
      ¬ ClearWrite .touch 0 r.1 ∧ r.2.store.getLsbD (gestureBit letterO) = true ∧
      r.2.store.getLsbD KGesture.doubleTap.id = true := by
  have hrun : ∃ r ∈ follow step (start 0 [(letterO, true), (letterO, true)] [true])
      secondCallClear, finished r.2 ∧ ¬ ClearWrite .touch 0 r.1 ∧ ClearWrite .touch 1 r.1 ∧
      ClearWrite .power 0 r.1 := by decide +kernel
  obtain ⟨r, hr, hdone, hlost, htouch, hpower⟩ := hrun
  have hmask := mask_after_calls 0 (by decide) [(letterO, true), (letterO, true)] [true]
    (by decide) r.1 r.2 (path_of_follow hr) hdone
  exact ⟨r, hr, hlost, hmask.2.1 [(letterO, true)] letterO true [] rfl (by simp) htouch,
    hmask.2.2 [] true rfl hpower⟩

/-- **A lost update.** Starting from an empty mask, the touch HAL enables
"Letter O" and the power HAL double tap. Both calls return, and the bit
of the gesture is clear. -/
theorem gesture_bit_lost :
    ∃ r ∈ follow step (start 0 [(letterO, true)] [true]) bothReadFirst,
      finished r.2 ∧ r.2.store.getLsbD (gestureBit letterO) = false := by
  decide +kernel

end OplusHardware.Touch
