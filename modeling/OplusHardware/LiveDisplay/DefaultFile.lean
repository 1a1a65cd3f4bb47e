import OplusHardware.Base.Observer
import OplusHardware.LiveDisplay.ModeIds

/-!
# LiveDisplay — the default-mode file

What a later process reads from the file that `setDisplayMode(_, true)`
writes. Opening the stream empties the file, and the number is written
when the stream is destroyed, after the test that counts as success: the
file can be left empty, by a stop or by a write that fails.

`owed` follows this beside a run: the default that an emptied file has yet
to be given.
-/

namespace OplusHardware.LiveDisplay

open OplusHardware.Base

/-! ## What the file owes -/

/-- Opening the file empties it of the default of the process; inserting a
number promises that one; the destructor pays, if its write succeeds. -/
def noteFile (s : Hal) (op : Op) (ok : Bool) (owed : Option Int32) : Option Int32 :=
  match op, ok with
  | .openDefaultFile, true => some s.mDefaultModeId
  | .insertDefaultFile id, true => if s.defaultFile.fail then owed else some id
  | .closeDefaultFile, true =>
      if s.defaultFile.isOpen && !s.defaultFile.buffer.isEmpty then none else owed
  | _, _ => owed

/-- Requests promise nothing. -/
def fileObserver : Observer Hal Op Bool SetDisplayMode (Option Int32) where
  take := fun _ _ owed => owed
  note := noteFile

/-- What the file owes after a run. -/
def owed (h : List (Service × ServiceEvent)) : Option Int32 := fileObserver.after none h

abbrev serveFile := fileObserver.serve Hal.serve

/-- **The file and the process.** A file that owes nothing reads as the
default of the process; one that does is empty. -/
structure InSync (s : Hal × Option Int32) : Prop where
  paid : s.2 = none → readDefault s.1.file = s.1.mDefaultModeId
  empty : s.2 ≠ none → s.1.file = some []

/-- What is owed is the default of the process. -/
def Settled (s : Hal × Option Int32) : Prop := ∀ d, s.2 = some d → s.1.mDefaultModeId = d

theorem readDefault_empty : readDefault (some []) = 0 := rfl

/-- The text of an id is that id for the next process. -/
theorem readDefault_toText (id : Int32) : readDefault (some (toText id.toInt)) = id :=
  extractInt32_toText id

theorem toText_ne_nil (v : Int) : toText v ≠ [] := by
  intro h
  have hread := strtol_toText_int v
  rw [h] at hread
  cases hread

/-! ## One call -/

section

variable {Inv : Hal × Option Int32 → Prop} {s : Hal} {g : Option Int32} {t : Hal}
  {modeID : Int32} {info : ModeInfo}

/-- The predicate looks at the file, at the default and at what is owed. -/
def OfFile (Inv : Hal × Option Int32 → Prop) : Prop :=
  ∀ s s' g, s'.file = s.file → s'.mDefaultModeId = s.mDefaultModeId → Inv (s, g) → Inv (s', g)

theorem InSync.ofFile : OfFile InSync := by
  intro s s' g hfile hdefault h
  constructor
  · intro hg
    rw [hfile, hdefault]
    exact h.paid hg
  · intro hg
    rw [hfile]
    exact h.empty hg

theorem Settled.ofFile : OfFile Settled := by
  intro s s' g hfile hdefault h d hd
  rw [hdefault]
  exact h d hd

/-- A step that a call without `makeDefault` may make. -/
theorem OfFile.serve (hof : OfFile Inv) {op : Op} (hop : MayCall modeID info false op)
    {s : Hal × Option Int32} (hs : Inv s) (ok : Bool) : Inv (serveFile s op ok).1 := by
  obtain ⟨s, g⟩ := s
  cases op with
  | openDefaultFile => cases hop
  | insertDefaultFile id => cases hop.1
  | defaultFileFail => cases hop
  | setDefaultDisplayMode displayModeId => cases hop.1
  | assignDefaultModeId id => cases hop.1
  | closeDefaultFile => cases hop
  | setSeed seedMode => cases ok <;> exact hof s _ g rfl rfl hs
  | setActiveDisplayMode displayModeId => cases ok <;> exact hof s _ g rfl rfl hs
  | assignCurrentModeId id => exact hof s _ g rfl rfl hs
  | callOnDisplayModeSet => exact hs

/-- **A call without `makeDefault`** leaves the file, the default and what
is owed alone. -/
theorem OfFile.keeps (hof : OfFile Inv) (hs : Inv (s, g)) :
    (setDisplayMode t modeID false).Keeps serveFile Inv (fun _ _ => True) (s, g) := by
  cases hmode : kModeMap.lookup modeID with
  | none =>
      rw [setDisplayMode_of_none hmode]
      exact ⟨hs, trivial⟩
  | some info =>
      exact (calls_setDisplayMode hmode t false).keeps
        (fun _ _ ok hs hop => hof.serve hop hs ok) hs

/-- The file and the process are in step, with a default in `D`. -/
def Known (D : Int32 → Prop) (s : Hal × Option Int32) : Prop :=
  InSync s ∧ D s.1.mDefaultModeId

variable {D : Int32 → Prop}

theorem Known.ofFile : OfFile (Known D) := by
  intro s s' g hfile hdefault h
  refine ⟨InSync.ofFile s s' g hfile hdefault h.1, ?_⟩
  show D s'.mDefaultModeId
  rw [hdefault]
  exact h.2

theorem Known.settled_ofFile : OfFile fun s => Known D s ∧ Settled s := by
  intro s s' g hfile hdefault h
  exact ⟨Known.ofFile s s' g hfile hdefault h.1, Settled.ofFile s s' g hfile hdefault h.2⟩

/-- An emptied file is in step with any default that is still owed. -/
theorem Known.of_empty {d : Int32} (hfile : s.file = some []) (hd : D s.mDefaultModeId) :
    Known D (s, some d) := by
  refine ⟨⟨?_, ?_⟩, hd⟩
  · intro h
    cases h
  · exact fun _ => hfile

/-- The destructor of a stream that holds the number of the new default. -/
theorem Known.close {id : Int32} (hopen : s.defaultFile.isOpen = true)
    (hbuffer : s.defaultFile.buffer = toText id.toInt) (hfile : s.file = some [])
    (hdefault : s.mDefaultModeId = id) (hid : D id) (written : Bool) :
    Known D (serveFile (s, some id) .closeDefaultFile written).1 ∧
      Settled (serveFile (s, some id) .closeDefaultFile written).1 := by
  cases written with
  | false =>
      have hunpaid : (serveFile (s, some id) .closeDefaultFile false).1 =
          ({ s with defaultFile := ⟨false, s.defaultFile.fail, []⟩ }, some id) := by
        simp [Observer.serve, fileObserver, noteFile, Hal.serve]
      rw [hunpaid]
      refine ⟨.of_empty hfile (hdefault ▸ hid), ?_⟩
      intro d hd
      exact hdefault.trans (Option.some.inj hd)
  | true =>
      have hpaid : (serveFile (s, some id) .closeDefaultFile true).1 =
          ({ s with
            file := some (toText id.toInt)
            defaultFile := ⟨false, s.defaultFile.fail, []⟩ }, none) := by
        simp [Observer.serve, fileObserver, noteFile, Hal.serve, hopen, hbuffer, hfile,
          toText_ne_nil]
      rw [hpaid]
      refine ⟨⟨⟨?_, ?_⟩, hdefault ▸ hid⟩, ?_⟩
      · intro _
        show readDefault (some (toText id.toInt)) = s.mDefaultModeId
        rw [readDefault_toText, hdefault]
      · intro h
        exact absurd rfl h
      · intro d hd
        cases hd

/-- **The block under `makeDefault`** keeps the file in step with the
process, whichever of its steps fail. -/
theorem keeps_storeDefault (hs : Known D (s, g)) (hset : Settled (s, g)) (hid : D modeID) :
    (storeDefault modeID info).Keeps serveFile (Known D) (fun s _ => Settled s) (s, g) := by
  refine ⟨hs, fun opened => ?_⟩
  cases opened with
  | false =>
      -- the stream has failed from the start, and nothing is owed for it
      have hsame : ∀ file : OFStream, Known D ({ s with defaultFile := file }, g) :=
        fun file => Known.ofFile s _ g rfl rfl hs
      refine ⟨hsame _, fun inserted => ?_⟩
      cases inserted <;>
        exact ⟨hsame _, fun _ => ⟨hsame _, fun written => by
          cases written <;> exact ⟨hsame _, hset⟩⟩⟩
  | true =>
      refine ⟨.of_empty rfl hs.2, fun inserted => ?_⟩
      cases inserted with
      | false =>
          refine ⟨.of_empty rfl hs.2, fun _ => ⟨.of_empty rfl hs.2, fun written => ?_⟩⟩
          -- there is nothing in the buffer to write
          cases written <;>
            exact ⟨.of_empty rfl hs.2, fun d hd => Option.some.inj hd⟩
      | true =>
          refine ⟨.of_empty rfl hs.2, fun _ => ⟨.of_empty rfl hs.2, fun accepted => ?_⟩⟩
          cases accepted <;>
            exact ⟨.of_empty rfl hs.2, fun _ => ⟨.of_empty rfl hid, fun written =>
              Known.close rfl rfl rfl rfl hid written⟩⟩

/-- **A call keeps the file in step**, and returns with what is owed
settled. -/
theorem keeps_setDisplayMode (hs : Known D (s, g)) (hset : Settled (s, g)) {makeDefault : Bool}
    (hid : makeDefault = true → D modeID) :
    (setDisplayMode t modeID makeDefault).Keeps serveFile (Known D) (fun s _ => Settled s)
      (s, g) := by
  cases makeDefault with
  | false =>
      exact (Known.settled_ofFile.keeps ⟨hs, hset⟩).mono (fun _ h => h.1) fun _ _ h _ => h.2
  | true =>
      cases hmode : kModeMap.lookup modeID with
      | none =>
          rw [setDisplayMode_of_none hmode]
          exact ⟨hs, hset⟩
      | some info =>
          rw [setDisplayMode_eq hmode]
          have hframe : ∀ {α : Type} {x : HalProg α} (s : Hal × Option Int32),
              x.Calls (MayCall modeID info false) → Known D s → Settled s →
              x.Keeps serveFile (Known D) (fun s _ => Settled s) s := by
            intro α x s hx hs hset
            have hkeep : x.Keeps serveFile (fun s => Known D s ∧ Settled s) (fun _ _ => True) s :=
              hx.keeps (fun _ _ ok hs hop => Known.settled_ofFile.serve hop hs ok) ⟨hs, hset⟩
            apply hkeep.mono
            · exact fun _ h => h.1
            · exact fun _ _ h _ => h.2
          apply (hframe (s, g) (calls_applyMode t) hs hset).bind
          intro s _ hs hset
          apply (keeps_storeDefault hs hset (hid rfl)).bind
          intro s _ hs hset
          exact hframe s (calls_notify t) hs hset

end

namespace Service

variable {displayFdOpen : Bool} {panel : Panel} {file : Option (List Char)} {p q u : Service}
  {h pre post : List (Service × ServiceEvent)} {g : Option Int32} {D : Int32 → Prop}

/-! ## Runs -/

/-- Some process is constructed over every file. -/
theorem exists_constructed (displayFdOpen : Bool) (panel : Panel) (file : Option (List Char)) :
    ∃ p, Constructed displayFdOpen panel file p := by
  obtain ⟨h, p, hp, hidle, hreq⟩ := Process.exists_idle true (boot displayFdOpen panel file)
  exact ⟨p, h, hp, hidle, hreq⟩

/-- The constructor leaves the file alone. -/
theorem Constructed.file_eq (hc : Constructed displayFdOpen panel file p) :
    p.store.file = file := by
  obtain ⟨h, hp, -, hreq⟩ := hc
  have hof : OfFile fun s => s.1.file = file := fun s s' g hfile _ hs => hfile.trans hs
  have hboot : fileObserver.Keeping Hal.serve (fun s => s.1.file = file) (fun _ _ => True) none
      (boot displayFdOpen panel file) := hof.keeps rfl
  have hkeep : fileObserver.Keeping Hal.serve (fun s => s.1.file = file) (fun _ _ => True)
      (owed h) p := by
    apply Observer.path_keeping (fun _ _ _ _ _ _ hr => False.elim hr) hp hboot
    intro x hx r he
    exact absurd he (ProcessEvent.ne_request (hreq x hx) r)
  exact hkeep.inv

theorem Constructed.keeping (hc : Constructed displayFdOpen panel file p) :
    fileObserver.Keeping Hal.serve (Known fun _ => True) (fun s _ => Settled s) none p := by
  obtain ⟨-, -, hidle, -⟩ := id hc
  apply Observer.keeping_of_idle hidle
  · refine ⟨⟨?_, ?_⟩, trivial⟩
    · intro _
      show readDefault p.store.file = p.store.mDefaultModeId
      rw [hc.file_eq, hc.mDefaultModeId_eq]
    · intro h
      exact absurd rfl h
  · intro _ d hd
    cases hd

/-- Calls that may set a default in `D`. -/
theorem path_known (hp : Path step p h q)
    (h0 : fileObserver.Keeping Hal.serve (Known D) (fun s _ => Settled s) g p)
    (hreq : ∀ x ∈ h, ∀ r, x.2 = .request r → r.makeDefault = true → D r.modeID) :
    fileObserver.Keeping Hal.serve (Known D) (fun s _ => Settled s) (fileObserver.after g h) q :=
  Observer.path_keeping (R := fun r => r.makeDefault = true → D r.modeID)
    (fun _ _ _ _ hs hset hr => keeps_setDisplayMode hs hset hr) hp h0 hreq

/-- No request of the run makes a default. -/
def NoDefault (post : List (Service × ServiceEvent)) : Prop :=
  ∀ x ∈ post, ∀ r, x.2 = .request r → r.makeDefault = false

/-- The call that the run `post` starts in has returned. -/
def Completed (post : List (Service × ServiceEvent)) (q : Service) : Prop :=
  q.idle = true ∨ ∃ x ∈ post, x.2.isRequest = true

/-- What a call has settled stays settled, unless the next one makes a
default. -/
theorem settled_of_completed (hp : Path step u post q)
    (h0 : fileObserver.Keeping Hal.serve (Known D) (fun s _ => Settled s) g u)
    (hpost : NoDefault post) (hdone : Completed post q) :
    Settled (q.store, fileObserver.after g post) := by
  have hany : ∀ xs : List (Service × ServiceEvent), NoDefault xs →
      ∀ x ∈ xs, ∀ r, x.2 = .request r → r.makeDefault = true → D r.modeID := by
    intro xs hxs x hx r he hr
    rw [hxs x hx r he] at hr
    cases hr
  rcases hdone with hidle | ⟨x, hx, hxr⟩
  · obtain ⟨-, -, -, hset⟩ := (path_known hp h0 (hany post hpost)).of_idle hidle
    exact hset
  · obtain ⟨mid, rest, rfl⟩ := List.append_of_mem hx
    obtain ⟨y, e⟩ := x
    obtain ⟨hmid, v, hv, hrest⟩ := hp.at_step
    have hidle : y.idle = true := by
      cases e with
      | request r => exact (Process.request_inv hv).1
      | answer o => cases hxr
    obtain ⟨hknown, -, -, hset⟩ :=
      (path_known hmid h0 (hany mid fun x hx => hpost x (by simp [hx]))).of_idle hidle
    rw [Observer.after_append]
    have hkeep : fileObserver.Keeping Hal.serve (fun s => Known D s ∧ Settled s) (fun _ _ => True)
        (fileObserver.after (fileObserver.after g mid) ((y, e) :: rest)) q := by
      apply Observer.path_keeping (R := fun r => r.makeDefault = false) _ (.cons hv hrest)
        (Observer.keeping_of_idle hidle ⟨hknown, hset⟩ fun _ => trivial)
      · exact fun x hx r he => hpost x (List.mem_append_right _ hx) r he
      · rintro s g - ⟨modeID, makeDefault⟩ hs - hr
        cases hr
        exact Known.settled_ofFile.keeps hs
    exact hkeep.inv.2

/-- **One call, with everything that comes after it**: the file is in step
with one of the two defaults, and owes none but the reported one once the
call has returned. -/
theorem known_of_call {id : Int32} {x : Service} (hc : Constructed displayFdOpen panel file p)
    (hp : Path step p (pre ++ (x, .request ⟨id, true⟩) :: post) q) (hpost : NoDefault post) :
    Known (fun d => d = x.store.mDefaultModeId ∨ d = id)
        (q.store, owed (pre ++ (x, .request ⟨id, true⟩) :: post)) ∧
      (Completed post q →
        Settled (q.store, owed (pre ++ (x, .request ⟨id, true⟩) :: post))) := by
  obtain ⟨hpre, u, hu, hq⟩ := hp.at_step
  obtain ⟨hidle, rfl⟩ := Process.request_inv hu
  obtain ⟨hknown, -, -, hset⟩ :=
    (path_known hpre hc.keeping fun _ _ _ _ _ => trivial).of_idle hidle
  have hbody : fileObserver.Keeping Hal.serve
      (Known fun d => d = x.store.mDefaultModeId ∨ d = id) (fun s _ => Settled s) (owed pre)
      ⟨x.store, setDisplayMode x.store id true⟩ :=
    keeps_setDisplayMode ⟨hknown.1, .inl rfl⟩ hset fun _ => .inr rfl
  have howed : owed (pre ++ (x, .request ⟨id, true⟩) :: post) =
      fileObserver.after (owed pre) post := Observer.after_append _ _
  rw [howed]
  constructor
  · apply (path_known hq hbody _).inv
    intro y hy r he hr
    rw [hpost y hy r he] at hr
    cases hr
  · exact settled_of_completed hq hbody hpost

/-! ## What the next process reads -/

/-- **The default survives**: for the last call that makes a default,
wherever it has got to, every process constructed over the file starts with
the default from before it or with the one it sets; and with the one the
old process reports, if the call has returned. -/
def Survives (h : List (Service × ServiceEvent)) (q : Service) : Prop :=
  ∀ pre x id post, h = pre ++ (x, .request ⟨id, true⟩) :: post → NoDefault post →
    ∀ displayFdOpen panel n, Constructed displayFdOpen panel q.store.file n →
      (n.store.mDefaultModeId = x.store.mDefaultModeId ∨ n.store.mDefaultModeId = id) ∧
        (Completed post q → n.store.mDefaultModeId = q.store.mDefaultModeId)

/-- **When the default survives.** For every content of the file, every
way the constructor ends and every run of calls, ended anywhere: the
default survives if and only if the file owes nothing, or mode 0, as which
an empty file reads, is one of the two defaults and, where the call has
returned, the one that is owed. -/
theorem survives_iff (displayFdOpen : Bool) (panel : Panel) (file : Option (List Char))
    (p : Service) (hc : Constructed displayFdOpen panel file p)
    (h : List (Service × ServiceEvent)) (q : Service) (hp : Path step p h q) :
    Survives h q ↔
      ∀ pre x id post, h = pre ++ (x, .request ⟨id, true⟩) :: post → NoDefault post →
        owed h = none ∨
          ((x.store.mDefaultModeId = 0 ∨ id = 0) ∧ (Completed post q → owed h = some 0)) := by
  constructor
  · intro hs pre x id post heq hpost
    obtain ⟨⟨hsync, -⟩, hset⟩ := known_of_call hc (heq ▸ hp) hpost
    rw [← heq] at hsync hset
    obtain ⟨n, hn⟩ := exists_constructed false freshPanel q.store.file
    obtain ⟨hold, hdone⟩ := hs pre x id post heq hpost _ _ n hn
    cases howed : owed h with
    | none => exact .inl rfl
    | some d =>
        right
        have hempty : q.store.file = some [] := hsync.empty (by simp [howed])
        rw [hn.mDefaultModeId_eq, hempty, readDefault_empty] at hold hdone
        refine ⟨hold.imp Eq.symm Eq.symm, ?_⟩
        intro hcompleted
        rw [hdone hcompleted, hset hcompleted d howed]
  · intro hcond pre x id post heq hpost _ _ n hn
    obtain ⟨⟨hsync, hdefault⟩, hset⟩ := known_of_call hc (heq ▸ hp) hpost
    rw [← heq] at hsync hset
    rw [hn.mDefaultModeId_eq]
    cases howed : owed h with
    | none =>
        rw [hsync.paid howed]
        exact ⟨hdefault, fun _ => rfl⟩
    | some d =>
        have hempty : q.store.file = some [] := hsync.empty (by simp [howed])
        rw [hempty, readDefault_empty]
        rcases hcond pre x id post heq hpost with hnone | ⟨hzero, hdone⟩
        · rw [howed] at hnone
          cases hnone
        · refine ⟨hzero.imp Eq.symm Eq.symm, ?_⟩
          intro hcompleted
          exact (hset hcompleted 0 (hdone hcompleted)).symm

/-- A client makes mode 3 the default and every step succeeds; for mode 2
the file then fails to open. -/
def brilliantThenFailedOpen : List ServiceEvent :=
  [.request ⟨3, true⟩, .answer true, .answer true, .answer true, .answer true,
    .answer true, .answer true, .answer true, .answer true,
    .request ⟨2, true⟩, .answer true, .answer true, .answer false, .answer true,
    .answer true, .answer true]

theorem survives_iff_failed_open :
    ∃ p, Constructed false freshPanel (some ['1']) p ∧
      ∃ r ∈ follow step p brilliantThenFailedOpen,
        r.2.idle = true ∧ r.2.store.mDefaultModeId = 3 ∧ Survives r.1 r.2 := by
  have hboot : ∃ r ∈ follow step (boot false freshPanel (some ['1']))
      [.answer true, .answer true],
      r.2.idle = true ∧ (∀ x ∈ r.1, x.2.isRequest = false) ∧
      ∃ r', follow step r.2 brilliantThenFailedOpen = some r' ∧
        r'.2.idle = true ∧ r'.2.store.mDefaultModeId = 3 ∧ owed r'.1 = none :=
    ⟨_, rfl, rfl, by simp [ProcessEvent.isRequest], _, rfl, rfl, rfl, by decide⟩
  obtain ⟨r, hr, hidle, hreq, r', hr', hidle', hthree, howed⟩ := hboot
  have hc : Constructed false freshPanel (some ['1']) r.2 := ⟨r.1, path_of_follow hr, hidle, hreq⟩
  refine ⟨r.2, hc, r', hr', hidle', hthree, ?_⟩
  exact (survives_iff false freshPanel (some ['1']) r.2 hc r'.1 r'.2 (path_of_follow hr')).mpr
    fun _ _ _ _ _ _ => .inl howed

/-- **A default lost on the way**: the file says `1`, a client makes mode 3
the default, and the process stops between the opening of the file and its
closing. The next process starts with mode 0. -/
theorem default_lost :
    ∃ p, Constructed false freshPanel (some ['1']) p ∧
      ∃ r ∈ follow step p [.request ⟨3, true⟩, .answer true, .answer true, .answer true],
        readDefault r.2.store.file = 0 ∧ ¬ Survives r.1 r.2 := by
  have hboot : ∃ r ∈ follow step (boot false freshPanel (some ['1']))
      [.answer true, .answer true],
      r.2.idle = true ∧ (∀ x ∈ r.1, x.2.isRequest = false) ∧ r.2.store.mDefaultModeId = 1 ∧
      ∃ r', follow step r.2
          [.request ⟨3, true⟩, .answer true, .answer true, .answer true] = some r' ∧
        r'.2.store.file = some [] ∧ ∃ post, r'.1 = (r.2, .request ⟨3, true⟩) :: post ∧
          ∀ x ∈ post, x.2.isRequest = false :=
    ⟨_, rfl, rfl, by simp [ProcessEvent.isRequest], rfl, _, rfl, rfl, _, rfl,
      by simp [ProcessEvent.isRequest]⟩
  obtain ⟨r, hr, hidle, hreq, hone, r', hr', hfile, post, hpost, hnone⟩ := hboot
  have hc : Constructed false freshPanel (some ['1']) r.2 := ⟨r.1, path_of_follow hr, hidle, hreq⟩
  refine ⟨r.2, hc, r', hr', by rw [hfile, readDefault_empty], ?_⟩
  intro hs
  obtain ⟨n, hn⟩ := exists_constructed false freshPanel r'.2.store.file
  have hquiet : NoDefault post := by
    intro x hx r he
    exact absurd he (ProcessEvent.ne_request (hnone x hx) r)
  have hnext := (hs [] r.2 3 post hpost hquiet _ _ n hn).1
  rw [hn.mDefaultModeId_eq, hfile, readDefault_empty, hone] at hnext
  revert hnext
  decide

end Service

end OplusHardware.LiveDisplay
