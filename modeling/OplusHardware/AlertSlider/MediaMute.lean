import OplusHardware.AlertSlider.KeyHandler

/-!
# AlertSlider — muting the music

In the silent mode the handler mutes the music, if it is asked to, and
keeps in `wasMuted` that it has to undo this. The mute is the handler's
own where the user has not set the flag. As long as the user's mutes and
the handler's do not overlap, the test of `wasMuted` tells them apart.
-/

namespace OplusHardware.AlertSlider

open OplusHardware.Base

/-- The instructions end with no own mute left outside the silent mode,
from a state with an own mute as `own` says. -/
def Settles : List Instr → Bool → Int → Prop
  | [], own, ringerMode => own = true → ringerMode = ringerModeSilent
  | .setRingerMode mode :: is, own, _ => Settles is own mode
  | .adjustMute :: is, _, ringerMode => Settles is true ringerMode
  | .testWasMuted _ :: is, _, ringerMode => Settles is false ringerMode
  | .adjustUnmute :: is, _, ringerMode => Settles is false ringerMode
  | _ :: is, own, ringerMode => Settles is own ringerMode

/-- Without an own mute there is less to undo. -/
theorem Settles.mono {is : List Instr} {own : Bool} {ringerMode : Int}
    (h : Settles is true ringerMode) : Settles is own ringerMode := by
  cases own with
  | true => exact h
  | false =>
      induction is generalizing ringerMode with
      | nil =>
          intro habs
          cases habs
      | cons i is ih =>
          cases i with
          | setRingerMode mode => exact ih h
          | adjustMute => exact h
          | testWasMuted muteMedia => exact h
          | adjustUnmute => exact h
          | _ => exact ih h

theorem Settles.of_undone {is : List Instr} {own : Bool} {ringerMode : Int}
    (h : Settles is own ringerMode) : Settles is false ringerMode := by
  cases own with
  | true => exact h.mono
  | false => exact h

/-- The next instruction sets the mark, or undoes the mute. -/
def marksNext (is : List Instr) : Bool :=
  is.head? = some .setWasMuted || is.head? = some .adjustUnmute

/-- Each mute is directly followed by `setWasMuted`, and nothing else is
followed by it or by an unmute. -/
def MutesMarked : List Instr → Prop
  | [] => True
  | .adjustMute :: is => is.head? = some .setWasMuted ∧ MutesMarked is
  | _ :: is => marksNext is = false ∧ MutesMarked is

theorem MutesMarked.tail {i : Instr} {is : List Instr} (h : MutesMarked (i :: is)) :
    MutesMarked is := by
  cases i <;> exact h.2

theorem MutesMarked.next {i : Instr} {is : List Instr} (h : MutesMarked (i :: is))
    (hi : i ≠ .adjustMute) : marksNext is = false := by
  cases i with
  | adjustMute => exact absurd rfl hi
  | _ => exact h.1

theorem mutesMarked_program (task : Task) :
    MutesMarked task.program ∧ marksNext task.program = false := by
  unfold Task.program switchMode feedback setZenMode
  split_ifs <;> simp [MutesMarked, marksNext]

theorem settles_program (task : Task) {own : Bool} {ringerMode : Int}
    (h : own = true → ringerMode = ringerModeSilent) :
    Settles task.program own ringerMode := by
  unfold Task.program switchMode feedback setZenMode
  split_ifs <;> simp_all [Settles]

namespace KeyHandler

variable {s t : KeyHandler} {a : Action} {h : List (KeyHandler × Action)}
  {i : Instr} {is : List Instr}

/-- The music is muted by the handler and not by the user. -/
def ownMute (s : KeyHandler) : Bool := s.muted && !s.userMute

/-- The running task's next instruction sets the mark or undoes the mute. -/
def aboutToMark (s : KeyHandler) : Bool := marksNext s.executorService.running

/-- A report that the music was unmuted is still to be received. -/
def unmutePending (s : KeyHandler) : Bool :=
  s.broadcasts.any fun b => b.stream = streamMusic && !b.muted

/-- The steps the handler's book-keeping does not survive: an own mute and a
mute of the user that overlap, a preference that was changed in between,
and a report that comes early or late. All of it is told from the stream,
what the user last set it to, the reports on their way and where the
executor is; `wasMuted` itself is not asked. -/
def losesTrack (s : KeyHandler) (a : Action) : Bool :=
  match a, s.executorService.running, s.broadcasts with
  -- an own mute on top of the user's
  | .exec, .adjustMute :: _, _ => s.userMute
  -- the user mutes on top of an own mute
  | .userMute true, _, _ => s.aboutToMark || (s.ownMute && !s.unmutePending)
  -- the user has unmuted, and the report has come before the mark is set
  | .exec, .setWasMuted :: _, _ => !s.muted && !s.unmutePending
  -- the user has muted, and the report of an older unmute is late
  | .exec, .testWasMuted true :: _, _ => s.userMute && s.unmutePending
  -- the preference was switched off since the own mute
  | .exec, .testWasMuted false :: _, _ => s.ownMute
  -- an older unmute is reported after the own mute
  | .broadcast, _, ⟨stream, false⟩ :: _ =>
      stream = streamMusic && s.ownMute && !s.aboutToMark
  | _, _, _ => false

/-- The mutes that stand are the user's or known to be undone, and the mark
of any other than an own mute that stands is about to be cleared. -/
structure Tracked (s : KeyHandler) : Prop where
  user : s.userMute = true → s.muted = true
  unmarked : s.userMute = true → s.aboutToMark = false
  cleared : s.wasMuted = true → s.ownMute = false → s.unmutePending = true
  marked : s.ownMute = true → s.wasMuted = true ∨ s.aboutToMark = true
  mutesMarked : MutesMarked s.executorService.running
  settles : Settles s.executorService.running s.ownMute s.ringerMode

/-- What the handler is about to mark or to undo is not the user's. -/
theorem Tracked.not_user (hi : s.Tracked) (habout : s.aboutToMark = true) :
    s.userMute = false := by
  rw [← Bool.not_eq_true]
  intro hu
  rw [hi.unmarked hu] at habout
  cases habout

/-- A mark over a mute of the user is about to be cleared. -/
theorem Tracked.pending_of_user (hi : s.Tracked) (hmarked : s.wasMuted = true)
    (hu : s.userMute = true) : s.unmutePending = true := by
  apply hi.cleared hmarked
  rw [ownMute, hu, Bool.not_true, Bool.and_false]

/-- So is one over a stream that is not muted. -/
theorem Tracked.pending_of_unmuted (hi : s.Tracked) (hmarked : s.wasMuted = true)
    (hm : s.muted = false) : s.unmutePending = true := by
  apply hi.cleared hmarked
  rw [ownMute, hm, Bool.false_and]

theorem unmutePending_setMuted {v : Bool} (hpending : s.unmutePending = true) :
    (s.setMuted v).unmutePending = true := by
  unfold unmutePending setMuted at *
  split
  · exact hpending
  · rw [List.any_append, hpending, Bool.true_or]

/-- The end of a mute that is marked is reported. -/
theorem Tracked.pending_unmute (hi : s.Tracked) (hmarked : s.wasMuted = true) :
    (s.setMuted false).unmutePending = true := by
  cases hm : s.muted with
  | false => exact unmutePending_setMuted (hi.pending_of_unmuted hmarked hm)
  | true => simp [unmutePending, setMuted, hm]

/-- Steps that leave the executor's task and the music alone, and take no
report. -/
theorem Tracked.congr (hi : s.Tracked)
    (he : t.executorService.running = s.executorService.running) (hm : t.muted = s.muted)
    (hu : t.userMute = s.userMute) (hw : t.wasMuted = s.wasMuted)
    (hr : t.ringerMode = s.ringerMode)
    (hb : s.unmutePending = true → t.unmutePending = true) : t.Tracked := by
  have hown : t.ownMute = s.ownMute := by rw [ownMute, ownMute, hm, hu]
  have habout : t.aboutToMark = s.aboutToMark := by rw [aboutToMark, aboutToMark, he]
  constructor
  · rw [hm, hu]
    exact hi.user
  · rw [hu, habout]
    exact hi.unmarked
  · intro hmarked hnone
    rw [hw] at hmarked
    rw [hown] at hnone
    exact hb (hi.cleared hmarked hnone)
  · rw [hown, hw, habout]
    exact hi.marked
  · rw [he]
    exact hi.mutesMarked
  · rw [he, hown, hr]
    exact hi.settles

/-- On to the next instruction, where the last one was not about the music. -/
theorem Tracked.goOn (hi : s.Tracked) (hrun : s.executorService.running = i :: is)
    (hmute : i ≠ .adjustMute) (hnext : marksNext (i :: is) = false)
    (he : t.executorService.running = is) (hm : t.muted = s.muted)
    (hu : t.userMute = s.userMute) (hw : t.wasMuted = s.wasMuted)
    (hb : t.broadcasts = s.broadcasts)
    (hsettles : Settles is s.ownMute t.ringerMode) : t.Tracked := by
  have hown : t.ownMute = s.ownMute := by rw [ownMute, ownMute, hm, hu]
  have hmutes := hi.mutesMarked
  rw [hrun] at hmutes
  constructor
  · rw [hm, hu]
    exact hi.user
  · intro _
    rw [aboutToMark, he]
    exact hmutes.next hmute
  · rw [hw, hown, unmutePending, hb]
    exact hi.cleared
  · intro ho
    rw [hown] at ho
    rcases hi.marked ho with hmarked | habout
    · exact .inl (hw.trans hmarked)
    · rw [aboutToMark, hrun, hnext] at habout
      cases habout
  · rw [he]
    exact hmutes.tail
  · rw [he, hown]
    exact hsettles

/-- An own mute is only tested where it is marked. -/
theorem Tracked.marked_at_test (hi : s.Tracked) {muteMedia : Bool}
    (hrun : s.executorService.running = .testWasMuted muteMedia :: is)
    (hown : s.ownMute = true) : s.wasMuted = true := by
  rcases hi.marked hown with hmarked | habout
  · exact hmarked
  · rw [aboutToMark, hrun] at habout
    cases habout

/-- **The test**: it passes only where the mute is not the user's, and fails
only where there is no own mute. -/
theorem Tracked.test (hi : s.Tracked) {muteMedia : Bool}
    (hrun : s.executorService.running = .testWasMuted muteMedia :: is)
    (hok : losesTrack s .exec = false) : (s.runInstr is (.testWasMuted muteMedia)).Tracked := by
  have hmutes := hi.mutesMarked
  have hsettles := hi.settles
  rw [hrun] at hmutes hsettles
  cases hb : muteMedia && s.wasMuted with
  | true =>
      obtain ⟨rfl, hmarked⟩ : muteMedia = true ∧ s.wasMuted = true := by simpa using hb
      have huser : s.userMute = false := by
        rw [← Bool.not_eq_true]
        intro hu
        simp [losesTrack, hrun, hu, hi.pending_of_user hmarked hu] at hok
      simp only [runInstr, hb]
      refine ⟨hi.user, fun hu => ?_, hi.cleared,
        fun _ => .inr (by simp [aboutToMark, marksNext]), hmutes, hsettles⟩
      rw [show s.userMute = true from hu] at huser
      cases huser
  | false =>
      have hown : s.ownMute = false := by
        rw [← Bool.not_eq_true]
        intro hown
        have hmarked := hi.marked_at_test hrun hown
        cases muteMedia with
        | true => simp [hmarked] at hb
        | false => simp [losesTrack, hrun, hown] at hok
      simp only [runInstr, hb]
      refine hi.goOn hrun (by simp) rfl rfl rfl rfl rfl rfl ?_
      rw [hown]
      exact hsettles

theorem Tracked.run (hi : s.Tracked) (hrun : s.executorService.running = i :: is)
    (hok : losesTrack s .exec = false) : (s.runInstr is i).Tracked := by
  have hmutes := hi.mutesMarked
  have hsettles := hi.settles
  rw [hrun] at hmutes hsettles
  cases i with
  | requestZenMode z => exact hi.goOn hrun (by simp) rfl rfl rfl rfl rfl rfl hsettles
  | awaitZenMode z =>
      simp only [runInstr]
      split
      · exact hi.goOn hrun (by simp) rfl rfl rfl rfl rfl rfl hsettles
      · exact hi
  | setRingerMode mode => exact hi.goOn hrun (by simp) rfl rfl rfl rfl rfl rfl hsettles
  | adjustMute =>
      have huser : s.userMute = false := by simpa [losesTrack, hrun] using hok
      refine ⟨fun _ => rfl, fun hu => ?_, fun _ hnone => ?_, fun _ => .inr ?_, hmutes.2,
        hsettles.mono⟩
      · rw [show s.userMute = true from hu] at huser
        cases huser
      · have hown : (!s.userMute) = false := hnone
        rw [huser] at hown
        cases hown
      · simp [aboutToMark, marksNext, runInstr, hmutes.1]
  | setWasMuted =>
      have huser := hi.not_user (by rw [aboutToMark, hrun]; rfl)
      refine ⟨hi.user, fun hu => ?_, fun _ hnone => ?_, fun _ => .inl rfl, hmutes.2, hsettles⟩
      · rw [show s.userMute = true from hu] at huser
        cases huser
      · have hm : s.muted = false := by
          have hown : (s.muted && !s.userMute) = false := hnone
          simpa [huser] using hown
        have hpending : s.unmutePending = true := by simpa [losesTrack, hrun, hm] using hok
        exact hpending
  | testWasMuted muteMedia => exact hi.test hrun hok
  | adjustUnmute =>
      have huser := hi.not_user (by rw [aboutToMark, hrun]; rfl)
      have hown : (s.runInstr is .adjustUnmute).ownMute = false := rfl
      have hu : (s.runInstr is .adjustUnmute).userMute = false := huser
      refine ⟨fun hu' => ?_, fun hu' => ?_, fun hmarked _ => hi.pending_unmute hmarked,
        fun ho => ?_, hmutes.2, by rwa [hown]⟩
      · rw [hu] at hu'
        cases hu'
      · rw [hu] at hu'
        cases hu'
      · rw [hown] at ho
        cases ho
  | sendNotification position mode =>
      exact hi.goOn hrun (by simp) rfl rfl rfl rfl rfl rfl hsettles
  | vibrateIfNeeded mode => exact hi.goOn hrun (by simp) rfl rfl rfl rfl rfl rfl hsettles

theorem Tracked.receive (hi : s.Tracked) {b : MuteChanged} {bs : List MuteChanged}
    (hb : s.broadcasts = b :: bs) (hok : losesTrack s .broadcast = false) :
    ({ s with broadcasts := bs }.onMuteChanged b).Tracked := by
  cases hc : b.stream = streamMusic && !b.muted with
  | false =>
      rw [onMuteChanged, hc]
      refine hi.congr rfl rfl rfl rfl rfl fun hpending => ?_
      rw [unmutePending, hb, List.any_cons, hc, Bool.false_or] at hpending
      exact hpending
  | true =>
      rw [onMuteChanged, hc, if_pos rfl]
      refine ⟨hi.user, hi.unmarked, fun hmarked => ?_, fun hown => ?_, hi.mutesMarked,
        hi.settles⟩
      · cases hmarked
      · obtain ⟨stream, muted⟩ := b
        simp only [Bool.and_eq_true, decide_eq_true_eq, Bool.not_eq_true'] at hc
        obtain ⟨rfl, rfl⟩ := hc
        have ho : s.ownMute = true := hown
        have habout : s.aboutToMark = true := by simpa [losesTrack, hb, ho] using hok
        exact .inr habout

/-- The user does not mute where a mark is about to be set, or is to stay. -/
theorem losesTrack_userMute (hok : losesTrack s (.userMute true) = false) :
    s.aboutToMark = false ∧ (s.ownMute = true → s.unmutePending = true) := by
  simpa [losesTrack] using hok

/-- The user's mute overlaps with no own one whose mark is to stay. -/
theorem Tracked.setUserMute (hi : s.Tracked) {v : Bool}
    (hok : losesTrack s (.userMute v) = false) :
    KeyHandler.Tracked { s.setMuted v with userMute := v } := by
  have hown : KeyHandler.ownMute { s.setMuted v with userMute := v } = false := by
    simp [ownMute, setMuted]
  refine ⟨id, ?_, fun hmarked _ => ?_, ?_, hi.mutesMarked, ?_⟩
  · rintro rfl
    exact (losesTrack_userMute hok).1
  · cases v with
    | false => exact hi.pending_unmute hmarked
    | true =>
        apply unmutePending_setMuted
        cases ho : s.ownMute with
        | true => exact (losesTrack_userMute hok).2 ho
        | false => exact hi.cleared hmarked ho
  · intro ho
    rw [hown] at ho
    cases ho
  · rw [hown]
    exact hi.settles.of_undone

theorem Tracked.start (hi : s.Tracked) {task : Task} {q : List Task}
    (hrun : s.executorService.running = []) :
    KeyHandler.Tracked { s with executorService := ⟨q, task.program⟩ } := by
  have hsettles := hi.settles
  rw [hrun] at hsettles
  obtain ⟨hmutes, hnext⟩ := mutesMarked_program task
  refine ⟨hi.user, fun _ => hnext, hi.cleared, ?_, hmutes, settles_program task hsettles⟩
  intro hown
  rcases hi.marked hown with hmarked | habout
  · exact .inl hmarked
  · rw [aboutToMark, hrun] at habout
    cases habout

theorem tracked_step (hi : s.Tracked) (hok : losesTrack s a = false)
    (hs : step s a = some t) : t.Tracked := by
  cases step_cases hs with
  | readPreferences thread _ _ =>
      simp only [readPreferences]
      split <;> exact hi.congr rfl rfl rfl rfl rfl id
  | start hrun _ => exact hi.start hrun
  | run hrun => exact hi.run hrun hok
  | userMute v => exact hi.setUserMute hok
  | otherStream muted _ =>
      refine hi.congr rfl rfl rfl rfl rfl fun hpending => ?_
      rw [unmutePending] at hpending ⊢
      rw [List.any_append, hpending, Bool.true_or]
  | broadcast hidle hb => exact hi.receive hb hok
  | _ => exact hi.congr rfl rfl rfl rfl rfl id

/-- The executor's next instruction is `adjustVolume(ADJUST_UNMUTE, 0)`. -/
def unmutes (s : KeyHandler) : Bool := s.executorService.running.head? = some .adjustUnmute

/-- **The mute is given back**: no unmute of the handler is run while the
user has muted the music, and when everything is drained outside the
silent mode the music is muted exactly if the user muted it. -/
theorem mute_restored {p : Preferences} {node : List Char} {ringerMode zenMode : Int}
    {muted : Bool} (hp : Path step (construct p node ringerMode zenMode muted) h t)
    (hok : ∀ x ∈ h, losesTrack x.1 x.2 = false) :
    (∀ x ∈ h, x.2 = .exec → x.1.unmutes = true → x.1.userMute = false) ∧
      (t.Drained → t.ringerMode ≠ ringerModeSilent → t.muted = t.userMute) := by
  have hstep : ∀ s a u, Tracked s → losesTrack s a = false → step s a = some u → u.Tracked :=
    fun s a u hi ha hs => tracked_step hi ha hs
  have h0 : (construct p node ringerMode zenMode muted).Tracked := by
    constructor <;>
      simp [construct, ownMute, aboutToMark, marksNext, SerialExecutor.idle, MutesMarked, Settles]
  constructor
  · intro x hx _ hunmute
    have hi := hp.inv_along Tracked (fun s a => losesTrack s a = false) hstep h0 hok x hx
    apply hi.not_user
    rw [aboutToMark, marksNext, Bool.or_eq_true]
    exact .inr hunmute
  · intro ht hleft
    have hi := hp.inv Tracked (fun s a => losesTrack s a = false) hstep h0 hok
    have hown : t.ownMute = false := by
      have hsettles := hi.settles
      rw [ht.running] at hsettles
      rw [← Bool.not_eq_true]
      exact fun ho => hleft (hsettles ho)
    cases hu : t.userMute with
    | true => exact hi.user hu
    | false => simpa [ownMute, hu] using hown

/-- Silent at the top, normal at the bottom, and the music is muted too. -/
def mutingPreferences : Preferences := ⟨.number 0, .number 1, .number 2, some true, none⟩

/-- `populateKeyState` on one thread, with nothing between its steps. -/
def populateKeyState (thread : Thread) : List Action :=
  [.readNode thread, .readPreferences thread, .submit thread]

/-- Boot, with the slider at the bottom. -/
def bootAtBottom : List Action :=
  populateKeyState .main ++ [.exec, .exec, .commitZen 0, .exec, .exec, .exec]

/-- A move to the top, and back to the bottom where `wasMuted` is set. -/
def silentAndBack : List Action :=
  [.slide ['1', '\n']] ++ populateKeyState .input ++
    [.exec, .exec, .commitZen 0, .exec, .exec, .exec, .exec, .exec, .exec] ++
    [.slide ['3', '\n']] ++ populateKeyState .input ++
    [.exec, .exec, .commitZen 0, .exec, .exec, .exec, .exec, .exec, .exec]

/-- A move to the middle, from a position that is not silent. -/
def toMiddle : List Action :=
  [.slide ['2', '\n']] ++ populateKeyState .input ++
    [.exec, .exec, .commitZen 0, .exec, .exec, .exec, .exec, .exec]

/-- The handler's mute is undone, and the user's later one is not. -/
theorem mute_restored_userMute :
    ∃ r ∈ follow step (construct mutingPreferences ['3', '\n'] 2 0 false)
        (bootAtBottom ++ silentAndBack ++ [.broadcast, .broadcast, .userMute true] ++
          toMiddle ++ [.broadcast]),
      (∃ x ∈ r.1, x.2 = .exec ∧ x.1.unmutes = true ∧ x.1.userMute = false) ∧
        r.2.muted = true := by
  have hrun : ∃ r ∈ follow step (construct mutingPreferences ['3', '\n'] 2 0 false)
      (bootAtBottom ++ silentAndBack ++ [.broadcast, .broadcast, .userMute true] ++
        toMiddle ++ [.broadcast]),
      (∀ x ∈ r.1, losesTrack x.1 x.2 = false) ∧ (∃ x ∈ r.1, x.2 = .exec ∧ x.1.unmutes = true) ∧
        r.2.Drained ∧ r.2.ringerMode ≠ ringerModeSilent ∧ r.2.userMute = true := by
    decide +kernel
  obtain ⟨r, hr, hok, ⟨x, hx, hexec, hunmute⟩, hd, hleft, huser⟩ := hrun
  obtain ⟨hundo, hend⟩ := mute_restored (path_of_follow hr) hok
  exact ⟨r, hr, ⟨x, hx, hexec, hunmute, hundo x hx hexec hunmute⟩, by rw [hend hd hleft, huser]⟩

/-- **The user's mute undone**: the music was muted before the move to the
silent mode, and is not muted after the move back. -/
theorem user_mute_undone :
    ∃ r ∈ follow step (construct mutingPreferences ['3', '\n'] 2 0 false)
        (bootAtBottom ++ [.userMute true, .broadcast] ++ silentAndBack ++ [.broadcast]),
      r.2.Drained ∧ r.2.ringerMode = ringerModeNormal ∧ r.2.userMute = true ∧
        r.2.muted = false := by
  decide

end KeyHandler

end OplusHardware.AlertSlider
