import OplusHardware.Base.Path

/-!
# Pen — bonding

The kernel reports a pen with its address as bare hex digits. `onUEvent`
puts the address into the usual form and offers the pen in a notification;
a tap on it starts the service again, which scans for the address and bonds
with what it finds. The address travels in the one `PendingIntent` that all
notifications share.
-/

namespace OplusHardware.Pen

open OplusHardware.Base

/-! ## Addresses

`UEventObserver` makes one character of each byte. -/

def isHexDigit (c : UInt8) : Bool :=
  (48 ≤ c && c ≤ 57) || (65 ≤ c && c ≤ 70) || (97 ≤ c && c ≤ 102)

/-- A digit of an address: `0` to `9`, `A` to `F`. -/
def isAddressDigit (c : Char) : Bool := ('0' ≤ c && c ≤ '9') || ('A' ≤ c && c ≤ 'F')

/-- `uppercase` of a character below 256. -/
def uppercase (c : UInt8) : List Char :=
  if 97 ≤ c && c ≤ 122 then [Char.ofNat (c.toNat - 32)]
  else if c = 0xDF then ['S', 'S']
  else if c = 0xB5 then [Char.ofNat 0x39C]
  else if c = 0xFF then [Char.ofNat 0x178]
  else if 0xE0 ≤ c && c ≠ 0xF7 then [Char.ofNat (c.toNat - 32)]
  else [Char.ofNat c.toNat]

/-- `chunked(2)`. -/
def chunked : List UInt8 → List (List UInt8)
  | [] => []
  | [a] => [[a]]
  | a :: b :: rest => [a, b] :: chunked rest

/-- `joinToString(":")`. -/
def joinToString : List (List Char) → List Char
  | [] => []
  | [part] => part
  | part :: parts => part ++ ':' :: joinToString parts

/-- `pencilAddr`, from the value of `pencil_addr`. -/
def pencilAddr (text : List UInt8) : List Char :=
  joinToString ((chunked text).map fun chunk => chunk.flatMap uppercase)

/-- `n + 1` pairs of digits with colons between them. -/
def isPairs : Nat → List Char → Bool
  | 0, [a, b] => isAddressDigit a && isAddressDigit b
  | n + 1, a :: b :: c :: rest =>
      isAddressDigit a && isAddressDigit b && c = ':' && isPairs n rest
  | _, _ => false

/-- The format of an address that `getRemoteDevice` documents, as in
`00:11:22:33:AA:BB`. -/
def IsBluetoothAddress (address : List Char) : Prop := isPairs 5 address = true

/-- What is relied on of `BluetoothAdapter`, where `accepts` tells the
addresses `getRemoteDevice` returns for; at any other it throws. -/
def AcceptsFormat (accepts : List Char → Bool) : Prop :=
  ∀ address, accepts address = true ↔ IsBluetoothAddress address

theorem acceptsFormat_isPairs : AcceptsFormat (isPairs 5) := fun _ => Iff.rfl

/-- What `uppercase` makes of a character shows whether it is a digit. -/
def uppercaseTells (c : UInt8) : Bool :=
  match uppercase c with
  | [] => false
  | [u] => isHexDigit c = isAddressDigit u
  | u :: _ => !isHexDigit c && !isAddressDigit u

theorem uppercaseTells_all (c : UInt8) : uppercaseTells c = true := by
  have hall : ∀ n : Fin 256, uppercaseTells (UInt8.ofFin n) = true := by decide +kernel
  exact hall c.toFin

theorem uppercase_digit {c : UInt8} (hc : isHexDigit c = true) :
    ∃ u, uppercase c = [u] ∧ isAddressDigit u = true := by
  have htells := uppercaseTells_all c
  unfold uppercaseTells at htells
  split at htells
  · cases htells
  · rename_i u hu
    rw [hc] at htells
    exact ⟨u, hu, by simpa using htells.symm⟩
  · simp [hc] at htells

theorem uppercase_other {c : UInt8} (hc : isHexDigit c = false) :
    ∃ u rest, uppercase c = u :: rest ∧ isAddressDigit u = false := by
  have htells := uppercaseTells_all c
  unfold uppercaseTells at htells
  split at htells
  · cases htells
  · rename_i u hu
    rw [hc] at htells
    exact ⟨u, [], hu, by simpa using htells⟩
  · rename_i u rest hne hu
    refine ⟨u, rest, hu, ?_⟩
    simpa [hc] using htells

theorem pencilAddr_pair (a b : UInt8) : pencilAddr [a, b] = uppercase a ++ uppercase b := by
  simp [pencilAddr, chunked, joinToString]

theorem chunked_ne_nil {text : List UInt8} (h : text ≠ []) :
    ∃ chunk chunks, chunked text = chunk :: chunks := by
  cases text with
  | nil => exact absurd rfl h
  | cons a rest =>
      cases rest with
      | nil => exact ⟨[a], [], rfl⟩
      | cons b rest => exact ⟨[a, b], chunked rest, rfl⟩

theorem pencilAddr_cons (a b : UInt8) {text : List UInt8} (h : text ≠ []) :
    pencilAddr (a :: b :: text) = uppercase a ++ uppercase b ++ ':' :: pencilAddr text := by
  obtain ⟨chunk, chunks, heq⟩ := chunked_ne_nil h
  simp [pencilAddr, chunked, heq, joinToString]

theorem pencilAddr_starts (a b : UInt8) (text : List UInt8) :
    ∃ more, pencilAddr (a :: b :: text) = uppercase a ++ uppercase b ++ more := by
  by_cases hnil : text = []
  · subst hnil
    exact ⟨[], by rw [pencilAddr_pair, List.append_nil]⟩
  · exact ⟨':' :: pencilAddr text, pencilAddr_cons a b hnil⟩

/-- A first character that is no digit. -/
theorem isPairs_other (n : Nat) {u : Char} (hu : isAddressDigit u = false) (rest : List Char) :
    isPairs n (u :: rest) = false := by
  unfold isPairs
  split <;> simp_all

theorem isPairs_other_second (n : Nat) (u : Char) {v : Char} (hv : isAddressDigit v = false)
    (rest : List Char) : isPairs n (u :: v :: rest) = false := by
  unfold isPairs
  split <;> simp_all

theorem isPairs_pair {u v : Char} (hu : isAddressDigit u = true) (hv : isAddressDigit v = true)
    (n : Nat) : isPairs n [u, v] = true ↔ n = 0 := by
  cases n with
  | zero => simp [isPairs, hu, hv]
  | succ n => simp [isPairs]

theorem isPairs_colon {u v : Char} (hu : isAddressDigit u = true) (hv : isAddressDigit v = true)
    (n : Nat) (rest : List Char) :
    isPairs n (u :: v :: ':' :: rest) = true ↔ ∃ m, n = m + 1 ∧ isPairs m rest = true := by
  cases n with
  | zero => simp [isPairs]
  | succ n => simp [isPairs, hu, hv]

/-- A digit without a second one. -/
theorem isPairs_single (n : Nat) (a : UInt8) : isPairs n (pencilAddr [a]) = false := by
  have hone : pencilAddr [a] = uppercase a := by simp [pencilAddr, chunked, joinToString]
  rw [hone]
  cases ha : isHexDigit a with
  | true =>
      obtain ⟨u, hu, -⟩ := uppercase_digit ha
      rw [hu]
      cases n <;> rfl
  | false =>
      obtain ⟨u, rest, hu, hdigit⟩ := uppercase_other ha
      rw [hu, isPairs_other n hdigit]

/-- A pair that is not two digits. -/
theorem isPairs_not_digits (n : Nat) {a b : UInt8} (rest : List UInt8)
    (hab : isHexDigit a = true → isHexDigit b = false) :
    isPairs n (pencilAddr (a :: b :: rest)) = false := by
  obtain ⟨tail, htail⟩ := pencilAddr_starts a b rest
  cases ha : isHexDigit a with
  | false =>
      obtain ⟨u, more, hu, hdigit⟩ := uppercase_other ha
      rw [htail, hu, List.cons_append, List.cons_append, isPairs_other n hdigit]
  | true =>
      obtain ⟨u, hu, -⟩ := uppercase_digit ha
      obtain ⟨v, more, hv, hdigit⟩ := uppercase_other (hab ha)
      rw [htail, hu, hv, List.singleton_append, List.cons_append, List.cons_append,
        isPairs_other_second n u hdigit]

/-- **Two digits at a time.** -/
theorem isPairs_pencilAddr (n : Nat) (text : List UInt8) :
    isPairs n (pencilAddr text) = true ↔
      text.length = 2 * (n + 1) ∧ ∀ c ∈ text, isHexDigit c = true := by
  induction text using chunked.induct generalizing n with
  | case1 =>
      have hnone : isPairs n (pencilAddr []) = false := by cases n <;> rfl
      simp [hnone]
  | case2 a =>
      rw [isPairs_single]
      simp
      omega
  | case3 a b rest ih =>
      by_cases hab : isHexDigit a = true ∧ isHexDigit b = true
      · obtain ⟨ha, hb⟩ := hab
        obtain ⟨u, hu, hud⟩ := uppercase_digit ha
        obtain ⟨v, hv, hvd⟩ := uppercase_digit hb
        by_cases hrest : rest = []
        · subst hrest
          rw [pencilAddr_pair, hu, hv, List.singleton_append, isPairs_pair hud hvd]
          constructor
          · rintro rfl
            exact ⟨rfl, by simp [ha, hb]⟩
          · rintro ⟨hlen, -⟩
            have hlen : 2 = 2 * (n + 1) := hlen
            omega
        · have hpos : 0 < rest.length := List.length_pos_iff.mpr hrest
          rw [pencilAddr_cons a b hrest, hu, hv, List.singleton_append, List.cons_append,
            List.singleton_append, isPairs_colon hud hvd]
          constructor
          · rintro ⟨m, rfl, hm⟩
            obtain ⟨hlen, hdigits⟩ := (ih m).mp hm
            refine ⟨?_, by simpa [ha, hb] using hdigits⟩
            rw [List.length_cons, List.length_cons]
            omega
          · rintro ⟨hlen, hdigits⟩
            rw [List.length_cons, List.length_cons] at hlen
            refine ⟨n - 1, by omega, (ih (n - 1)).mpr ⟨by omega, ?_⟩⟩
            exact fun c hc => hdigits c (by simp [hc])
      · have hfail : isHexDigit a = true → isHexDigit b = false := by
          intro ha
          rw [← Bool.not_eq_true]
          exact fun hb => hab ⟨ha, hb⟩
        rw [isPairs_not_digits n rest hfail]
        constructor
        · intro habs
          cases habs
        · rintro ⟨-, hdigits⟩
          exact absurd ⟨hdigits a (by simp), hdigits b (by simp)⟩ hab

/-- The digits of an address, in upper case. -/
theorem filter_pencilAddr {text : List UInt8} (hdigits : ∀ c ∈ text, isHexDigit c = true) :
    (pencilAddr text).filter (· ≠ ':') = text.flatMap uppercase := by
  have hkeep : ∀ c ∈ text, (uppercase c).filter (· ≠ ':') = uppercase c := by
    intro c hc
    obtain ⟨u, hu, hdigit⟩ := uppercase_digit (hdigits c hc)
    have hcolon : u ≠ ':' := by
      rintro rfl
      revert hdigit
      decide
    rw [hu, List.filter_cons_of_pos (by simpa using hcolon), List.filter_nil]
  induction text using chunked.induct with
  | case1 => rfl
  | case2 a =>
      have hone : pencilAddr [a] = uppercase a := by simp [pencilAddr, chunked, joinToString]
      rw [hone, hkeep a (by simp)]
      simp
  | case3 a b rest ih =>
      have hrest := ih (fun c hc => hdigits c (by simp [hc])) fun c hc => hkeep c (by simp [hc])
      by_cases hnil : rest = []
      · subst hnil
        rw [pencilAddr_pair, List.filter_append, hkeep a (by simp), hkeep b (by simp)]
        simp
      · rw [pencilAddr_cons a b hnil, List.filter_append, List.filter_append, hkeep a (by simp),
          hkeep b (by simp), List.filter_cons_of_neg (by simp), hrest]
        simp

/-- Colons between the pairs of a text. -/
def withColons : List Char → List Char
  | a :: b :: c :: rest => a :: b :: ':' :: withColons (c :: rest)
  | rest => rest

theorem pencilAddr_eq_withColons {text : List UInt8}
    (hdigits : ∀ c ∈ text, isHexDigit c = true) :
    pencilAddr text = withColons (text.flatMap uppercase) := by
  induction text using chunked.induct with
  | case1 => rfl
  | case2 a =>
      obtain ⟨u, hu, -⟩ := uppercase_digit (hdigits a (by simp))
      simp [pencilAddr, chunked, joinToString, hu, withColons]
  | case3 a b rest ih =>
      obtain ⟨u, hu, -⟩ := uppercase_digit (hdigits a (by simp))
      obtain ⟨v, hv, -⟩ := uppercase_digit (hdigits b (by simp))
      cases rest with
      | nil => simp [pencilAddr_pair, hu, hv, withColons]
      | cons c rest =>
          obtain ⟨w, hw, -⟩ := uppercase_digit (hdigits c (by simp))
          have hrest := ih fun c hc => hdigits c (by simp [hc])
          rw [pencilAddr_cons a b (by simp), hrest, hu, hv]
          simp [hu, hv, hw, withColons]

/-- **The address of a pen.** `getRemoteDevice` accepts what `onUEvent`
makes of `pencil_addr` exactly when that is twelve hex digits; and two
texts it accepts give the same address exactly when they differ in case at
most. -/
theorem pencilAddr_valid (accepts : List Char → Bool) (hformat : AcceptsFormat accepts) :
    (∀ text, accepts (pencilAddr text) = true ↔
      text.length = 12 ∧ ∀ c ∈ text, isHexDigit c = true) ∧
    ∀ a b, accepts (pencilAddr a) = true → accepts (pencilAddr b) = true →
      (pencilAddr a = pencilAddr b ↔ a.flatMap uppercase = b.flatMap uppercase) := by
  have hvalid : ∀ text, accepts (pencilAddr text) = true ↔
      text.length = 12 ∧ ∀ c ∈ text, isHexDigit c = true := by
    intro text
    rw [hformat]
    exact isPairs_pencilAddr 5 text
  refine ⟨hvalid, ?_⟩
  intro a b ha hb
  have hda := ((hvalid a).mp ha).2
  have hdb := ((hvalid b).mp hb).2
  constructor
  · intro heq
    rw [← filter_pencilAddr hda, ← filter_pencilAddr hdb, heq]
  · intro heq
    rw [pencilAddr_eq_withColons hda, pencilAddr_eq_withColons hdb, heq]

/-- `0123456789aB` and `0123456789Ab`. -/
def twoSpellings : List UInt8 × List UInt8 :=
  ([48, 49, 50, 51, 52, 53, 54, 55, 56, 57, 97, 66],
    [48, 49, 50, 51, 52, 53, 54, 55, 56, 57, 65, 98])

theorem pencilAddr_valid_two_spellings :
    pencilAddr twoSpellings.1 = "01:23:45:67:89:AB".toList ∧
      pencilAddr twoSpellings.1 = pencilAddr twoSpellings.2 := by
  obtain ⟨hlength, hsame⟩ := pencilAddr_valid (isPairs 5) acceptsFormat_isPairs
  have hvalid : ∀ text ∈ [twoSpellings.1, twoSpellings.2],
      isPairs 5 (pencilAddr text) = true := by
    intro text htext
    apply (hlength text).mpr
    revert text
    decide +kernel
  refine ⟨by decide +kernel, ?_⟩
  apply (hsame _ _ (hvalid _ (by simp)) (hvalid _ (by simp))).mpr
  decide +kernel

/-! ## Notification, intent and scan -/

abbrev Address : Type := List Char

/-- Where `postNotification` is. -/
inductive Posting where
  /-- The pen is known not to be bonded. -/
  | checked (pencilAddr : Address)
  /-- The intent is made, `notify` comes next. -/
  | intentMade
  deriving DecidableEq, Repr

/-- A call of `startScan`; results may still come when it is stopped. -/
structure Scan where
  pencilAddr : Address
  running : Bool
  deriving DecidableEq, Repr

structure Bonding where
  /-- The addresses of `bondedDevices`. -/
  bonded : List Address
  /-- `EXTRA_PENCIL_ADDR` of the `PendingIntent`, once there is one. -/
  extra : Option Address
  /-- The notification is shown. -/
  shown : Bool
  /-- `onUEvent` is in `postNotification`. -/
  posting : Option Posting
  /-- What `onStartCommand` has yet to be called with. -/
  starts : List (Option Address)
  scans : List Scan
  deriving DecidableEq, Repr

namespace Bonding

variable (accepts : Address → Bool)

def initial (bonded : List Address) : Bonding := ⟨bonded, none, false, none, [], []⟩

/-- The process dies, by an exception or otherwise. -/
def die (s : Bonding) : Bonding := { s with posting := none, starts := [], scans := [] }

/-- `onUEvent`, up to where `postNotification` has looked at
`bondedDevices`. -/
def onUEvent (s : Bonding) (status : Option String) (text : Option (List UInt8)) : Bonding :=
  match status, text with
  | some status, some text =>
      if status = "0" then { s with shown := false }
      else if status = "1" then
        -- `getRemoteDevice` throws
        if !accepts (pencilAddr text) then s.die
        else if pencilAddr text ∈ s.bonded then s
        else { s with posting := some (.checked (pencilAddr text)) }
      else s
  | _, _ => s

/-- `onStartCommand`, with whether `bluetoothLeScanner` turns up in fifty
attempts. -/
def onStartCommand (s : Bonding) (intent : Option Address) (scanner : Bool) : Bonding :=
  match intent, scanner with
  | some pencilAddr, true => { s with scans := s.scans ++ [⟨pencilAddr, true⟩] }
  | _, _ => s

def stopScan (s : Bonding) (i : Nat) (scan : Scan) : Bonding :=
  { s with scans := s.scans.set i { scan with running := false } }

inductive Action where
  | uevent (status : Option String) (text : Option (List UInt8))
  | makeIntent
  | notify
  | tap
  /-- The user swipes the notification away. -/
  | dismiss
  /-- The service is started without an address. -/
  | start
  | startCommand (scanner : Bool)
  /-- A result of a scan. -/
  | scanResult (i : Nat) (device : Address)
  | scanFailed (i : Nat)
  /-- Devices are paired and unpaired. -/
  | bondsChange (bonded : List Address)
  | kill
  deriving DecidableEq, Repr

def step (s : Bonding) : Action → Option Bonding
  | .uevent status text => if s.posting.isNone then some (s.onUEvent accepts status text) else none
  | .makeIntent =>
      match s.posting with
      | some (.checked addr) => some { s with extra := some addr, posting := some .intentMade }
      | _ => none
  | .notify =>
      match s.posting with
      | some .intentMade => some { s with shown := true, posting := none }
      | _ => none
  | .tap =>
      -- `setAutoCancel`
      if s.shown then some { s with shown := false, starts := s.starts ++ [s.extra] } else none
  | .dismiss => some { s with shown := false }
  | .start => some { s with starts := s.starts ++ [none] }
  | .startCommand scanner =>
      match s.starts with
      | [] => none
      | intent :: starts => some ({ s with starts := starts }.onStartCommand intent scanner)
  | .scanResult i device =>
      match s.scans[i]? with
      | some scan => if device = scan.pencilAddr then some (s.stopScan i scan) else none
      | none => none
  | .scanFailed i => (s.scans[i]?).map (s.stopScan i)
  | .bondsChange bonded => some { s with bonded := bonded }
  | .kill => some s.die

/-- The pen that a uevent reports, if it has not been bonded with. -/
def attached (x : Bonding × Action) : Option Address :=
  match x.2 with
  | .uevent (some status) (some text) =>
      if status = "1" ∧ accepts (pencilAddr text) ∧ pencilAddr text ∉ x.1.bonded then
        some (pencilAddr text)
      else none
  | _ => none

/-- The pen whose address a step puts into the intent. -/
def offered (x : Bonding × Action) : Option Address :=
  match x.2, x.1.posting with
  | .makeIntent, some (.checked addr) => some addr
  | _, _ => none

/-- The device that a step calls `createBond` on. -/
def bonds (x : Bonding × Action) : Option Address :=
  match x.2 with
  | .scanResult _ device => some device
  | _ => none

/-! ## What a step does -/

/-- **The ways a step goes.** -/
inductive StepCase (s : Bonding) : Action → Bonding → Prop where
  | nothing {status : Option String} {text : Option (List UInt8)} :
      StepCase s (.uevent status text) s
  | cancel {status : Option String} {text : Option (List UInt8)} :
      StepCase s (.uevent status text) { s with shown := false }
  | throws {status : Option String} {text : Option (List UInt8)} :
      StepCase s (.uevent status text) s.die
  | attach {text : List UInt8}
      (hvalid : accepts (pencilAddr text) = true) (hnew : pencilAddr text ∉ s.bonded) :
      StepCase s (.uevent (some "1") (some text))
        { s with posting := some (.checked (pencilAddr text)) }
  | makeIntent {addr : Address} (hp : s.posting = some (.checked addr)) :
      StepCase s .makeIntent { s with extra := some addr, posting := some .intentMade }
  | notify (hp : s.posting = some .intentMade) :
      StepCase s .notify { s with shown := true, posting := none }
  | tap (hshown : s.shown = true) :
      StepCase s .tap { s with shown := false, starts := s.starts ++ [s.extra] }
  | dismiss : StepCase s .dismiss { s with shown := false }
  | start : StepCase s .start { s with starts := s.starts ++ [none] }
  | noScan {intent : Option Address} {starts : List (Option Address)} {scanner : Bool}
      (hq : s.starts = intent :: starts) :
      StepCase s (.startCommand scanner) { s with starts := starts }
  | scan {addr : Address} {starts : List (Option Address)} (hq : s.starts = some addr :: starts) :
      StepCase s (.startCommand true)
        { s with starts := starts, scans := s.scans ++ [⟨addr, true⟩] }
  | scanResult {i : Nat} {scan : Scan} (hscan : s.scans[i]? = some scan) :
      StepCase s (.scanResult i scan.pencilAddr) (s.stopScan i scan)
  | scanFailed {i : Nat} {scan : Scan} (hscan : s.scans[i]? = some scan) :
      StepCase s (.scanFailed i) (s.stopScan i scan)
  | bondsChange {bonded : List Address} :
      StepCase s (.bondsChange bonded) { s with bonded := bonded }
  | kill : StepCase s .kill s.die

variable {accepts} {s t : Bonding} {a : Action} {h : List (Bonding × Action)}

theorem onUEvent_cases (s : Bonding) (status : Option String) (text : Option (List UInt8)) :
    StepCase accepts s (.uevent status text) (s.onUEvent accepts status text) := by
  unfold onUEvent
  split
  · rename_i status text
    split
    · exact .cancel
    · split
      · rename_i hone
        subst hone
        split
        · exact .throws
        · rename_i hvalid
          split
          · exact .nothing
          · rename_i hnew
            exact .attach (by simpa using hvalid) hnew
      · exact .nothing
  · exact .nothing

theorem onStartCommand_cases {intent : Option Address} {starts : List (Option Address)}
    (hq : s.starts = intent :: starts) (scanner : Bool) :
    StepCase accepts s (.startCommand scanner)
      ({ s with starts := starts }.onStartCommand intent scanner) := by
  cases intent with
  | none => exact .noScan hq
  | some addr =>
      cases scanner with
      | false => exact .noScan hq
      | true => exact .scan hq

theorem step_cases (hs : step accepts s a = some t) : StepCase accepts s a t := by
  cases a with
  | uevent status text =>
      simp only [step, Option.ite_none_right_eq_some] at hs
      obtain ⟨-, hs⟩ := hs
      cases hs
      exact onUEvent_cases s status text
  | makeIntent =>
      simp only [step] at hs
      split at hs
      · rename_i addr hp
        cases hs
        exact .makeIntent hp
      · cases hs
  | notify =>
      simp only [step] at hs
      split at hs
      · rename_i hp
        cases hs
        exact .notify hp
      · cases hs
  | tap =>
      simp only [step, Option.ite_none_right_eq_some] at hs
      obtain ⟨hshown, hs⟩ := hs
      cases hs
      exact .tap hshown
  | dismiss =>
      cases hs
      exact .dismiss
  | start =>
      cases hs
      exact .start
  | startCommand scanner =>
      simp only [step] at hs
      split at hs
      · cases hs
      · rename_i intent starts hq
        cases hs
        exact onStartCommand_cases hq scanner
  | scanResult i device =>
      simp only [step] at hs
      split at hs
      · rename_i scan hscan
        simp only [Option.ite_none_right_eq_some] at hs
        obtain ⟨rfl, hs⟩ := hs
        cases hs
        exact .scanResult hscan
      · cases hs
  | scanFailed i =>
      simp only [step, Option.map_eq_some_iff] at hs
      obtain ⟨scan, hscan, rfl⟩ := hs
      exact .scanFailed hscan
  | bondsChange bonded =>
      cases hs
      exact .bondsChange
  | kill =>
      cases hs
      exact .kill

/-! ## Where an address comes from -/

/-- Every address in the system was attached, and the intent has the one
offered last. -/
structure Traced (accepts : Address → Bool) (h : List (Bonding × Action)) (s : Bonding) :
    Prop where
  extra : s.extra = (h.filterMap offered).getLast?
  shown : s.shown = true ∨ s.posting = some .intentMade → s.extra ≠ none
  posting : ∀ addr, s.posting = some (.checked addr) → addr ∈ h.filterMap (attached accepts)
  offers : ∀ addr ∈ h.filterMap offered, addr ∈ h.filterMap (attached accepts)
  starts : ∀ addr, some addr ∈ s.starts → addr ∈ h.filterMap (attached accepts)
  scans : ∀ scan ∈ s.scans, scan.pencilAddr ∈ h.filterMap (attached accepts)

theorem mem_attached_snoc {addr : Address} (haddr : addr ∈ h.filterMap (attached accepts)) :
    addr ∈ (h ++ [(s, a)]).filterMap (attached accepts) := by
  rw [filterMap_snoc]
  exact List.mem_append_left _ haddr

/-- A step that leaves the intent alone. -/
theorem Traced.snoc (hi : Traced accepts h s) (hoff : offered (s, a) = none)
    (hextra : t.extra = s.extra)
    (hshown : t.shown = true ∨ t.posting = some .intentMade →
      s.shown = true ∨ s.posting = some .intentMade)
    (hposting : ∀ addr, t.posting = some (.checked addr) →
      s.posting = some (.checked addr) ∨ attached accepts (s, a) = some addr)
    (hstarts : ∀ addr, some addr ∈ t.starts → some addr ∈ s.starts ∨ s.extra = some addr)
    (hscans : ∀ scan ∈ t.scans,
      (∃ old ∈ s.scans, old.pencilAddr = scan.pencilAddr) ∨ some scan.pencilAddr ∈ s.starts) :
    Traced accepts (h ++ [(s, a)]) t := by
  have hsame : (h ++ [(s, a)]).filterMap offered = h.filterMap offered := by
    rw [filterMap_snoc, hoff, Option.toList_none, List.append_nil]
  constructor
  · rw [hsame, hextra]
    exact hi.extra
  · intro hor
    rw [hextra]
    exact hi.shown (hshown hor)
  · intro addr haddr
    rcases hposting addr haddr with hold | hnew
    · exact mem_attached_snoc (hi.posting addr hold)
    · simp [hnew]
  · rw [hsame]
    exact fun addr haddr => mem_attached_snoc (hi.offers addr haddr)
  · intro addr haddr
    rcases hstarts addr haddr with hold | hlast
    · exact mem_attached_snoc (hi.starts addr hold)
    · apply mem_attached_snoc (hi.offers addr _)
      exact List.mem_of_getLast? (hi.extra.symm.trans hlast)
  · intro scan hscan
    rcases hscans scan hscan with ⟨old, hold, heq⟩ | hnew
    · exact heq ▸ mem_attached_snoc (hi.scans old hold)
    · exact mem_attached_snoc (hi.starts _ hnew)

/-- The step that offers a pen. -/
theorem Traced.offer {addr : Address} (hi : Traced accepts h s)
    (hp : s.posting = some (.checked addr)) :
    Traced accepts (h ++ [(s, .makeIntent)])
      { s with extra := some addr, posting := some .intentMade } := by
  have hoff : offered (s, .makeIntent) = some addr := by simp [offered, hp]
  have hsnoc : (h ++ [(s, Action.makeIntent)]).filterMap offered =
      h.filterMap offered ++ [addr] := by
    rw [filterMap_snoc, hoff, Option.toList_some]
  constructor
  · rw [hsnoc]
    simp
  · simp
  · intro x hx
    cases hx
  · rw [hsnoc]
    intro x hx
    rcases List.mem_append.mp hx with hold | hlast
    · exact mem_attached_snoc (hi.offers x hold)
    · cases List.mem_singleton.mp hlast
      exact mem_attached_snoc (hi.posting addr hp)
  · exact fun x hx => mem_attached_snoc (hi.starts x hx)
  · exact fun scan hscan => mem_attached_snoc (hi.scans scan hscan)

theorem stopScan_mem {i : Nat} {scan : Scan} (hscan : s.scans[i]? = some scan) :
    ∀ new ∈ (s.stopScan i scan).scans, ∃ old ∈ s.scans, old.pencilAddr = new.pencilAddr := by
  intro new hnew
  rcases List.mem_or_eq_of_mem_set hnew with hold | rfl
  · exact ⟨new, hold, rfl⟩
  · exact ⟨scan, List.mem_of_getElem? hscan, rfl⟩

theorem Traced.step (hi : Traced accepts h s) (hs : Bonding.step accepts s a = some t) :
    Traced accepts (h ++ [(s, a)]) t := by
  have hkeep : ∀ scan ∈ s.scans,
      (∃ old ∈ s.scans, old.pencilAddr = scan.pencilAddr) ∨ some scan.pencilAddr ∈ s.starts :=
    fun scan hscan => .inl ⟨scan, hscan, rfl⟩
  cases step_cases hs with
  | nothing => exact hi.snoc rfl rfl id (fun _ => .inl) (fun _ => .inl) hkeep
  | cancel =>
      exact hi.snoc rfl rfl (fun hor => hor.imp (by simp) id) (fun _ => .inl) (fun _ => .inl) hkeep
  | throws =>
      exact hi.snoc rfl rfl (fun hor => hor.imp id (by simp [die])) (by simp [die])
        (by simp [die]) (by simp [die])
  | @attach text hvalid hnew =>
      refine hi.snoc rfl rfl (fun hor => hor.imp id (by simp)) ?_ (fun _ => .inl) hkeep
      intro addr haddr
      right
      simp only [Option.some.injEq, Posting.checked.injEq] at haddr
      rw [← haddr]
      simp [attached, hvalid, hnew]
  | makeIntent hp => exact hi.offer hp
  | notify hp =>
      exact hi.snoc (by simp [offered]) rfl (fun _ => .inr hp) (by simp) (fun _ => .inl) hkeep
  | tap hshown =>
      refine hi.snoc rfl rfl (fun _ => .inl hshown) (fun _ => .inl) ?_ hkeep
      intro addr haddr
      rcases List.mem_append.mp haddr with hold | hlast
      · exact .inl hold
      · exact .inr (List.mem_singleton.mp hlast).symm
  | dismiss =>
      exact hi.snoc rfl rfl (fun hor => hor.imp (by simp) id) (fun _ => .inl) (fun _ => .inl) hkeep
  | start =>
      refine hi.snoc rfl rfl id (fun _ => .inl) ?_ hkeep
      intro addr haddr
      rcases List.mem_append.mp haddr with hold | hnone
      · exact .inl hold
      · cases List.mem_singleton.mp hnone
  | noScan hq =>
      refine hi.snoc rfl rfl id (fun _ => .inl) ?_ hkeep
      intro addr haddr
      left
      rw [hq]
      exact List.mem_cons_of_mem _ haddr
  | @scan addr starts hq =>
      refine hi.snoc rfl rfl id (fun _ => .inl) ?_ ?_
      · intro x hx
        left
        rw [hq]
        exact List.mem_cons_of_mem _ hx
      · intro scan hscan
        rcases List.mem_append.mp hscan with hold | hnew
        · exact hkeep scan hold
        · cases List.mem_singleton.mp hnew
          right
          rw [hq]
          exact List.mem_cons_self
  | scanResult hscan =>
      exact hi.snoc rfl rfl id (fun _ => .inl) (fun _ => .inl)
        fun new hnew => .inl (stopScan_mem hscan new hnew)
  | scanFailed hscan =>
      exact hi.snoc rfl rfl id (fun _ => .inl) (fun _ => .inl)
        fun new hnew => .inl (stopScan_mem hscan new hnew)
  | bondsChange => exact hi.snoc rfl rfl id (fun _ => .inl) (fun _ => .inl) hkeep
  | kill =>
      exact hi.snoc rfl rfl (fun hor => hor.imp id (by simp [die])) (by simp [die])
        (by simp [die]) (by simp [die])

theorem traced_of_path {bonded : List Address} (hp : Path (step accepts) (initial bonded) h s) :
    Traced accepts h s := by
  apply hp.history_inv (Traced accepts) (fun _ _ => True)
  · exact fun h t a u hi _ hs => hi.step hs
  · exact ⟨rfl, by simp [initial], by simp [initial], by simp, by simp [initial],
      by simp [initial]⟩
  · exact fun _ _ => trivial

theorem attached_valid {x : Bonding × Action} {addr : Address}
    (h : attached accepts x = some addr) : accepts addr = true := by
  unfold attached at h
  split at h
  · simp only [Option.ite_none_right_eq_some, Option.some.injEq] at h
    obtain ⟨⟨-, hvalid, -⟩, rfl⟩ := h
    exact hvalid
  · cases h

/-- **Bonds are with pens that were attached.** In every interleaving of
uevents, taps, starts of the service, scan results and deaths of the
process: the service bonds only with a device whose address a uevent has
reported before, well formed and not bonded at the time; and a tap asks for
the pen that was offered last, whichever one the notification was for. -/
theorem bonds_were_attached (accepts : Address → Bool) (hformat : AcceptsFormat accepts)
    (bonded : List Address) (h : List (Bonding × Action)) (s : Bonding)
    (hp : Path (step accepts) (initial bonded) h s) (pre post : List (Bonding × Action))
    (x : Bonding × Action) (heq : h = pre ++ x :: post) :
    (∀ device, bonds x = some device →
      device ∈ pre.filterMap (attached accepts) ∧ IsBluetoothAddress device) ∧
    (x.2 = .tap → ∃ addr, x.1.extra = some addr ∧
      (pre.filterMap offered).getLast? = some addr ∧ addr ∈ pre.filterMap (attached accepts)) := by
  subst heq
  obtain ⟨hpre, t, ht, -⟩ := hp.at_step
  have htraced := traced_of_path hpre
  obtain ⟨s, a⟩ := x
  constructor
  · intro device hdevice
    cases step_cases ht with
    | @scanResult i scan hscan =>
        cases hdevice
        have hmem := htraced.scans scan (List.mem_of_getElem? hscan)
        obtain ⟨y, -, hy⟩ := List.mem_filterMap.mp hmem
        exact ⟨hmem, (hformat _).mp (attached_valid hy)⟩
    | _ => cases hdevice
  · rintro rfl
    cases step_cases ht with
    | tap hshown =>
        have hsome := htraced.shown (.inl hshown)
        obtain ⟨addr, haddr⟩ := Option.ne_none_iff_exists'.mp hsome
        have hlast := htraced.extra.symm.trans haddr
        exact ⟨addr, haddr, hlast, htraced.offers addr (List.mem_of_getLast? hlast)⟩

/-- A pen is attached, offered, tapped and found. -/
def attachAndTap : List Action :=
  [.uevent (some "1") (some twoSpellings.1), .makeIntent, .notify, .start, .tap,
    .startCommand true, .startCommand true, .scanResult 0 (pencilAddr twoSpellings.2)]

theorem bonds_were_attached_one_pen :
    ∃ r ∈ follow (step (isPairs 5)) (initial []) attachAndTap,
      pencilAddr twoSpellings.2 ∈ (r.1.take 7).filterMap (attached (isPairs 5)) ∧
        IsBluetoothAddress (pencilAddr twoSpellings.2) := by
  have hrun : ∃ r ∈ follow (step (isPairs 5)) (initial []) attachAndTap,
      (r.1.drop 7).map bonds = [some (pencilAddr twoSpellings.2)] := by
    decide +kernel
  obtain ⟨r, hr, hbonds⟩ := hrun
  refine ⟨r, hr, ?_⟩
  cases hdrop : r.1.drop 7 with
  | nil => simp [hdrop] at hbonds
  | cons x rest =>
      have heq : r.1 = r.1.take 7 ++ x :: rest := by rw [← hdrop, List.take_append_drop]
      have hx : bonds x = some (pencilAddr twoSpellings.2) := by
        rw [hdrop, List.map_cons] at hbonds
        exact (List.cons.inj hbonds).1
      obtain ⟨hbonded, -⟩ := bonds_were_attached (isPairs 5) acceptsFormat_isPairs [] r.1 r.2
        (path_of_follow hr) _ _ x heq
      exact hbonded _ hx

end Bonding

end OplusHardware.Pen
