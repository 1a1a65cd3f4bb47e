import OplusHardware.Base.Path

/-!
# NrModeSwitcher — setting the NR mode at boot

`main` asks the radio service of every SIM slot to set the NR mode and
tries again when it fails. The service answers a request with a status at
once and with a response, through the callback, at any later time.
-/

namespace OplusHardware.NrModeSwitcher

inductive OplusNrMode where
  | nsaPre
  | nsaOnly
  | saOnly
  | saPre
  deriving DecidableEq, Repr

def kDefaultAutoNrMode : OplusNrMode := .saPre

/-- `GetDefaultAutoNrMode`, from what `GetIntProperty` answers. -/
def getDefaultAutoNrMode (mode : Int) : OplusNrMode :=
  if mode < 0 ∨ mode ≥ 4 then kDefaultAutoNrMode
  else if mode = 0 then .nsaPre
  else if mode = 1 then .nsaOnly
  else if mode = 2 then .saOnly
  else .saPre

def kMaxSimSlot : Nat := 2

def kOplusRilSerial : Int := 1001

/-- The attempts for one slot. -/
def kRetries : Nat := 100

def exitSuccess : Int := 0
def exitFailure : Int := 1

/-- A `setNrMode` that a service accepted and has not responded to. -/
structure Request where
  slot : Nat
  serial : Int
  mode : OplusNrMode
  deriving DecidableEq, Repr

/-- A `setNrModeResponse` that was received. -/
structure Response where
  slot : Nat
  result : Int
  deriving DecidableEq, Repr

/-- Where `main` stands; `retry` is its counter. -/
inductive Pc where
  | lookup (slot : Nat)
  /-- At the head of the retry loop. -/
  | request (slot retry : Nat)
  /-- `setNrMode` is back, its status and the result are looked at next. -/
  | test (slot retry : Nat) (isOk : Bool)
  | returned
  deriving DecidableEq, Repr

/-- The slot whose loop runs. -/
def Pc.slot? : Pc → Option Nat
  | .request i _ => some i
  | .test i _ _ => some i
  | _ => none

/-- The process, the requests that have no response yet and, newest first,
the responses that came while the loop of their slot ran. -/
structure Switcher where
  rc : Int
  mode : OplusNrMode
  pc : Pc
  /-- The variable of the slot whose loop runs. -/
  result : Int
  pending : List Request
  received : List Response
  deriving DecidableEq, Repr

namespace Switcher

variable {s t : Switcher}

/-- `main` up to its loop; `mode` is the property's value. -/
def start (mode : Int) : Switcher :=
  ⟨exitSuccess, getDefaultAutoNrMode mode, .lookup 0, 0, [], []⟩

/-- On to the slot after `i`. -/
def nextSlot (s : Switcher) (i : Nat) : Switcher :=
  { s with pc := if i + 1 < kMaxSimSlot then .lookup (i + 1) else .returned }

/-- The service of slot `i` was obtained: the callback is set. -/
def enterLoop (s : Switcher) (i : Nat) : Switcher :=
  { s with pc := .request i kRetries, result := 0 }

/-- The answer to `setNrMode(kOplusRilSerial, mode)`. -/
def setNrMode (s : Switcher) (i retry : Nat) (isOk : Bool) : Switcher :=
  { s with
    pc := .test i retry isOk
    pending := if isOk then s.pending ++ [⟨i, kOplusRilSerial, s.mode⟩] else s.pending }

/-- What follows a look at the status and the result: a sleep and the next
attempt, or the end of the loop. -/
def afterTest (s : Switcher) (i retry : Nat) (isOk : Bool) : Switcher :=
  if !isOk || s.result ≠ 0 then { s with pc := .request i (retry - 1) } else s.nextSlot i

/-- All attempts were made. -/
def giveUp (s : Switcher) (i : Nat) : Switcher := { s with rc := exitFailure }.nextSlot i

/-- `setNrModeResponse`, at the callback of slot `i`. It writes through its
reference. Once the loop of the slot is left the variable is gone, and the
environment decides whether the reference is to the variable of the slot
whose loop runs by then (`aliased`). -/
def setNrModeResponse (s : Switcher) (i : Nat) (result : Int) (aliased : Bool) : Switcher :=
  if s.pc.slot? = some i then
    { s with result := result, received := ⟨i, result⟩ :: s.received }
  else if aliased then { s with result := result }
  else s

inductive Action where
  /-- Looking a slot up in the manifest, and waiting for its service. -/
  | lookup (declared obtained : Bool)
  /-- `setNrMode`, answered by a status. -/
  | setNrMode (isOk : Bool)
  | test
  | giveUp
  /-- The response to a pending request. -/
  | respond (k : Nat) (result : Int) (aliased : Bool)
  deriving DecidableEq, Repr

def step (s : Switcher) (a : Action) : Option Switcher :=
  match a, s.pc with
  | .lookup declared obtained, .lookup i =>
      some (if declared && obtained then s.enterLoop i else s.nextSlot i)
  | .setNrMode isOk, .request i (retry + 1) => some (s.setNrMode i (retry + 1) isOk)
  | .giveUp, .request i 0 => some (s.giveUp i)
  | .test, .test i retry isOk => some (s.afterTest i retry isOk)
  | .respond k result aliased, _ =>
      s.pending[k]?.map fun rq =>
        { s with pending := s.pending.eraseIdx k }.setNrModeResponse rq.slot result aliased
  | _, _ => none

end Switcher

end OplusHardware.NrModeSwitcher
