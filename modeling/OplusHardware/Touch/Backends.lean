import OplusHardware.Touch.GestureRuns

/-!
# Touch — the two ways to a node

Every operation of the touch HALs can go through the `IOplusTouch`
service or through the file of the same node. The file tells the caller
whether it could be read or written; of the service's answers the code
looks at none.
-/

namespace OplusHardware.Touch

open OplusHardware.Base

/-! ## GloveMode and HighTouchPollingRate -/

def gameSwitchEnableNode : Int32 := 26
def gloveModeEnableNode : Int32 := 192
def kGloveModeEnablePath : String := "/proc/touchpanel/glove_mode_enable"
def kGameSwitchEnablePath : String := "/proc/touchpanel/game_switch_enable"

/-- `value[0] != '0'`; the empty string has a null character there. -/
def isEnabled (value : List Char) : Bool := value.headD '\x00' ≠ '0'

/-- `getEnabled` of a switch, with what it sets its out parameter to. -/
def getNodeEnabled (node : Int32) (path : String) (mOplusTouch : Bool) :
    TouchProg (AStatus × Option Bool) :=
  if mOplusTouch then do
    let value ← touchReadNodeFile defaultTpIcId node
    return (.ok, some (isEnabled value))
  else do
    match ← readFileToString path with
    | some value => return (.ok, some (isEnabled value))
    | none => return (.exUnsupportedOperation, none)

/-- `setEnabled` of a switch. -/
def setNodeEnabled (node : Int32) (path : String) (mOplusTouch enable : Bool) :
    TouchProg AStatus :=
  if mOplusTouch then do
    touchWriteNodeFile defaultTpIcId node [if enable then '1' else '0']
    return .ok
  else do
    let written ← writeStringToFile [if enable then '1' else '0'] path
    return if written then .ok else .exUnsupportedOperation

namespace GloveMode

/-- `GloveMode::getEnabled`. -/
def getEnabled (mOplusTouch : Bool) : TouchProg (AStatus × Option Bool) :=
  getNodeEnabled gloveModeEnableNode kGloveModeEnablePath mOplusTouch

/-- `GloveMode::setEnabled`. -/
def setEnabled (mOplusTouch enable : Bool) : TouchProg AStatus :=
  setNodeEnabled gloveModeEnableNode kGloveModeEnablePath mOplusTouch enable

end GloveMode

namespace HighTouchPollingRate

/-- `HighTouchPollingRate::getEnabled`. -/
def getEnabled (mOplusTouch : Bool) : TouchProg (AStatus × Option Bool) :=
  getNodeEnabled gameSwitchEnableNode kGameSwitchEnablePath mOplusTouch

/-- `HighTouchPollingRate::setEnabled`. -/
def setEnabled (mOplusTouch enable : Bool) : TouchProg AStatus :=
  setNodeEnabled gameSwitchEnableNode kGameSwitchEnablePath mOplusTouch enable

end HighTouchPollingRate

/-! ## The operations -/

inductive Operation where
  | setGestureEnabled (gesture : Gesture) (enabled : Bool)
  | getGloveMode
  | setGloveMode (enable : Bool)
  | getHighTouchPollingRate
  | setHighTouchPollingRate (enable : Bool)
  deriving DecidableEq, Repr

namespace Operation

/-- The operation on one of the ways: its status and its value, if it has
one. -/
def perform (mOplusTouch : Bool) : Operation → TouchProg (AStatus × Option Bool)
  | .setGestureEnabled g enabled =>
      Touch.setGestureEnabled mOplusTouch g enabled >>= fun status => .ret (status, none)
  | .getGloveMode => GloveMode.getEnabled mOplusTouch
  | .setGloveMode enable =>
      GloveMode.setEnabled mOplusTouch enable >>= fun status => .ret (status, none)
  | .getHighTouchPollingRate => HighTouchPollingRate.getEnabled mOplusTouch
  | .setHighTouchPollingRate enable =>
      HighTouchPollingRate.setEnabled mOplusTouch enable >>= fun status => .ret (status, none)

/-- The node the operation is about, and the file of that node. -/
def node : Operation → Int32 × String
  | .setGestureEnabled _ _ => (21, "/proc/touchpanel/double_tap_enable_indep")
  | .getGloveMode | .setGloveMode _ => (192, "/proc/touchpanel/glove_mode_enable")
  | .getHighTouchPollingRate | .setHighTouchPollingRate _ =>
      (26, "/proc/touchpanel/game_switch_enable")

def reads : Operation → Bool
  | .setGestureEnabled _ _ => true
  | .getGloveMode | .getHighTouchPollingRate => true
  | .setGloveMode _ | .setHighTouchPollingRate _ => false

def writes : Operation → Bool
  | .setGestureEnabled _ _ => true
  | .getGloveMode | .getHighTouchPollingRate => false
  | .setGloveMode _ | .setHighTouchPollingRate _ => true

/-- What the node can contain: the mask node a mask in base 16, with white
space behind it. -/
def ValidContent : Operation → List Char → Prop
  | .setGestureEnabled _ _, text =>
      ∃ mask : BitVec 32, mask.toNat < 2 ^ 31 ∧ Renders 16 mask.toNat text
  | _, text => ∃ c ws, text = c :: ws ∧ (c = '0' ∨ c = '1') ∧ ∀ c ∈ ws, isSpace c = true

/-- A client names a gesture it was offered. -/
def Legal : Operation → Prop
  | .setGestureEnabled g _ => ∃ supported, g ∈ getSupportedGestures supported
  | _ => True

end Operation

/-! ## A node whose accesses can fail -/

/-- The node's text, and how often it was really read and written. -/
structure NodeState where
  content : List Char
  reads : Nat
  writes : Nat
  deriving DecidableEq, Repr

/-- The node, its file, whether it can be read and written at present, and
what its text becomes when a text is written. -/
structure NodeAccess where
  node : Int32 × String
  readOk : Bool
  writeOk : Bool
  accept : List Char → List Char → List Char

namespace NodeAccess

variable {n : NodeAccess} {p : NodeState}

def read (n : NodeAccess) (p : NodeState) : NodeState :=
  if n.readOk then { p with reads := p.reads + 1 } else p

def write (n : NodeAccess) (p : NodeState) (info : List Char) : NodeState :=
  if n.writeOk then { p with content := n.accept p.content info, writes := p.writes + 1 } else p

/-- The service and the file of one node; another node is not this one's
concern. A failed read through the service leaves the string empty. -/
def serve (n : NodeAccess) (p : NodeState) : (op : TouchOp) → NodeState × op.Res
  | .touchReadNodeFile _ node =>
      if node = n.node.1 then (n.read p, if n.readOk then p.content else []) else (p, [])
  | .touchWriteNodeFile _ node info =>
      (if node = n.node.1 then n.write p info else p, ())
  | .readFileToString path =>
      if path = n.node.2 then (n.read p, if n.readOk then some p.content else none)
      else (p, none)
  | .writeStringToFile content path =>
      if path = n.node.2 then (n.write p content, n.writeOk) else (p, false)

end NodeAccess

/-- A node that was not accessed yet. -/
def untouched (content : List Char) : NodeState := ⟨content, 0, 0⟩

/-- The end of an operation on one of the ways. -/
def Operation.outcome (op : Operation) (n : NodeAccess) (content : List Char)
    (mOplusTouch : Bool) : NodeState × Except Fault (AStatus × Option Bool) :=
  (op.perform mOplusTouch).run n.serve (untouched content)

/-- An ok stands for a node that was really read and written. -/
def Operation.Honest (op : Operation) (r : NodeState × Except Fault (AStatus × Option Bool)) :
    Prop :=
  ∀ value, r.2 = .ok (.ok, value) →
    (op.reads = true → 0 < r.1.reads) ∧ (op.writes = true → 0 < r.1.writes)

/-- **The two ways agree**: neither throws, they answer the same status and
value and leave the same text, and an ok is honest on both. -/
structure Operation.Agree (op : Operation) (n : NodeAccess) (content : List Char) : Prop where
  returns : ∃ r, (op.outcome n content true).2 = .ok r ∧ (op.outcome n content false).2 = .ok r
  sameContent : (op.outcome n content true).1.content = (op.outcome n content false).1.content
  service : op.Honest (op.outcome n content true)
  file : op.Honest (op.outcome n content false)

/-! ## What the ways do -/

section Ways

variable {n : NodeAccess} {p : NodeState} {node : Int32} {path : String} {service enable : Bool}
  {content : List Char}

/-- Reading a switch: the file tells of a failure, the service reads as
enabled. -/
theorem run_getNodeEnabled (hn : n.node = (node, path)) :
    (getNodeEnabled node path service).run n.serve p =
      (n.read p, .ok (if n.readOk then (.ok, some (isEnabled p.content))
        else if service then (.ok, some true) else (.exUnsupportedOperation, none))) := by
  cases service with
  | true =>
      cases hread : n.readOk <;>
        simp [-bind_pure_comp, getNodeEnabled, touchReadNodeFile, NodeAccess.serve, hn, hread,
          isEnabled]
  | false =>
      cases hread : n.readOk <;>
        simp [-bind_pure_comp, getNodeEnabled, readFileToString, NodeAccess.serve, hn, hread]

/-- Writing a switch: the file tells of a failure, the service does not. -/
theorem run_setNodeEnabled (hn : n.node = (node, path)) :
    (setNodeEnabled node path service enable).run n.serve p =
      (n.write p [if enable then '1' else '0'],
        .ok (if n.writeOk || service then .ok else .exUnsupportedOperation)) := by
  cases service with
  | true =>
      simp [-bind_pure_comp, setNodeEnabled, touchWriteNodeFile, NodeAccess.serve, hn]
  | false =>
      simp [-bind_pure_comp, setNodeEnabled, writeStringToFile, NodeAccess.serve, hn]

/-- Setting a gesture on a mask that can be read: the same text is written
either way. -/
theorem run_setGestureEnabled_of_read {g : Gesture} {mask : BitVec 32} {id : KGesture}
    (hn : n.node = (doubleTapIndepNode, kGestureEnableIndepPath)) (hread : n.readOk = true)
    (hmask : mask.toNat < 2 ^ 31) (hcontent : Renders 16 mask.toNat p.content)
    (hg : g.keycode = kGestureStartKey + .ofNat id.id) :
    (setGestureEnabled service g enable).run n.serve p =
      (n.write (n.read p) (toText (setBit mask id.id enable).toInt),
        .ok (if n.writeOk || service then .ok else .exUnsupportedOperation)) := by
  have hlt := id.id_lt
  have hother : doubleTapEnableNode ≠ doubleTapIndepNode := by decide
  have hshift : shl1 (g.keycode.toInt - kGestureStartKey.toInt) = .ok (1#32 <<< id.id) := by
    rw [hg, keycode_toInt, shl1_ofNat (by omega)]
  have hset : (if enable then mask ||| (1#32 <<< id.id)
      else mask &&& ~~~(1#32 <<< id.id)) = setBit mask id.id enable := by
    cases enable <;> rfl
  cases service with
  | true =>
      simp [-bind_pure_comp, setGestureEnabled, readContents, writeContents, touchReadNodeFile,
        touchWriteNodeFile, NodeAccess.serve, hn, hread, stoi16_renders hcontent hmask, hshift,
        hset, hother]
  | false =>
      simp [-bind_pure_comp, setGestureEnabled, readContents, writeContents, readFileToString,
        writeStringToFile, NodeAccess.serve, hn, hread,
        stoi16_renders (trim_renders hcontent) hmask, hshift, hset]

/-- Setting a gesture on a mask that cannot be read: the service throws. -/
theorem run_setGestureEnabled_of_not_read {g : Gesture}
    (hn : n.node = (doubleTapIndepNode, kGestureEnableIndepPath)) (hread : n.readOk = false) :
    (setGestureEnabled service g enable).run n.serve p =
      (p, if service then .error (.stoi .invalidArgument) else .ok .exUnsupportedOperation) := by
  have hempty : stoi16 [] = .error (.stoi .invalidArgument) := rfl
  cases service with
  | true =>
      simp [-bind_pure_comp, setGestureEnabled, readContents, touchReadNodeFile,
        NodeAccess.serve, NodeAccess.read, hn, hread, hempty]
  | false =>
      simp [-bind_pure_comp, setGestureEnabled, readContents, readFileToString,
        NodeAccess.serve, NodeAccess.read, hn, hread]

end Ways

/-! ## When they agree -/

section Agreement

variable {n : NodeAccess} {op : Operation} {content : List Char}

/-- An operation that ends on both ways with the same status and in the
same node agrees where an ok is honest. -/
theorem Operation.agree_of_outcome {p : NodeState} {r : AStatus × Option Bool}
    (hout : ∀ service, op.outcome n content service = (p, .ok r))
    (hhonest : op.Honest (p, .ok r)) : op.Agree n content where
  returns := ⟨r, by rw [hout], by rw [hout]⟩
  sameContent := by rw [hout, hout]
  service := by
    rw [hout]
    exact hhonest
  file := by
    rw [hout]
    exact hhonest

/-- Where the ways end with different statuses they disagree. -/
theorem Operation.not_agree_of_status {p p' : NodeState} {status : AStatus}
    {value value' : Option Bool}
    (hservice : op.outcome n content true = (p, .ok (.ok, value)))
    (hfile : op.outcome n content false = (p', .ok (status, value'))) (hne : status ≠ .ok) :
    ¬ op.Agree n content := by
  rintro ⟨⟨r, hr, hr'⟩, -, -, -⟩
  rw [hservice] at hr
  rw [hfile] at hr'
  cases hr
  cases hr'
  exact hne rfl

/-- Reading a switch. -/
theorem agree_getNodeEnabled {node : Int32} {path : String} (hn : n.node = (node, path))
    (hperform : ∀ service, op.perform service = getNodeEnabled node path service)
    (hwrites : op.writes = false) :
    op.Agree n content ↔ n.readOk = true := by
  have hout : ∀ service, op.outcome n content service = _ := fun service => by
    rw [Operation.outcome, hperform, run_getNodeEnabled hn]
  cases hread : n.readOk with
  | true =>
      simp only [hread, if_true] at hout
      refine ⟨fun _ => rfl, fun _ => Operation.agree_of_outcome hout ?_⟩
      intro value _
      simp [hwrites, NodeAccess.read, hread, untouched]
  | false =>
      simp only [hread, Bool.false_eq_true, if_false] at hout
      constructor
      · intro hagree
        exact absurd hagree (Operation.not_agree_of_status (hout true) (hout false) (by decide))
      · intro habs
        cases habs

/-- Writing a switch. -/
theorem agree_setNodeEnabled {node : Int32} {path : String} {enable : Bool}
    (hn : n.node = (node, path))
    (hperform : ∀ service, op.perform service =
      setNodeEnabled node path service enable >>= fun status => .ret (status, none))
    (hreads : op.reads = false) :
    op.Agree n content ↔ n.writeOk = true := by
  have hout : ∀ service, op.outcome n content service = _ := fun service => by
    rw [Operation.outcome, hperform, Prog.run_bind, run_setNodeEnabled hn]
  simp only [Prog.run_ret] at hout
  cases hwrite : n.writeOk with
  | true =>
      simp only [hwrite, Bool.true_or, if_true] at hout
      refine ⟨fun _ => rfl, fun _ => Operation.agree_of_outcome hout ?_⟩
      intro value _
      simp [hreads, NodeAccess.write, hwrite, untouched]
  | false =>
      simp only [hwrite, Bool.false_or] at hout
      constructor
      · intro hagree
        exact absurd hagree (Operation.not_agree_of_status (hout true) (hout false) (by decide))
      · intro habs
        cases habs

/-- Setting a gesture. -/
theorem agree_setGestureEnabled {g : Gesture} {enabled : Bool}
    (hn : n.node = (doubleTapIndepNode, kGestureEnableIndepPath))
    (hcontent : (Operation.setGestureEnabled g enabled).ValidContent content)
    (hlegal : (Operation.setGestureEnabled g enabled).Legal) :
    (Operation.setGestureEnabled g enabled).Agree n content ↔
      n.readOk = true ∧ n.writeOk = true := by
  obtain ⟨mask, hmask, hrender⟩ := hcontent
  obtain ⟨supported, hmem⟩ := hlegal
  obtain ⟨id, -, hg⟩ := mem_getSupportedGestures hmem
  cases hread : n.readOk with
  | false =>
      constructor
      · -- the service's way throws
        rintro ⟨⟨r, hr, -⟩, -, -, -⟩
        rw [Operation.outcome, Operation.perform, Prog.run_bind,
          run_setGestureEnabled_of_not_read hn hread] at hr
        cases hr
      · rintro ⟨habs, -⟩
        cases habs
  | true =>
      have hout : ∀ service,
          (Operation.setGestureEnabled g enabled).outcome n content service = _ :=
        fun service => by
          rw [Operation.outcome, Operation.perform, Prog.run_bind,
            run_setGestureEnabled_of_read (p := untouched content) hn hread hmask hrender hg]
      simp only [Prog.run_ret] at hout
      cases hwrite : n.writeOk with
      | true =>
          simp only [hwrite, Bool.true_or, if_true] at hout
          refine ⟨fun _ => ⟨rfl, rfl⟩, fun _ => Operation.agree_of_outcome hout ?_⟩
          intro value _
          simp [NodeAccess.write, NodeAccess.read, hwrite, hread, untouched]
      | false =>
          simp only [hwrite, Bool.false_or] at hout
          constructor
          · intro hagree
            exact absurd hagree
              (Operation.not_agree_of_status (hout true) (hout false) (by decide))
          · rintro ⟨-, habs⟩
            cases habs

/-- **The service and the file agree exactly when every access the
operation makes to its node succeeds.** -/
theorem backends_agree_iff (op : Operation) (n : NodeAccess) (content : List Char)
    (hn : n.node = op.node) (hcontent : op.ValidContent content) (hlegal : op.Legal) :
    op.Agree n content ↔
      (op.reads = true → n.readOk = true) ∧ (op.writes = true → n.writeOk = true) := by
  cases op with
  | setGestureEnabled g enabled =>
      rw [agree_setGestureEnabled hn hcontent hlegal]
      simp [Operation.reads, Operation.writes]
  | getGloveMode =>
      rw [agree_getNodeEnabled hn (fun _ => rfl) rfl]
      simp [Operation.reads, Operation.writes]
  | setGloveMode enable =>
      rw [agree_setNodeEnabled hn (fun _ => rfl) rfl]
      simp [Operation.reads, Operation.writes]
  | getHighTouchPollingRate =>
      rw [agree_getNodeEnabled hn (fun _ => rfl) rfl]
      simp [Operation.reads, Operation.writes]
  | setHighTouchPollingRate enable =>
      rw [agree_setNodeEnabled hn (fun _ => rfl) rfl]
      simp [Operation.reads, Operation.writes]

/-- A switch node, which takes over what is written. -/
def switchNode (readOk writeOk : Bool) : NodeAccess where
  node := Operation.getGloveMode.node
  readOk := readOk
  writeOk := writeOk
  accept := fun _ info => info

theorem backends_agree_iff_glove :
    Operation.getGloveMode.Agree (switchNode true false) ['0', '\n'] :=
  (backends_agree_iff .getGloveMode (switchNode true false) ['0', '\n'] rfl
    ⟨'0', ['\n'], rfl, .inl rfl, isSpace_lineBreak⟩ trivial).mpr ⟨fun _ => rfl, by decide⟩

/-- **A failed read through the service** answers ok and "enabled", on a
node that says otherwise; the file answers that it is unsupported. -/
theorem failed_read_reads_enabled :
    Operation.getGloveMode.outcome (switchNode false true) ['0', '\n'] true =
        (untouched ['0', '\n'], .ok (.ok, some true)) ∧
      Operation.getGloveMode.outcome (switchNode false true) ['0', '\n'] false =
        (untouched ['0', '\n'], .ok (.exUnsupportedOperation, none)) ∧
      ¬ Operation.getGloveMode.Agree (switchNode false true) ['0', '\n'] := by
  refine ⟨rfl, rfl, ?_⟩
  exact Operation.not_agree_of_status rfl rfl (by decide)

end Agreement

end OplusHardware.Touch
