import OplusHardware.Base.Json
import OplusHardware.QtiVibrator.FfKernel

/-!
# QtiVibrator — the effect streams of a configuration file

`VibrationEffectLoader` reads `/odm/etc/vibrator/vibrator_effect.json`
once, when the library is loaded, and `get_effect_stream` answers from
what it kept, or else from the table it was built with.

The parser of the configuration and that table come from outside and are
parameters. A failed accessor of a JSON value ends the process, so the
loader's functions answer in `Except JsonFailure`.
-/

namespace OplusHardware.QtiVibrator

open OplusHardware.Base

def kKeyDefStyle : String := "def_style"
def kKeyEffectFile : String := "effect_file"
def kKeyEffectId : String := "effect_id"
def kKeyPlayRateHz : String := "play_rate_hz"

/-- A file that can be opened, and whether a read from it succeeds. -/
structure DataFile where
  bytes : List Int8
  readable : Bool

/-- What opening a path gives. Nothing has the empty path. -/
structure FileSystem where
  openFile : String → Option DataFile
  no_empty_path : openFile "" = none

/-- `LoadEffectDataFromFile`, with the length it stores. The offset of the
end of the file is narrowed to 32 bits. -/
def loadEffectDataFromFile (fs : FileSystem) (path : String) :
    Option (UInt32 × List Int8) := do
  let file ← fs.openFile path
  let length := UInt32.ofNat file.bytes.length
  if file.readable then some (length, file.bytes.take length.toNat) else none

abbrev EffectMap : Type := AList fun _ : UInt32 => EffectStream

structure VibrationEffectLoader where
  effectMap : EffectMap

namespace VibrationEffectLoader

variable (fs : FileSystem)

/-- One turn of the loop of `loadEffects`: the stream it emplaces, or
`none` where it continues with the next element. -/
def loadEffect (node : Json) : Except JsonFailure (Option EffectStream) := do
  let attr ← node.get kKeyEffectId
  if !attr.isUInt then pure none
  else
    let effectId := attr.asUInt
    let attr ← node.get kKeyPlayRateHz
    if !attr.isUInt then pure none
    else
      let playRateHz := attr.asUInt
      let attr ← node.get kKeyEffectFile
      let path ← attr.asString
      match loadEffectDataFromFile fs path with
      | none => pure none
      | some (length, data) => pure (some ⟨effectId, length, playRateHz, data⟩)

/-- `VibrationEffectLoader::loadEffects`, from the map it has so far. -/
def loadEffects (m : EffectMap) : List Json → Except JsonFailure EffectMap
  | [] => pure m
  | node :: rest => do
      match ← loadEffect fs node with
      | none => loadEffects m rest
      | some s => loadEffects (emplace m s.effectId s) rest

/-- The loop of `parseEffectJson` over the members of the root. -/
def findEffectNodes : List Json → Except JsonFailure Json
  | [] => pure .null
  | node :: rest =>
      if node.isObject then do
        let node ← node.get kKeyDefStyle
        if node.isNonEmptyArray then pure node else findEffectNodes rest
      else findEffectNodes rest

/-- `VibrationEffectLoader::parseEffectJson`, on what the parser answers
for the stream. -/
def parseEffectJson (parsed : Option Json) : Except JsonFailure Json :=
  match parsed with
  | none => pure .null
  | some root =>
      if !root.isObject then pure .null
      else findEffectNodes (root.members.map Prod.snd)

variable (parseFromStream : List UInt8 → Option Json)

/-- `VibrationEffectLoader::VibrationEffectLoader`. `config` is the content
of the configuration file, when it can be opened. -/
def construct (config : Option (List UInt8)) : Except JsonFailure VibrationEffectLoader :=
  match config with
  | none => pure ⟨∅⟩
  | some stream => do
      let node ← parseEffectJson (parseFromStream stream)
      if node.isNull then pure ⟨∅⟩
      else
        let m ← loadEffects fs ∅ node.elements
        pure ⟨m⟩

def getEffectStream (loader : VibrationEffectLoader) (effectId : UInt32) :
    Option EffectStream :=
  loader.effectMap.lookup effectId

end VibrationEffectLoader

/-- `get_effect_stream`; `effects` is the built-in table. -/
def getEffectStream (loader : VibrationEffectLoader) (effects : List EffectStream)
    (effectId : UInt32) : Option EffectStream :=
  match loader.getEffectStream effectId with
  | some s => some s
  | none => effects.find? (·.effectId = effectId)

/-! ## What a configuration offers -/

/-- **The array a configuration chooses**: the first non-empty one under
`def_style` in a member of the root that is an object. -/
def chosenArray (root : Json) : Option (List Json) :=
  root.members.findSome? fun member =>
    if member.2.isObject then
      match member.2.member kKeyDefStyle with
      | .array (node :: nodes) => some (node :: nodes)
      | _ => none
    else none

/-- The elements the loader goes through. -/
def chosenNodes (parsed : Option Json) : List Json :=
  match parsed with
  | none => []
  | some root => (chosenArray root).getD []

/-- **The stream an element offers**: it has an unsigned integer as id and
as rate, and `load` gives the data of its file. -/
def usable (load : String → Option (UInt32 × List Int8)) (node : Json) :
    Option EffectStream := do
  let effectId ← (node.member kKeyEffectId).uint?
  let playRateHz ← (node.member kKeyPlayRateHz).uint?
  if (node.member kKeyEffectFile).isContainer then none
  else
    let (length, data) ← load (node.member kKeyEffectFile).text
    some ⟨effectId, length, playRateHz, data⟩

/-- The whole of a file that can be opened and read, and its length. -/
def wholeFile (fs : FileSystem) (path : String) : Option (UInt32 × List Int8) := do
  let file ← fs.openFile path
  if file.readable then some (UInt32.ofNat file.bytes.length, file.bytes) else none

/-- **An element no accessor fails on.** `null` has no attributes, and an
object is asked for its file as a string once its id and rate are read. -/
def Harmless (node : Json) : Prop :=
  node.isNull = true ∨
    node.isObject = true ∧
      ¬ ((node.member kKeyEffectId).isUInt = true ∧
        (node.member kKeyPlayRateHz).isUInt = true ∧
        (node.member kKeyEffectFile).isContainer = true)

instance (node : Json) : Decidable (Harmless node) :=
  inferInstanceAs (Decidable (_ ∨ _))

namespace VibrationEffectLoader

variable {fs : FileSystem} {parseFromStream : List UInt8 → Option Json}
  {node : Json} {nodes : List Json}

/-! ## One element -/

/-- An object loads as what it offers, unless its file is no string. -/
theorem loadEffect_object (hobj : node.isObject = true)
    (hfile : ¬ ((node.member kKeyEffectId).isUInt = true ∧
      (node.member kKeyPlayRateHz).isUInt = true ∧
      (node.member kKeyEffectFile).isContainer = true)) :
    loadEffect fs node = .ok (usable (loadEffectDataFromFile fs) node) := by
  rw [loadEffect, usable, Json.get_object hobj, Json.get_object hobj, Json.get_object hobj]
  simp only [bind, Except.bind, Option.bind]
  cases hid : (node.member kKeyEffectId).uint? with
  | none =>
      rw [Json.isUInt_of_none hid]
      rfl
  | some effectId =>
      obtain ⟨hisId, hasId⟩ := Json.asUInt_of_uint? hid
      cases hrate : (node.member kKeyPlayRateHz).uint? with
      | none =>
          rw [hisId, Json.isUInt_of_none hrate]
          rfl
      | some playRateHz =>
          obtain ⟨hisRate, hasRate⟩ := Json.asUInt_of_uint? hrate
          have hstring : (node.member kKeyEffectFile).isContainer = false :=
            Bool.eq_false_iff.mpr fun h => hfile ⟨hisId, hisRate, h⟩
          rw [hisId, hisRate, hasId, hasRate, hstring, Json.asString_text hstring]
          cases hload : loadEffectDataFromFile fs (node.member kKeyEffectFile).text with
          | none => simp [hload, pure, Except.pure]
          | some file => simp [hload, pure, Except.pure]

theorem loadEffect_null (hnull : node.isNull = true) :
    loadEffect fs node = .ok (usable (loadEffectDataFromFile fs) node) := by
  rw [Json.eq_null hnull]
  rfl

theorem loadEffect_harmless (h : Harmless node) :
    loadEffect fs node = .ok (usable (loadEffectDataFromFile fs) node) := by
  rcases h with hnull | ⟨hobj, hfile⟩
  · exact loadEffect_null hnull
  · exact loadEffect_object hobj hfile

/-- **Any other element ends the process.** -/
theorem loadEffect_harmful (h : ¬ Harmless node) :
    ∃ e, loadEffect fs node = .error e := by
  rw [Harmless, not_or, Bool.not_eq_true] at h
  obtain ⟨hnull, hobj⟩ := h
  cases hisObj : node.isObject with
  | false =>
      rw [loadEffect, Json.get_other hnull hisObj]
      exact ⟨_, rfl⟩
  | true =>
      rw [hisObj, eq_self, true_and, not_not] at hobj
      obtain ⟨hid, hrate, hfile⟩ := hobj
      rw [loadEffect, Json.get_object hisObj, Json.get_object hisObj,
        Json.get_object hisObj]
      simp only [bind, Except.bind, hid, hrate, Json.asString_container hfile]
      exact ⟨_, rfl⟩

/-! ## The loop over the elements -/

theorem loadEffects_cons (m : EffectMap) (node : Json) (rest : List Json) :
    loadEffects fs m (node :: rest) =
      (loadEffect fs node).bind fun s =>
        match s with
        | none => loadEffects fs m rest
        | some s => loadEffects fs (emplace m s.effectId s) rest := rfl

/-- **Elements that are harmless load** as what they offer, one after the
other. -/
theorem loadEffects_harmless (h : ∀ node ∈ nodes, Harmless node) (m : EffectMap) :
    loadEffects fs m nodes =
      .ok (emplaceAll EffectStream.effectId m
        (nodes.filterMap (usable (loadEffectDataFromFile fs)))) := by
  induction nodes generalizing m with
  | nil => rfl
  | cons node rest ih =>
      obtain ⟨hnode, hrest⟩ := List.forall_mem_cons.mp h
      rw [loadEffects_cons, loadEffect_harmless hnode]
      show (match usable (loadEffectDataFromFile fs) node with
        | none => loadEffects fs m rest
        | some s => loadEffects fs (emplace m s.effectId s) rest) = _
      cases hs : usable (loadEffectDataFromFile fs) node with
      | none =>
          rw [List.filterMap_cons_none hs]
          exact ih hrest m
      | some s =>
          rw [List.filterMap_cons_some hs]
          exact ih hrest (emplace m s.effectId s)

/-- The loop completes only over elements that are all harmless. -/
theorem harmless_of_loadEffects {m m' : EffectMap} (h : loadEffects fs m nodes = .ok m') :
    ∀ node ∈ nodes, Harmless node := by
  induction nodes generalizing m with
  | nil => exact List.forall_mem_nil _
  | cons node rest ih =>
      rw [loadEffects_cons] at h
      by_cases hnode : Harmless node
      · rw [loadEffect_harmless hnode] at h
        refine List.forall_mem_cons.mpr ⟨hnode, ?_⟩
        cases hs : usable (loadEffectDataFromFile fs) node with
        | none =>
            rw [hs] at h
            exact ih h
        | some s =>
            rw [hs] at h
            exact ih h
      · obtain ⟨e, he⟩ : ∃ e, loadEffect fs node = .error e := loadEffect_harmful hnode
        rw [he] at h
        cases h

/-! ## The choice of the array -/

/-- The array of a member, when it is one the loop stops at. -/
theorem findEffectNodes_spec (l : List (String × Json)) :
    findEffectNodes (l.map Prod.snd) =
      .ok (((chosenArray (.object l)).map Json.array).getD .null) := by
  induction l with
  | nil => rfl
  | cons member rest ih =>
      rw [List.map_cons, findEffectNodes, chosenArray]
      show _ = Except.ok ((Option.map Json.array (List.findSome? _ (member :: rest))).getD _)
      rw [List.findSome?_cons]
      cases hobj : member.2.isObject with
      | false => exact ih
      | true =>
          rw [if_pos rfl, if_pos rfl, Json.get_object hobj]
          show (if (member.2.member kKeyDefStyle).isNonEmptyArray then _ else _) = _
          cases member.2.member kKeyDefStyle with
          | array nodes =>
              cases nodes with
              | nil => exact ih
              | cons node nodes => rfl
          | null => exact ih
          | bool b => exact ih
          | int n => exact ih
          | real u t => exact ih
          | string s => exact ih
          | object l => exact ih

theorem chosenArray_of_not_object {root : Json} (h : root.isObject = false) :
    chosenArray root = none := by
  rw [chosenArray, Json.members_of_not_object h]
  rfl

/-- `parseEffectJson` never fails. It answers the chosen array or `null`. -/
theorem parseEffectJson_spec (parsed : Option Json) :
    parseEffectJson parsed =
      .ok (((parsed.bind chosenArray).map Json.array).getD .null) := by
  cases parsed with
  | none => rfl
  | some root =>
      rw [parseEffectJson, Option.bind_some]
      cases hobj : root.isObject with
      | false =>
          rw [chosenArray_of_not_object hobj]
          rfl
      | true =>
          rw [Json.eq_object hobj]
          exact findEffectNodes_spec root.members

/-- The constructor is the loop over the chosen elements. -/
theorem construct_eq (config : Option (List UInt8)) :
    construct fs parseFromStream config =
      (loadEffects fs ∅ (chosenNodes (config.bind parseFromStream))).map
        VibrationEffectLoader.mk := by
  cases config with
  | none => rfl
  | some stream =>
      rw [construct, parseEffectJson_spec, Option.bind_some]
      cases parseFromStream stream with
      | none => rfl
      | some root =>
          show _ = Except.map _ (loadEffects fs ∅ ((chosenArray root).getD []))
          rw [Option.bind_some]
          cases chosenArray root with
          | none => rfl
          | some nodes =>
              show (loadEffects fs ∅ nodes).bind (fun m => .ok (VibrationEffectLoader.mk m)) =
                Except.map _ (loadEffects fs ∅ nodes)
              cases loadEffects fs ∅ nodes <;> rfl

/-- **What a loader knows that was constructed**: for each id the first
usable element. -/
theorem construct_harmless {config : Option (List UInt8)}
    (h : ∀ node ∈ chosenNodes (config.bind parseFromStream), Harmless node) :
    ∃ loader, construct fs parseFromStream config = .ok loader ∧
      ∀ effectId, loader.getEffectStream effectId =
        ((chosenNodes (config.bind parseFromStream)).filterMap
          (usable (loadEffectDataFromFile fs))).find? (·.effectId = effectId) := by
  refine ⟨_, by rw [construct_eq, loadEffects_harmless h]; rfl, fun effectId => ?_⟩
  show (emplaceAll EffectStream.effectId ∅ _).lookup effectId = _
  rw [lookup_emplaceAll, AList.lookup_empty, Option.none_or]

/-! ## Regular files -/

/-- Every file is short enough for a 32-bit length. -/
def Regular (fs : FileSystem) : Prop :=
  ∀ path file, fs.openFile path = some file → file.bytes.length < 2 ^ 32

theorem loadEffectDataFromFile_regular (h : Regular fs) (path : String) :
    loadEffectDataFromFile fs path = wholeFile fs path := by
  rw [loadEffectDataFromFile, wholeFile]
  cases hfile : fs.openFile path with
  | none => rfl
  | some file =>
      have hlength : (UInt32.ofNat file.bytes.length).toNat = file.bytes.length :=
        UInt32.toNat_ofNat_of_lt' (h path file hfile)
      simp only [bind, Option.bind, hlength, List.take_length]

/-- The stream of a usable element has the length of its data. -/
theorem usable_length (h : Regular fs) {s : EffectStream}
    (hs : usable (wholeFile fs) node = some s) : s.length.toNat = s.data.length := by
  simp only [usable, Option.bind_eq_bind, Option.bind_eq_some_iff] at hs
  obtain ⟨effectId, -, playRateHz, -, hs⟩ := hs
  by_cases hc : (node.member kKeyEffectFile).isContainer = true
  · rw [if_pos hc] at hs
    cases hs
  · rw [if_neg hc, Option.bind_eq_some_iff] at hs
    obtain ⟨loaded, hload, hs⟩ := hs
    rw [wholeFile, Option.bind_eq_bind, Option.bind_eq_some_iff] at hload
    obtain ⟨file, hfile, hread⟩ := hload
    split at hread
    · cases hread
      cases hs
      exact UInt32.toNat_ofNat_of_lt' (h _ file hfile)
    · cases hread

/-- An object whose file is a string, or absent. -/
def WellTyped (node : Json) : Prop :=
  node.isObject = true ∧
    ((node.member kKeyEffectFile).isNull = true ∨
      ∃ path, node.member kKeyEffectFile = .string path)

theorem WellTyped.harmless (h : WellTyped node) : Harmless node := by
  refine .inr ⟨h.1, ?_⟩
  rintro ⟨-, -, hfile⟩
  rcases h.2 with hnull | ⟨path, hpath⟩
  · rw [Json.eq_null hnull] at hfile
    cases hfile
  · rw [hpath] at hfile
    cases hfile

/-! ## The lookup law -/

/-- **Which stream an effect id gets.** When the elements of the chosen
array are objects with a string for a file or none, and the files are
regular: the loader comes up, and `get_effect_stream` answers the first
usable element with that id, else the built-in effect with that id, else
nothing. -/
theorem getEffectStream_law (fs : FileSystem)
    (parseFromStream : List UInt8 → Option Json) (effects : List EffectStream)
    (config : List UInt8) {root : Json} (hfs : Regular fs)
    (hparse : parseFromStream config = some root)
    (hnodes : ∀ nodes, chosenArray root = some nodes → ∀ node ∈ nodes, WellTyped node) :
    ∃ loader, construct fs parseFromStream (some config) = .ok loader ∧
      (∀ node ∈ (chosenArray root).getD [], ∀ s, usable (wholeFile fs) node = some s →
        s.length.toNat = s.data.length) ∧
      ∀ effectId, QtiVibrator.getEffectStream loader effects effectId =
        ((((chosenArray root).getD []).filterMap (usable (wholeFile fs))).find?
          (·.effectId = effectId)).or (effects.find? (·.effectId = effectId)) := by
  have hchosen : chosenNodes ((some config).bind parseFromStream) =
      (chosenArray root).getD [] := by
    rw [Option.bind_some, hparse]
    rfl
  have hharmless : ∀ node ∈ (chosenArray root).getD [], Harmless node := by
    intro node hnode
    cases hA : chosenArray root with
    | none =>
        rw [hA] at hnode
        cases hnode
    | some nodes =>
        rw [hA] at hnode
        exact (hnodes nodes hA node hnode).harmless
  rw [← hchosen] at hharmless
  obtain ⟨loader, hloader, hlookup⟩ := @construct_harmless fs _ _ hharmless
  refine ⟨loader, hloader, fun _ _ s hs => usable_length hfs hs, fun effectId => ?_⟩
  have hload : loadEffectDataFromFile fs = wholeFile fs :=
    funext (loadEffectDataFromFile_regular hfs)
  rw [QtiVibrator.getEffectStream, hlookup effectId, hchosen, hload]
  cases (((chosenArray root).getD []).filterMap (usable (wholeFile fs))).find?
      (·.effectId = effectId) <;> rfl

/-- An element as the example configuration has them. -/
def effectNode (file : String) (effectId playRateHz : Int) : Json :=
  .object [(kKeyEffectFile, .string file), (kKeyEffectId, .int effectId),
    (kKeyPlayRateHz, .int playRateHz)]

/-- A configuration with the elements of one `def_style`. -/
def configOf (nodes : List Json) : Json :=
  .object [("9999", .object [(kKeyDefStyle, .array nodes)])]

/-- A file system with a single file. -/
def oneFile (path : String) (h : path ≠ "") (bytes : List Int8) : FileSystem where
  openFile p := if p = path then some ⟨bytes, true⟩ else none
  no_empty_path := if_neg (Ne.symm h)

theorem regular_oneFile {path : String} {h : path ≠ ""} {bytes : List Int8}
    (hbytes : bytes.length < 2 ^ 32) : Regular (oneFile path h bytes) := by
  intro p file hfile
  change (if p = path then _ else _) = _ at hfile
  split at hfile
  · cases hfile
    exact hbytes
  · cases hfile

theorem wellTyped_effectNode (file : String) (effectId playRateHz : Int) :
    WellTyped (effectNode file effectId playRateHz) :=
  ⟨rfl, .inr ⟨file, rfl⟩⟩

/-- The bytes of a text. -/
def asciiBytes (text : String) : List UInt8 :=
  text.toList.map fun c => UInt8.ofNat c.toNat

/-- Two elements for the id `0`, the text and what it parses to. -/
def duplicateIds : List UInt8 :=
  asciiBytes ("\x7b\"9999\": \x7b\"def_style\": [" ++
    "\x7b\"effect_file\": \"a.bin\", \"effect_id\": 0, \"play_rate_hz\": 8000\x7d, " ++
    "\x7b\"effect_file\": \"b.bin\", \"effect_id\": 0, \"play_rate_hz\": 24000\x7d" ++
    "]\x7d\x7d")

def duplicateIdsRoot : Json :=
  configOf [effectNode "a.bin" 0 8000, effectNode "b.bin" 0 24000]

/-- The first of the two elements has no file, and the second is loaded. -/
theorem getEffectStream_law_duplicate :
    ∃ loader, construct (oneFile "b.bin" (by decide) [1, 2]) (fun _ => some duplicateIdsRoot)
        (some duplicateIds) = .ok loader ∧
      QtiVibrator.getEffectStream loader [] 0 = some ⟨0, 2, 24000, [1, 2]⟩ := by
  obtain ⟨loader, hloader, -, hlaw⟩ :=
    getEffectStream_law (oneFile "b.bin" (by decide) [1, 2]) (fun _ => some duplicateIdsRoot)
      [] duplicateIds (regular_oneFile (by decide)) rfl (by
        intro nodes h
        cases h
        exact List.forall_mem_cons.mpr ⟨wellTyped_effectNode .., List.forall_mem_cons.mpr
          ⟨wellTyped_effectNode .., List.forall_mem_nil _⟩⟩)
  exact ⟨loader, hloader, (hlaw 0).trans rfl⟩

/-! ## Which configurations end the process -/

/-- The constructor completes, having skipped what is not usable and loaded
the first usable element for each id. -/
def LoadsUsable (fs : FileSystem) (parseFromStream : List UInt8 → Option Json)
    (config : Option (List UInt8)) : Prop :=
  ∃ loader, construct fs parseFromStream config = .ok loader ∧
    ∀ effectId, loader.getEffectStream effectId =
      ((chosenNodes (config.bind parseFromStream)).filterMap
        (usable (loadEffectDataFromFile fs))).find? (·.effectId = effectId)

/-- **The configurations the loader survives**: it completes, with every
usable element, exactly when each element of the chosen array is `null`,
or an object whose file is no container once its id and rate are read. -/
theorem loadsUsable_iff (fs : FileSystem) (parseFromStream : List UInt8 → Option Json)
    (config : Option (List UInt8)) :
    LoadsUsable fs parseFromStream config ↔
      ∀ node ∈ chosenNodes (config.bind parseFromStream), Harmless node := by
  constructor
  · rintro ⟨loader, hloader, -⟩
    rw [construct_eq] at hloader
    cases hm : loadEffects fs ∅ (chosenNodes (config.bind parseFromStream)) with
    | error e =>
        rw [hm] at hloader
        cases hloader
    | ok m => exact harmless_of_loadEffects hm
  · exact construct_harmless

/-- The text of a configuration with a number where an effect belongs. -/
def numberForEffect : List UInt8 :=
  asciiBytes "\x7b\"1\": \x7b\"def_style\": [5]\x7d\x7d"

/-- **A number in the array takes the process down.** -/
theorem number_for_effect_aborts :
    ¬ ∀ parseFromStream : List UInt8 → Option Json,
      (parseFromStream numberForEffect =
        some (.object [("1", .object [(kKeyDefStyle, .array [.int 5])])])) →
      LoadsUsable (oneFile "a.bin" (by decide) []) parseFromStream
        (some numberForEffect) := by
  intro h
  obtain ⟨loader, hloader, -⟩ := h (fun _ => _) rfl
  cases hloader

end VibrationEffectLoader

end OplusHardware.QtiVibrator
