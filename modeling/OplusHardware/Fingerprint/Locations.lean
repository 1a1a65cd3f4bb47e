import OplusHardware.Base.Tokens
import OplusHardware.Fingerprint.SensorProps
import Mathlib.Data.List.Infix

/-!
# Fingerprint — the location list

The location list is a text: locations `x::y[::display]` joined with `|`.
Both levels are cut by `Tokenize`, which takes its second argument for a
set of characters and drops empty tokens.

The list is read back as it was written, and whatever holds no colon in it
is passed over. But the tokeniser does not ask for the two colons of the
documented form: it accepts an entry with any number of them.
-/

namespace OplusHardware.Fingerprint

open OplusHardware.Base

/-! ## Numbers in a location -/

/-- `s` is a decimal text of the `int32_t` `v`: digits with a sign or
without. -/
def DenotesInt32 (v : Int32) (s : List Char) : Prop :=
  ∃ n ds, IsNumeral 10 n ds ∧
    ((s = ds ∨ s = '+' :: ds) ∧ v.toInt = n ∨ s = '-' :: ds ∧ v.toInt = -n)

/-- `s` is a decimal text of some `int32_t`. -/
def IsInt32Text (s : List Char) : Prop := ∃ v, DenotesInt32 v s

variable {v : Int32} {s : List Char} {c : Char}

/-- What a decimal text is made of. -/
def isDigitOrSign (c : Char) : Bool := (digitIn 10 c).isSome || c = '-' || c = '+'

theorem isDigitOrSign_plain (h : isDigitOrSign c = true) :
    isSpace c = false ∧ c ≠ 'x' ∧ c ≠ 'X' ∧ c ≠ ':' ∧ c ≠ '|' := by
  simp only [isDigitOrSign, Bool.or_eq_true, decide_eq_true_eq] at h
  rcases h with (hdigit | rfl) | rfl
  · obtain ⟨hspace, -, -, hx, hX⟩ := digit_plain (digitIn_mono (by omega) hdigit)
    refine ⟨hspace, hx, hX, ?_, ?_⟩
    · rintro rfl
      exact absurd hdigit (by decide)
    · rintro rfl
      exact absurd hdigit (by decide)
  · decide
  · decide

theorem DenotesInt32.ne_nil (h : DenotesInt32 v s) : s ≠ [] := by
  obtain ⟨n, ds, hnum, ⟨rfl | rfl, -⟩ | ⟨rfl, -⟩⟩ := h
  · exact hnum.1
  · exact List.cons_ne_nil _ _
  · exact List.cons_ne_nil _ _

theorem DenotesInt32.chars (h : DenotesInt32 v s) : ∀ c ∈ s, isDigitOrSign c = true := by
  obtain ⟨n, ds, hnum, hs⟩ := h
  have hds : ∀ c ∈ ds, isDigitOrSign c = true := by
    intro c hc
    rw [isDigitOrSign, isNumeral_digits hnum c hc]
    rfl
  obtain ⟨rfl | rfl, -⟩ | ⟨rfl, -⟩ := hs
  · exact hds
  · exact List.forall_mem_cons.mpr ⟨rfl, hds⟩
  · exact List.forall_mem_cons.mpr ⟨rfl, hds⟩

/-- `std::to_string` writes a decimal text. -/
theorem denotesInt32_toText (v : Int32) : DenotesInt32 v (toText v.toInt) := by
  refine ⟨v.toInt.natAbs, Nat.toDigits 10 v.toInt.natAbs,
    isNumeral_toDigits (by omega) (by omega) _, ?_⟩
  rw [toText]
  split
  · exact .inr ⟨rfl, by omega⟩
  · exact .inl ⟨.inl rfl, by omega⟩

theorem strtol_denotesInt32 (h : DenotesInt32 v s) : strtol 10 s = some (v.toInt, []) := by
  obtain ⟨n, ds, hnum, ⟨rfl | rfl, hv⟩ | ⟨rfl, hv⟩⟩ := h
  · have hread : strtol 10 (_ ++ []) = _ := strtol_numeral (by omega) hnum (by rintro _ ⟨⟩)
    rwa [List.append_nil, ← hv] at hread
  · rw [strtol_plus (by omega) hnum, hv]
  · rw [strtol_minus (by omega) hnum, hv]

/-- The base `parseInt` reads a text in. -/
def baseOf : List Char → Nat
  | '0' :: 'x' :: _ => 16
  | '0' :: 'X' :: _ => 16
  | _ => 10

/-- What `parseInt` makes of what `strtol` reads. -/
def int32Of : Option (Int × List Char) → Option Int32
  | some (v, []) => if -2 ^ 31 ≤ v ∧ v < 2 ^ 31 then some (.ofInt v) else none
  | _ => none

theorem parseInt_eq (s : List Char) : parseInt s =
    int32Of (strtol (baseOf (s.dropWhile isSpace)) (s.dropWhile isSpace)) := rfl

theorem baseOf_plain (h : ∀ c ∈ s, c ≠ 'x' ∧ c ≠ 'X') : baseOf s = 10 := by
  unfold baseOf
  split
  · exact absurd rfl (h 'x' (by simp)).1
  · exact absurd rfl (h 'X' (by simp)).2
  · rfl

theorem int32Of_toInt (v : Int32) : int32Of (some (v.toInt, [])) = some v := by
  have hlo := v.le_toInt
  have hhi := v.toInt_lt
  rw [int32Of, if_pos ⟨by omega, by omega⟩, Int32.ofInt_toInt]

/-- **`ParseInt` reads every decimal text** of an `int32_t`. -/
theorem parseInt_denotesInt32 (h : DenotesInt32 v s) : parseInt s = some v := by
  have hplain : ∀ c ∈ s, isSpace c = false ∧ c ≠ 'x' ∧ c ≠ 'X' ∧ c ≠ ':' ∧ c ≠ '|' :=
    fun c hc => isDigitOrSign_plain (h.chars c hc)
  have hdrop : s.dropWhile isSpace = s := by
    cases s with
    | nil => rfl
    | cons c cs => rw [List.dropWhile_cons, (hplain c List.mem_cons_self).1]; rfl
  have hbase : baseOf s = 10 := by
    apply baseOf_plain
    intro c hc
    exact ⟨(hplain c hc).2.1, (hplain c hc).2.2.1⟩
  rw [parseInt_eq, hdrop, hbase, strtol_denotesInt32 h, int32Of_toInt]

/-! ## Writing the list -/

/-- What may stand as a display in a list. -/
abbrev DisplayName := { name : List Char // name ≠ [] ∧ ∀ c ∈ name, c ≠ ':' ∧ c ≠ '|' }

structure Location where
  x : Int32
  y : Int32
  display : Option DisplayName

/-- One entry of a list: a location, or a text with no colon in it. -/
inductive Entry where
  | location (loc : Location)
  | malformed (text : List Char) (h : ∀ c ∈ text, c ≠ ':')

def Location.render (loc : Location) : List Char :=
  toText loc.x.toInt ++ "::".toList ++ toText loc.y.toInt ++
    match loc.display with
    | some name => "::".toList ++ name
    | none => []

def Entry.render : Entry → List Char
  | .location loc => loc.render
  | .malformed text _ => text

/-- The entries as the property has them. -/
def joined (entries : List Entry) : List Char := ['|'].intercalate (entries.map Entry.render)

section Decode

variable {Shape Other : Type} [Inhabited Shape]

/-- The location as the shim reports it. -/
def Location.decoded (loc : Location) : SensorLocation Shape :=
  locationAt loc.x loc.y
    (match loc.display with
      | some name => "local:".toList ++ name
      | none => [])

def Entry.decoded : Entry → Option (SensorLocation Shape)
  | .location loc => some loc.decoded
  | .malformed _ _ => none

/-! ## Reading it back -/

/-- The one character in the set `"::"`. -/
def isColon (c : Char) : Bool := c = ':'

theorem isColon_false (h : c ≠ ':') : isColon c = false := decide_eq_false h

theorem tokenize_colons (s : List Char) : tokenize [':', ':'] s = tokensP isColon s := by
  have hset : (fun c => [':', ':'].contains c) = isColon := by
    funext c
    simp [isColon]
  rw [tokenize, split, hset]
  rfl

/-- A field that `::` follows. -/
theorem tokensP_field {field : List Char} (rest : List Char) (hne : field ≠ [])
    (h : ∀ c ∈ field, c ≠ ':') :
    tokensP isColon (field ++ ':' :: ':' :: rest) = field :: tokensP isColon rest := by
  rw [tokensP_piece (fun c hc => isColon_false (h c hc)) hne (by rintro _ ⟨⟩; rfl),
    tokensP_cons _ rfl, tokensP_cons _ rfl]

/-- The last field. -/
theorem tokensP_lastField {field : List Char} (hne : field ≠ []) (h : ∀ c ∈ field, c ≠ ':') :
    tokensP isColon field = [field] := by
  rw [tokensP_plain (fun c hc => isColon_false (h c hc)), if_neg hne]

theorem DenotesInt32.no_colon (h : DenotesInt32 v s) : ∀ c ∈ s, c ≠ ':' :=
  fun c hc => (isDigitOrSign_plain (h.chars c hc)).2.2.2.1

theorem DenotesInt32.no_bar (h : DenotesInt32 v s) : ∀ c ∈ s, c ≠ '|' :=
  fun c hc => (isDigitOrSign_plain (h.chars c hc)).2.2.2.2

/-- The fields of a location that is written. -/
theorem tokenize_render (loc : Location) :
    tokenize [':', ':'] loc.render =
      toText loc.x.toInt :: toText loc.y.toInt :: (loc.display.map (·.val)).toList := by
  obtain ⟨x, y, display⟩ := loc
  have hx := denotesInt32_toText x
  have hy := denotesInt32_toText y
  rw [tokenize_colons, Location.render]
  cases display with
  | none =>
      show tokensP isColon (toText x.toInt ++ [':', ':'] ++ toText y.toInt ++ []) = _
      rw [List.append_nil, List.append_assoc, List.cons_append, List.singleton_append,
        tokensP_field _ hx.ne_nil hx.no_colon, tokensP_lastField hy.ne_nil hy.no_colon]
      rfl
  | some name =>
      obtain ⟨name, hname, hplain⟩ := name
      show tokensP isColon
        (toText x.toInt ++ [':', ':'] ++ toText y.toInt ++ ([':', ':'] ++ name)) = _
      rw [List.append_assoc, List.append_assoc, List.cons_append, List.singleton_append,
        List.cons_append, List.singleton_append,
        tokensP_field _ hx.ne_nil hx.no_colon, tokensP_field _ hy.ne_nil hy.no_colon,
        tokensP_lastField hname fun c hc => (hplain c hc).1]
      rfl

/-- **A location is read as it was written.** -/
theorem parseLocation_render (loc : Location) :
    (parseLocation parseInt loc.render : Option (SensorLocation Shape)) = some loc.decoded := by
  have hx := parseInt_denotesInt32 (denotesInt32_toText loc.x)
  have hy := parseInt_denotesInt32 (denotesInt32_toText loc.y)
  obtain ⟨x, y, display⟩ := loc
  rw [parseLocation, tokenize_render]
  cases display with
  | none => simp [hx, hy, Location.decoded]
  | some name => simp [hx, hy, Location.decoded, name.property.1]

/-- A text with no colon in it is no location. -/
theorem parseLocation_no_colon (h : ∀ c ∈ s, c ≠ ':') :
    (parseLocation parseInt s : Option (SensorLocation Shape)) = none := by
  rw [parseLocation, tokenize_colons, tokensP_plain fun c hc => isColon_false (h c hc)]
  split_ifs with hs
  · rfl
  · rfl

theorem Location.render_no_bar (loc : Location) : ∀ c ∈ loc.render, c ≠ '|' := by
  obtain ⟨x, y, display⟩ := loc
  have hsep : ∀ c ∈ "::".toList, c ≠ '|' := by simp
  refine List.forall_mem_append.mpr ⟨List.forall_mem_append.mpr
    ⟨List.forall_mem_append.mpr ⟨(denotesInt32_toText x).no_bar, hsep⟩,
      (denotesInt32_toText y).no_bar⟩, ?_⟩
  cases display with
  | none =>
      intro c hc
      cases hc
  | some name =>
      exact List.forall_mem_append.mpr ⟨hsep, fun c hc => (name.property.2 c hc).2⟩

theorem Location.render_ne_nil (loc : Location) : loc.render ≠ [] := by
  rw [Location.render, List.append_assoc, List.append_assoc]
  exact List.append_ne_nil_of_left_ne_nil (denotesInt32_toText loc.x).ne_nil _

/-- What one entry of the list comes to, on its own. -/
theorem filterMap_tokenize_render (entry : Entry) :
    (tokenize ['|'] entry.render).filterMap (parseLocation parseInt) =
      (entry.decoded : Option (SensorLocation Shape)).toList := by
  cases entry with
  | location loc =>
      have hbar : ∀ c ∈ loc.render, ['|'].contains c = false := by
        intro c hc
        simp [loc.render_no_bar c hc]
      have hwhole : tokenize ['|'] loc.render = [loc.render] := by
        show tokensP (fun c => ['|'].contains c) loc.render = _
        rw [tokensP_plain hbar, if_neg loc.render_ne_nil]
      show (tokenize ['|'] loc.render).filterMap (parseLocation parseInt) = [loc.decoded]
      rw [hwhole, List.filterMap_cons_some (parseLocation_render loc), List.filterMap_nil]
  | malformed text h =>
      -- a bar in the text cuts it into more entries, none of them with a colon
      show (tokenize ['|'] text).filterMap (parseLocation parseInt) = []
      rw [List.filterMap_eq_nil_iff]
      intro token htoken
      exact parseLocation_no_colon fun c hc => h c (mem_tokensP htoken c hc).1

/-- **The entries of a list are read one by one.** -/
theorem filterMap_tokenize_joined (entries : List Entry) :
    (tokenize ['|'] (joined entries)).filterMap (parseLocation parseInt) =
      (entries.filterMap Entry.decoded : List (SensorLocation Shape)) := by
  have hitems : tokenize ['|'] (joined entries) =
      (entries.map Entry.render).flatMap (tokenize ['|']) :=
    tokensP_intercalate _ rfl
  rw [hitems]
  clear hitems
  induction entries with
  | nil => rfl
  | cons entry entries ih =>
      rw [List.map_cons, List.flatMap_cons, List.filterMap_append, ih,
        filterMap_tokenize_render, List.filterMap_cons]
      cases (entry.decoded : Option (SensorLocation Shape)) with
      | none => rfl
      | some loc => rfl

/-- **The loop**: the entries that are locations, and the others. -/
theorem foldl_locationStep (parse : List Char → Option Int32) (locations : List (List Char))
    (st : LoopState Shape) :
    locations.foldl (locationStep parse) st =
      ⟨st.sensorLocations ++ locations.filterMap (parseLocation parse),
        st.invalid ++ locations.filter fun location =>
          (parseLocation parse location : Option (SensorLocation Shape)).isNone⟩ := by
  induction locations generalizing st with
  | nil => simp
  | cons location locations ih =>
      rw [List.foldl_cons, ih, locationStep, List.filterMap_cons, List.filter_cons]
      cases (parseLocation parse location : Option (SensorLocation Shape)) with
      | none => simp
      | some loc => simp

/-- **Decoding undoes encoding.** For every list of entries, locations and
texts without a colon in any order, that is not the empty text: the shim
reports the locations of the list, whatever the object had, if the icon
gives no location and the properties no radius. -/
theorem sensorPropsInit_joined (sys : System) (props : SensorProps Shape Other)
    (entries : List Entry)
    (hicon : (sys.iconLocation (sys.sensorType.getD props.sensorType) :
      Option (SensorLocation Shape)) = none)
    (hsize : sys.property "persist.vendor.fingerprint.optical.iconsize" = [])
    (hprop : sys.getProperty "persist.vendor.fingerprint.optical.sensorlocation"
      (sys.getProperty "persist.vendor.fingerprint.side.sensorlocation" []) = joined entries)
    (hne : joined entries ≠ []) :
    (sensorPropsInit sys props).sensorLocations = entries.filterMap Entry.decoded := by
  have hradius : sys.sensorRadius = none := by
    rw [System.sensorRadius, System.getProperty, if_pos hsize]
    rfl
  have hlocations : sys.sensorLocations (sys.sensorType.getD props.sensorType) =
      some (entries.filterMap Entry.decoded : List (SensorLocation Shape)) := by
    have hprop : sys.locProp = joined entries := hprop
    have hloop := foldl_locationStep parseInt (tokenize ['|'] (joined entries))
      (⟨[], []⟩ : LoopState Shape)
    rw [List.nil_append, filterMap_tokenize_joined] at hloop
    simp only [System.sensorLocations, System.locations, hicon, hprop, if_neg hne, locationLoop,
      hloop, Option.map_some]
  rw [sensorPropsInit_eq, hradius, hlocations, setRadius_none, Option.getD_some]

/-- A side sensor with two locations and a text between them. -/
theorem sensorPropsInit_joined_side :
    let sys : System :=
      ⟨fun key =>
        if key = "persist.vendor.fingerprint.side.sensorlocation" then
          "-5::7::inner|junk|1080::2".toList
        else [], none⟩
    (sensorPropsInit sys (⟨.rear, [], false, ()⟩ : SensorProps Unit Unit)).sensorLocations =
      [locationAt (-5) 7 "local:inner".toList, locationAt 1080 2 []] :=
  sensorPropsInit_joined _ _
    [.location ⟨-5, 7, some ⟨"inner".toList, by simp⟩⟩,
      .malformed "junk".toList (by simp), .location ⟨1080, 2, none⟩]
    rfl rfl (by decide) (by decide)

section Loop

variable {parse : List Char → Option Int32} {sys : System} {props : SensorProps Shape Other}

/-! ## The documented form -/

/-- `x::y` or `x::y::display`, with `x` and `y` decimal. -/
def WellFormed (location : List Char) : Prop :=
  ∃ x y, IsInt32Text x ∧ IsInt32Text y ∧
    (location = x ++ "::".toList ++ y ∨
      ∃ display, ¬ "::".toList <:+: display ∧
        location = x ++ "::".toList ++ y ++ "::".toList ++ display)

/-- What comes after the field in front. -/
def afterField (s : List Char) : List Char := s.dropWhile fun c => !isColon c

/-- What may follow the second field: nothing, or two colons and from then
on no two in a row. -/
def IsTail (tail : List Char) : Prop :=
  tail = [] ∨ ∃ display, ¬ "::".toList <:+: display ∧ tail = "::".toList ++ display

/-- The colons of an entry: none in front, two after the first field, and
after the second as `IsTail` has them. -/
structure Separated (location : List Char) : Prop where
  front : location.head? ≠ some ':'
  between : ((afterField location).takeWhile isColon).length = 2
  behind : IsTail (afterField ((afterField location).dropWhile isColon))

variable {location x y : List Char} {rest : List (List Char)}

/-! ## Fields and colons -/

theorem afterField_append {field tail : List Char} (h : ∀ c ∈ field, c ≠ ':')
    (htail : ∀ c ∈ tail.head?, c = ':') : afterField (field ++ tail) = tail := by
  rw [afterField, List.dropWhile_append_of_pos fun c hc => by rw [isColon_false (h c hc)]; rfl]
  cases tail with
  | nil => rfl
  | cons c tail =>
      rw [htail c rfl]
      rfl

theorem head?_ne_colon {field tail : List Char} (hne : field ≠ []) (h : ∀ c ∈ field, c ≠ ':') :
    (field ++ tail).head? ≠ some ':' := by
  cases field with
  | nil => exact absurd rfl hne
  | cons c field =>
      intro hhead
      exact h c List.mem_cons_self (Option.some.inj hhead)

/-- A text with no colon in front starts with its first field. -/
theorem tokensP_front {tokens : List (List Char)} (hfront : s.head? ≠ some ':')
    (htok : tokensP isColon s = x :: tokens) :
    s = x ++ afterField s ∧ tokensP isColon (afterField s) = tokens := by
  cases s with
  | nil =>
      rw [tokensP_nil] at htok
      cases htok
  | cons c cs =>
      have hc : isColon c = false := isColon_false fun h => hfront (congrArg some h)
      rw [tokensP_takeWhile, List.takeWhile_cons_of_pos (by rw [hc]; rfl),
        if_neg (List.cons_ne_nil _ _), ← List.takeWhile_cons_of_pos (by rw [hc]; rfl)] at htok
      obtain ⟨hx, htokens⟩ := List.cons.inj htok
      exact ⟨by rw [← hx]; exact (List.takeWhile_append_dropWhile).symm, htokens⟩

theorem IsTail.head? {tail : List Char} (h : IsTail tail) : ∀ c ∈ tail.head?, c = ':' := by
  obtain rfl | ⟨display, -, rfl⟩ := h
  · rintro _ ⟨⟩
  · rintro _ ⟨⟩
    rfl

theorem takeWhile_colons (h : s.head? ≠ some ':') :
    (':' :: ':' :: s).takeWhile isColon = [':', ':'] := by
  rw [List.takeWhile_cons_of_pos rfl, List.takeWhile_cons_of_pos rfl]
  cases s with
  | nil => rfl
  | cons c s =>
      have hc : isColon c = false := isColon_false fun hc => h (congrArg some hc)
      rw [List.takeWhile_cons_of_neg (by rw [hc]; simp)]

theorem dropWhile_colons (h : s.head? ≠ some ':') : (':' :: ':' :: s).dropWhile isColon = s := by
  have hall := List.takeWhile_append_dropWhile (p := isColon) (l := ':' :: ':' :: s)
  rw [takeWhile_colons h] at hall
  exact List.append_cancel_left (show [':', ':'] ++ _ = [':', ':'] ++ _ from hall)

theorem eq_colons (h : (s.takeWhile isColon).length = 2) :
    s = ':' :: ':' :: s.dropWhile isColon := by
  have hcolon : ∀ c ∈ s.takeWhile isColon, c = ':' := by
    intro c hc
    have hc' : isColon c = true := List.mem_takeWhile_imp hc
    exact of_decide_eq_true hc'
  have hall : s.takeWhile isColon ++ s.dropWhile isColon = s := List.takeWhile_append_dropWhile
  obtain ⟨c, c', htake⟩ := List.length_eq_two.mp h
  rw [htake] at hcolon hall
  rw [hcolon c (by simp), hcolon c' (by simp)] at hall
  exact hall.symm

theorem dropWhile_head? (s : List Char) : (s.dropWhile isColon).head? ≠ some ':' := by
  intro h
  have hnot := List.head?_dropWhile_not isColon s
  rw [h] at hnot
  cases hnot

theorem wellFormed_iff_tail : WellFormed location ↔
    ∃ x y tail, IsInt32Text x ∧ IsInt32Text y ∧ IsTail tail ∧
      location = x ++ ':' :: ':' :: (y ++ tail) := by
  constructor
  · rintro ⟨x, y, hx, hy, rfl | ⟨display, hdisplay, rfl⟩⟩
    · refine ⟨x, y, [], hx, hy, .inl rfl, ?_⟩
      simp
    · refine ⟨x, y, _, hx, hy, .inr ⟨display, hdisplay, rfl⟩, ?_⟩
      simp
  · rintro ⟨x, y, tail, hx, hy, rfl | ⟨display, hdisplay, rfl⟩, rfl⟩
    · refine ⟨x, y, hx, hy, .inl ?_⟩
      simp
    · refine ⟨x, y, hx, hy, .inr ⟨display, hdisplay, ?_⟩⟩
      simp

/-- **Well formed, for an entry with two fields at least**: the fields are
decimal, and the colons are where the form has them. -/
theorem wellFormed_iff (htok : tokenize [':', ':'] location = x :: y :: rest) :
    WellFormed location ↔ IsInt32Text x ∧ IsInt32Text y ∧ Separated location := by
  rw [tokenize_colons] at htok
  rw [wellFormed_iff_tail]
  constructor
  · rintro ⟨x', y', tail, ⟨vx, hx⟩, ⟨vy, hy⟩, htail, rfl⟩
    have hytail : tokensP isColon (y' ++ tail) = y' :: tokensP isColon tail :=
      tokensP_piece (fun c hc => isColon_false (hy.no_colon c hc)) hy.ne_nil
        fun c hc => decide_eq_true (htail.head? c hc)
    rw [tokensP_field _ hx.ne_nil hx.no_colon, hytail] at htok
    obtain ⟨rfl, hrest⟩ := List.cons.inj htok
    obtain ⟨rfl, -⟩ := List.cons.inj hrest
    have hafter : afterField (x' ++ ':' :: ':' :: (y' ++ tail)) = ':' :: ':' :: (y' ++ tail) :=
      afterField_append hx.no_colon (by rintro _ ⟨⟩; rfl)
    have hfront : (y' ++ tail).head? ≠ some ':' := head?_ne_colon hy.ne_nil hy.no_colon
    refine ⟨⟨vx, hx⟩, ⟨vy, hy⟩, head?_ne_colon hx.ne_nil hx.no_colon, ?_, ?_⟩
    · rw [hafter, takeWhile_colons hfront]
      rfl
    · rw [hafter, dropWhile_colons hfront, afterField_append hy.no_colon htail.head?]
      exact htail
  · rintro ⟨hx, hy, hsep⟩
    obtain ⟨hlocation, hafter⟩ := tokensP_front hsep.front htok
    have hcolons := eq_colons hsep.between
    have hnext : tokensP isColon ((afterField location).dropWhile isColon) = y :: rest := by
      rw [tokensP_dropWhile, hafter]
    obtain ⟨hsecond, -⟩ := tokensP_front (dropWhile_head? _) hnext
    refine ⟨x, y, _, hx, hy, hsep.behind, ?_⟩
    rw [← hsecond, ← hcolons]
    exact hlocation

/-! ## What is accepted -/

/-- An entry is no location if it has fewer than two fields, or one of the
first two is no number. -/
theorem parseLocation_eq_none_iff :
    (parseLocation parse location : Option (SensorLocation Shape)) = none ↔
      ∀ x y rest, tokenize [':', ':'] location = x :: y :: rest →
        (parse x).isSome = true → (parse y).isSome = false := by
  rw [parseLocation]
  match htok : tokenize [':', ':'] location with
  | [] => simp
  | [x] => simp
  | x :: y :: rest =>
      simp only [List.cons.injEq]
      constructor
      · rintro hnone _ _ _ ⟨rfl, rfl, rfl⟩ hx
        obtain ⟨v, hv⟩ := Option.isSome_iff_exists.mp hx
        rw [hv] at hnone
        cases hy : parse y with
        | none => rfl
        | some w =>
            rw [hy] at hnone
            cases hnone
      · intro h
        cases hx : parse x with
        | none => rfl
        | some v =>
            have hy := h x y rest ⟨rfl, rfl, rfl⟩ (by rw [hx]; rfl)
            rw [Option.isSome_eq_false_iff, Option.isNone_iff_eq_none] at hy
            rw [hy]
            rfl

/-- The entries that the shim reports, among those of a list. -/
def reported (Shape : Type) [Inhabited Shape] (parse : List Char → Option Int32)
    (locations : List (List Char)) : List (List Char) :=
  (locations.foldl (locationStep parse) (⟨[], []⟩ : LoopState Shape)).invalid

/-- The locations of a list of entries, with the radius that the properties
give. -/
def located (parse : List Char → Option Int32) (sys : System) (locations : List (List Char)) :
    List (SensorLocation Shape) :=
  setRadius sys.sensorRadius (locations.foldl (locationStep parse) ⟨[], []⟩).sensorLocations

/-- **What the shim should do with the entries of the property**: one that is
not of the documented form is reported in its place, and the locations are
those that the other entries give without it. -/
def OnlyWellFormed (parse : List Char → Option Int32) (sys : System)
    (props : SensorProps Shape Other) : Prop :=
  ∀ before location after, tokenize ['|'] sys.locProp = before ++ location :: after →
    ¬ WellFormed location →
      (sensorPropsInitBy sys parse props).2 =
          reported Shape parse before ++ location :: reported Shape parse after ∧
        (sensorPropsInitBy sys parse props).1.sensorLocations =
          located parse sys (before ++ after)

theorem reported_eq (parse : List Char → Option Int32) (locations : List (List Char)) :
    reported Shape parse locations = locations.filter fun location =>
      (parseLocation parse location : Option (SensorLocation Shape)).isNone := by
  rw [reported, foldl_locationStep]
  rfl

theorem located_eq (parse : List Char → Option Int32) (sys : System)
    (locations : List (List Char)) :
    (located parse sys locations : List (SensorLocation Shape)) =
      setRadius sys.sensorRadius (locations.filterMap (parseLocation parse)) := by
  rw [located, foldl_locationStep]
  rfl

/-- Where the icon gives no location, the loop runs over the entries, if
there are any. -/
theorem sensorPropsInitBy_entries (parse : List Char → Option Int32)
    {locations : List (List Char)}
    (hicon : (sys.iconLocation (sys.sensorType.getD props.sensorType) :
      Option (SensorLocation Shape)) = none)
    (hentries : tokenize ['|'] sys.locProp = locations) (hne : locations ≠ []) :
    (sensorPropsInitBy sys parse props).2 = reported Shape parse locations ∧
      (sensorPropsInitBy sys parse props).1.sensorLocations = located parse sys locations := by
  have hprop : sys.locProp ≠ [] := by
    intro hempty
    rw [hempty] at hentries
    exact hne hentries.symm
  simp only [sensorPropsInitBy, System.locations, hicon, if_neg hprop, locationLoop, hentries,
    reported, located, Option.map_some, Option.getD_some, and_self]

/-- The entry between two lists is reported and adds nothing exactly if it
is no location. -/
theorem rejected_iff {before after : List (List Char)}
    (hicon : (sys.iconLocation (sys.sensorType.getD props.sensorType) :
      Option (SensorLocation Shape)) = none)
    (hentries : tokenize ['|'] sys.locProp = before ++ location :: after) :
    ((sensorPropsInitBy sys parse props).2 =
          reported Shape parse before ++ location :: reported Shape parse after ∧
        (sensorPropsInitBy sys parse props).1.sensorLocations =
          located parse sys (before ++ after)) ↔
      (parseLocation parse location : Option (SensorLocation Shape)) = none := by
  obtain ⟨hreported, hlocated⟩ := sensorPropsInitBy_entries parse hicon hentries (by simp)
  rw [hreported, hlocated]
  simp only [reported_eq, located_eq, List.filter_append, List.filter_cons,
    List.filterMap_append, List.filterMap_cons]
  cases hlocation : (parseLocation parse location : Option (SensorLocation Shape)) with
  | none => simp
  | some loc =>
      constructor
      · rintro ⟨hshorter, -⟩
        have hlength := congrArg List.length hshorter
        simp at hlength
      · rintro ⟨⟩

/-- **When only well formed locations are accepted.** For every `ParseInt`
and all system properties that leave the locations to the list: every entry
that is not of the documented form is reported and adds no location if and
only if, in every entry whose first two fields `ParseInt` reads, those are
decimal and the colons are where the form has them. -/
theorem onlyWellFormed_iff (parse : List Char → Option Int32) (sys : System)
    (props : SensorProps Shape Other)
    (hicon : (sys.iconLocation (sys.sensorType.getD props.sensorType) :
      Option (SensorLocation Shape)) = none) :
    OnlyWellFormed parse sys props ↔
      ∀ location ∈ tokenize ['|'] sys.locProp, ∀ x y rest,
        tokenize [':', ':'] location = x :: y :: rest →
          (parse x).isSome = true → (parse y).isSome = true →
            IsInt32Text x ∧ IsInt32Text y ∧ Separated location := by
  constructor
  · intro h location hlocation x y rest htok hx hy
    obtain ⟨before, after, hsplit⟩ := List.append_of_mem hlocation
    rw [← wellFormed_iff htok]
    by_contra hwf
    have hnone := (rejected_iff hicon hsplit).mp (h before location after hsplit hwf)
    rw [parseLocation_eq_none_iff.mp hnone x y rest htok hx] at hy
    cases hy
  · intro h before location after hsplit hwf
    rw [rejected_iff hicon hsplit, parseLocation_eq_none_iff]
    intro x y rest htok hx
    rw [← Bool.not_eq_true]
    intro hy
    have hlocation : location ∈ tokenize ['|'] sys.locProp := by
      rw [hsplit]
      exact List.mem_append_right _ List.mem_cons_self
    exact hwf ((wellFormed_iff htok).mpr (h location hlocation x y rest htok hx hy))

/-- A device with a location list for a side sensor. -/
def sideSystem (loc_prop : List Char) : System where
  property := fun key =>
    if key = "persist.vendor.fingerprint.side.sensorlocation" then loc_prop else []
  modes := none

/-- Properties as the HAL has them before the shim. -/
def rearProps : SensorProps Unit Unit := ⟨.rear, [], false, ()⟩

theorem onlyWellFormed_iff_side :
    OnlyWellFormed parseInt (sideSystem "1::2|junk".toList) rearProps ∧
      (sensorPropsInitBy (sideSystem "1::2|junk".toList) parseInt rearProps).2 =
        ["junk".toList] := by
  refine ⟨?_, by decide⟩
  rw [onlyWellFormed_iff parseInt _ _ rfl]
  have hentries : tokenize ['|'] (sideSystem "1::2|junk".toList).locProp =
      ["1::2".toList, "junk".toList] := by decide
  rw [hentries]
  intro location hlocation x y rest htok _ _
  rcases List.mem_pair.mp hlocation with rfl | rfl
  · have hfields : tokenize [':', ':'] "1::2".toList = ["1".toList, "2".toList] := by decide
    rw [hfields] at htok
    cases htok
    exact ⟨⟨1, denotesInt32_toText 1⟩, ⟨2, denotesInt32_toText 2⟩, by decide, by decide,
      .inl (by decide)⟩
  · have hfields : tokenize [':', ':'] "junk".toList = ["junk".toList] := by decide
    rw [hfields] at htok
    cases htok

/-- **One colon is enough for the shim**: `1:2` is taken for the location
`1::2`. -/
theorem single_colon_accepted :
    ¬ WellFormed "1:2".toList ∧
      ¬ OnlyWellFormed parseInt (sideSystem "1:2".toList) rearProps ∧
      (sensorPropsInit (sideSystem "1:2".toList) rearProps).sensorLocations =
        [locationAt 1 2 []] := by
  have hwf : ¬ WellFormed "1:2".toList := by
    rw [wellFormed_iff_tail]
    rintro ⟨x, y, tail, -, -, -, h⟩
    have hinfix : [':', ':'] <:+: "1:2".toList := by
      rw [h]
      exact ⟨x, y ++ tail, by simp⟩
    exact absurd hinfix (by decide)
  refine ⟨hwf, ?_, by decide⟩
  intro h
  obtain ⟨hreported, -⟩ := h [] "1:2".toList [] (by decide) hwf
  exact absurd hreported (by decide)

end Loop

end Decode

end OplusHardware.Fingerprint
