import Mathlib.Algebra.Group.Int.Defs
import Mathlib.Algebra.Order.Ring.Int
import Mathlib.Tactic.Linarith

/-!
# IFAA service — where the fingerprint icon is

`initExtString` reports the rectangle of the icon, scaled from the largest
display mode to the window as it is now. All of it is `Int` arithmetic of
Kotlin: 32 bits, with division towards zero.
-/

namespace OplusHardware.Ifaa

structure Point where
  x : Int32
  y : Int32
  deriving DecidableEq, Repr

namespace Point

def maxOf (a b : Int32) : Int32 := if a ≤ b then b else a

/-- `defaultDisplayDimension`, from the physical mode, if there is one, and
the window metrics when it is first asked for. -/
def defaultDisplayDimension (dim1 : Option Point) (dim2 : Point) : Point :=
  match dim1 with
  | some dim1 => ⟨maxOf dim1.x dim2.x, maxOf dim1.y dim2.y⟩
  | none => dim2

/-- `iconLocation`, the upper left corner. -/
def iconLocation (full : Point) (iconDiameter iconLocationBottom : Int32) : Point :=
  ⟨(full.x - iconDiameter) / 2, full.y - iconLocationBottom - iconDiameter / 2⟩

/-- `scale`. -/
def scale (displayDimension full pos : Point) : Point :=
  ⟨pos.x * displayDimension.x / full.x, pos.y * displayDimension.y / full.y⟩

end Point

/-- `fullView` of the JSON text. -/
structure FullView where
  startX : Int32
  startY : Int32
  width : Int32
  height : Int32
  deriving DecidableEq, Repr

/-- `initExtString`, up to its formatting, with the dimensions that
`defaultDisplayDimension` was made from. -/
def initExtString (dim1 : Option Point) (dim2 displayDimension : Point)
    (iconDiameter iconLocationBottom : Int32) : FullView :=
  let full := Point.defaultDisplayDimension dim1 dim2
  let scaledLocation :=
    Point.scale displayDimension full (Point.iconLocation full iconDiameter iconLocationBottom)
  let scaledDiameter := Point.scale displayDimension full ⟨iconDiameter, iconDiameter⟩
  ⟨scaledLocation.x, scaledLocation.y, scaledDiameter.x, scaledDiameter.y⟩

/-! ## Arithmetic without overflow -/

theorem toInt_half {d : Int32} (hd : 0 ≤ d.toInt) : (d / 2).toInt = d.toInt / 2 := by
  have htwo : (2 : Int32).toInt = 2 := by decide
  rw [Int32.toInt_div_of_ne_right d 2 (by decide), htwo, Int.tdiv_eq_ediv_of_nonneg hd]

theorem toInt_difference {a b : Int32} (hb : 0 ≤ b.toInt) (hba : b.toInt ≤ a.toInt) :
    (a - b).toInt = a.toInt - b.toInt := by
  have hlt := a.toInt_lt
  rw [Int32.toInt_sub]
  apply Int.bmod_eq_of_le
  · omega
  · omega

/-- A length of the full display, scaled. -/
theorem toInt_scaled {p d full : Int32} (hp : 0 ≤ p.toInt) (hle : p.toInt ≤ full.toInt)
    (hd : 0 ≤ d.toInt) (hfit : full.toInt * d.toInt < 2 ^ 31) :
    (p * d / full).toInt = p.toInt * d.toInt / full.toInt := by
  have hprod : p.toInt * d.toInt ≤ full.toInt * d.toInt := Int.mul_le_mul_of_nonneg_right hle hd
  have hpos : 0 ≤ p.toInt * d.toInt := Int.mul_nonneg hp hd
  have hmul : (p * d).toInt = p.toInt * d.toInt := by
    rw [Int32.toInt_mul]
    apply Int.bmod_eq_of_le
    · omega
    · omega
  have hne : full ≠ -1 := by
    rintro rfl
    have hminus : (-1 : Int32).toInt = -1 := by decide
    omega
  rw [Int32.toInt_div_of_ne_right _ _ hne, hmul, Int.tdiv_eq_ediv_of_nonneg hpos]

/-- An interval of the full display stays in the display when its start and
its length are scaled. -/
theorem scaled_interval {p l d full : Int} (hp : 0 ≤ p) (hl : 0 ≤ l) (hin : p + l ≤ full)
    (hfull : 0 < full) (hd : 0 ≤ d) :
    0 ≤ p * d / full ∧ 0 ≤ l * d / full ∧ p * d / full + l * d / full ≤ d := by
  refine ⟨Int.ediv_nonneg (Int.mul_nonneg hp hd) hfull.le,
    Int.ediv_nonneg (Int.mul_nonneg hl hd) hfull.le, ?_⟩
  have hsum : (p + l) * d ≤ full * d := Int.mul_le_mul_of_nonneg_right hin hd
  have hfloor : p * d / full * full + l * d / full * full ≤ full * d := by
    have hp' := Int.ediv_mul_le (p * d) hfull.ne'
    have hl' := Int.ediv_mul_le (l * d) hfull.ne'
    have hdist : (p + l) * d = p * d + l * d := Int.add_mul p l d
    omega
  apply Int.le_of_mul_le_mul_right _ hfull
  rw [Int.add_mul, Int.mul_comm d full]
  exact hfloor

/-! ## The rectangle -/

/-- The icon lies on the full display, and no product of a side of it with
one of the window has more than 31 bits. -/
structure IconFits (displayDimension full : Point) (iconDiameter iconLocationBottom : Int32) :
    Prop where
  full_pos : 0 < full.x.toInt ∧ 0 < full.y.toInt
  display_nonneg : 0 ≤ displayDimension.x.toInt ∧ 0 ≤ displayDimension.y.toInt
  diameter_le : 0 ≤ iconDiameter.toInt ∧ iconDiameter.toInt ≤ full.x.toInt
  bottom_le : iconDiameter.toInt ≤ iconLocationBottom.toInt + iconDiameter.toInt / 2 ∧
    iconLocationBottom.toInt + iconDiameter.toInt / 2 ≤ full.y.toInt
  product_lt : full.x.toInt * displayDimension.x.toInt < 2 ^ 31 ∧
    full.y.toInt * displayDimension.y.toInt < 2 ^ 31

/-- **The reported rectangle lies in the window**, on both axes, for every
icon that lies on the full display; the two roundings never push it
out. -/
theorem icon_inside_view (dim1 : Option Point) (dim2 displayDimension : Point)
    (iconDiameter iconLocationBottom : Int32)
    (hfits : IconFits displayDimension (Point.defaultDisplayDimension dim1 dim2) iconDiameter
      iconLocationBottom) :
    let view := initExtString dim1 dim2 displayDimension iconDiameter iconLocationBottom
    (0 ≤ view.startX.toInt ∧ 0 ≤ view.width.toInt ∧
      view.startX.toInt + view.width.toInt ≤ displayDimension.x.toInt) ∧
    (0 ≤ view.startY.toInt ∧ 0 ≤ view.height.toInt ∧
      view.startY.toInt + view.height.toInt ≤ displayDimension.y.toInt) := by
  unfold initExtString
  generalize Point.defaultDisplayDimension dim1 dim2 = full at hfits ⊢
  obtain ⟨⟨hw, hh⟩, ⟨hdx, hdy⟩, ⟨hd, hdw⟩, ⟨hbot, htop⟩, ⟨hpx, hpy⟩⟩ := hfits
  have hhalf := toInt_half hd
  have hx : (Point.iconLocation full iconDiameter iconLocationBottom).x.toInt =
      (full.x.toInt - iconDiameter.toInt) / 2 := by
    show ((full.x - iconDiameter) / 2).toInt = _
    have hdiff := toInt_difference hd hdw
    rw [toInt_half (by omega), hdiff]
  have hy : (Point.iconLocation full iconDiameter iconLocationBottom).y.toInt =
      full.y.toInt - iconLocationBottom.toInt - iconDiameter.toInt / 2 := by
    show (full.y - iconLocationBottom - iconDiameter / 2).toInt = _
    have hdiff : (full.y - iconLocationBottom).toInt =
        full.y.toInt - iconLocationBottom.toInt := toInt_difference (by omega) (by omega)
    rw [toInt_difference (by omega) (by omega), hdiff, hhalf]
  have hdh : iconDiameter.toInt ≤ full.y.toInt := by omega
  constructor
  · simp only [Point.scale]
    rw [toInt_scaled (by omega) (by omega) hdx hpx, toInt_scaled hd hdw hdx hpx, hx]
    exact scaled_interval (by omega) hd (by omega) hw hdx
  · simp only [Point.scale]
    rw [toInt_scaled (by omega) (by omega) hdy hpy, toInt_scaled hd hdh hdy hpy, hy]
    exact scaled_interval (by omega) hd (by omega) hh hdy

/-- An icon of 190 pixels, 278 above the edge of a 1440 by 3216 display, in
a window of 1080 by 2412. -/
theorem icon_inside_view_default :
    initExtString (some ⟨1440, 3216⟩) ⟨1080, 2412⟩ ⟨1080, 2412⟩ 190 278 =
        ⟨468, 2132, 142, 142⟩ ∧
      468 + 142 ≤ (1080 : Int32).toInt := by
  have hfits : IconFits ⟨1080, 2412⟩
      (Point.defaultDisplayDimension (some ⟨1440, 3216⟩) ⟨1080, 2412⟩) 190 278 :=
    ⟨by decide, by decide, by decide, by decide, by decide⟩
  exact ⟨by decide, (icon_inside_view (some ⟨1440, 3216⟩) _ _ _ _ hfits).1.2.2⟩

end OplusHardware.Ifaa
