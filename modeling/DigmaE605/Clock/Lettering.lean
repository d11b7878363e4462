import DigmaE605.Arithmetic.Binary64
import DigmaE605.Text.Decimal
import DigmaE605.Clock.Animation
import DigmaE605.Clock.Bounds

/-!
# What a picture of a number shows

`drawDigits` writes the number with two digits into a pixmap of twice the size
of the widget, in a font whose height it computes in floating point, and scales
the result down to the width of the widget.

`run_lettered`: in every run, from the first resize on, the text in the picture
reads as the widget's number, and its font is 11/10 as high as the widget,
rounded down, so that it always fits into the pixmap.
-/

namespace DigmaE605
namespace Clock
namespace Digits

open Arithmetic Text Float.Model Float.Model.UnpackedFloat

variable {d : Digits}

/-! ## The text -/

/-- The text that `drawDigits` writes. -/
def digitsText (n : Int32) : List Char :=
  let str := decimalText n.toInt
  if str.length = 1 then '0' :: str else str

/-- A number of the widget takes two digits. -/
theorem length_digitsText {n : Int32} (hnonneg : 0 ≤ n.toInt) (hle : n.toInt ≤ 99) :
    (digitsText n).length = 2 := by
  have hdecimal : decimalText n.toInt = Nat.toDigits 10 n.toInt.natAbs :=
    if_neg (by omega)
  have hpos : 0 < (Nat.toDigits 10 n.toInt.natAbs).length :=
    List.length_pos_iff.mpr Nat.toDigits_ne_nil
  have htwo : (Nat.toDigits 10 n.toInt.natAbs).length ≤ 2 :=
    (Nat.length_toDigits_le_iff (by omega) (by omega)).mpr (by omega)
  unfold digitsText
  rw [hdecimal]
  dsimp only
  split
  · rename_i hone
    rw [List.length_cons, hone]
  · omega

/-- A leading zero does not matter. -/
theorem signedDigits_zero_cons (digits : List Char) :
    signedDigits ('0' :: digits) = leadingDigits digits := by
  have hblank : isSpace '0' = false := by decide
  have hdigit : '0'.isDigit = true := by decide
  have hlead : leadingDigits ('0' :: digits) = leadingDigits digits := by
    unfold leadingDigits
    rw [List.takeWhile_cons_of_pos hdigit, Nat.ofDigitChars_cons]
    rfl
  rw [signedDigits, List.dropWhile_cons, hblank]
  simp [hlead]

/-- The text reads as the number. -/
theorem atoi_digitsText {n : Int32} (hnonneg : 0 ≤ n.toInt) : atoi (digitsText n) = n := by
  have hdecimal : decimalText n.toInt = Nat.toDigits 10 n.toInt.natAbs :=
    if_neg (by omega)
  have hend : NoDigitAhead [] := by simp [NoDigitAhead]
  unfold digitsText
  dsimp only
  split
  · have hvalue : leadingDigits (Nat.toDigits 10 n.toInt.natAbs) = n.toInt.natAbs := by
      simpa using leadingDigits_toDigits_append n.toInt.natAbs hend
    have hint : ((n.toInt.natAbs : ℕ) : ℤ) = n.toInt := by omega
    rw [atoi, signedDigits_zero_cons, hdecimal, hvalue, hint, Int32.ofIntClamp_toInt]
  · simpa using atoi_decimalText n hend

/-! ## The font -/

/-- `0.55` -/
def fiftyFive : UnpackedFloat := ofScientific .binary64 55 (-2)

/-- `int fontHeight = scaleFactor * 0.55 * rect.height()`, with a `scaleFactor` of
2 -/
def fontHeight (height : Int32) : Int32 :=
  (mul .binary64 (mul .binary64 (UnpackedFloat.ofInt .binary64 2) fiftyFive)
    (UnpackedFloat.ofInt .binary64 height.toInt)).toInt32

/-- Twice the literal exceeds 11/10 by two fifths of a unit. -/
theorem two_mul_fiftyFive :
    mul .binary64 (UnpackedFloat.ofInt .binary64 2) fiftyFive =
      .finite .positive 4953959590107546 (-52) (by decide) := rfl

/-- The font is eleven tenths as high as the widget, rounded down. -/
theorem toInt_fontHeight {height : Int32} (hnonneg : 0 ≤ height.toInt)
    (hsmall : height.toInt ≤ 2 ^ 30) :
    (fontHeight height).toInt = 11 * height.toInt / 10 := by
  obtain ⟨n, hn⟩ := Int.eq_ofNat_of_zero_le hnonneg
  have htrunc : ∀ lower upper : ℤ,
      (mul .binary64 (mul .binary64 (UnpackedFloat.ofInt .binary64 2) fiftyFive)
        (UnpackedFloat.ofInt .binary64 n)).toInt lower upper = (11 * n / 10 : ℕ) := by
    intro lower upper
    rcases Nat.eq_zero_or_pos n with rfl | hpos
    · rfl
    · obtain ⟨places, hplaces, hmany⟩ := exists_places hpos (by omega)
      have hmantissa : 0 < n * 2 ^ places := Nat.mul_pos hpos (Nat.two_pow_pos _)
      -- What ten times the product exceeds 11 by, in its last place.
      have hratio : 10 * 4953959590107546 + 0 = 11 * 2 ^ 52 + 4 := by norm_num
      rw [two_mul_fiftyFive, ofInt_pos hpos hplaces hmantissa, mul_finite_comm,
        ← ofInt_pos hpos hplaces hmantissa]
      exact toInt_mul_ratio hpos hplaces (by norm_num) (by norm_num) (by norm_num) hratio
        (by norm_num) (by omega) lower upper
  have hmin : Int32.minValue.toInt = -2 ^ 31 := rfl
  have hmax : Int32.maxValue.toInt = 2 ^ 31 - 1 := rfl
  unfold fontHeight UnpackedFloat.toInt32
  rw [hn, htrunc, Int32.toInt_ofIntClamp]
  · omega
  · omega
  · omega

/-! ## The picture -/

/-- What `drawDigits` draws: a text, centered, in a font, on a pixmap that it
scales to a width. -/
structure Lettering where
  text : List Char
  fontHeight : Int32
  pixmapSize : Size
  scaledWidth : Int32
  deriving DecidableEq, Repr

/-- `drawDigits(m_number, rect())`, in a widget of the given size -/
def drawDigits (n : Int32) (size : Size) : Lettering where
  text := digitsText n
  fontHeight := fontHeight size.height
  pixmapSize := ⟨size.width * 2, size.height * 2⟩
  scaledWidth := size.width

/-- The lettering shows the number of the widget, at its size. -/
structure Lettered (d : Digits) (lettering : Lettering) : Prop where
  length : lettering.text.length = 2
  text : atoi lettering.text = d.number
  font : lettering.fontHeight.toInt = 11 * d.size.height.toInt / 10
  fits : lettering.fontHeight.toInt ≤ lettering.pixmapSize.height.toInt
  pixmapWidth : lettering.pixmapSize.width.toInt = 2 * d.size.width.toInt
  pixmapHeight : lettering.pixmapSize.height.toInt = 2 * d.size.height.toInt
  scaled : 2 * lettering.scaledWidth.toInt = lettering.pixmapSize.width.toInt

theorem toInt_twice {n : Int32} (hnonneg : 0 ≤ n.toInt) (hlt : n.toInt < 2 ^ 24) :
    (n * 2).toInt = 2 * n.toInt := by
  have htwo : (2 : Int32).toInt = 2 := rfl
  rw [toInt_mul_of_fits (by rw [htwo]; omega) (by rw [htwo]; omega), htwo, Int.mul_comm]

theorem Shown.lettered (h : Shown d) (hsize : Allowed d.size) :
    Lettered d (drawDigits d.number d.size) := by
  obtain ⟨⟨hwidth, hwidth'⟩, hheight, hheight'⟩ := hsize
  have hnonneg : 0 ≤ d.number.toInt := Int32.le_iff_toInt_le.mp h.nonneg
  have hle : d.number.toInt ≤ 99 := Int32.le_iff_toInt_le.mp h.le
  have hfont : (fontHeight d.size.height).toInt = 11 * d.size.height.toInt / 10 :=
    toInt_fontHeight hheight (by omega)
  have hpixmapWidth : (d.size.width * 2).toInt = 2 * d.size.width.toInt :=
    toInt_twice hwidth hwidth'
  have hpixmapHeight : (d.size.height * 2).toInt = 2 * d.size.height.toInt :=
    toInt_twice hheight hheight'
  refine ⟨length_digitsText hnonneg hle, atoi_digitsText hnonneg, hfont, ?_, hpixmapWidth,
    hpixmapHeight, hpixmapWidth.symm⟩
  show (fontHeight d.size.height).toInt ≤ (d.size.height * 2).toInt
  omega

/-- **The picture shows the number.**  In every run, from the first resize on,
the picture of the widget is the lettering of its number, which reads as the
number in exactly two digits, in a font that fits. -/
theorem run_lettered {size : Size} {actions : List Action} (hsize : Allowed size)
    (hdelivered : ∀ action ∈ actions, Delivered action) (hresized : Resized actions) :
    ∃ picture, ((constructed size).run actions).pixmap = some picture ∧
      Lettered ((constructed size).run actions) (drawDigits picture.number picture.size) := by
  have hshown := (consistent_constructed size).shown_of_resized hresized
  have hbounds := InBounds.run (d := constructed size) ⟨hsize, frameRange_first⟩ hdelivered
  exact ⟨_, hshown.pixmap_eq, hshown.lettered hbounds.size⟩

/-- Five, in a widget of 160 × 192: the text is 05, 211 pixels high on a pixmap
of 320 × 384. -/
theorem run_lettered_five :
    drawDigits 5 ⟨160, 192⟩ = ⟨['0', '5'], 211, ⟨320, 384⟩, 160⟩ ∧
      ∃ picture, ((constructed ⟨100, 30⟩).run [.resize ⟨160, 192⟩, .flipTo 5]).pixmap =
          some picture ∧
        Lettered ((constructed ⟨100, 30⟩).run [.resize ⟨160, 192⟩, .flipTo 5])
          (drawDigits picture.number picture.size) := by
  refine ⟨rfl, run_lettered ⟨by decide, by decide⟩ ?_ ⟨_, List.mem_cons_self⟩⟩
  intro action hmem
  simp only [List.mem_cons, List.not_mem_nil, or_false] at hmem
  rcases hmem with rfl | rfl
  · exact ⟨by decide, by decide⟩
  · trivial

end Digits
end Clock
end DigmaE605
