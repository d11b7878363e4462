import DigmaE605.Arithmetic.Int32
import DigmaE605.Clock.Canvas

/-!
# How the pictures move

Within the bounds of `InBounds` the arithmetic of the painting routines never
overflows, and `run_inMotion` says what it amounts to in every run:

* in a slide, the frame shows the new picture above a row that moves down and the
  old one from that row on, as far as the old one reaches; outside the frame both
  are clipped away.  If the widget has kept its size since the animation started,
  each pixel of the frame shows exactly one of them;
* a flip and a rotation turn the old picture away in the first half, and the new
  one towards the viewer in the second, and neither ever shows its back.

After a resize inside the animation the old picture still has its old size, so a
slide may leave the lower and the right part of the frame bare.
-/

namespace DigmaE605
namespace Clock

namespace Painter

open Command

/-- The picture that a call draws at a pixel. -/
def pictureAt (context : Context) (px : Pixel) : Command → Option Pixmap
  | drawPixmap x y pixmap =>
      if clippedAway context px || tooFar context px (drawPixmap x y pixmap) then none else pixmap
  | _ => none

/-- The pictures that the calls draw at a pixel, in order. -/
def picturesAt (px : Pixel) : Context → List Command → List Pixmap
  | _, [] => []
  | context, command :: commands =>
      (pictureAt context px command).toList ++ picturesAt px (context.after command) commands

variable {d : Digits} {px : Pixel}

/-- What the slide has set when it draws its pictures. -/
def slideContext (d : Digits) : Context := ⟨some 159, .noBrush, some (d.frame, none), none, []⟩

theorem picturesAt_append (context : Context) (commands later : List Command) :
    picturesAt px context (commands ++ later) =
      picturesAt px context commands ++ picturesAt px (context.afterAll commands) later := by
  induction commands generalizing context with
  | nil => rfl
  | cons command commands ih =>
      rw [List.cons_append, picturesAt, picturesAt, ih, List.append_assoc]
      rfl

theorem picturesAt_paintSlide (d : Digits) (px : Pixel) :
    picturesAt px .fresh (paintSlide d) =
      (pictureAt (slideContext d) px (drawPixmap 0
          (d.size.height * d.animator.currentFrame / 100) d.lastPixmap)).toList ++
        (pictureAt (slideContext d) px (drawPixmap 0
          (d.size.height * d.animator.currentFrame / 100 - d.size.height) d.pixmap)).toList := by
  -- The fill, the frame and the clip come first, and draw no picture.
  have hfirst : picturesAt px .fresh ([start, fillRect d.rect] ++ drawFrame d.frame ++
      [setClipRect d.frame]) = [] := rfl
  have hcontext : Context.fresh.afterAll ([start, fillRect d.rect] ++ drawFrame d.frame ++
      [setClipRect d.frame]) = slideContext d := rfl
  have hsplit : paintSlide d = [start, fillRect d.rect] ++ drawFrame d.frame ++
      [setClipRect d.frame] ++
        [drawPixmap 0 (d.size.height * d.animator.currentFrame / 100) d.lastPixmap,
          drawPixmap 0 (d.size.height * d.animator.currentFrame / 100 - d.size.height)
            d.pixmap] := rfl
  rw [hsplit, picturesAt_append, hfirst, hcontext, List.nil_append, picturesAt, picturesAt,
    picturesAt, List.append_nil]
  rfl

/-- Outside the frame a slide draws no picture. -/
theorem pictureAt_outside (hproper : d.frame.proper = true) (hout : d.frame.contains px = false)
    (command : Command) : pictureAt (slideContext d) px command = none := by
  have hclipped : clippedAway (slideContext d) px = true := by
    simp [clippedAway, slideContext, hproper, hout]
  cases command with
  | drawPixmap x y pixmap => simp [pictureAt, hclipped]
  | _ => rfl

/-- In the frame it draws a picture where the picture is. -/
theorem pictureAt_inside (hin : d.frame.contains px = true) (x y : Int32)
    (pixmap : Option Pixmap) :
    pictureAt (slideContext d) px (drawPixmap x y pixmap) =
      pixmap.filter fun picture =>
        (Rect.mk x y picture.size.width picture.size.height).contains px := by
  have hclip : clippedAway (slideContext d) px = false := by simp [clippedAway, slideContext, hin]
  have hdrawn : pictureAt (slideContext d) px (drawPixmap x y pixmap) =
      if !reaches (some 159) px (drawPixmap x y pixmap) then none else pixmap := by
    rw [pictureAt, hclip]
    rfl
  rw [hdrawn]
  cases pixmap with
  | none => simp
  | some picture =>
      rw [Option.filter_some, reaches]
      cases (Rect.mk x y picture.size.width picture.size.height).contains px <;> rfl

end Painter

namespace Digits

open Arithmetic

variable {d : Digits} {px : Pixel}

/-! ## The slide -/

/-- The row where the new picture ends and the old one begins. -/
def meeting (d : Digits) : ℤ := d.size.height.toInt * d.animator.currentFrame.toInt / 100

/-- The pictures that a paint event draws at a pixel. -/
def pictures (d : Digits) (px : Pixel) : List Pixmap :=
  Painter.picturesAt px .fresh (Painter.paintEvent d)

/-- The old picture, of its own size, begins at the meeting row and extends to the
pixel. -/
def extendsTo (d : Digits) (px : Pixel) (picture : Pixmap) : Bool :=
  px.x < picture.size.width.toInt && px.y < d.meeting + picture.size.height.toInt

/-- What a slide shows at each pixel. -/
structure Sliding (d : Digits) : Prop where
  /-- The row comes out as in the integers. -/
  row : (d.size.height * d.animator.currentFrame / 100).toInt = d.meeting
  outside : d.frame.proper = true → ∀ px, d.frame.contains px = false → d.pictures px = []
  above : ∀ px, d.frame.contains px = true → px.y < d.meeting → d.pictures px = d.pixmap.toList
  below : ∀ px, d.frame.contains px = true → d.meeting ≤ px.y →
    d.pictures px = (d.lastPixmap.filter (d.extendsTo px)).toList
  /-- An old picture of the widget's size is nowhere too small. -/
  whole : ∀ picture, d.lastPixmap = some picture → picture.size = d.size →
    ∀ px, d.frame.contains px = true → d.meeting ≤ px.y → d.pictures px = [picture]

theorem meeting_nonneg (h : InBounds d) : 0 ≤ d.meeting :=
  Int.ediv_nonneg (Int.mul_nonneg h.size.2.1 h.frame.1) (by decide)

theorem meeting_le (h : InBounds d) : d.meeting ≤ d.size.height.toInt := by
  refine Int.ediv_le_of_le_mul (by decide) ?_
  exact Int.mul_le_mul_of_nonneg_left h.frame.2 h.size.2.1

/-- `height() * m_animator.currentFrame() / 100` -/
theorem toInt_meeting (h : InBounds d) :
    (d.size.height * d.animator.currentFrame / 100).toInt = d.meeting := by
  have hnonneg : 0 ≤ d.size.height.toInt * d.animator.currentFrame.toInt :=
    Int.mul_nonneg h.size.2.1 h.frame.1
  have hsmall : d.size.height.toInt * d.animator.currentFrame.toInt ≤ d.size.height.toInt * 100 :=
    Int.mul_le_mul_of_nonneg_left h.frame.2 h.size.2.1
  have hheight := h.size.2.2
  -- A hundred times an allowed height fits.
  have hproduct := toInt_mul_of_fits (a := d.size.height) (b := d.animator.currentFrame)
    (by omega) (by omega)
  rw [toInt_div_of_nonneg (by decide) (by omega), hproduct]
  rfl

/-- The frame lies in the widget. -/
theorem frame_inside (hallowed : Allowed d.size) (hin : d.frame.contains px = true) :
    (0 ≤ px.x ∧ px.x < d.size.width.toInt) ∧ 0 ≤ px.y ∧ px.y < d.size.height.toInt := by
  obtain ⟨hleft, htop, hwidth, hheight⟩ := Painter.toInt_frame hallowed
  obtain ⟨⟨hnonneg, -⟩, -⟩ := hallowed
  rw [← Bool.not_eq_false, Painter.contains_eq_false_iff, not_not] at hin
  omega

/-- In the frame the old picture is drawn from the meeting row on. -/
theorem old_contains (h : InBounds d) (hin : d.frame.contains px = true) (picture : Pixmap) :
    (Rect.mk 0 (d.size.height * d.animator.currentFrame / 100) picture.size.width
      picture.size.height).contains px = (decide (d.meeting ≤ px.y) && d.extendsTo px picture) := by
  obtain ⟨⟨hleft, -⟩, -⟩ := frame_inside h.size hin
  have hzero : (0 : Int32).toInt = 0 := rfl
  rw [Bool.eq_iff_iff]
  simp only [Rect.contains, extendsTo, toInt_meeting h, hzero, Bool.and_eq_true, decide_eq_true_eq]
  omega

/-- In the frame the new picture is drawn above the meeting row. -/
theorem new_contains (h : InBounds d) (hin : d.frame.contains px = true) :
    (Rect.mk 0 (d.size.height * d.animator.currentFrame / 100 - d.size.height) d.size.width
      d.size.height).contains px = decide (px.y < d.meeting) := by
  obtain ⟨⟨hleft, hright⟩, htop, -⟩ := frame_inside h.size hin
  have hmeeting := toInt_meeting h
  have hlow := meeting_nonneg h
  have hhigh := meeting_le h
  have hheight := h.size.2.2
  have habove : (d.size.height * d.animator.currentFrame / 100 - d.size.height).toInt =
      d.meeting - d.size.height.toInt := by
    rw [toInt_sub_of_fits (by omega) (by omega), hmeeting]
  have hzero : (0 : Int32).toInt = 0 := rfl
  rw [Bool.eq_iff_iff]
  simp only [Rect.contains, habove, hzero, Bool.and_eq_true, decide_eq_true_eq]
  omega

theorem pictures_slide (hrunning : d.animator.running = true) (hslide : d.transition = slide)
    (px : Pixel) : d.pictures px = Painter.picturesAt px .fresh (Painter.paintSlide d) := by
  rw [pictures, Painter.paintEvent_slide d hrunning hslide]

/-- What a slide shows in the frame. -/
theorem pictures_inside (h : InBounds d) (hconsistent : Consistent d)
    (hrunning : d.animator.running = true) (hslide : d.transition = slide)
    (hin : d.frame.contains px = true) :
    d.pictures px =
      (d.lastPixmap.filter fun picture =>
          decide (d.meeting ≤ px.y) && d.extendsTo px picture).toList ++
        (d.pixmap.filter fun _ => decide (px.y < d.meeting)).toList := by
  have hold : (fun picture : Pixmap => (Rect.mk 0 (d.size.height * d.animator.currentFrame / 100)
      picture.size.width picture.size.height).contains px) =
        fun picture => decide (d.meeting ≤ px.y) && d.extendsTo px picture :=
    funext (old_contains h hin)
  rw [pictures_slide hrunning hslide, Painter.picturesAt_paintSlide, Painter.pictureAt_inside hin,
    Painter.pictureAt_inside hin, hold]
  congr 2
  rcases hconsistent.pixmap_eq with hnone | hsome
  · rw [hnone]
    rfl
  · rw [hsome, Option.filter_some, Option.filter_some, new_contains h hin]

theorem sliding (h : InBounds d) (hconsistent : Consistent d)
    (hrunning : d.animator.running = true) (hslide : d.transition = slide) : Sliding d := by
  have hbelow : ∀ px, d.frame.contains px = true → d.meeting ≤ px.y →
      d.pictures px = (d.lastPixmap.filter (d.extendsTo px)).toList := by
    intro px hin hrow
    have hnotAbove : ¬ px.y < d.meeting := by omega
    rw [pictures_inside h hconsistent hrunning hslide hin]
    simp [hrow, hnotAbove]
  refine ⟨toInt_meeting h, ?_, ?_, hbelow, ?_⟩
  · intro hproper px hout
    rw [pictures_slide hrunning hslide, Painter.picturesAt_paintSlide,
      Painter.pictureAt_outside hproper hout, Painter.pictureAt_outside hproper hout]
    rfl
  · intro px hin hrow
    have hnotBelow : ¬ d.meeting ≤ px.y := by omega
    rw [pictures_inside h hconsistent hrunning hslide hin]
    cases d.pixmap <;> simp [hrow, hnotBelow]
  · intro picture hlast hsize px hin hrow
    obtain ⟨⟨-, hright⟩, -, hbottom⟩ := frame_inside h.size hin
    have hlow := meeting_nonneg h
    have hextends : d.extendsTo px picture = true := by
      simp only [extendsTo, hsize, Bool.and_eq_true, decide_eq_true_eq]
      omega
    rw [hbelow px hin hrow, hlast, Option.filter_some, hextends]
    rfl

/-! ## The flip and the rotation -/

/-- A picture that turns: the old one in the first half, away from the viewer
until only its edge is seen, the new one from there in the second half. -/
def Turning (d : Digits) (stroke : Stroke) (angle : Int32) : Prop :=
  (d.animator.currentFrame ≤ 50 ∧ stroke.pixmap = d.lastPixmap ∧
      angle.toInt = -(180 * d.animator.currentFrame.toInt / 100) ∧ -90 ≤ angle.toInt) ∨
    (¬ d.animator.currentFrame ≤ 50 ∧ stroke.pixmap = d.pixmap ∧
      angle.toInt = 180 - 180 * d.animator.currentFrame.toInt / 100 ∧
      0 ≤ angle.toInt ∧ angle.toInt < 90)

/-- `-180 * index / 100`, towards zero -/
theorem toInt_angle_first (h : InBounds d) :
    (-180 * d.animator.currentFrame / 100).toInt =
      -(180 * d.animator.currentFrame.toInt / 100) := by
  obtain ⟨hfirst, hlast⟩ := h.frame
  have hfactor : (-180 : Int32).toInt = -180 := rfl
  have hhundred : (100 : Int32).toInt = 100 := rfl
  have hproduct : (-180 * d.animator.currentFrame).toInt =
      -180 * d.animator.currentFrame.toInt :=
    toInt_mul_of_fits (by rw [hfactor]; omega) (by rw [hfactor]; omega)
  rw [toInt_div_of_pos (by decide), hproduct, hhundred, Int.neg_mul, Int.neg_tdiv,
    Int.tdiv_eq_ediv_of_nonneg (by omega)]

/-- `180 - 180 * m_animator.currentFrame() / 100` -/
theorem toInt_angle_second (h : InBounds d) :
    (180 - 180 * d.animator.currentFrame / 100).toInt =
      180 - 180 * d.animator.currentFrame.toInt / 100 := by
  obtain ⟨hfirst, hlast⟩ := h.frame
  have hfactor : (180 : Int32).toInt = 180 := rfl
  have hhundred : (100 : Int32).toInt = 100 := rfl
  have hproduct : (180 * d.animator.currentFrame).toInt = 180 * d.animator.currentFrame.toInt :=
    toInt_mul_of_fits (by rw [hfactor]; omega) (by rw [hfactor]; omega)
  have hquotient : (180 * d.animator.currentFrame / 100).toInt =
      180 * d.animator.currentFrame.toInt / 100 := by
    rw [toInt_div_of_nonneg (by decide) (by omega), hproduct, hhundred]
  rw [toInt_sub_of_fits (by omega) (by omega), hquotient, hfactor]

theorem half_iff : d.animator.currentFrame ≤ 50 ↔ d.animator.currentFrame.toInt ≤ 50 :=
  Int32.le_iff_toInt_le

theorem turning_first (h : InBounds d) (hhalf : d.animator.currentFrame ≤ 50) {stroke : Stroke}
    (hold : stroke.pixmap = d.lastPixmap) :
    Turning d stroke (-180 * d.animator.currentFrame / 100) := by
  have hangle := toInt_angle_first h
  have hhalf' := half_iff.mp hhalf
  exact .inl ⟨hhalf, hold, hangle, by omega⟩

theorem turning_second (h : InBounds d) (hhalf : ¬ d.animator.currentFrame ≤ 50) {stroke : Stroke}
    (hnew : stroke.pixmap = d.pixmap) :
    Turning d stroke (180 - 180 * d.animator.currentFrame / 100) := by
  have hangle := toInt_angle_second h
  have hhalf' := mt half_iff.mpr hhalf
  have hframe := h.frame.2
  exact .inr ⟨hhalf, hnew, hangle, by omega, by omega⟩

theorem paintFlip_turning (h : InBounds d) :
    ∀ stroke ∈ d.paintFlip, ∀ angle, stroke.angle = some angle → Turning d stroke angle := by
  intro stroke hstroke angle hangle
  unfold paintFlip at hstroke
  by_cases hhalf : d.animator.currentFrame ≤ 50
  · simp only [if_pos hhalf, List.mem_cons, List.not_mem_nil, or_false] at hstroke
    rcases hstroke with rfl | rfl | rfl
    · simp at hangle
    · rw [← Option.some.inj hangle]
      exact turning_first h hhalf rfl
    · simp at hangle
  · simp only [if_neg hhalf, List.mem_cons, List.not_mem_nil, or_false] at hstroke
    rcases hstroke with rfl | rfl | rfl
    · simp at hangle
    · simp at hangle
    · rw [← Option.some.inj hangle]
      exact turning_second h hhalf rfl

theorem paintRotate_turning (h : InBounds d) :
    ∀ stroke ∈ d.paintRotate, ∀ angle, stroke.angle = some angle → Turning d stroke angle := by
  intro stroke hstroke angle hangle
  unfold paintRotate at hstroke
  by_cases hhalf : d.animator.currentFrame ≤ 50
  · simp only [if_pos hhalf, List.mem_singleton] at hstroke
    subst hstroke
    rw [← Option.some.inj hangle]
    exact turning_first h hhalf rfl
  · simp only [if_neg hhalf, List.mem_singleton] at hstroke
    subst hstroke
    rw [← Option.some.inj hangle]
    exact turning_second h hhalf rfl

/-- How the pictures of a paint event move. -/
structure InMotion (d : Digits) : Prop where
  slides : d.animator.running = true → d.transition = slide → Sliding d
  turns : ∀ stroke ∈ d.paintEvent, ∀ angle, stroke.angle = some angle → Turning d stroke angle

theorem InBounds.inMotion (h : InBounds d) (hconsistent : Consistent d) : InMotion d := by
  refine ⟨sliding h hconsistent, ?_⟩
  intro stroke hstroke angle hangle
  unfold paintEvent at hstroke
  split at hstroke
  · simp only [List.mem_append] at hstroke
    rcases hstroke with (hslide | hflip) | hrotate
    · split at hslide
      · simp only [paintSlide, List.mem_cons, List.not_mem_nil, or_false] at hslide
        rcases hslide with rfl | rfl
        · simp at hangle
        · simp at hangle
      · exact absurd hslide List.not_mem_nil
    · split at hflip
      · exact paintFlip_turning h stroke hflip angle hangle
      · exact absurd hflip List.not_mem_nil
    · split at hrotate
      · exact paintRotate_turning h stroke hrotate angle hangle
      · exact absurd hrotate List.not_mem_nil
  · rw [paintStatic, List.mem_singleton] at hstroke
    subst hstroke
    simp at hangle

end Digits
end Clock
end DigmaE605
