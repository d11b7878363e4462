import DigmaE605.Arithmetic.Int32
import DigmaE605.Clock.Bounds
import DigmaE605.Clock.Painter

/-!
# What is on the screen

The constructor sets `Qt::WA_OpaquePaintEvent` and `Qt::WA_NoSystemBackground`:
Qt erases nothing, and the widget promises to draw each of its pixels itself.
`paintRotate` does not keep the promise, as it fills nothing before it draws.

How Qt draws is not part of the program.  A `Raster` stands for it, of which
only this is known: `fillRect` fills a rectangle, a clip is respected, and a call
draws no further than its arguments say.

* `overpainted_iff`: a pixel outside the frame keeps what was on the screen
  before until a paint event finds something other than a rotation.
* `onScreen_settled`: that is soon enough.  When no update is pending and no
  animation runs, each pixel is as `paintStatic` draws it, whatever was there.
-/

namespace DigmaE605
namespace Clock

/-- A place on the widget. -/
structure Pixel where
  x : ℤ
  y : ℤ
  deriving DecidableEq, Repr

namespace Rect

/-- The pixel lies in the rectangle. -/
def contains (r : Rect) (px : Pixel) : Bool :=
  r.left.toInt ≤ px.x && px.x < r.left.toInt + r.width.toInt &&
    r.top.toInt ≤ px.y && px.y < r.top.toInt + r.height.toInt

/-- The same for the outline, which a pen makes one pixel wider and higher. -/
def outlineContains (r : Rect) (px : Pixel) : Bool :=
  r.left.toInt ≤ px.x && px.x ≤ r.left.toInt + r.width.toInt &&
    r.top.toInt ≤ px.y && px.y ≤ r.top.toInt + r.height.toInt

/-- Neither the width nor the height is negative. -/
def proper (r : Rect) : Bool := 0 ≤ r.width.toInt && 0 ≤ r.height.toInt

end Rect

namespace Painter

open Command Digits Arithmetic

/-- How far a call draws, without transform and antialiasing.  Nothing is known
of a rectangle that is not proper. -/
def reaches (pen : Option ℕ) (px : Pixel) : Command → Bool
  | fillRect rect => !rect.proper || rect.contains px
  | drawRoundedRect rect =>
      !rect.proper || if pen.isSome then rect.outlineContains px else rect.contains px
  | drawLine x₁ y₁ x₂ y₂ =>
      min x₁.toInt x₂.toInt ≤ px.x && px.x ≤ max x₁.toInt x₂.toInt &&
        min y₁.toInt y₂.toInt ≤ px.y && px.y ≤ max y₁.toInt y₂.toInt
  | drawPixmap x y (some pixmap) => (Rect.mk x y pixmap.size.width pixmap.size.height).contains px
  | _ => false

/-- The clip, set without a transform, keeps the pixel from being drawn.  Nothing
is known of a clip that is not proper. -/
def clippedAway (context : Context) (px : Pixel) : Bool :=
  match context.clip with
  | some (clip, none) => clip.proper && !clip.contains px
  | _ => false

/-- The call is too far from the pixel to draw on it. -/
def tooFar (context : Context) (px : Pixel) (command : Command) : Bool :=
  context.transform.isNone && !context.hints.contains .antialiasing &&
    !reaches context.pen px command

variable {d : Digits} {px : Pixel}

/-! ## Paint events that fill the widget -/

/-- The routine that runs fills the widget before it draws. -/
def Covers (d : Digits) : Prop :=
  d.animator.running = false ∨ d.transition = slide ∨ d.transition = Clock.flip

instance : Decidable (Covers d) := inferInstanceAs (Decidable (_ ∨ _ ∨ _))

/-- Every routine but the rotation begins with a fill of the widget. -/
theorem paintEvent_covers (hcovers : Covers d) :
    ∃ (hints : List Hint) (commands : List Command), paintEvent d =
      start :: (hints.map setRenderHint ++ fillRect d.rect :: commands) := by
  cases hrunning : d.animator.running with
  | false => exact ⟨[], _, paintEvent_idle d hrunning⟩
  | true =>
      rcases hcovers with hidle | hslide | hflip
      · exact absurd (hrunning.symm.trans hidle) (by simp)
      · exact ⟨[], _, paintEvent_slide d hrunning hslide⟩
      · exact ⟨[.smoothPixmapTransform, .antialiasing], _, paintEvent_flip d hrunning hflip⟩

/-! ## Calls that leave a pixel alone -/

/-- The calls leave the pixel alone. -/
def Spares (px : Pixel) : Context → List Command → Prop
  | _, [] => True
  | context, command :: commands =>
      (clippedAway context px = true ∨ tooFar context px command = true) ∧
        Spares px (context.after command) commands

/-- The rectangle has room for a frame, and its sides are far from the bounds of
`int`. -/
structure HasRoom (r : Rect) : Prop where
  left_nonneg : 0 ≤ r.left.toInt
  top_nonneg : 0 ≤ r.top.toInt
  wide : 2 ≤ r.width.toInt
  high : 8 ≤ r.height.toInt
  right_lt : r.left.toInt + r.width.toInt < 2 ^ 30
  bottom_lt : r.top.toInt + r.height.toInt < 2 ^ 30

theorem contains_eq_false_iff {r : Rect} :
    r.contains px = false ↔ ¬(r.left.toInt ≤ px.x ∧ px.x < r.left.toInt + r.width.toInt ∧
      r.top.toInt ≤ px.y ∧ px.y < r.top.toInt + r.height.toInt) := by
  rw [← Bool.not_eq_true]
  simp [Rect.contains, and_assoc]

theorem HasRoom.proper {r : Rect} (hroomy : HasRoom r) : r.proper = true := by
  have hwide := hroomy.wide
  have hhigh := hroomy.high
  simp [Rect.proper]
  omega

theorem HasRoom.outer {r : Rect} (hroomy : HasRoom r) (hout : r.contains px = false) :
    reaches none px (drawRoundedRect r) = false := by
  simp [reaches, hroomy.proper, hout]

theorem HasRoom.inner {r : Rect} (hroomy : HasRoom r) (hout : r.contains px = false)
    (pen : Option ℕ) : reaches pen px (drawRoundedRect (r.adjusted 1 4 (-1) (-4))) = false := by
  obtain ⟨hleft, htop, hwide, hhigh, hright, hbottom⟩ := hroomy
  -- The rectangle keeps far enough from the bounds of an `int` to be moved by four.
  have hmove : ∀ n step : Int32, 0 ≤ n.toInt → n.toInt < 2 ^ 30 → 0 ≤ step.toInt →
      step.toInt ≤ 4 → (n + step).toInt = n.toInt + step.toInt :=
    fun n step _ _ _ _ => toInt_add_of_fits (by omega) (by omega)
  have hshrink : ∀ n step : Int32, 0 ≤ n.toInt → n.toInt < 2 ^ 30 → 0 ≤ step.toInt →
      step.toInt ≤ 4 → (n - step + -step).toInt = n.toInt - 2 * step.toInt := by
    intro n step _ _ _ _
    have hneg := toInt_neg_of_nonneg (a := step) (by omega)
    have hfirst := toInt_sub_of_fits (a := n) (b := step) (by omega) (by omega)
    rw [toInt_add_of_fits (by omega) (by omega), hfirst, hneg]
    omega
  have hone : (1 : Int32).toInt = 1 := rfl
  have hfour : (4 : Int32).toInt = 4 := rfl
  have hleft' := hmove r.left 1 hleft (by omega) (by decide) (by decide)
  have htop' := hmove r.top 4 htop (by omega) (by decide) (by decide)
  have hwidth' := hshrink r.width 1 (by omega) (by omega) (by decide) (by decide)
  have hheight' := hshrink r.height 4 (by omega) (by omega) (by decide) (by decide)
  rw [contains_eq_false_iff] at hout
  rw [← Bool.not_eq_true]
  -- A pen reaches one column and one row further than what is filled.
  cases pen with
  | none =>
      simp only [reaches, Rect.proper, Rect.contains, Rect.adjusted, hleft', htop', hwidth', hheight',
        hone, hfour, Option.isSome_none, Bool.false_eq_true, if_false, Bool.or_eq_true,
        Bool.not_eq_true', Bool.and_eq_true, Bool.and_eq_false_iff, decide_eq_true_eq,
        decide_eq_false_iff_not]
      omega
  | some level =>
      simp only [reaches, Rect.proper, Rect.outlineContains, Rect.adjusted, hleft', htop', hwidth',
        hheight', hone, hfour, Option.isSome_some, if_true, Bool.or_eq_true, Bool.not_eq_true',
        Bool.and_eq_true, Bool.and_eq_false_iff, decide_eq_true_eq, decide_eq_false_iff_not]
      omega

theorem HasRoom.line {r : Rect} (hroomy : HasRoom r) (hout : r.contains px = false)
    (pen : Option ℕ) :
    reaches pen px (drawLine r.left (r.top + r.height / 2 - 1) r.right
      (r.top + r.height / 2 - 1)) = false := by
  obtain ⟨hleft, htop, hwide, hhigh, hright, hbottom⟩ := hroomy
  have hone : (1 : Int32).toInt = 1 := rfl
  have htwo : (2 : Int32).toInt = 2 := rfl
  have hright' : r.right.toInt = r.left.toInt + r.width.toInt - 1 := by
    have hsum := toInt_add_of_fits (a := r.left) (b := r.width) (by omega) (by omega)
    rw [Rect.right, toInt_sub_of_fits (by omega) (by omega), hsum, hone]
  have hmiddle : (r.top + r.height / 2 - 1).toInt = r.top.toInt + r.height.toInt / 2 - 1 := by
    have hhalf := toInt_div_of_nonneg (a := r.height) (b := 2) (by decide) (by omega)
    rw [htwo] at hhalf
    have hsum := toInt_add_of_fits (a := r.top) (b := r.height / 2) (by omega) (by omega)
    rw [toInt_sub_of_fits (by omega) (by omega), hsum, hhalf, hone]
  rw [contains_eq_false_iff] at hout
  rw [← Bool.not_eq_true]
  simp only [reaches, hright', hmiddle, Bool.and_eq_true, decide_eq_true_eq]
  omega

/-- The frame keeps a tenth of the width from each side. -/
theorem toInt_frame (hallowed : Allowed d.size) :
    d.frame.left.toInt = d.size.width.toInt / 10 ∧
      d.frame.top.toInt = d.size.width.toInt / 10 ∧
      d.frame.width.toInt = d.size.width.toInt - 2 * (d.size.width.toInt / 10) ∧
      d.frame.height.toInt = d.size.height.toInt - 2 * (d.size.width.toInt / 10) := by
  obtain ⟨⟨hwidth, hwidth'⟩, hheight, hheight'⟩ := hallowed
  have hpad : d.pad.toInt = d.size.width.toInt / 10 :=
    toInt_div_of_nonneg (by decide) hwidth
  have hneg : (-d.pad).toInt = -(d.size.width.toInt / 10) := by
    rw [toInt_neg_of_nonneg (by omega), hpad]
  have hshrink : ∀ n : Int32, 0 ≤ n.toInt → n.toInt < 2 ^ 24 →
      (n - d.pad + -d.pad).toInt = n.toInt - 2 * (d.size.width.toInt / 10) := by
    intro n hlow hlt
    have hfirst : (n - d.pad).toInt = n.toInt - d.size.width.toInt / 10 := by
      rw [toInt_sub_of_fits (by omega) (by omega), hpad]
    rw [toInt_add_of_fits (by omega) (by omega), hfirst, hneg]
    omega
  have hcorner : (0 + d.pad).toInt = d.size.width.toInt / 10 := by
    rw [Int32.zero_add, hpad]
  exact ⟨hcorner, hcorner, hshrink d.size.width hwidth hwidth',
    hshrink d.size.height hheight hheight'⟩

/-- The size leaves room for a frame, whose top and bottom are as far apart as
its sides. -/
structure Roomy (size : Size) : Prop where
  wide : 8 ≤ size.width.toInt
  high : size.width.toInt ≤ size.height.toInt
  small : size.height.toInt < 2 ^ 24

theorem Roomy.allowed {size : Size} (hroomy : Roomy size) : Allowed size := by
  obtain ⟨hwide, hhigh, hsmall⟩ := hroomy
  exact ⟨⟨by omega, by omega⟩, by omega, hsmall⟩

theorem Roomy.frame (hroomy : Roomy d.size) : HasRoom d.frame := by
  obtain ⟨hleft, htop, hwidth, hheight⟩ := toInt_frame hroomy.allowed
  obtain ⟨hwide, hhigh, hsmall⟩ := hroomy
  exact ⟨by omega, by omega, by omega, by omega, by omega, by omega⟩

theorem spares_drawFrame {r : Rect} (hroomy : HasRoom r) (hout : r.contains px = false)
    {context : Context} (htransform : context.transform = none) (hhints : context.hints = [])
    {later : List Command}
    (hlater : Spares px { context with pen := some 159, brush := .noBrush } later) :
    Spares px context (drawFrame r ++ later) := by
  obtain ⟨pen, brush, clip, transform, hints⟩ := context
  subst htransform hhints
  have hfar : ∀ (pen : Option ℕ) (brush : Brush) (command : Command),
      reaches pen px command = false → tooFar ⟨pen, brush, clip, none, []⟩ px command = true := by
    intro pen brush command hreaches
    simp [tooFar, hreaches]
  refine ⟨.inr (hfar _ _ _ rfl), .inr (hfar _ _ _ rfl), .inr (hfar _ _ _ (hroomy.outer hout)), ?_⟩
  refine ⟨.inr (hfar _ _ _ rfl), .inr (hfar _ _ _ rfl), .inr (hfar _ _ _ (hroomy.inner hout _)), ?_⟩
  exact ⟨.inr (hfar _ _ _ rfl), .inr (hfar _ _ _ (hroomy.line hout _)), hlater⟩

theorem spares_paintRotate (hroomy : Roomy d.size) (hout : d.frame.contains px = false) :
    Spares px .fresh (paintRotate d) := by
  have hframe := hroomy.frame
  have hclipped : ∀ (pen : Option ℕ) (brush : Brush) (transform : Option Transform)
      (hints : List Hint), clippedAway ⟨pen, brush, some (d.frame, none), transform, hints⟩ px =
        true := by
    intro pen brush transform hints
    simp [clippedAway, hout, hframe.proper]
  refine ⟨.inr rfl, spares_drawFrame hframe hout rfl rfl ?_⟩
  exact ⟨.inr rfl, .inl (hclipped _ _ _ _), .inl (hclipped _ _ _ _), .inl (hclipped _ _ _ _),
    trivial⟩

/-! ## Drawing -/

/-- How Qt draws, in colours `κ`. -/
structure Raster (κ : Type) where
  black : κ
  /-- What a call makes of a pixel. -/
  ink : Context → Command → Pixel → κ → κ
  /-- What a resize leaves on the screen. -/
  exposed : Size → (Pixel → κ) → Pixel → κ
  ink_fillRect : ∀ (context : Context) (rect : Rect) (px : Pixel) (shade : κ),
    context.clip = none → context.transform = none → rect.contains px = true →
      ink context (fillRect rect) px shade = black
  ink_clippedAway : ∀ (context : Context) (command : Command) (px : Pixel) (shade : κ),
    clippedAway context px = true → ink context command px shade = shade
  ink_tooFar : ∀ (context : Context) (command : Command) (px : Pixel) (shade : κ),
    tooFar context px command = true → ink context command px shade = shade

namespace Raster

variable {κ : Type} (raster : Raster κ)

/-- What a list of calls makes of a pixel. -/
def draw (raster : Raster κ) : Context → List Command → Pixel → κ → κ
  | _, [], _, shade => shade
  | context, command :: commands, px, shade =>
      raster.draw (context.after command) commands px (raster.ink context command px shade)

/-- What is on the screen after an action. -/
def step (d : Digits) (screen : Pixel → κ) : Action → Pixel → κ
  | .paint => fun px => raster.draw .fresh (paintEvent d) px (screen px)
  | .resize size => raster.exposed size screen
  | _ => screen

/-- What is on the screen after a sequence of actions. -/
def onScreen (raster : Raster κ) : Digits → (Pixel → κ) → List Action → Pixel → κ
  | _, screen, [] => screen
  | d, screen, action :: actions =>
      raster.onScreen (d.step action) (raster.step d screen action) actions

/-- A plain way to draw, in levels of gray: frames are square, of the gray that
their gradient starts with and without an outline, and pictures are
transparent. -/
def plain : Raster ℕ where
  black := 0
  ink context command px shade :=
    if clippedAway context px || context.transform.isSome || !reaches context.pen px command then
      shade
    else
      match command, context.brush, context.pen with
      | fillRect _, _, _ => 0
      | drawRoundedRect _, .gradient _ ((_, level) :: _), _ => level
      | drawLine _ _ _ _, _, some level => level
      | _, _, _ => shade
  exposed _ screen := screen
  ink_fillRect := by
    intro context rect px shade hclip htransform hmem
    simp [clippedAway, hclip, htransform, reaches, hmem]
  ink_clippedAway := by
    intro context command px shade hclipped
    simp [hclipped]
  ink_tooFar := by
    intro context command px shade hfar
    have hreaches : reaches context.pen px command = false := by
      simp only [tooFar, Bool.and_eq_true, Bool.not_eq_true'] at hfar
      exact hfar.2
    simp [hreaches]

variable {raster} {screen screen' : Pixel → κ} {actions : List Action}

/-! ## What a paint event leaves -/

theorem draw_fillRect (rect : Rect) (hmem : rect.contains px = true) (context : Context)
    (hclip : context.clip = none) (htransform : context.transform = none)
    (commands : List Command) (shade : κ) :
    raster.draw context (fillRect rect :: commands) px shade =
      raster.draw context commands px raster.black := by
  rw [draw, raster.ink_fillRect _ _ _ _ hclip htransform hmem]
  rfl

/-- After a fill nothing is left of what was there. -/
theorem draw_start_fillRect (rect : Rect) (hmem : rect.contains px = true) (hints : List Hint)
    (commands : List Command) (shade shade' : κ) :
    raster.draw .fresh (start :: (hints.map setRenderHint ++ fillRect rect :: commands)) px shade =
      raster.draw .fresh (start :: (hints.map setRenderHint ++ fillRect rect :: commands)) px
        shade' := by
  have hfill : ∀ (hints : List Hint) (context : Context) (shade shade' : κ),
      context.clip = none → context.transform = none →
      raster.draw context (hints.map setRenderHint ++ fillRect rect :: commands) px shade =
        raster.draw context (hints.map setRenderHint ++ fillRect rect :: commands) px shade' := by
    -- A hint changes neither the clip nor the transform, so the fill stays a whole one.
    intro hints
    induction hints with
    | nil =>
        intro context shade shade' hclip htransform
        rw [List.map_nil, List.nil_append, draw_fillRect rect hmem context hclip htransform,
          draw_fillRect rect hmem context hclip htransform]
    | cons hint hints ih =>
        intro context shade shade' hclip htransform
        exact ih _ _ _ hclip htransform
  exact hfill hints .fresh _ _ rfl rfl

theorem draw_covers (hcovers : Covers d) (hmem : d.rect.contains px = true) (shade shade' : κ) :
    raster.draw .fresh (paintEvent d) px shade = raster.draw .fresh (paintEvent d) px shade' := by
  obtain ⟨hints, commands, hevent⟩ := paintEvent_covers hcovers
  rw [hevent]
  exact draw_start_fillRect d.rect hmem hints commands shade shade'

theorem draw_of_spares {context : Context} {commands : List Command}
    (hspares : Spares px context commands) (shade : κ) :
    raster.draw context commands px shade = shade := by
  induction commands generalizing context shade with
  | nil => rfl
  | cons command commands ih =>
      rw [draw, ih hspares.2]
      rcases hspares.1 with hclipped | hfar
      · exact raster.ink_clippedAway context command px shade hclipped
      · exact raster.ink_tooFar context command px shade hfar

/-! ## Before the widget is filled -/

/-- A paint event among the actions fills the widget. -/
def CoveredIn (d : Digits) (actions : List Action) : Prop :=
  ∃ seen rest, actions = seen ++ .paint :: rest ∧ Covers (d.run seen)

/-- Nothing is left at the pixel of what was on the screen before. -/
def Overpainted (raster : Raster κ) (d : Digits) (actions : List Action) (px : Pixel) : Prop :=
  ∀ screen screen', raster.onScreen d screen actions px = raster.onScreen d screen' actions px

theorem onScreen_append (d : Digits) (screen : Pixel → κ) (actions later : List Action) :
    raster.onScreen d screen (actions ++ later) =
      raster.onScreen (d.run actions) (raster.onScreen d screen actions) later := by
  induction actions generalizing d screen with
  | nil => rfl
  | cons action actions ih => exact ih _ _

/-- Apart from a resize, what becomes of a pixel is decided there. -/
theorem onScreen_congr (hkept : ∀ size, Action.resize size ∉ actions)
    (hsame : screen px = screen' px) :
    raster.onScreen d screen actions px = raster.onScreen d screen' actions px := by
  induction actions generalizing d screen screen' with
  | nil => exact hsame
  | cons action actions ih =>
      refine ih (fun size hmem => hkept size (List.mem_cons_of_mem _ hmem)) ?_
      cases action with
      | paint => exact congrArg (raster.draw .fresh (paintEvent d) px) hsame
      | resize size => exact absurd List.mem_cons_self (hkept size)
      | _ => exact hsame

theorem CoveredIn.overpainted (hcovered : CoveredIn d actions)
    (hkept : ∀ size, Action.resize size ∉ actions) (hmem : d.rect.contains px = true) :
    Overpainted raster d actions px := by
  intro screen screen'
  obtain ⟨seen, rest, rfl, hcovers⟩ := hcovered
  have hseen : ∀ size, Action.resize size ∉ seen :=
    fun size h => hkept size (List.mem_append_left _ h)
  have hrest : ∀ size, Action.resize size ∉ rest :=
    fun size h => hkept size (List.mem_append_right _ (List.mem_cons_of_mem _ h))
  have hrect : (d.run seen).rect = d.rect := by
    rw [Digits.rect, run_size seen hseen, Digits.rect]
  rw [onScreen_append, onScreen_append, onScreen, onScreen]
  refine onScreen_congr hrest (draw_covers hcovers ?_ _ _)
  rw [hrect]
  exact hmem

/-- A paint event that fills nothing leaves everything outside the frame. -/
theorem draw_of_not_covers (hroomy : Roomy d.size) (hout : d.frame.contains px = false)
    (hcovers : ¬ Covers d) (shade : κ) : raster.draw .fresh (paintEvent d) px shade = shade := by
  have hrunning : d.animator.running = true := by
    rw [← Bool.not_eq_false]
    exact fun hidle => hcovers (.inl hidle)
  by_cases hrotate : d.transition = Clock.rotate
  · rw [paintEvent_rotate d hrunning hrotate]
    exact draw_of_spares (spares_paintRotate hroomy hout) shade
  · have hslide : d.transition ≠ slide := fun h => hcovers (.inr (.inl h))
    have hflip : d.transition ≠ Clock.flip := fun h => hcovers (.inr (.inr h))
    have hnothing : paintEvent d = [] := by
      simp [paintEvent, hrunning, hslide, hflip, hrotate]
    rw [hnothing]
    rfl

/-- Until a paint event fills the widget, what was outside the frame stays. -/
theorem onScreen_of_not_coveredIn (hroomy : Roomy d.size) (hout : d.frame.contains px = false)
    (hkept : ∀ size, Action.resize size ∉ actions) (hcovered : ¬ CoveredIn d actions) :
    raster.onScreen d screen actions px = screen px := by
  induction actions generalizing d screen with
  | nil => rfl
  | cons action actions ih =>
      have hrest : ∀ size, Action.resize size ∉ actions :=
        fun size hmem => hkept size (List.mem_cons_of_mem _ hmem)
      have hsize : (d.step action).size = d.size := by
        refine run_size (d := d) [action] fun size hmem => ?_
        rw [List.mem_singleton] at hmem
        exact hkept size (hmem ▸ List.mem_cons_self)
      have hlater : ¬ CoveredIn (d.step action) actions := by
        rintro ⟨seen, rest, rfl, hcovers⟩
        exact hcovered ⟨action :: seen, rest, rfl, hcovers⟩
      -- The frame depends on the size alone.
      have hframe : (d.step action).frame = d.frame := by
        rw [Digits.frame, Digits.pad, Digits.rect, hsize, Digits.frame, Digits.pad, Digits.rect]
      rw [onScreen, ih (hsize ▸ hroomy) (hframe ▸ hout) hrest hlater]
      cases action with
      | paint =>
          refine draw_of_not_covers hroomy hout (fun hcovers => hcovered ?_) _
          exact ⟨[], actions, rfl, hcovers⟩
      | resize size => exact absurd List.mem_cons_self (hkept size)
      | _ => rfl

/-- **A rotation does not cover the widget.**  While the widget keeps its size,
a paint event that finds anything but a rotation leaves nothing of what was on
the screen; and in a widget with room for its frame, until there is one, what was
on the screen outside the frame is still there. -/
theorem overpainted_iff [Nontrivial κ] (raster : Raster κ)
    (hkept : ∀ size, Action.resize size ∉ actions) (hmem : d.rect.contains px = true) :
    (CoveredIn d actions → Overpainted raster d actions px) ∧
      (Roomy d.size → d.frame.contains px = false →
        (Overpainted raster d actions px ↔ CoveredIn d actions)) := by
  have hcovers : CoveredIn d actions → Overpainted raster d actions px :=
    fun hcovered => hcovered.overpainted hkept hmem
  refine ⟨hcovers, fun hroomy hout => ⟨fun hover => ?_, hcovers⟩⟩
  -- Two screens that differ outside the frame would differ to the end.
  by_contra hcovered
  obtain ⟨shade, shade', hdiffer⟩ := exists_pair_ne κ
  have hsame := hover (fun _ => shade) (fun _ => shade')
  rw [onScreen_of_not_coveredIn hroomy hout hkept hcovered,
    onScreen_of_not_coveredIn hroomy hout hkept hcovered] at hsame
  exact hdiffer hsame

/-- The first frame of a rotation leaves what was in the corner. -/
theorem overpainted_iff_rotating :
    let d := (Digits.constructed ⟨100, 30⟩).run
      [.resize ⟨160, 192⟩, .setTransition Clock.rotate, .flipTo 5]
    ¬ Overpainted plain d [.tick 10, .paint] ⟨0, 0⟩ := by
  intro d hover
  have hkept : ∀ size, Action.resize size ∉ [Action.tick 10, .paint] := by simp
  have hroomy : Roomy d.size := ⟨by decide, by decide, by decide⟩
  obtain ⟨seen, rest, hsplit, hcovers⟩ :=
    ((overpainted_iff plain hkept (by decide)).2 hroomy (by decide)).mp hover
  have hseen : seen = [.tick 10] := by
    rcases seen with - | ⟨action, - | ⟨action', seen⟩⟩
    · simp at hsplit
    · simp_all
    · simp at hsplit
  subst hseen
  exact absurd hcovers (by decide)

/-! ## The screen at rest -/

/-- Each pixel of the widget is as the still widget draws it on anything at
all. -/
def AtRest (raster : Raster κ) (d : Digits) (screen : Pixel → κ) : Prop :=
  ∀ px, d.rect.contains px = true → ∀ shade,
    screen px = raster.draw .fresh (paintStatic d) px shade

theorem AtRest.of_samePicture {d' : Digits} (h : AtRest raster d screen)
    (hsame : SamePicture d d') : AtRest raster d' screen := by
  intro px hmem shade
  have hrect : d'.rect = d.rect := by rw [Digits.rect, hsame.size, Digits.rect]
  have hstatic : paintStatic d' = paintStatic d := by
    simp [paintStatic, Digits.frame, Digits.pad, Digits.rect, hsame.size, hsame.pixmap]
  rw [hstatic]
  exact h px (hrect ▸ hmem) shade

theorem onScreen_eq (d : Digits) (screen : Pixel → κ) (actions : List Action) :
    raster.onScreen d screen actions = shownAfter raster.step d screen actions := by
  induction actions generalizing d screen with
  | nil => rfl
  | cons action actions ih => exact ih _ _

/-- **The screen at rest.**  Once there was a resize, whenever no update is
pending and no animation runs, each pixel of the widget is as `paintStatic` draws
it on anything at all. -/
theorem onScreen_settled (raster : Raster κ) (d : Digits) (screen : Pixel → κ)
    (hresized : Resized actions) (hsettled : (d.run actions).updatePending = false)
    (hstopped : (d.run actions).animator.running = false) :
    AtRest raster (d.run actions) (raster.onScreen d screen actions) := by
  obtain ⟨size, hmem⟩ := hresized
  obtain ⟨earlier, later, rfl⟩ := List.append_of_mem hmem
  rw [run_append, run_cons] at hsettled hstopped ⊢
  rw [onScreen_append, onScreen, onScreen_eq]
  refine Settling.of_resized (AtRest raster) ?_ ?_ _ hsettled hstopped
  · -- Without an animation the still widget is painted, over anything.
    intro d screen hidle px hmem shade
    have hstatic : paintEvent d = paintStatic d := paintEvent_idle d hidle
    calc
      raster.draw .fresh (paintEvent d) px (screen px)
        = raster.draw .fresh (paintEvent d) px shade := draw_covers (.inl hidle) hmem _ _
      _ = raster.draw .fresh (paintStatic d) px shade := by rw [hstatic]
  · intro d screen action hkept _ hscreen
    cases action with
    | paint => exact absurd rfl hkept.notPaint
    | resize size => exact absurd rfl (hkept.notResize size)
    | _ => exact hscreen.of_samePicture hkept.picture

end Raster
end Painter
end Clock
end DigmaE605
