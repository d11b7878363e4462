import DigmaE605.Arithmetic.Int32
import DigmaE605.Clock.Painting

/-!
# The calls that the painting routines make

`Digits.paintEvent` keeps of a paint event the pictures it draws.  Here is the
whole of it: every call that `drawFrame`, `paintStatic`, `paintSlide`,
`paintFlip` and `paintRotate` make on their `QPainter`, in order.

A call either changes the `Context` of the calls after it, or draws.
`strokes_paintEvent` says that the pictures of the calls are those of
`Digits.paintEvent`, and `paintEvent_atRest` that a flip and a rotation turn the
widget's frame and picture about the place where they stand at rest.
-/

namespace DigmaE605
namespace Clock

/-- `QRect` -/
@[ext]
structure Rect where
  left : Int32
  top : Int32
  width : Int32
  height : Int32
  deriving DecidableEq, Repr

namespace Rect

/-- `QRect::adjusted` -/
def adjusted (r : Rect) (dx₁ dy₁ dx₂ dy₂ : Int32) : Rect :=
  ⟨r.left + dx₁, r.top + dy₁, r.width - dx₁ + dx₂, r.height - dy₁ + dy₂⟩

/-- `QRect::right` -/
def right (r : Rect) : Int32 := r.left + r.width - 1

/-- `QRect::translated` -/
def translated (r : Rect) (dx dy : Int32) : Rect := ⟨r.left + dx, r.top + dy, r.width, r.height⟩

/-- Adjusting all four sides by one vector is undone by the opposite
translation. -/
theorem translated_adjusted (r : Rect) (dx dy : Int32) :
    (r.adjusted (-dx) (-dy) (-dx) (-dy)).translated dx dy = r := by
  unfold adjusted translated
  ext
  · grind
  · grind
  · grind
  · grind

theorem adjusted_translated (r : Rect) (dx dy dx₁ dy₁ dx₂ dy₂ : Int32) :
    (r.adjusted dx₁ dy₁ dx₂ dy₂).translated dx dy =
      (r.translated dx dy).adjusted dx₁ dy₁ dx₂ dy₂ := by
  unfold adjusted translated
  ext
  · grind
  · grind
  · rfl
  · rfl

end Rect

/-- What an area is filled with.  The gradient runs from the top left to the
bottom left corner of a rectangle; its stops are hundredths with gray levels. -/
inductive Brush
  | noBrush
  | gradient (rect : Rect) (stops : List (ℕ × ℕ))
  deriving DecidableEq, Repr

/-- `QTransform`: a translation, and before it a rotation about the x axis. -/
structure Transform where
  dx : Int32
  dy : Int32
  angle : Int32
  deriving DecidableEq, Repr

inductive Hint
  | smoothPixmapTransform
  | antialiasing
  deriving DecidableEq, Repr

/-- The calls on a `QPainter`.  A pen has a gray level; a rounded rectangle has
radii of 15 percent. -/
inductive Command
  /-- `QPainter p(this)` -/
  | start
  | setRenderHint (hint : Hint)
  | setPen (pen : Option ℕ)
  | setBrush (brush : Brush)
  | setClipRect (rect : Rect)
  | setTransform (transform : Transform)
  | resetTransform
  /-- with `Qt::black` -/
  | fillRect (rect : Rect)
  | drawRoundedRect (rect : Rect)
  | drawLine (x₁ y₁ x₂ y₂ : Int32)
  | drawPixmap (x y : Int32) (pixmap : Option Pixmap)
  deriving DecidableEq, Repr

/-- What the calls before have set.  A clip comes with the transform that it was
set under. -/
structure Context where
  pen : Option ℕ
  brush : Brush
  clip : Option (Rect × Option Transform)
  transform : Option Transform
  hints : List Hint
  deriving DecidableEq, Repr

/-- A new `QPainter` has a black pen, and neither brush, clip, transform nor
hints. -/
def Context.fresh : Context := ⟨some 0, .noBrush, none, none, []⟩

/-- The context after a call. -/
def Context.after (context : Context) : Command → Context
  | .start => .fresh
  | .setRenderHint hint => { context with hints := hint :: context.hints }
  | .setPen pen => { context with pen := pen }
  | .setBrush brush => { context with brush := brush }
  | .setClipRect rect => { context with clip := some (rect, context.transform) }
  | .setTransform transform => { context with transform := some transform }
  | .resetTransform => { context with transform := none }
  | _ => context

/-- The context after a list of calls. -/
def Context.afterAll (context : Context) (commands : List Command) : Context :=
  commands.foldl Context.after context

namespace Digits

variable (d : Digits)

/-- `QWidget::rect` -/
def rect : Rect := ⟨0, 0, d.size.width, d.size.height⟩

/-- `int pad = width() / 10` -/
def pad : Int32 := d.size.width / 10

/-- `rect().adjusted(pad, pad, -pad, -pad)` -/
def frame : Rect := d.rect.adjusted d.pad d.pad (-d.pad) (-d.pad)

end Digits

namespace Painter

open Command Arithmetic Digits

variable (d : Digits)

/-- `drawFrame` -/
def drawFrame (rect : Rect) : List Command :=
  let y := rect.top + rect.height / 2 - 1
  [setPen none,
    setBrush (.gradient rect [(0, 245), (49, 192), (51, 245), (100, 192)]),
    drawRoundedRect rect,
    setPen (some 181),
    setBrush .noBrush,
    drawRoundedRect (rect.adjusted 1 4 (-1) (-4)),
    setPen (some 159),
    drawLine rect.left y rect.right y]

/-- `paintStatic` -/
def paintStatic : List Command :=
  [start, fillRect d.rect] ++ drawFrame d.frame ++ [drawPixmap 0 0 d.pixmap]

/-- `paintSlide` -/
def paintSlide : List Command :=
  let y := d.size.height * d.animator.currentFrame / 100
  [start, fillRect d.rect] ++ drawFrame d.frame ++
    [setClipRect d.frame, drawPixmap 0 y d.lastPixmap, drawPixmap 0 (y - d.size.height) d.pixmap]

/-- `paintFlip` -/
def paintFlip : List Command :=
  let hw := d.size.width / 2
  let hh := d.size.height / 2
  let index := d.animator.currentFrame
  let turned := d.frame.adjusted (-hw) (-hh) (-hw) (-hh)
  start :: setRenderHint .smoothPixmapTransform :: setRenderHint .antialiasing ::
    fillRect d.rect :: (drawFrame d.frame ++ drawPixmap 0 0 d.pixmap ::
      if index ≤ 50 then
        -- the top part of the old pixmap is flipping
        setTransform ⟨hw, hh, -180 * index / 100⟩ ::
          (drawFrame turned ++ drawPixmap (-hw) (-hh) d.lastPixmap ::
            resetTransform :: setClipRect ⟨0, hh, d.size.width, hh⟩ ::
              (drawFrame d.frame ++ [drawPixmap 0 0 d.lastPixmap]))
      else
        -- the bottom part of the new pixmap is flipping
        setClipRect ⟨0, hh, d.size.width, hh⟩ ::
          (drawFrame d.frame ++ drawPixmap 0 0 d.lastPixmap ::
            setTransform ⟨hw, hh, 180 - 180 * index / 100⟩ ::
              (drawFrame turned ++ [drawPixmap (-hw) (-hh) d.pixmap])))

/-- `paintRotate`, the only one that fills nothing first. -/
def paintRotate : List Command :=
  let angle₁ := -180 * d.animator.currentFrame / 100
  let angle₂ := 180 - 180 * d.animator.currentFrame / 100
  let angle := if d.animator.currentFrame ≤ 50 then angle₁ else angle₂
  let pix := if d.animator.currentFrame ≤ 50 then d.lastPixmap else d.pixmap
  [start] ++ drawFrame d.frame ++
    [setClipRect d.frame, setTransform ⟨d.size.width / 2, d.size.height / 2, angle⟩,
      setRenderHint .smoothPixmapTransform,
      drawPixmap (-d.size.width / 2) (-d.size.height / 2) pix]

/-- `paintEvent` -/
def paintEvent : List Command :=
  if d.animator.running then
    (if d.transition = slide then paintSlide d else []) ++
      (if d.transition = flip then paintFlip d else []) ++
      (if d.transition = rotate then paintRotate d else [])
  else paintStatic d

theorem paintEvent_idle (hidle : d.animator.running = false) : paintEvent d = paintStatic d := by
  simp [paintEvent, hidle]

theorem paintEvent_slide (hrunning : d.animator.running = true)
    (hslide : d.transition = slide) : paintEvent d = paintSlide d := by
  simp [paintEvent, hrunning, hslide, Clock.flip, slide, Clock.rotate]

theorem paintEvent_flip (hrunning : d.animator.running = true)
    (hflip : d.transition = Clock.flip) : paintEvent d = paintFlip d := by
  simp [paintEvent, hrunning, hflip, Clock.flip, slide, Clock.rotate]

theorem paintEvent_rotate (hrunning : d.animator.running = true)
    (hrotate : d.transition = Clock.rotate) : paintEvent d = paintRotate d := by
  simp [paintEvent, hrunning, hrotate, Clock.flip, slide, Clock.rotate]

/-! ## The pictures -/

/-- The picture that a call draws. -/
def stroke (context : Context) : Command → Option Digits.Stroke
  | drawPixmap x y pixmap => some ⟨pixmap, x, y, context.transform.map Transform.angle⟩
  | _ => none

/-- The pictures that the calls draw. -/
def strokes : Context → List Command → List Digits.Stroke
  | _, [] => []
  | context, command :: commands =>
      (stroke context command).toList ++ strokes (context.after command) commands

theorem strokes_append (context : Context) (commands later : List Command) :
    strokes context (commands ++ later) =
      strokes context commands ++ strokes (context.afterAll commands) later := by
  induction commands generalizing context with
  | nil => rfl
  | cons command commands ih =>
      rw [List.cons_append, strokes, strokes, ih, List.append_assoc]
      rfl

theorem strokes_ite {test : Prop} [Decidable test] {commands : List Command}
    {pictures : List Digits.Stroke} (h : ∀ context, strokes context commands = pictures)
    (context : Context) :
    strokes context (if test then commands else []) = if test then pictures else [] := by
  split
  · exact h context
  · rfl

theorem strokes_paintFlip (context : Context) : strokes context (paintFlip d) = d.paintFlip := by
  unfold paintFlip Digits.paintFlip
  by_cases hhalf : d.animator.currentFrame ≤ 50
  · simp only [if_pos hhalf]
    rfl
  · simp only [if_neg hhalf]
    rfl

theorem strokes_paintSlide (context : Context) : strokes context (paintSlide d) = d.paintSlide :=
  rfl

theorem strokes_paintRotate (context : Context) :
    strokes context (paintRotate d) = d.paintRotate := rfl

/-- The calls draw the pictures of `Digits.paintEvent`, in that order and at
those angles, whatever was drawn before. -/
theorem strokes_paintEvent (context : Context) :
    strokes context (paintEvent d) = d.paintEvent := by
  unfold paintEvent Digits.paintEvent
  split
  · rw [strokes_append, strokes_append, strokes_ite (strokes_paintSlide d),
      strokes_ite (strokes_paintFlip d), strokes_ite (strokes_paintRotate d)]
  · rfl

/-! ## Turning about the place of rest -/

/-- The transform after a call, which no other part of the context decides. -/
def transformAfter (transform : Option Transform) (command : Command) : Option Transform :=
  (({ Context.fresh with transform := transform }).after command).transform

/-- Where a rectangle is drawn if nothing turns. -/
def place (transform : Option Transform) (rect : Rect) : Rect :=
  match transform with
  | none => rect
  | some transform => rect.translated transform.dx transform.dy

/-- What a call draws if nothing turns: of the transform the translation is
left. -/
def atRest (transform : Option Transform) : Command → List Command
  | fillRect rect => [fillRect (place transform rect)]
  | drawRoundedRect rect => [drawRoundedRect (place transform rect)]
  | drawLine x₁ y₁ x₂ y₂ =>
      match transform with
      | none => [drawLine x₁ y₁ x₂ y₂]
      | some ⟨dx, dy, _⟩ => [drawLine (x₁ + dx) (y₁ + dy) (x₂ + dx) (y₂ + dy)]
  | drawPixmap x y pixmap =>
      match transform with
      | none => [drawPixmap x y pixmap]
      | some ⟨dx, dy, _⟩ => [drawPixmap (x + dx) (y + dy) pixmap]
  | _ => []

/-- What the calls draw if nothing turns. -/
def allAtRest : Option Transform → List Command → List Command
  | _, [] => []
  | transform, command :: commands =>
      atRest transform command ++ allAtRest (transformAfter transform command) commands

/-- A frame with a picture over it. -/
def framed (rect : Rect) (pixmap : Option Pixmap) : List Command :=
  [drawRoundedRect rect, drawRoundedRect (rect.adjusted 1 4 (-1) (-4)),
    drawLine rect.left (rect.top + rect.height / 2 - 1) rect.right
      (rect.top + rect.height / 2 - 1), drawPixmap 0 0 pixmap]

theorem allAtRest_still (rect : Rect) (pixmap : Option Pixmap) (later : List Command) :
    allAtRest none (drawFrame rect ++ drawPixmap 0 0 pixmap :: later) =
      framed rect pixmap ++ allAtRest none later := rfl

/-- Turning about the middle of the widget, frame and picture are drawn where
they stand at rest. -/
theorem allAtRest_turned (rect : Rect) (dx dy angle : Int32) (pixmap : Option Pixmap)
    (later : List Command) :
    allAtRest (some ⟨dx, dy, angle⟩) (drawFrame (rect.adjusted (-dx) (-dy) (-dx) (-dy)) ++
        drawPixmap (-dx) (-dy) pixmap :: later) =
      framed rect pixmap ++ allAtRest (some ⟨dx, dy, angle⟩) later := by
  have hx : -dx + dx = 0 := by grind
  have hy : -dy + dy = 0 := by grind
  have hinner : ((rect.adjusted (-dx) (-dy) (-dx) (-dy)).adjusted 1 4 (-1) (-4)).translated dx dy =
      rect.adjusted 1 4 (-1) (-4) := by
    rw [Rect.adjusted_translated, Rect.translated_adjusted]
  have hleft : rect.left + -dx + dx = rect.left := by grind
  have hright : (rect.adjusted (-dx) (-dy) (-dx) (-dy)).right + dx = rect.right := by
    unfold Rect.right Rect.adjusted
    grind
  have hmiddle : rect.top + -dy + (rect.height - -dy + -dy) / 2 - 1 + dy =
      rect.top + rect.height / 2 - 1 := by
    have hheight : rect.height - -dy + -dy = rect.height := by grind
    rw [hheight]
    grind
  have hcommands : allAtRest (some ⟨dx, dy, angle⟩)
      (drawFrame (rect.adjusted (-dx) (-dy) (-dx) (-dy)) ++
        drawPixmap (-dx) (-dy) pixmap :: later) =
      [drawRoundedRect ((rect.adjusted (-dx) (-dy) (-dx) (-dy)).translated dx dy),
        drawRoundedRect
          (((rect.adjusted (-dx) (-dy) (-dx) (-dy)).adjusted 1 4 (-1) (-4)).translated dx dy),
        drawLine (rect.left + -dx + dx)
          (rect.top + -dy + (rect.height - -dy + -dy) / 2 - 1 + dy)
          ((rect.adjusted (-dx) (-dy) (-dx) (-dy)).right + dx)
          (rect.top + -dy + (rect.height - -dy + -dy) / 2 - 1 + dy),
        drawPixmap (-dx + dx) (-dy + dy) pixmap] ++ allAtRest (some ⟨dx, dy, angle⟩) later := rfl
  rw [hcommands, Rect.translated_adjusted, hinner, hleft, hright, hmiddle, hx, hy, framed]

/-- At rest a flip is the new picture, and over it the two pictures it turns
between, first the turning one and then the old one, or the other way round. -/
theorem paintFlip_atRest (transform : Option Transform) :
    allAtRest transform (paintFlip d) =
      fillRect d.rect :: (framed d.frame d.pixmap ++ framed d.frame d.lastPixmap ++
        framed d.frame (if d.animator.currentFrame ≤ 50 then d.lastPixmap else d.pixmap)) := by
  -- The calls that draw nothing, and what they do to the transform.
  have hstart : ∀ later, allAtRest transform (start :: setRenderHint .smoothPixmapTransform ::
      setRenderHint .antialiasing :: fillRect d.rect :: later) =
        fillRect d.rect :: allAtRest none later := fun _ => rfl
  have hturn : ∀ transform turned later, allAtRest transform (setTransform turned :: later) =
      allAtRest (some turned) later := fun _ _ _ => rfl
  have hreset : ∀ transform rect later,
      allAtRest transform (resetTransform :: setClipRect rect :: later) = allAtRest none later :=
    fun _ _ _ => rfl
  have hclip : ∀ transform rect later, allAtRest transform (setClipRect rect :: later) =
      allAtRest transform later := fun _ _ _ => rfl
  unfold paintFlip
  by_cases hhalf : d.animator.currentFrame ≤ 50
  · simp only [if_pos hhalf]
    rw [hstart, allAtRest_still, hturn, allAtRest_turned, hreset, allAtRest_still]
    simp [allAtRest]
  · simp only [if_neg hhalf]
    rw [hstart, allAtRest_still, hclip, allAtRest_still, hturn, allAtRest_turned]
    simp [allAtRest]

/-- Division rounds both ways towards zero. -/
theorem half_cancel {n : Int32} (h : 0 ≤ n.toInt) : -n / 2 + n / 2 = 0 := by
  have hlt := n.toInt_lt
  have htwo : (2 : Int32).toInt = 2 := rfl
  have hquotient : (n / 2).toInt = n.toInt / 2 := by
    rw [toInt_div_of_nonneg (by decide) h, htwo]
  have hquotient' : (-n / 2).toInt = -(n.toInt / 2) := by
    rw [toInt_div_of_pos (by decide), toInt_neg_of_nonneg h, htwo, Int.neg_tdiv, Int.tdiv_eq_ediv_of_nonneg h]
  rw [← Int32.toInt_inj, toInt_add_of_fits (by omega) (by omega), hquotient, hquotient', Int.add_left_neg]
  rfl

/-- At rest a rotation is one of the two pictures in the frame of the widget. -/
theorem paintRotate_atRest (transform : Option Transform) (hwidth : 0 ≤ d.size.width.toInt)
    (hheight : 0 ≤ d.size.height.toInt) :
    allAtRest transform (paintRotate d) =
      framed d.frame (if d.animator.currentFrame ≤ 50 then d.lastPixmap else d.pixmap) := by
  have hcommands : allAtRest transform (paintRotate d) =
      [drawRoundedRect d.frame, drawRoundedRect (d.frame.adjusted 1 4 (-1) (-4)),
        drawLine d.frame.left (d.frame.top + d.frame.height / 2 - 1) d.frame.right
          (d.frame.top + d.frame.height / 2 - 1),
        drawPixmap (-d.size.width / 2 + d.size.width / 2) (-d.size.height / 2 + d.size.height / 2)
          (if d.animator.currentFrame ≤ 50 then d.lastPixmap else d.pixmap)] := rfl
  rw [hcommands, half_cancel hwidth, half_cancel hheight, framed]

/-- The picture that turns, the old one in the first half. -/
def turningPixmap : Option Pixmap :=
  if d.animator.currentFrame ≤ 50 then d.lastPixmap else d.pixmap

/-- What a paint event draws if nothing turns. -/
structure DrawnAtRest (d : Digits) (transform : Option Transform) : Prop where
  still : d.animator.running = false →
    allAtRest transform (paintEvent d) = fillRect d.rect :: framed d.frame d.pixmap
  flip : d.animator.running = true → d.transition = Clock.flip →
    allAtRest transform (paintEvent d) =
      fillRect d.rect :: (framed d.frame d.pixmap ++ framed d.frame d.lastPixmap ++
        framed d.frame (turningPixmap d))
  rotate : d.animator.running = true → d.transition = Clock.rotate →
    allAtRest transform (paintEvent d) = framed d.frame (turningPixmap d)

/-- **Flip and rotation turn the picture in its place.**  In a widget whose size
is not negative, every frame and picture of a flip or a rotation, with the angle
taken away, is drawn exactly where the still widget has it; a flip also fills
the widget first, as the still widget does, and a rotation does not. -/
theorem paintEvent_atRest (hwidth : 0 ≤ d.size.width.toInt) (hheight : 0 ≤ d.size.height.toInt)
    (transform : Option Transform) : DrawnAtRest d transform where
  still := by
    intro hidle
    rw [paintEvent_idle d hidle]
    rfl
  flip := by
    intro hrunning hflip
    rw [paintEvent_flip d hrunning hflip, paintFlip_atRest, turningPixmap]
  rotate := by
    intro hrunning hrotate
    rw [paintEvent_rotate d hrunning hrotate, paintRotate_atRest d transform hwidth hheight,
      turningPixmap]

/-- A flip to 5, some way into its first half: the old number is the one that
turns. -/
theorem paintEvent_atRest_flipping :
    let d := (constructed ⟨100, 30⟩).run
      [.resize ⟨160, 192⟩, .flipTo 5, .setTransition Clock.flip, .tick 30]
    turningPixmap d = some ⟨0, ⟨160, 192⟩⟩ ∧ DrawnAtRest d none :=
  ⟨rfl, paintEvent_atRest _ (by decide) (by decide) none⟩

end Painter

end Clock
end DigmaE605
