import Mathlib.Tactic.Common

/-!
# The `Digits` widget of `firstapp.cpp`

A two-digit number that slides, flips or rotates into the next one.  A pixmap
is represented by the number it renders and the size it was made for; `none` is
the null pixmap of a fresh `QPixmap`.  Of `QTimeLine` the widget uses whether it
is running and its current frame.

* `Digits.step` is what one `Action` does: a call of the widget, an event that
  Qt delivers to it, or the progress of its timeline.
* `Digits.paintEvent` lists the `drawPixmap` calls of a paint event.
-/

namespace DigmaE605
namespace Clock

/-- `QSize` -/
structure Size where
  width : Int32
  height : Int32
  deriving DecidableEq, Repr

/-- A picture of a number, made for a size. -/
structure Pixmap where
  number : Int32
  size : Size
  deriving DecidableEq, Repr

/-- `QTimeLine`, with frames from 0 to 100. -/
structure TimeLine where
  running : Bool
  currentFrame : Int32
  deriving DecidableEq, Repr

/-- `QTimeLine::stop` -/
def TimeLine.stop (line : TimeLine) : TimeLine := { line with running := false }

/-- `QTimeLine::start`, which starts over and does nothing while running. -/
def TimeLine.start (line : TimeLine) : TimeLine :=
  if line.running then line else { running := true, currentFrame := 0 }

/-- The members of `Digits`, with the size and the pending update of the
`QWidget` it is. -/
structure Digits where
  number : Int32
  transition : Int32
  pixmap : Option Pixmap
  lastPixmap : Option Pixmap
  animator : TimeLine
  size : Size
  updatePending : Bool
  deriving DecidableEq, Repr

/-- `enum { Slide, Flip, Rotate }` -/
def slide : Int32 := 0

def flip : Int32 := 1

def rotate : Int32 := 2

def qMin (a b : Int32) : Int32 := if a < b then a else b

def qMax (a b : Int32) : Int32 := if a < b then b else a

def qBound (lower value upper : Int32) : Int32 := qMax lower (qMin upper value)

namespace Digits

/-- The constructor, in a widget of the given size. -/
def constructed (size : Size) : Digits where
  number := 0
  transition := slide
  pixmap := none
  lastPixmap := none
  animator := { running := false, currentFrame := 0 }
  size := size
  updatePending := false

/-- `QWidget::update` -/
def update (d : Digits) : Digits := { d with updatePending := true }

/-- `preparePixmap` -/
def preparePixmap (d : Digits) : Digits :=
  { d with pixmap := some { number := d.number, size := d.size } }

/-- `setTransition` -/
def setTransition (d : Digits) (tr : Int32) : Digits := { d with transition := tr }

/-- `setNumber` -/
def setNumber (d : Digits) (n : Int32) : Digits :=
  if d.number ≠ n then ({ d with number := qBound 0 n 99 }).preparePixmap.update
  else d

/-- `flipTo` -/
def flipTo (d : Digits) (n : Int32) : Digits :=
  if d.number ≠ n then
    let flipped := ({ d with number := qBound 0 n 99, lastPixmap := d.pixmap }).preparePixmap
    { flipped with animator := flipped.animator.stop.start }
  else d

/-- `resizeEvent` -/
def resizeEvent (d : Digits) : Digits :=
  -- the last picture is not rendered again
  d.preparePixmap.update

/-! ## Painting -/

/-- One `drawPixmap`: the picture, where it goes, and the angle of the rotation
about the x axis, if there is one. -/
structure Stroke where
  pixmap : Option Pixmap
  x : Int32
  y : Int32
  angle : Option Int32
  deriving DecidableEq, Repr

/-- `paintStatic` -/
def paintStatic (d : Digits) : List Stroke :=
  [{ pixmap := d.pixmap, x := 0, y := 0, angle := none }]

/-- `paintSlide` -/
def paintSlide (d : Digits) : List Stroke :=
  let y := d.size.height * d.animator.currentFrame / 100
  [{ pixmap := d.lastPixmap, x := 0, y := y, angle := none },
    { pixmap := d.pixmap, x := 0, y := y - d.size.height, angle := none }]

/-- `paintFlip` -/
def paintFlip (d : Digits) : List Stroke :=
  let hw := d.size.width / 2
  let hh := d.size.height / 2
  let index := d.animator.currentFrame
  { pixmap := d.pixmap, x := 0, y := 0, angle := none } ::
    if index ≤ 50 then
      -- the top part of the old pixmap is flipping
      [{ pixmap := d.lastPixmap, x := -hw, y := -hh, angle := some (-180 * index / 100) },
        { pixmap := d.lastPixmap, x := 0, y := 0, angle := none }]
    else
      -- the bottom part of the new pixmap is flipping
      [{ pixmap := d.lastPixmap, x := 0, y := 0, angle := none },
        { pixmap := d.pixmap, x := -hw, y := -hh,
          angle := some (180 - 180 * index / 100) }]

/-- `paintRotate` -/
def paintRotate (d : Digits) : List Stroke :=
  let angle1 := -180 * d.animator.currentFrame / 100
  let angle2 := 180 - 180 * d.animator.currentFrame / 100
  let angle := if d.animator.currentFrame ≤ 50 then angle1 else angle2
  let pix := if d.animator.currentFrame ≤ 50 then d.lastPixmap else d.pixmap
  [{ pixmap := pix, x := -d.size.width / 2, y := -d.size.height / 2, angle := some angle }]

/-- `paintEvent` -/
def paintEvent (d : Digits) : List Stroke :=
  if d.animator.running then
    (if d.transition = slide then d.paintSlide else []) ++
      (if d.transition = flip then d.paintFlip else []) ++
      (if d.transition = rotate then d.paintRotate else [])
  else d.paintStatic

/-! ## Actions -/

/-- What happens to a widget. -/
inductive Action
  | setNumber (n : Int32)
  | flipTo (n : Int32)
  | setTransition (tr : Int32)
  /-- The widget gets a size, and Qt delivers a `resizeEvent`. -/
  | resize (size : Size)
  /-- The timeline reaches a frame; `frameChanged` is connected to `update`. -/
  | tick (frame : Int32)
  /-- The timeline reaches its last frame and its end. -/
  | finish
  /-- Qt delivers a `paintEvent`. -/
  | paint
  deriving DecidableEq, Repr

/-- What an action does. -/
def step (d : Digits) : Action → Digits
  | .setNumber n => d.setNumber n
  | .flipTo n => d.flipTo n
  | .setTransition tr => d.setTransition tr
  | .resize size => ({ d with size := size }).resizeEvent
  | .tick frame =>
      if d.animator.running then
        ({ d with animator := { d.animator with currentFrame := frame } }).update
      else d
  | .finish =>
      if d.animator.running then
        ({ d with animator := { running := false, currentFrame := 100 } }).update
      else d
  | .paint => { d with updatePending := false }

/-- What a sequence of actions does. -/
def run (d : Digits) (actions : List Action) : Digits := actions.foldl step d

@[simp] theorem run_cons (d : Digits) (action : Action) (actions : List Action) :
    d.run (action :: actions) = (d.step action).run actions := rfl

theorem run_append (d : Digits) (actions actions' : List Action) :
    d.run (actions ++ actions') = (d.run actions).run actions' :=
  List.foldl_append

end Digits

end Clock
end DigmaE605
