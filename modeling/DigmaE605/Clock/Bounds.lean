import DigmaE605.Arithmetic.Int32
import DigmaE605.Clock.Digits

/-!
# The bounds of sizes and frames

The frames of the timeline run from 0 to 100, and Qt lets no widget grow beyond
`QWIDGETSIZE_MAX`, 16777215 pixels.  `InBounds.run`: as long as Qt delivers
nothing else, the widget stays within these bounds, in which the arithmetic of
the painting routines does not overflow.
-/

namespace DigmaE605
namespace Clock
namespace Digits

variable {d : Digits}

/-- The size of a widget as Qt allows it. -/
def Allowed (size : Size) : Prop :=
  (0 ≤ size.width.toInt ∧ size.width.toInt < 2 ^ 24) ∧
    0 ≤ size.height.toInt ∧ size.height.toInt < 2 ^ 24

/-- `setFrameRange(0, 100)` -/
def FrameRange (frame : Int32) : Prop := 0 ≤ frame.toInt ∧ frame.toInt ≤ 100

/-- What Qt delivers: sizes that it allows, and frames of the range. -/
def Delivered : Action → Prop
  | .resize size => Allowed size
  | .tick frame => FrameRange frame
  | _ => True

/-- The size and the frame are within their bounds. -/
structure InBounds (d : Digits) : Prop where
  size : Allowed d.size
  frame : FrameRange d.animator.currentFrame

theorem frameRange_first : FrameRange 0 := ⟨by decide, by decide⟩

theorem frameRange_last : FrameRange 100 := ⟨by decide, by decide⟩

theorem InBounds.step {action : Action} (h : InBounds d) (hdelivered : Delivered action) :
    InBounds (d.step action) := by
  cases action with
  | setNumber n =>
      show InBounds (d.setNumber n)
      unfold setNumber
      split
      · exact ⟨h.size, h.frame⟩
      · exact h
  | flipTo n =>
      show InBounds (d.flipTo n)
      unfold flipTo
      split
      · -- The timeline starts over.
        exact ⟨h.size, frameRange_first⟩
      · exact h
  | setTransition tr => exact ⟨h.size, h.frame⟩
  | resize size => exact ⟨hdelivered, h.frame⟩
  | tick frame =>
      show InBounds (if d.animator.running then _ else d)
      split
      · exact ⟨h.size, hdelivered⟩
      · exact h
  | finish =>
      show InBounds (if d.animator.running then _ else d)
      split
      · exact ⟨h.size, frameRange_last⟩
      · exact h
  | paint => exact ⟨h.size, h.frame⟩

theorem InBounds.run {actions : List Action} (h : InBounds d)
    (hdelivered : ∀ action ∈ actions, Delivered action) : InBounds (d.run actions) := by
  induction actions generalizing d with
  | nil => exact h
  | cons action actions ih =>
      exact ih (h.step (hdelivered action List.mem_cons_self))
        fun later hmem => hdelivered later (List.mem_cons_of_mem _ hmem)

end Digits
end Clock
end DigmaE605
