import DigmaE605.Clock.Layout
import DigmaE605.Clock.Lettering
import DigmaE605.Clock.Motion

/-!
# What the window draws

The layout of `DigiFlip` chooses the sizes of the widgets, and the painting of a
widget is sound for the sizes that Qt allows.  `screen_drawn` brings the two
together: in every run with windows of an allowed width, from the first resize
on, both widgets move as they should, have room for their frames, and show their
numbers in a lettering that fits.
-/

namespace DigmaE605
namespace Clock
namespace Screen

open Digits DigiFlip

variable {s : Screen} {w : DigiFlip}

/-- The layout gives the widgets an allowed size in a window of an allowed
width, whatever its height. -/
theorem allowed_digitsSize {window : WindowSize} (hwidth : window.width.toInt < 2 ^ 24) :
    Allowed window.digitsSize := by
  have hnonneg := window.width_nonneg
  have hdigits : window.digitsSize.width.toInt = window.width.toInt / 2 := window.toInt_digitsWidth
  have hheight : window.digitsSize.height.toInt = 6 * (window.width.toInt / 2) / 5 :=
    window.toInt_digitsHeight'
  refine ⟨⟨?_, ?_⟩, ?_, ?_⟩
  · omega
  · omega
  · omega
  · omega

/-- What Qt delivers to the clock. -/
def ClockDelivered : WindowAction → Prop
  | .resizeEvent digits => Allowed digits
  | .hourProgress progress => Delivered progress.action
  | .minuteProgress progress => Delivered progress.action
  | _ => True

/-- What Qt delivers to the window: allowed widths, and frames of the range. -/
def ScreenDelivered : ScreenAction → Prop
  | .resizeEvent window => window.width.toInt < 2 ^ 24
  | .clock action => ClockDelivered action.val

/-- What is delivered to the clock is handed to a widget as it is. -/
theorem delivered_widgetActions {number : QTime → Int32} {own : WindowAction → Option Progress}
    {action : WindowAction} (hdelivered : ClockDelivered action)
    (hown : ∀ progress, own action = some progress → Delivered progress.action) :
    ∀ step ∈ w.widgetActions number own action, Delivered step := by
  intro step hmem
  unfold DigiFlip.widgetActions at hmem
  -- What is set, the flip, the resize, and the widget's own progress.
  rcases List.mem_append.mp hmem with hmem | hmem
  · rcases List.mem_append.mp hmem with hmem | hmem
    · rcases List.mem_append.mp hmem with hset | hflip
      · obtain ⟨tr, -, rfl⟩ : ∃ tr, w.sets action = some tr ∧ Action.setTransition tr = step := by
          simpa using hset
        trivial
      · obtain ⟨t, -, rfl⟩ : ∃ t, action.reads = some t ∧ Action.flipTo (number t) = step := by
          simpa using hflip
        trivial
    · cases action with
      | resizeEvent digits =>
          rw [List.mem_singleton.mp hmem]
          exact hdelivered
      | _ => exact absurd hmem List.not_mem_nil
  · obtain ⟨progress, hprogress, rfl⟩ :
        ∃ progress, own action = some progress ∧ progress.action = step := by simpa using hmem
    exact hown progress hprogress

/-- The sizes and the frames of both widgets are within their bounds. -/
structure Bounded (w : DigiFlip) : Prop where
  hour : InBounds w.hour
  minute : InBounds w.minute

theorem Bounded.clock (h : Bounded w) (action : WindowAction) (hdelivered : ClockDelivered action) :
    Bounded (w.step action) := by
  constructor
  · rw [step_hour]
    refine h.hour.run (delivered_widgetActions hdelivered fun progress hprogress => ?_)
    cases action with
    | hourProgress progress' =>
        rw [← Option.some.inj hprogress]
        exact hdelivered
    | _ => exact absurd hprogress (by simp [WindowAction.ofHour])
  · rw [step_minute]
    refine h.minute.run (delivered_widgetActions hdelivered fun progress hprogress => ?_)
    cases action with
    | minuteProgress progress' =>
        rw [← Option.some.inj hprogress]
        exact hdelivered
    | _ => exact absurd hprogress (by simp [WindowAction.ofMinute])

theorem Bounded.step (h : Bounded s.clock) {action : ScreenAction}
    (hdelivered : ScreenDelivered action) : Bounded (s.step action).clock := by
  cases action with
  | resizeEvent window =>
      exact h.clock (.resizeEvent window.digitsSize) (allowed_digitsSize hdelivered)
  | clock action => exact h.clock action.val hdelivered

theorem Bounded.run (h : Bounded s.clock) {actions : List ScreenAction}
    (hdelivered : ∀ action ∈ actions, ScreenDelivered action) : Bounded (s.run actions).clock := by
  induction actions generalizing s with
  | nil => exact h
  | cons action actions ih =>
      exact ih (h.step (hdelivered action List.mem_cons_self))
        fun later hmem => hdelivered later (List.mem_cons_of_mem _ hmem)

theorem bounded_constructed (window : WindowSize) {size : Size} (hsize : Allowed size)
    (t t' : QTime) : Bounded (constructed window size t t').clock := by
  have hwidget : ∀ n m : Int32, InBounds (((Digits.constructed size).setNumber n).flipTo m) := by
    intro n m
    have hfirst : InBounds (Digits.constructed size) := ⟨hsize, frameRange_first⟩
    have hset : InBounds ((Digits.constructed size).setNumber n) :=
      hfirst.step (show Delivered (.setNumber n) from trivial)
    exact hset.step (show Delivered (.flipTo m) from trivial)
  exact ⟨hwidget t.hour t'.hour, hwidget t.minute t'.minute⟩

/-- A widget that draws what it should. -/
structure Drawn (d : Digits) : Prop where
  inMotion : InMotion d
  lettered : ∃ picture, d.pixmap = some picture ∧
    Lettered d (drawDigits picture.number picture.size)
  /-- The frame is proper, so that it clips the pictures of a slide. -/
  framed : d.frame.proper = true
  /-- From eight columns on there is room around it that no rotation draws on. -/
  roomy : 8 ≤ d.size.width.toInt → Painter.Roomy d.size

theorem drawn_of_shown {d : Digits} (hbounds : InBounds d) (hshown : Shown d)
    (hheight : d.size.height.toInt = 6 * d.size.width.toInt / 5) : Drawn d := by
  obtain ⟨-, -, hframeWidth, hframeHeight⟩ := Painter.toInt_frame hbounds.size
  obtain ⟨⟨hnonneg, -⟩, -, hsmall⟩ := hbounds.size
  refine ⟨hbounds.inMotion hshown.consistent, ⟨_, hshown.pixmap_eq, hshown.lettered hbounds.size⟩,
    ?_, fun hwide => ⟨hwide, ?_, hsmall⟩⟩
  · simp only [Rect.proper, Bool.and_eq_true, decide_eq_true_eq]
    omega
  · omega

/-- **Every window of an allowed width draws its widgets as it should**, however
high it is and whatever happens in it, from its first resize on. -/
theorem screen_drawn {actions : List ScreenAction} {window : WindowSize} (initial : WindowSize)
    {size : Size} (t t' : QTime) (hsize : Allowed size)
    (hdelivered : ∀ action ∈ actions, ScreenDelivered action)
    (hmem : ScreenAction.resizeEvent window ∈ actions) :
    Drawn ((constructed initial size t t').run actions).clock.hour ∧
      Drawn ((constructed initial size t t').run actions).clock.minute := by
  have hlaidOut := LaidOut.of_resized (sound_constructed initial size t t') hmem
  have hbounded := (bounded_constructed initial hsize t t').run hdelivered
  have harranged := hlaidOut.arranged
  refine ⟨drawn_of_shown hbounded.hour hlaidOut.hour harranged.height,
    drawn_of_shown hbounded.minute hlaidOut.minute ?_⟩
  rw [← harranged.sameSize]
  exact harranged.height

/-- The window as `main` opens it, in the middle of a slide to the next
minute. -/
theorem screen_drawn_main :
    let noon : QTime := ⟨12, 0, 0, by decide, by decide, by decide⟩
    let later : QTime := ⟨12, 1, 0, by decide, by decide, by decide⟩
    let s := (constructed .main ⟨100, 30⟩ noon noon).run
      [.resizeEvent .main, .clock ⟨.timerEvent later, by simp⟩,
        .clock ⟨.minuteProgress (.tick 50), by simp⟩]
    s.clock.minute.meeting = 96 ∧ Drawn s.clock.hour ∧ Drawn s.clock.minute := by
  refine ⟨rfl, screen_drawn .main _ _ ⟨by decide, by decide⟩ ?_ List.mem_cons_self⟩
  intro action hmem
  simp only [List.mem_cons, List.not_mem_nil, or_false] at hmem
  rcases hmem with rfl | rfl | rfl
  · show WindowSize.main.width.toInt < 2 ^ 24
    decide
  · trivial
  · exact ⟨by decide, by decide⟩

end Screen
end Clock
end DigmaE605
