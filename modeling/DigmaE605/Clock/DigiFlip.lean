import DigmaE605.Clock.Painting

/-!
# The `DigiFlip` window of `firstapp.cpp`

Two `Digits` widgets, one for the hour and one for the minute, that a timer, the
keys and the menu drive.  Every action that reads the clock flips both widgets
to the time it read.

* `step_hour` and `step_minute` project an action of the window to actions of
  the two widgets, and `run_hour` and `run_minute` do so for whole runs, so that
  what is known of a widget holds inside the window.
* `widgets_shown`: after a resize both widgets are rendered at their sizes.
* `paintEvent_ne_nil`: with one of the three transitions there are, no paint event
  is blank.
* `shows_time`: the widgets show the time that the window read last.
-/

namespace DigmaE605
namespace Clock

open Digits

/-- A time of day, as `QTime::currentTime` returns it. -/
structure QTime where
  hour : Int32
  minute : Int32
  second : Int32
  hour_range : 0 ≤ hour ∧ hour ≤ 23
  minute_range : 0 ≤ minute ∧ minute ≤ 59
  second_range : 0 ≤ second ∧ second ≤ 59

/-- Two decimal digits. -/
def twoDigits (n : Int32) : String :=
  (if n < 10 then "0" else "") ++ toString n.toInt

/-- `QTime::toString("hh:mm:ss")` -/
def QTime.text (t : QTime) : String :=
  twoDigits t.hour ++ ":" ++ twoDigits t.minute ++ ":" ++ twoDigits t.second

/-- The keys that the window tells apart. -/
inductive Key
  | right
  | left
  | other
  deriving DecidableEq, Repr

/-- The members of the window, with its title. -/
structure DigiFlip where
  hour : Digits
  minute : Digits
  title : String

namespace DigiFlip

/-- The name of a transition in the title, as the three tests of the source
put it together. -/
def transitionName (tr : Int32) : String :=
  (if tr = rotate then "Rotate" else "") ++ (if tr = flip then "Flip" else "") ++
    (if tr = slide then "Slide" else "")

/-- `updateTime`, at the time it reads. -/
def updateTime (w : DigiFlip) (t : QTime) : DigiFlip where
  hour := w.hour.flipTo t.hour
  minute := w.minute.flipTo t.minute
  title := transitionName (w.hour.flipTo t.hour).transition ++ (": " ++ t.text)

/-- The transition of both widgets is set, and the time shown. -/
def setTransitions (w : DigiFlip) (i : Int32) (t : QTime) : DigiFlip :=
  ({ w with hour := w.hour.setTransition i, minute := w.minute.setTransition i }).updateTime t

/-- The transition `delta` places further. -/
def nextTransition (w : DigiFlip) (delta : Int32) : Int32 :=
  (w.hour.transition + delta + 3) % 3

/-- `switchTransition` -/
def switchTransition (w : DigiFlip) (delta : Int32) (t : QTime) : DigiFlip :=
  w.setTransitions (w.nextTransition delta) t

/-- `chooseSlide` -/
def chooseSlide (w : DigiFlip) (t : QTime) : DigiFlip := w.setTransitions 0 t

/-- `chooseFlip` -/
def chooseFlip (w : DigiFlip) (t : QTime) : DigiFlip := w.setTransitions 1 t

/-- `chooseRotate` -/
def chooseRotate (w : DigiFlip) (t : QTime) : DigiFlip := w.setTransitions 2 t

/-- `keyPressEvent` -/
def keyPressEvent (w : DigiFlip) (key : Key) (t : QTime) : DigiFlip :=
  match key with
  | .right => w.switchTransition 1 t
  | .left => w.switchTransition (-1) t
  | .other => w

/-- The constructor: both widgets have the size `size` that Qt gives them, the
clock is read for `setNumber`, and once more by `updateTime`. -/
def constructed (size : Size) (t t' : QTime) : DigiFlip :=
  ({ hour := (Digits.constructed size).setNumber t.hour
     minute := (Digits.constructed size).setNumber t.minute
     title := "" } : DigiFlip).updateTime t'

/-- What Qt does to one of the widgets. -/
inductive Progress
  | tick (frame : Int32)
  | finish
  | paint
  deriving DecidableEq, Repr

/-- The same, as an action of the widget. -/
def Progress.action : Progress → Action
  | tick frame => .tick frame
  | finish => .finish
  | paint => .paint

/-- What happens to the window.  A resize comes with the size that the layout
gives to both widgets. -/
inductive WindowAction
  | timerEvent (t : QTime)
  | keyPressEvent (key : Key) (t : QTime)
  | chooseSlide (t : QTime)
  | chooseFlip (t : QTime)
  | chooseRotate (t : QTime)
  | resizeEvent (digits : Size)
  | hourProgress (progress : Progress)
  | minuteProgress (progress : Progress)

/-- What an action does. -/
def step (w : DigiFlip) : WindowAction → DigiFlip
  | .timerEvent t => w.updateTime t
  | .keyPressEvent key t => w.keyPressEvent key t
  | .chooseSlide t => w.chooseSlide t
  | .chooseFlip t => w.chooseFlip t
  | .chooseRotate t => w.chooseRotate t
  | .resizeEvent digits =>
      { w with hour := w.hour.step (.resize digits), minute := w.minute.step (.resize digits) }
  | .hourProgress progress => { w with hour := w.hour.step progress.action }
  | .minuteProgress progress => { w with minute := w.minute.step progress.action }

/-- What a sequence of actions does. -/
def run (w : DigiFlip) (actions : List WindowAction) : DigiFlip := actions.foldl step w

variable {w : DigiFlip} {actions : List WindowAction}

/-! ## The widgets inside the window -/

/-- The time an action reads, if it reads the clock. -/
def WindowAction.reads : WindowAction → Option QTime
  | timerEvent t => some t
  | keyPressEvent .other _ => none
  | keyPressEvent _ t => some t
  | chooseSlide t => some t
  | chooseFlip t => some t
  | chooseRotate t => some t
  | _ => none

/-- The transition an action sets, if it sets one. -/
def sets (w : DigiFlip) : WindowAction → Option Int32
  | .keyPressEvent .right _ => some (w.nextTransition 1)
  | .keyPressEvent .left _ => some (w.nextTransition (-1))
  | .chooseSlide _ => some slide
  | .chooseFlip _ => some flip
  | .chooseRotate _ => some rotate
  | _ => none

/-- The actions of one widget: the transition set, the number flipped to, and
what Qt does to the widget itself. -/
def widgetActions (w : DigiFlip) (number : QTime → Int32) (own : WindowAction → Option Progress)
    (action : WindowAction) : List Action :=
  ((w.sets action).map Action.setTransition).toList ++
    (action.reads.map fun t => Action.flipTo (number t)).toList ++
    (match action with | .resizeEvent digits => [Action.resize digits] | _ => []) ++
    ((own action).map Progress.action).toList

/-- What Qt does to the hour widget. -/
def WindowAction.ofHour : WindowAction → Option Progress
  | hourProgress progress => some progress
  | _ => none

/-- What Qt does to the minute widget. -/
def WindowAction.ofMinute : WindowAction → Option Progress
  | minuteProgress progress => some progress
  | _ => none

theorem step_hour (w : DigiFlip) (action : WindowAction) :
    (w.step action).hour =
      w.hour.run (w.widgetActions QTime.hour WindowAction.ofHour action) := by
  cases action with
  | keyPressEvent key t => cases key <;> rfl
  | _ => rfl

theorem step_minute (w : DigiFlip) (action : WindowAction) :
    (w.step action).minute =
      w.minute.run (w.widgetActions QTime.minute WindowAction.ofMinute action) := by
  cases action with
  | keyPressEvent key t => cases key <;> rfl
  | _ => rfl

/-- The actions of one widget over a run of the window. -/
def widgetRun (number : QTime → Int32) (own : WindowAction → Option Progress) :
    DigiFlip → List WindowAction → List Action
  | _, [] => []
  | w, action :: actions =>
      w.widgetActions number own action ++ widgetRun number own (w.step action) actions

/-- Inside the window the hour is a `Digits` widget under its own actions. -/
theorem run_hour (w : DigiFlip) (actions : List WindowAction) :
    (w.run actions).hour =
      w.hour.run (widgetRun QTime.hour WindowAction.ofHour w actions) := by
  induction actions generalizing w with
  | nil => rfl
  | cons action actions ih =>
      rw [widgetRun, Digits.run_append, ← step_hour]
      exact ih (w.step action)

/-- So is the minute. -/
theorem run_minute (w : DigiFlip) (actions : List WindowAction) :
    (w.run actions).minute =
      w.minute.run (widgetRun QTime.minute WindowAction.ofMinute w actions) := by
  induction actions generalizing w with
  | nil => rfl
  | cons action actions ih =>
      rw [widgetRun, Digits.run_append, ← step_minute]
      exact ih (w.step action)

/-- A resize of the window resizes both widgets. -/
theorem resize_mem_widgetRun {number : QTime → Int32} {own : WindowAction → Option Progress}
    {digits : Size} (hmem : WindowAction.resizeEvent digits ∈ actions) :
    Action.resize digits ∈ widgetRun number own w actions := by
  induction actions generalizing w with
  | nil => exact absurd hmem List.not_mem_nil
  | cons action actions ih =>
      rw [widgetRun, List.mem_append]
      rcases List.mem_cons.mp hmem with rfl | hrest
      · exact .inl (by simp [widgetActions])
      · exact .inr (ih hrest)

theorem constructed_consistent (size : Size) (t t' : QTime) :
    Consistent (constructed size t t').hour ∧ Consistent (constructed size t t').minute :=
  ⟨(consistent_constructed size).run [.setNumber t.hour, .flipTo t'.hour],
    (consistent_constructed size).run [.setNumber t.minute, .flipTo t'.minute]⟩

/-- **Both widgets are rendered.**  Once the window has been resized, both
widgets show their numbers at their sizes. -/
theorem widgets_shown {digits : Size} (size : Size) (t t' : QTime)
    (hresized : WindowAction.resizeEvent digits ∈ actions) :
    Shown ((constructed size t t').run actions).hour ∧
      Shown ((constructed size t t').run actions).minute := by
  obtain ⟨hhour, hminute⟩ := constructed_consistent size t t'
  constructor
  · rw [run_hour]
    exact hhour.shown_of_resized ⟨digits, resize_mem_widgetRun hresized⟩
  · rw [run_minute]
    exact hminute.shown_of_resized ⟨digits, resize_mem_widgetRun hresized⟩

/-! ## The transitions -/

/-- One of the three transitions. -/
def Known (tr : Int32) : Prop := tr = slide ∨ tr = flip ∨ tr = rotate

@[simp] theorem flipTo_transition (d : Digits) (n : Int32) :
    (d.flipTo n).transition = d.transition := by
  unfold flipTo
  split <;> rfl

@[simp] theorem setNumber_transition (d : Digits) (n : Int32) :
    (d.setNumber n).transition = d.transition := by
  unfold setNumber
  split <;> rfl

@[simp] theorem progress_transition (d : Digits) (progress : Progress) :
    (d.step progress.action).transition = d.transition := by
  cases progress with
  | paint => rfl
  | _ => cases hrunning : d.animator.running <;> simp [Digits.step, Progress.action, hrunning, update]

/-- With one of the three transitions no frame of an animation is blank. -/
theorem paintEvent_ne_nil {d : Digits} (hknown : Known d.transition) : d.paintEvent ≠ [] := by
  unfold paintEvent
  split
  · rcases hknown with h | h | h
    · simp [h, paintSlide]
    · simp [h, paintFlip]
    · simp [h, paintRotate]
  · simp [paintStatic]

/-! ## The time -/

/-- A number from 0 to 99 is within its bounds. -/
theorem qBound_eq {n : Int32} (hlower : 0 ≤ n) (hupper : n ≤ 99) : qBound 0 n 99 = n := by
  have hzero : (0 : Int32).toInt = 0 := rfl
  have htop : (99 : Int32).toInt = 99 := rfl
  rw [Int32.le_iff_toInt_le] at hlower hupper
  rw [← Int32.toInt_inj, qBound, toInt_qMax, toInt_qMin]
  omega

theorem flipTo_number {d : Digits} {n : Int32} (hlower : 0 ≤ n) (hupper : n ≤ 99) :
    (d.flipTo n).number = n := by
  unfold flipTo
  split
  · exact qBound_eq hlower hupper
  · rename_i hsame
    exact not_not.mp hsame

/-- The time the window read last. -/
def lastRead (t : QTime) (actions : List WindowAction) : QTime :=
  actions.foldl (fun last action => action.reads.getD last) t

/-- The window shows a time. -/
def Shows (w : DigiFlip) (t : QTime) : Prop :=
  w.hour.number = t.hour ∧ w.minute.number = t.minute

theorem updateTime_shows (w : DigiFlip) (t : QTime) : Shows (w.updateTime t) t := by
  have hhour : t.hour ≤ 99 := Int32.le_trans t.hour_range.2 (by decide)
  have hminute : t.minute ≤ 99 := Int32.le_trans t.minute_range.2 (by decide)
  exact ⟨flipTo_number t.hour_range.1 hhour, flipTo_number t.minute_range.1 hminute⟩

@[simp] theorem progress_number (d : Digits) (progress : Progress) :
    (d.step progress.action).number = d.number := by
  cases progress with
  | paint => rfl
  | _ => cases hrunning : d.animator.running <;> simp [Digits.step, Progress.action, hrunning, update]

/-- An action shows the time it reads, or leaves the time shown. -/
theorem Shows.step {t : QTime} (h : Shows w t) (action : WindowAction) :
    Shows (w.step action) (action.reads.getD t) := by
  cases action with
  | timerEvent t => exact updateTime_shows _ t
  | keyPressEvent key t =>
      cases key with
      | right => exact updateTime_shows _ t
      | left => exact updateTime_shows _ t
      | other => exact h
  | chooseSlide t => exact updateTime_shows _ t
  | chooseFlip t => exact updateTime_shows _ t
  | chooseRotate t => exact updateTime_shows _ t
  | resizeEvent digits => exact h
  | hourProgress progress => exact ⟨(progress_number _ _).trans h.1, h.2⟩
  | minuteProgress progress => exact ⟨h.1, (progress_number _ _).trans h.2⟩

theorem Shows.run {t : QTime} (h : Shows w t) (actions : List WindowAction) :
    Shows (w.run actions) (lastRead t actions) := by
  induction actions generalizing w t with
  | nil => exact h
  | cons action actions ih => exact ih (h.step action)

theorem shows_constructed (size : Size) (t t' : QTime) : Shows (constructed size t t') t' :=
  updateTime_shows _ t'

/-- **The window shows the time it read last**, whatever transitions, resizes,
frames and paint events come in between. -/
theorem shows_time (size : Size) (t t' : QTime) (actions : List WindowAction) :
    Shows ((constructed size t t').run actions) (lastRead t' actions) :=
  (shows_constructed size t t').run actions

end DigiFlip
end Clock
end DigmaE605
