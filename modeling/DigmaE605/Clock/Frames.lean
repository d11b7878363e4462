import DigmaE605.Clock.Canvas
import DigmaE605.Clock.DigiFlip

/-!
# From the readings to the screen

What the widgets make of the times that the window reads, over whole runs:

* `animations_started`: an animation is started for every change of the number
  read, and for nothing else, and only its own frames move it on.
* `frames_show_readings`: whatever is drawn shows the number read last, or, while
  an animation runs, the number before its latest change.
* `window_atRest`: when a widget has come to rest, the screen shows the time
  that was read last.

All three look at a widget through `widgetRun`, its own actions in a run of the
window, of which `widgetActions_split` singles out the one that matters.
-/

namespace DigmaE605
namespace Clock
namespace DigiFlip

open Digits

variable {w : DigiFlip} {actions : List WindowAction}

/-! ## The animations -/

/-- How many animations a sequence of actions of a widget starts. -/
def countStarts : Digits → List Action → ℕ
  | _, [] => 0
  | d, action :: actions => (d.starts action).toNat + countStarts (d.step action) actions

/-- How often a sequence of numbers changes, from a first one on. -/
def changes : Int32 → List Int32 → ℕ
  | _, [] => 0
  | n, m :: numbers => (n != m).toNat + changes m numbers

theorem countStarts_append (d : Digits) (actions later : List Action) :
    countStarts d (actions ++ later) = countStarts d actions + countStarts (d.run actions) later := by
  induction actions generalizing d with
  | nil => simp [countStarts, Digits.run]
  | cons action actions ih =>
      rw [List.cons_append, countStarts, countStarts, ih, Digits.run_cons]
      omega

/-- Only `flipTo` starts an animation. -/
theorem starts_eq_false {action : Action} (hother : ∀ n, action ≠ .flipTo n) (d : Digits) :
    d.starts action = false := by
  cases action with
  | flipTo n => exact absurd rfl (hother n)
  | _ => rfl

theorem countStarts_eq_zero {actions : List Action} (hother : ∀ n, Action.flipTo n ∉ actions)
    (d : Digits) : countStarts d actions = 0 := by
  induction actions generalizing d with
  | nil => rfl
  | cons action actions ih =>
      have hstarts : d.starts action = false :=
        starts_eq_false (fun n h => hother n (h ▸ List.mem_cons_self)) d
      rw [countStarts, hstarts, ih fun n hmem => hother n (List.mem_cons_of_mem _ hmem)]
      rfl

/-- The actions of a widget in order: the transition set, the flip to the number
read, the resize, and its own progress. -/
theorem widgetActions_eq (w : DigiFlip) (number : QTime → Int32)
    (own : WindowAction → Option Progress) (action : WindowAction) :
    ∃ resizes : List Action, (resizes = [] ∨ ∃ digits, resizes = [.resize digits]) ∧
      w.widgetActions number own action =
        ((w.sets action).map Action.setTransition).toList ++
          ((action.reads.map fun t => Action.flipTo (number t)).toList ++
            (resizes ++ ((own action).map Progress.action).toList)) := by
  cases action with
  | resizeEvent digits => exact ⟨_, .inr ⟨digits, rfl⟩, by simp [DigiFlip.widgetActions]⟩
  | _ => exact ⟨_, .inl rfl, by simp [DigiFlip.widgetActions]⟩

/-- Among the actions of a widget, the flip to the number read comes after others
that leave its picture alone, and no other flip does. -/
theorem widgetActions_split (w : DigiFlip) (number : QTime → Int32)
    (own : WindowAction → Option Progress) (action : WindowAction) :
    ∃ earlier later : List Action,
      w.widgetActions number own action =
          earlier ++ ((action.reads.map fun t => Action.flipTo (number t)).toList ++ later) ∧
        (∀ n, Action.flipTo n ∉ earlier) ∧ (∀ n, Action.flipTo n ∉ later) ∧
        ∀ d : Digits, SamePicture d (d.run earlier) := by
  obtain ⟨resizes, hresizes, hactions⟩ := w.widgetActions_eq number own action
  refine ⟨_, _, hactions, ?_, ?_, ?_⟩
  · intro n
    cases w.sets action <;> simp
  · intro n hmem
    rcases List.mem_append.mp hmem with hresize | hown
    · rcases hresizes with rfl | ⟨digits, rfl⟩
      · exact absurd hresize List.not_mem_nil
      · simp at hresize
    · obtain ⟨progress, -, hprogress⟩ : ∃ progress, own action = some progress ∧
          progress.action = Action.flipTo n := by simpa using hown
      cases progress <;> simp [Progress.action] at hprogress
  · intro d
    cases w.sets action <;> exact ⟨rfl, rfl, rfl⟩

/-- An action of the window starts the animation of a widget if it reads another
number. -/
theorem countStarts_widgetActions (d : Digits) (w : DigiFlip) (number : QTime → Int32)
    (own : WindowAction → Option Progress) (action : WindowAction) :
    countStarts d (w.widgetActions number own action) =
      changes d.number (action.reads.map number).toList := by
  obtain ⟨earlier, later, hsplit, hearlier, hlater, hsame⟩ :=
    w.widgetActions_split number own action
  rw [hsplit, countStarts_append, countStarts_append, countStarts_eq_zero hearlier,
    countStarts_eq_zero hlater, Nat.zero_add, Nat.add_zero]
  cases action.reads with
  | none => rfl
  | some t => simp [countStarts, starts, changes, (hsame d).number]

/-- The animations of one widget, over a run of the window. -/
theorem countStarts_widgetRun {number : QTime → Int32} {own : WindowAction → Option Progress}
    (widget : DigiFlip → Digits)
    (hstep : ∀ w action, widget (w.step action) =
      (widget w).run (w.widgetActions number own action))
    (hshows : ∀ w t, Shows w t → (widget w).number = number t) {t : QTime} (h : Shows w t)
    (actions : List WindowAction) :
    countStarts (widget w) (widgetRun number own w actions) =
      changes (number t) ((actions.filterMap WindowAction.reads).map number) := by
  -- The induction carries the time that the widgets show.
  induction actions generalizing w t with
  | nil => rfl
  | cons action actions ih =>
      rw [widgetRun, countStarts_append, ← hstep, ih (h.step action), countStarts_widgetActions,
        hshows w t h]
      cases hreads : action.reads with
      | none => simp [hreads, changes]
      | some t' => simp [hreads, changes]

/-- The timeline of a widget that shows `n`, after a reading: another number starts
it over. -/
def restarted (n : Int32) (line : TimeLine) : Option Int32 → TimeLine
  | some m => if n ≠ m then started else line
  | none => line

/-- The same after what Qt does to the widget. -/
def moved (line : TimeLine) : Option Progress → TimeLine
  | some progress => progressed line progress.action
  | none => line

/-- What the actions of the window make of the timeline of a widget that shows
`n`. -/
def played (number : QTime → Int32) (own : WindowAction → Option Progress) :
    Int32 → TimeLine → List WindowAction → TimeLine
  | _, line, [] => line
  | n, line, action :: actions =>
      played number own ((action.reads.map number).getD n)
        (moved (restarted n line (action.reads.map number)) (own action)) actions

theorem flipTo_animator (d : Digits) (n : Int32) :
    (d.flipTo n).animator = restarted d.number d.animator (some n) := by
  by_cases hnumber : d.number ≠ n
  · have hstarts : d.starts (.flipTo n) = true := by simpa [starts] using hnumber
    rw [restarted, if_pos hnumber]
    exact (step_of_starts hstarts).2
  · rw [restarted, if_neg hnumber, Digits.flipTo, if_neg hnumber]

theorem progress_animator (d : Digits) (progress : Progress) :
    (d.step progress.action).animator = progressed d.animator progress.action := by
  have hstarts : d.starts progress.action = false := by cases progress <;> rfl
  exact (step_of_not_starts hstarts).2

/-- One action of the window, as the timeline of a widget sees it. -/
theorem animator_widgetActions (d : Digits) (w : DigiFlip) (number : QTime → Int32)
    (own : WindowAction → Option Progress) (action : WindowAction) :
    (d.run (w.widgetActions number own action)).animator =
      moved (restarted d.number d.animator (action.reads.map number)) (own action) := by
  obtain ⟨resizes, hresizes, hactions⟩ := w.widgetActions_eq number own action
  have hset : ∀ tr : Option Int32, d.run (tr.map Action.setTransition).toList =
      { d with transition := tr.getD d.transition } := by
    intro tr
    cases tr <;> rfl
  have hflip : ∀ (d : Digits) (t : Option QTime),
      (d.run (t.map fun t => Action.flipTo (number t)).toList).animator =
        restarted d.number d.animator (t.map number) := by
    intro d t
    cases t with
    | none => rfl
    | some t => exact flipTo_animator d (number t)
  have hresize : ∀ d : Digits, (d.run resizes).animator = d.animator := by
    intro d
    rcases hresizes with rfl | ⟨digits, rfl⟩
    · rfl
    · rfl
  have hown : ∀ (d : Digits) (progress : Option Progress),
      (d.run (progress.map Progress.action).toList).animator = moved d.animator progress := by
    intro d progress
    cases progress with
    | none => rfl
    | some progress => exact progress_animator d progress
  rw [hactions, run_append, run_append, run_append, hown, hresize, hflip, hset]

/-- The timeline of one widget, over a run of the window. -/
theorem animator_widgetRun {number : QTime → Int32} {own : WindowAction → Option Progress}
    (widget : DigiFlip → Digits)
    (hstep : ∀ w action, widget (w.step action) =
      (widget w).run (w.widgetActions number own action))
    (hshows : ∀ w t, Shows w t → (widget w).number = number t) {t : QTime} (h : Shows w t)
    (actions : List WindowAction) :
    (widget (w.run actions)).animator =
      played number own (number t) (widget w).animator actions := by
  induction actions generalizing w t with
  | nil => rfl
  | cons action actions ih =>
      have hnext : (action.reads.map number).getD (number t) = number (action.reads.getD t) := by
        cases action.reads <;> rfl
      rw [played, hnext, ← hshows w t h, ← animator_widgetActions (widget w) w, ← hstep]
      exact ih (h.step action)

/-- The animations of a widget in a run of the window, from its construction on,
when the clock is read twice. -/
structure Animated (number : QTime → Int32) (own : WindowAction → Option Progress)
    (widget : DigiFlip → Digits) (size : Size) (t t' : QTime) (actions : List WindowAction) :
    Prop where
  /-- As many starts as changes. -/
  starts : countStarts (widget (constructed size t t'))
      (widgetRun number own (constructed size t t') actions) =
    changes (number t') ((actions.filterMap WindowAction.reads).map number)
  /-- A change starts the timeline over, and between two changes nothing but its
  own frames and its end move it. -/
  timeline : (widget ((constructed size t t').run actions)).animator =
    played number own (number t')
      (restarted (number t) { running := false, currentFrame := 0 } (some (number t'))) actions

theorem setNumber_number {d : Digits} {n : Int32} (hlower : 0 ≤ n) (hupper : n ≤ 99) :
    (d.setNumber n).number = n := by
  unfold setNumber
  split
  · exact qBound_eq hlower hupper
  · rename_i hsame
    exact not_not.mp hsame

/-- The constructor sets a number and flips to another one. -/
theorem animator_constructed (size : Size) {n : Int32} (hlower : 0 ≤ n) (hupper : n ≤ 99)
    (m : Int32) :
    (((Digits.constructed size).setNumber n).flipTo m).animator =
      restarted n { running := false, currentFrame := 0 } (some m) := by
  have hanimator : ((Digits.constructed size).setNumber n).animator =
      { running := false, currentFrame := 0 } := by
    unfold setNumber
    split <;> rfl
  rw [flipTo_animator, setNumber_number hlower hupper, hanimator]

/-- One widget, which the constructor leaves with the timeline of its own flip. -/
theorem animated {number : QTime → Int32} {own : WindowAction → Option Progress}
    (widget : DigiFlip → Digits)
    (hstep : ∀ w action, widget (w.step action) =
      (widget w).run (w.widgetActions number own action))
    (hshows : ∀ w t, Shows w t → (widget w).number = number t) {size : Size} {t t' : QTime}
    (hconstructed : (widget (constructed size t t')).animator =
      restarted (number t) { running := false, currentFrame := 0 } (some (number t')))
    (actions : List WindowAction) : Animated number own widget size t t' actions := by
  have hfirst := shows_constructed size t t'
  constructor
  · exact countStarts_widgetRun widget hstep hshows hfirst actions
  · rw [animator_widgetRun widget hstep hshows hfirst, hconstructed]

/-- **An animation for every change, and no other.**  In every run, the hour
widget is animated as often as the hour changes from one reading to the next,
whatever makes the window read: each change starts its timeline over, and nothing
else does more than move it on while it runs.  So is the minute widget. -/
theorem animations_started (size : Size) (t t' : QTime) (actions : List WindowAction) :
    Animated QTime.hour WindowAction.ofHour DigiFlip.hour size t t' actions ∧
      Animated QTime.minute WindowAction.ofMinute DigiFlip.minute size t t' actions := by
  have hhourUpper : t.hour ≤ 99 := Int32.le_trans t.hour_range.2 (by decide)
  have hminuteUpper : t.minute ≤ 99 := Int32.le_trans t.minute_range.2 (by decide)
  constructor
  · refine animated DigiFlip.hour step_hour (fun _ _ h => h.1) ?_ actions
    exact animator_constructed size t.hour_range.1 hhourUpper t'.hour
  · refine animated DigiFlip.minute step_minute (fun _ _ h => h.2) ?_ actions
    exact animator_constructed size t.minute_range.1 hminuteUpper t'.minute

/-! ## The frames -/

/-- The number before the latest change of a sequence of numbers, from a first
one on. -/
def previous : Option Int32 → Int32 → List Int32 → Option Int32
  | last, _, [] => last
  | last, n, m :: numbers => previous (if n ≠ m then some n else last) m numbers

/-- The last picture, if there is one, shows the number `last`. -/
def Recalls (d : Digits) (last : Option Int32) : Prop :=
  ∀ picture, d.lastPixmap = some picture → last = some picture.number

theorem run_lastPixmap {actions : List Action} (hother : ∀ n, Action.flipTo n ∉ actions)
    (d : Digits) : (d.run actions).lastPixmap = d.lastPixmap := by
  induction actions generalizing d with
  | nil => rfl
  | cons action actions ih =>
      have hstarts : d.starts action = false :=
        starts_eq_false (fun n h => hother n (h ▸ List.mem_cons_self)) d
      rw [run_cons, ih fun n hmem => hother n (List.mem_cons_of_mem _ hmem)]
      exact (step_of_not_starts hstarts).1

/-- A flip to another number keeps the picture that was shown. -/
theorem Recalls.flipTo {d : Digits} {last : Option Int32} (h : Recalls d last)
    (hconsistent : Consistent d) (n : Int32) :
    Recalls (d.step (.flipTo n)) (if d.number ≠ n then some d.number else last) := by
  intro picture hpicture
  by_cases hnumber : d.number ≠ n
  · -- The picture that becomes the last one shows the number until now.
    have hstarts : d.starts (.flipTo n) = true := by simpa [starts] using hnumber
    rw [(step_of_starts hstarts).1] at hpicture
    rw [if_pos hnumber]
    rcases hconsistent.pixmap_eq with hnone | hsome
    · exact absurd (hnone.symm.trans hpicture) (by simp)
    · rw [← Option.some.inj (hsome.symm.trans hpicture)]
  · have hsame : d.step (.flipTo n) = d := if_neg hnumber
    rw [hsame] at hpicture
    rw [if_neg hnumber]
    exact h picture hpicture

theorem Recalls.widgetActions {d : Digits} {last : Option Int32} (h : Recalls d last)
    (hconsistent : Consistent d) (w : DigiFlip) (number : QTime → Int32)
    (own : WindowAction → Option Progress) (action : WindowAction) :
    Recalls (d.run (w.widgetActions number own action))
      (previous last d.number (action.reads.map number).toList) := by
  obtain ⟨earlier, later, hsplit, hearlier, hlater, hsame⟩ :=
    w.widgetActions_split number own action
  -- Neither side of the flip touches the last picture.
  have hrecalls : Recalls (d.run earlier) last := by
    intro picture hpicture
    rw [run_lastPixmap hearlier] at hpicture
    exact h picture hpicture
  intro picture hpicture
  rw [hsplit, run_append, run_append, run_lastPixmap hlater] at hpicture
  cases hreads : action.reads with
  | none =>
      rw [hreads] at hpicture
      exact hrecalls picture hpicture
  | some t =>
      rw [hreads] at hpicture
      have hflip := hrecalls.flipTo (hconsistent.run earlier) (number t)
      rw [(hsame d).number] at hflip
      exact hflip picture hpicture

/-- The last picture of one widget, over a run of the window. -/
theorem recalls_run {number : QTime → Int32} {own : WindowAction → Option Progress}
    (widget : DigiFlip → Digits)
    (hstep : ∀ w action, widget (w.step action) =
      (widget w).run (w.widgetActions number own action))
    (hshows : ∀ w t, Shows w t → (widget w).number = number t) {t : QTime} (h : Shows w t)
    (hconsistent : Consistent (widget w)) {last : Option Int32} (hrecalls : Recalls (widget w) last)
    (actions : List WindowAction) :
    Recalls (widget (w.run actions))
      (previous last (number t) ((actions.filterMap WindowAction.reads).map number)) := by
  induction actions generalizing w t last with
  | nil => exact hrecalls
  | cons action actions ih =>
      have hnext := hrecalls.widgetActions hconsistent w number own action
      rw [← hstep, hshows w t h] at hnext
      have hrun := ih (h.step action) (by rw [hstep]; exact hconsistent.run _) hnext
      show Recalls (widget ((w.step action).run actions)) _
      cases hreads : action.reads with
      | none => simpa [hreads, previous] using hrun
      | some t' => simpa [hreads, previous] using hrun

/-- Each picture of a paint event shows `n` at the size of the widget, or, while
an animation runs, the number `last`. -/
def FramesShow (d : Digits) (n : Int32) (last : Option Int32) : Prop :=
  ∀ stroke ∈ d.paintEvent, ∀ picture, stroke.pixmap = some picture →
    (picture.number = n ∧ picture.size = d.size) ∨
      (d.animator.running = true ∧ last = some picture.number)

theorem framesShow_of_recalls {d : Digits} {last : Option Int32} (hconsistent : Consistent d)
    (hrecalls : Recalls d last) : FramesShow d d.number last := by
  intro stroke hstroke picture hpicture
  rcases paintEvent_pictures d stroke hstroke with hcurrent | ⟨hrunning, hlast⟩
  · refine .inl ?_
    rcases hconsistent.pixmap_eq with hnone | hsome
    · exact absurd (hnone.symm.trans (hcurrent.symm.trans hpicture)) (by simp)
    · rw [← Option.some.inj (hsome.symm.trans (hcurrent.symm.trans hpicture))]
      exact ⟨rfl, rfl⟩
  · exact .inr ⟨hrunning, hrecalls picture (hlast.symm.trans hpicture)⟩

/-- The constructor of the window sets a number and flips to another one. -/
theorem recalls_constructed (size : Size) {n : Int32} (hlower : 0 ≤ n) (hupper : n ≤ 99)
    (m : Int32) :
    Recalls (((Digits.constructed size).setNumber n).flipTo m)
      (if n ≠ m then some n else none) := by
  have hconsistent : Consistent ((Digits.constructed size).setNumber n) :=
    (consistent_constructed size).step (.setNumber n)
  -- There is no last picture before the first flip.
  have hblank : Recalls ((Digits.constructed size).setNumber n) none := by
    intro picture hpicture
    have hnone : ((Digits.constructed size).setNumber n).lastPixmap = none :=
      run_lastPixmap (fun m => by simp : ∀ m, Action.flipTo m ∉ [Action.setNumber n])
        (Digits.constructed size)
    exact absurd (hnone.symm.trans hpicture) (by simp)
  have hflip := hblank.flipTo hconsistent m
  rwa [setNumber_number hlower hupper] at hflip

/-- **Nothing but readings is drawn.**  In every run, each picture that a paint
event of a widget draws shows the number read last, at the size of the widget,
or, while an animation runs, the number that was read before its latest
change. -/
theorem frames_show_readings (size : Size) (t t' : QTime) (actions : List WindowAction) :
    FramesShow ((constructed size t t').run actions).hour (lastRead t' actions).hour
        (previous none t.hour ((t' :: actions.filterMap WindowAction.reads).map QTime.hour)) ∧
      FramesShow ((constructed size t t').run actions).minute (lastRead t' actions).minute
        (previous none t.minute
          ((t' :: actions.filterMap WindowAction.reads).map QTime.minute)) := by
  have hhourUpper : t.hour ≤ 99 := Int32.le_trans t.hour_range.2 (by decide)
  have hminuteUpper : t.minute ≤ 99 := Int32.le_trans t.minute_range.2 (by decide)
  obtain ⟨hhour, hminute⟩ := constructed_consistent size t t'
  obtain ⟨hhourNumber, hminuteNumber⟩ := (shows_constructed size t t').run actions
  have hhourRun : Consistent ((constructed size t t').run actions).hour := by
    rw [run_hour]
    exact hhour.run _
  have hminuteRun : Consistent ((constructed size t t').run actions).minute := by
    rw [run_minute]
    exact hminute.run _
  rw [← hhourNumber, ← hminuteNumber]
  constructor
  · refine framesShow_of_recalls hhourRun ?_
    exact recalls_run DigiFlip.hour step_hour (fun _ _ h => h.1) (shows_constructed size t t')
      hhour (recalls_constructed size t.hour_range.1 hhourUpper t'.hour) actions
  · refine framesShow_of_recalls hminuteRun ?_
    exact recalls_run DigiFlip.minute step_minute (fun _ _ h => h.2) (shows_constructed size t t')
      hminute (recalls_constructed size t.minute_range.1 hminuteUpper t'.minute)
      actions

/-! ## The screen -/

/-- A widget that shows a number at a size, and is at rest. -/
def still (n : Int32) (size : Size) : Digits :=
  { Digits.constructed size with number := n, pixmap := some { number := n, size := size } }

/-- Each pixel of the widget is as the still widget draws a number on anything at
all. -/
def ShowsOnScreen {κ : Type} (raster : Painter.Raster κ) (d : Digits) (n : Int32)
    (screen : Pixel → κ) : Prop :=
  ∀ px, d.rect.contains px = true → ∀ shade,
    screen px = raster.draw .fresh (Painter.paintStatic (still n d.size)) px shade

theorem showsOnScreen_of_atRest {κ : Type} {raster : Painter.Raster κ} {d : Digits}
    {screen : Pixel → κ} (hrest : Painter.Raster.AtRest raster d screen) (hshown : Shown d) :
    ShowsOnScreen raster d d.number screen := by
  have hsame : SamePicture d (still d.number d.size) := ⟨rfl, hshown.pixmap_eq.symm, rfl⟩
  exact hrest.of_samePicture hsame

/-- A widget has come to rest: no update is pending, and no animation runs. -/
def Rests (d : Digits) : Prop := d.updatePending = false ∧ d.animator.running = false

/-- What is on the screen of a widget that rests, at the end of a run. -/
theorem showsOnScreen_of_rests {κ : Type} (raster : Painter.Raster κ) {d : Digits}
    {actions : List Action} (h : Consistent d) (hresized : Resized actions)
    (hrests : Rests (d.run actions)) (screen : Pixel → κ) :
    ShowsOnScreen raster (d.run actions) (d.run actions).number
      (raster.onScreen d screen actions) :=
  showsOnScreen_of_atRest
    (Painter.Raster.onScreen_settled raster d screen hresized hrests.1 hrests.2)
    (h.shown_of_resized hresized)

/-- **The screen shows the time that was read last.**  Once the window has been
resized, each of its widgets that has come to rest shows the number of the last
reading in all of its pixels, whatever the screen showed when it started. -/
theorem window_atRest {κ : Type} (raster : Painter.Raster κ) (size : Size) (t t' : QTime)
    (screen screen' : Pixel → κ) {digits : Size}
    (hresized : WindowAction.resizeEvent digits ∈ actions) :
    (Rests ((constructed size t t').run actions).hour →
        ShowsOnScreen raster ((constructed size t t').run actions).hour
          (lastRead t' actions).hour
          (raster.onScreen (constructed size t t').hour screen
            (widgetRun QTime.hour WindowAction.ofHour (constructed size t t') actions))) ∧
      (Rests ((constructed size t t').run actions).minute →
        ShowsOnScreen raster ((constructed size t t').run actions).minute
          (lastRead t' actions).minute
          (raster.onScreen (constructed size t t').minute screen'
            (widgetRun QTime.minute WindowAction.ofMinute (constructed size t t') actions))) := by
  obtain ⟨hhour, hminute⟩ := constructed_consistent size t t'
  obtain ⟨hhourNumber, hminuteNumber⟩ := (shows_constructed size t t').run actions
  rw [← hhourNumber, ← hminuteNumber, run_hour, run_minute]
  exact ⟨fun hrests => showsOnScreen_of_rests raster hhour
      ⟨digits, resize_mem_widgetRun hresized⟩ hrests screen,
    fun hrests => showsOnScreen_of_rests raster hminute
      ⟨digits, resize_mem_widgetRun hresized⟩ hrests screen'⟩

/-- A minute later, with a flip that is watched to its end, on a screen that was
gray. -/
theorem window_atRest_flipped :
    let noon : QTime := ⟨12, 0, 0, by decide, by decide, by decide⟩
    let later : QTime := ⟨12, 1, 0, by decide, by decide, by decide⟩
    let w := constructed ⟨100, 30⟩ noon noon
    let actions : List WindowAction :=
      [.resizeEvent ⟨160, 192⟩, .chooseFlip noon, .timerEvent later, .minuteProgress (.tick 30),
        .minuteProgress .paint, .minuteProgress .finish, .minuteProgress .paint]
    ShowsOnScreen Painter.Raster.plain (w.run actions).minute 1
      (Painter.Raster.plain.onScreen w.minute (fun _ => 77)
        (widgetRun QTime.minute WindowAction.ofMinute w actions)) :=
  (window_atRest Painter.Raster.plain ⟨100, 30⟩ _ _ (fun _ => 77) (fun _ => 77)
    List.mem_cons_self).2 ⟨rfl, rfl⟩

end DigiFlip
end Clock
end DigmaE605
