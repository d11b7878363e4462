import DigmaE605.Clock.Digits

/-!
# Whose pictures the widget animates

Once the widget has been resized, `m_number` lies in 0 to 99 and `m_pixmap`
shows it at the widget's size: `Shown`, which every action keeps.

The picture the animation comes from, `m_lastPixmap`, is another matter.  Only
`flipTo` assigns it, from the picture shown at that moment, while a resize
renders `m_pixmap` anew and leaves `m_lastPixmap` alone.  So a running animation
shows its old picture at the widget's size exactly when the widget still has the
size it had at the `flipTo` that started the animation.

`latestStart` finds that moment, `lastPixmap_eq` and `running_latestStart` tie
the members of the widget to it, and `animatesOwnPictures_iff` draws the
conclusion for whole sequences of actions.  A start also starts the timeline
over; any other action at most moves it on (`step_of_starts`,
`step_of_not_starts`).
-/

namespace DigmaE605
namespace Clock
namespace Digits

variable {d : Digits} {actions : List Action}

/-! ## The number and its picture -/

theorem toInt_qMin (a b : Int32) : (qMin a b).toInt = min a.toInt b.toInt := by
  by_cases hlt : a < b
  · have hint := Int32.lt_iff_toInt_lt.mp hlt
    rw [qMin, if_pos hlt]
    omega
  · have hint := mt Int32.lt_iff_toInt_lt.mpr hlt
    rw [qMin, if_neg hlt]
    omega

theorem toInt_qMax (a b : Int32) : (qMax a b).toInt = max a.toInt b.toInt := by
  by_cases hlt : a < b
  · have hint := Int32.lt_iff_toInt_lt.mp hlt
    rw [qMax, if_pos hlt]
    omega
  · have hint := mt Int32.lt_iff_toInt_lt.mpr hlt
    rw [qMax, if_neg hlt]
    omega

theorem qBound_range (n : Int32) : 0 ≤ qBound 0 n 99 ∧ qBound 0 n 99 ≤ 99 := by
  have hzero : (0 : Int32).toInt = 0 := rfl
  have htop : (99 : Int32).toInt = 99 := rfl
  rw [Int32.le_iff_toInt_le, Int32.le_iff_toInt_le, qBound, toInt_qMax, toInt_qMin]
  omega

/-- The widget shows its number, from 0 to 99, at its size. -/
structure Shown (d : Digits) : Prop where
  nonneg : 0 ≤ d.number
  le : d.number ≤ 99
  pixmap_eq : d.pixmap = some { number := d.number, size := d.size }

/-- Before the first picture there is none; afterwards the widget is `Shown`. -/
structure Consistent (d : Digits) : Prop where
  nonneg : 0 ≤ d.number
  le : d.number ≤ 99
  pixmap_eq : d.pixmap = none ∨ d.pixmap = some { number := d.number, size := d.size }

theorem Shown.consistent (h : Shown d) : Consistent d := ⟨h.nonneg, h.le, .inr h.pixmap_eq⟩

theorem Consistent.shown (h : Consistent d) (hpixmap : d.pixmap ≠ none) : Shown d :=
  ⟨h.nonneg, h.le, h.pixmap_eq.resolve_left hpixmap⟩

theorem consistent_constructed (size : Size) : Consistent (constructed size) :=
  ⟨Int32.le_refl 0, (by decide : (0 : Int32) ≤ 99), .inl rfl⟩

/-- A resize renders the number at the new size. -/
theorem shown_resize (h : Consistent d) (size : Size) : Shown (d.step (.resize size)) :=
  ⟨h.nonneg, h.le, rfl⟩

/-- The number, its picture and the size are the same. -/
structure SamePicture (d d' : Digits) : Prop where
  number : d'.number = d.number
  pixmap : d'.pixmap = d.pixmap
  size : d'.size = d.size

theorem Shown.congr {d' : Digits} (h : Shown d) (hsame : SamePicture d d') : Shown d' := by
  refine ⟨?_, ?_, ?_⟩
  · rw [hsame.number]
    exact h.nonneg
  · rw [hsame.number]
    exact h.le
  · rw [hsame.pixmap, hsame.number, hsame.size]
    exact h.pixmap_eq

theorem Consistent.congr {d' : Digits} (h : Consistent d) (hsame : SamePicture d d') :
    Consistent d' := by
  refine ⟨?_, ?_, ?_⟩
  · rw [hsame.number]
    exact h.nonneg
  · rw [hsame.number]
    exact h.le
  · rw [hsame.pixmap, hsame.number, hsame.size]
    exact h.pixmap_eq

/-- An action either leaves the picture alone or renders the number it leaves. -/
theorem step_picture (h : Consistent d) (action : Action) :
    SamePicture d (d.step action) ∨ Shown (d.step action) := by
  cases action with
  | setNumber n =>
      show SamePicture d (d.setNumber n) ∨ Shown (d.setNumber n)
      unfold setNumber
      split
      · exact .inr ⟨(qBound_range n).1, (qBound_range n).2, rfl⟩
      · exact .inl ⟨rfl, rfl, rfl⟩
  | flipTo n =>
      show SamePicture d (d.flipTo n) ∨ Shown (d.flipTo n)
      unfold flipTo
      split
      · exact .inr ⟨(qBound_range n).1, (qBound_range n).2, rfl⟩
      · exact .inl ⟨rfl, rfl, rfl⟩
  | resize size => exact .inr (shown_resize h size)
  | tick frame =>
      refine .inl ?_
      unfold step
      cases d.animator.running <;> exact ⟨rfl, rfl, rfl⟩
  | finish =>
      refine .inl ?_
      unfold step
      cases d.animator.running <;> exact ⟨rfl, rfl, rfl⟩
  | setTransition tr => exact .inl ⟨rfl, rfl, rfl⟩
  | paint => exact .inl ⟨rfl, rfl, rfl⟩

theorem Shown.step (h : Shown d) (action : Action) : Shown (d.step action) := by
  rcases step_picture h.consistent action with hsame | hshown
  · exact h.congr hsame
  · exact hshown

theorem Shown.run (h : Shown d) (actions : List Action) : Shown (d.run actions) := by
  induction actions generalizing d with
  | nil => exact h
  | cons action actions ih => exact ih (h.step action)

theorem Consistent.step (h : Consistent d) (action : Action) : Consistent (d.step action) := by
  rcases step_picture h action with hsame | hshown
  · exact h.congr hsame
  · exact hshown.consistent

theorem Consistent.run (h : Consistent d) (actions : List Action) :
    Consistent (d.run actions) := by
  induction actions generalizing d with
  | nil => exact h
  | cons action actions ih => exact ih (h.step action)

/-- A first `resizeEvent` has been delivered. -/
def Resized (actions : List Action) : Prop := ∃ size, Action.resize size ∈ actions

theorem Consistent.shown_of_resized (h : Consistent d) (hresized : Resized actions) :
    Shown (d.run actions) := by
  obtain ⟨size, hmem⟩ := hresized
  obtain ⟨earlier, later, rfl⟩ := List.append_of_mem hmem
  rw [run_append, run_cons]
  exact (shown_resize (h.run earlier) size).run later

/-! ## The start of the animation -/

/-- The action starts the animation: a `flipTo` of another number. -/
def starts (d : Digits) : Action → Bool
  | .flipTo n => d.number != n
  | _ => false

/-- The widget just before the latest `flipTo` that started the animation. -/
def latestStart (d : Digits) : List Action → Option Digits
  | [] => none
  | action :: actions =>
      (latestStart (d.step action) actions).or (if d.starts action then some d else none)

/-- The timeline at the start of an animation. -/
def started : TimeLine := { running := true, currentFrame := 0 }

/-- What becomes of a timeline that an action does not start: its own progress
moves it while it runs, and nothing else does. -/
def progressed (line : TimeLine) : Action → TimeLine
  | .tick frame => if line.running then { line with currentFrame := frame } else line
  | .finish => if line.running then { running := false, currentFrame := 100 } else line
  | _ => line

/-- A starting `flipTo` keeps the picture that was shown, and starts the timeline
over. -/
theorem step_of_starts {action : Action} (h : d.starts action = true) :
    (d.step action).lastPixmap = d.pixmap ∧ (d.step action).animator = started := by
  cases action with
  | flipTo n =>
      have hother : d.number ≠ n := by simpa [starts] using h
      show (d.flipTo n).lastPixmap = _ ∧ (d.flipTo n).animator = _
      rw [flipTo, if_pos hother]
      exact ⟨rfl, rfl⟩
  | _ => exact absurd h (by simp [starts])

/-- No other action assigns the last picture, or does more to the timeline than
move it on. -/
theorem step_of_not_starts {action : Action} (h : d.starts action = false) :
    (d.step action).lastPixmap = d.lastPixmap ∧
      (d.step action).animator = progressed d.animator action := by
  cases action with
  | setNumber n =>
      show (d.setNumber n).lastPixmap = _ ∧ (d.setNumber n).animator = _
      unfold setNumber
      split
      · exact ⟨rfl, rfl⟩
      · exact ⟨rfl, rfl⟩
  | flipTo n =>
      have hsame : ¬ d.number ≠ n := by simpa [starts] using h
      show (d.flipTo n).lastPixmap = _ ∧ (d.flipTo n).animator = _
      rw [flipTo, if_neg hsame]
      exact ⟨rfl, rfl⟩
  | tick frame =>
      show (if d.animator.running then _ else d).lastPixmap = _ ∧
        (if d.animator.running then _ else d).animator =
          if d.animator.running then _ else d.animator
      split
      · exact ⟨rfl, rfl⟩
      · exact ⟨rfl, rfl⟩
  | finish =>
      show (if d.animator.running then _ else d).lastPixmap = _ ∧
        (if d.animator.running then _ else d).animator =
          if d.animator.running then _ else d.animator
      split
      · exact ⟨rfl, rfl⟩
      · exact ⟨rfl, rfl⟩
  | setTransition tr => exact ⟨rfl, rfl⟩
  | resize size => exact ⟨rfl, rfl⟩
  | paint => exact ⟨rfl, rfl⟩

/-- A timeline that runs on was running. -/
theorem running_of_progressed {line : TimeLine} {action : Action}
    (h : (progressed line action).running = true) : line.running = true := by
  by_contra hstopped
  cases action with
  | tick frame =>
      change (if line.running then _ else line).running = true at h
      rw [if_neg hstopped] at h
      exact hstopped h
  | finish =>
      change (if line.running then _ else line).running = true at h
      rw [if_neg hstopped] at h
      exact hstopped h
  | _ => exact hstopped h

/-- The last picture is the one shown at the latest start. -/
theorem lastPixmap_eq (d : Digits) (actions : List Action) :
    (d.run actions).lastPixmap =
      ((latestStart d actions).map Digits.pixmap).getD d.lastPixmap := by
  induction actions generalizing d with
  | nil => rfl
  | cons action actions ih =>
      rw [run_cons, ih, latestStart]
      -- A later start decides alone; without one, this action may be the start.
      cases hlater : latestStart (d.step action) actions with
      | some before => rfl
      | none =>
          cases hstarts : d.starts action with
          | true => exact (step_of_starts hstarts).1
          | false => exact (step_of_not_starts hstarts).1

/-- An animation that runs at the end was running before or was started. -/
theorem running_or_started (hrunning : (d.run actions).animator.running = true) :
    d.animator.running = true ∨ (latestStart d actions).isSome = true := by
  induction actions generalizing d with
  | nil => exact .inl hrunning
  | cons action actions ih =>
      rw [latestStart, Option.isSome_or]
      rcases ih hrunning with hnow | hlater
      · cases hstarts : d.starts action with
        | true => exact .inr (by simp)
        | false =>
            rw [(step_of_not_starts hstarts).2] at hnow
            exact .inl (running_of_progressed hnow)
      · exact .inr (by simp [hlater])

/-- A running animation was started, since a fresh timeline is idle. -/
theorem running_latestStart (hidle : d.animator.running = false)
    (hrunning : (d.run actions).animator.running = true) :
    ∃ before, latestStart d actions = some before := by
  rcases running_or_started hrunning with hnow | hstarted
  · exact absurd (hnow.symm.trans hidle) (by simp)
  · exact Option.isSome_iff_exists.mp hstarted

/-- The widget at the latest start is one that the actions went through. -/
theorem latestStart_consistent {before : Digits} (h : Consistent d)
    (hstart : latestStart d actions = some before) : Consistent before := by
  induction actions generalizing d with
  | nil => exact absurd hstart (by simp [latestStart])
  | cons action actions ih =>
      rw [latestStart, Option.or_eq_some_iff] at hstart
      rcases hstart with hlater | ⟨-, hnow⟩
      · exact ih (h.step action) hlater
      · split at hnow
        · rw [← Option.some.inj hnow]
          exact h
        · exact absurd hnow (by simp)

/-! ## Sequences of actions -/

/-- The last picture belongs to the widget: it shows the number that was
displayed when the running animation started, at the widget's size. -/
def OwnLastPixmap (size : Size) (seen : List Action) : Prop :=
  ∃ before, latestStart (constructed size) seen = some before ∧
    ((constructed size).run seen).lastPixmap =
      some { number := before.number, size := ((constructed size).run seen).size }

/-- The widget has the size it had when the running animation started, and
there was a picture then. -/
def SizeKept (size : Size) (seen : List Action) : Prop :=
  ∃ before, latestStart (constructed size) seen = some before ∧
    before.size = ((constructed size).run seen).size ∧ before.pixmap ≠ none

/-- Something holds at every paint event, after the first `resizeEvent`, that
finds the timeline running. -/
def AtEachFrame (holds : List Action → Prop) (size : Size) (actions : List Action) : Prop :=
  ∀ seen rest, actions = seen ++ .paint :: rest → Resized seen →
    ((constructed size).run seen).animator.running = true → holds seen

/-- The widget never animates between pictures that do not belong to it. -/
structure AnimatesOwnPictures (size : Size) (actions : List Action) : Prop where
  shown : ∀ seen rest, actions = seen ++ rest → Resized seen →
    Shown ((constructed size).run seen)
  last : AtEachFrame (OwnLastPixmap size) size actions

/-- At a frame of the animation, the last picture is the widget's own exactly
when the size was kept. -/
theorem ownLastPixmap_iff {size : Size} {seen : List Action}
    (hrunning : ((constructed size).run seen).animator.running = true) :
    OwnLastPixmap size seen ↔ SizeKept size seen := by
  obtain ⟨before, hstart⟩ := running_latestStart rfl hrunning
  have hconsistent := latestStart_consistent (consistent_constructed size) hstart
  have hlast := lastPixmap_eq (constructed size) seen
  rw [hstart] at hlast
  have hlast' : ((constructed size).run seen).lastPixmap = before.pixmap := hlast
  unfold OwnLastPixmap SizeKept
  simp only [hstart, hlast', Option.some.injEq, exists_eq_left']
  rcases hconsistent.pixmap_eq with hnone | hsome
  · simp [hnone]
  · simp [hsome]

/-- **When the widget animates its own pictures.**  In every sequence of
actions, after the first `resizeEvent` the number lies in 0 to 99 and its
picture has the widget's size; and at every frame of an animation the last
picture belongs to the widget exactly when the widget has kept the size it had
at the `flipTo` that started the animation.  So the whole sequence animates the
widget's own pictures exactly when the size is kept at each frame. -/
theorem animatesOwnPictures_iff (size : Size) (actions : List Action) :
    (∀ seen rest, actions = seen ++ rest → Resized seen →
        Shown ((constructed size).run seen)) ∧
      AtEachFrame (fun seen => OwnLastPixmap size seen ↔ SizeKept size seen) size actions ∧
      (AnimatesOwnPictures size actions ↔ AtEachFrame (SizeKept size) size actions) := by
  have hshown : ∀ seen rest, actions = seen ++ rest → Resized seen →
      Shown ((constructed size).run seen) :=
    fun seen _ _ hresized => (consistent_constructed size).shown_of_resized hresized
  refine ⟨hshown, fun seen rest _ _ hrunning => ownLastPixmap_iff hrunning, ?_, ?_⟩
  · intro hown seen rest hsplit hresized hrunning
    exact (ownLastPixmap_iff hrunning).mp (hown.last seen rest hsplit hresized hrunning)
  · intro hkept
    refine ⟨hshown, fun seen rest hsplit hresized hrunning => ?_⟩
    exact (ownLastPixmap_iff hrunning).mpr (hkept seen rest hsplit hresized hrunning)

/-- A widget resized inside the animation paints the old number at the old
size. -/
theorem resize_inside_animation :
    ¬ AnimatesOwnPictures ⟨100, 30⟩
      [.resize ⟨160, 192⟩, .flipTo 5, .tick 20, .resize ⟨240, 288⟩, .paint] := by
  intro hown
  obtain ⟨before, hstart, hlast⟩ := hown.last
    [.resize ⟨160, 192⟩, .flipTo 5, .tick 20, .resize ⟨240, 288⟩] [] rfl
    ⟨⟨160, 192⟩, List.mem_cons_self⟩ (by decide)
  have hsize := congrArg (Option.map Pixmap.size) hlast
  have hkept : some (Size.mk 160 192) = some (Size.mk 240 288) := hsize
  exact absurd hkept (by decide)

end Digits
end Clock
end DigmaE605
