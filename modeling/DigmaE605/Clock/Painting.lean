import DigmaE605.Clock.Animation

/-!
# What reaches the screen

* `paintEvent_pictures`: a paint event draws the current picture, and the last
  picture as well while an animation runs, and nothing else.
* `paintEvent_own`: after the first resize, and with the size kept since the
  animation started, everything that is drawn shows the widget's number, or the
  number the animation comes from, at the widget's size.
* `Settling.run`: no screen stays behind.  Whatever it is that a paint event of a
  still widget leaves, it is there when no update is pending and no animation
  runs, although `flipTo` requests no update of its own: it relies on the frames
  of the timeline it starts.  `screen_upToDate` says so of the pictures drawn.
-/

namespace DigmaE605
namespace Clock
namespace Digits

variable {d : Digits} {actions : List Action}

/-! ## The pictures of a paint event -/

/-- A stroke shows the current picture, or, while an animation runs, the last
one. -/
def ShowsPicture (d : Digits) (stroke : Stroke) : Prop :=
  stroke.pixmap = d.pixmap ∨ (d.animator.running = true ∧ stroke.pixmap = d.lastPixmap)

theorem paintSlide_pictures (hrunning : d.animator.running = true) :
    ∀ stroke ∈ d.paintSlide, ShowsPicture d stroke := by
  intro stroke hstroke
  simp only [paintSlide, List.mem_cons, List.not_mem_nil, or_false] at hstroke
  rcases hstroke with rfl | rfl
  · exact .inr ⟨hrunning, rfl⟩
  · exact .inl rfl

theorem paintFlip_pictures (hrunning : d.animator.running = true) :
    ∀ stroke ∈ d.paintFlip, ShowsPicture d stroke := by
  intro stroke hstroke
  unfold paintFlip at hstroke
  -- In both halves of the flip the new picture lies behind.
  rcases List.mem_cons.mp hstroke with rfl | hstroke
  · exact .inl rfl
  · split at hstroke
    · simp only [List.mem_cons, List.not_mem_nil, or_false] at hstroke
      rcases hstroke with rfl | rfl
      · exact .inr ⟨hrunning, rfl⟩
      · exact .inr ⟨hrunning, rfl⟩
    · simp only [List.mem_cons, List.not_mem_nil, or_false] at hstroke
      rcases hstroke with rfl | rfl
      · exact .inr ⟨hrunning, rfl⟩
      · exact .inl rfl

theorem paintRotate_pictures (hrunning : d.animator.running = true) :
    ∀ stroke ∈ d.paintRotate, ShowsPicture d stroke := by
  intro stroke hstroke
  simp only [paintRotate, List.mem_cons, List.not_mem_nil, or_false] at hstroke
  subst hstroke
  by_cases hhalf : d.animator.currentFrame ≤ 50
  · refine .inr ⟨hrunning, ?_⟩
    show (if d.animator.currentFrame ≤ 50 then d.lastPixmap else d.pixmap) = _
    rw [if_pos hhalf]
  · refine .inl ?_
    show (if d.animator.currentFrame ≤ 50 then d.lastPixmap else d.pixmap) = _
    rw [if_neg hhalf]

/-- A paint event draws the pictures of the widget and nothing else. -/
theorem paintEvent_pictures (d : Digits) :
    ∀ stroke ∈ d.paintEvent, ShowsPicture d stroke := by
  intro stroke hstroke
  unfold paintEvent at hstroke
  split at hstroke
  · rename_i hrunning
    simp only [List.mem_append] at hstroke
    rcases hstroke with (hslide | hflip) | hrotate
    · split at hslide
      · exact paintSlide_pictures hrunning stroke hslide
      · exact absurd hslide List.not_mem_nil
    · split at hflip
      · exact paintFlip_pictures hrunning stroke hflip
      · exact absurd hflip List.not_mem_nil
    · split at hrotate
      · exact paintRotate_pictures hrunning stroke hrotate
      · exact absurd hrotate List.not_mem_nil
  · rw [paintStatic, List.mem_singleton] at hstroke
    exact .inl (by rw [hstroke])

/-- **Nothing foreign is drawn.**  After the first resize a paint event shows
the widget's number at the widget's size; if an animation runs and the size was
kept, it may also show the number the animation comes from, at that size. -/
theorem paintEvent_own {size : Size} {seen : List Action} (hresized : Resized seen)
    (hkept : ((constructed size).run seen).animator.running = true → SizeKept size seen) :
    ∀ stroke ∈ ((constructed size).run seen).paintEvent, ∃ n : Int32,
      stroke.pixmap = some { number := n, size := ((constructed size).run seen).size } ∧
        (n = ((constructed size).run seen).number ∨
          ∃ before, latestStart (constructed size) seen = some before ∧ n = before.number) := by
  intro stroke hstroke
  have hshown := (consistent_constructed size).shown_of_resized hresized
  rcases paintEvent_pictures _ stroke hstroke with hcurrent | ⟨hrunning, hlast⟩
  · exact ⟨_, hcurrent.trans hshown.pixmap_eq, .inl rfl⟩
  · obtain ⟨before, hstart, hown⟩ := (ownLastPixmap_iff hrunning).mpr (hkept hrunning)
    exact ⟨before.number, hlast.trans hown, .inr ⟨before, hstart, rfl⟩⟩

/-! ## The screen -/

/-- Only a resize changes the size of a widget. -/
theorem run_size {d : Digits} (actions : List Action)
    (hkept : ∀ size, Action.resize size ∉ actions) : (d.run actions).size = d.size := by
  induction actions generalizing d with
  | nil => rfl
  | cons action actions ih =>
      have hrest : ∀ size, Action.resize size ∉ actions :=
        fun size hmem => hkept size (List.mem_cons_of_mem _ hmem)
      rw [run_cons, ih hrest]
      cases action with
      | setNumber n =>
          show (d.setNumber n).size = d.size
          unfold setNumber
          split <;> rfl
      | flipTo n =>
          show (d.flipTo n).size = d.size
          unfold flipTo
          split <;> rfl
      | resize size => exact absurd List.mem_cons_self (hkept size)
      | tick frame => cases hrunning : d.animator.running <;> simp [Digits.step, hrunning, update]
      | finish => cases hrunning : d.animator.running <;> simp [Digits.step, hrunning, update]
      | setTransition tr => rfl
      | paint => rfl

/-- What the actions make of a screen, one after the other. -/
def shownAfter {χ : Type} (next : Digits → χ → Action → χ) : Digits → χ → List Action → χ
  | _, screen, [] => screen
  | d, screen, action :: actions =>
      shownAfter next (d.step action) (next d screen action) actions

/-- The screen rests, or the widget will be painted again: an update is pending, or
the frames of an animation are to come. -/
def Settling (d : Digits) (rests : Prop) : Prop :=
  d.updatePending = true ∨ d.animator.running = true ∨ rests

/-- The action changes nothing of a widget that is drawn at rest. -/
structure Idle (d : Digits) (action : Action) : Prop where
  notPaint : action ≠ .paint
  notResize : ∀ size, action ≠ .resize size
  picture : SamePicture d (d.step action)
  pending : (d.step action).updatePending = d.updatePending
  animator : (d.step action).animator = d.animator

/-- Every action that changes the picture of a still widget asks for a paint
event, or starts an animation that will. -/
theorem step_requests (d : Digits) {action : Action} (hother : action ≠ .paint) :
    (d.step action).updatePending = true ∨ (d.step action).animator.running = true ∨
      Idle d action := by
  have hstill : (∀ size, action ≠ .resize size) → d.step action = d → Idle d action := by
    intro hresize hsame
    refine ⟨hother, hresize, ?_, ?_, ?_⟩
    · rw [hsame]
      exact ⟨rfl, rfl, rfl⟩
    · rw [hsame]
    · rw [hsame]
  cases action with
  | setNumber n =>
      by_cases hnumber : d.number ≠ n
      · exact .inl (by simp [Digits.step, setNumber, hnumber, update])
      · exact .inr (.inr (hstill (by simp) (if_neg hnumber)))
  | flipTo n =>
      by_cases hnumber : d.number ≠ n
      · -- No update is requested here; the timeline is running.
        exact .inr (.inl (by simp [Digits.step, flipTo, hnumber, TimeLine.stop, TimeLine.start]))
      · exact .inr (.inr (hstill (by simp) (if_neg hnumber)))
  | setTransition tr => exact .inr (.inr ⟨hother, by simp, ⟨rfl, rfl, rfl⟩, rfl, rfl⟩)
  | resize size => exact .inl rfl
  | tick frame =>
      cases hrunning : d.animator.running with
      | true => exact .inl (by simp [Digits.step, hrunning, update])
      | false => exact .inr (.inr (hstill (by simp) (by simp [Digits.step, hrunning])))
  | finish =>
      cases hrunning : d.animator.running with
      | true => exact .inl (by simp [Digits.step, hrunning, update])
      | false => exact .inr (.inr (hstill (by simp) (by simp [Digits.step, hrunning])))
  | paint => exact absurd rfl hother

/-- **A screen never stays behind** that rests when a still widget is painted, and
that an idle action leaves at rest: then it rests whenever no update is pending
and no animation runs. -/
theorem Settling.run {χ : Type} {next : Digits → χ → Action → χ} {rests : Digits → χ → Prop}
    {screen : χ}
    (hpaint : ∀ d screen, d.animator.running = false →
      rests (d.step .paint) (next d screen .paint))
    (hidle : ∀ d screen action, Idle d action → d.animator.running = false →
      rests d screen → rests (d.step action) (next d screen action))
    (h : Settling d (rests d screen)) (actions : List Action) :
    Settling (d.run actions) (rests (d.run actions) (shownAfter next d screen actions)) := by
  induction actions generalizing d screen with
  | nil => exact h
  | cons action actions ih =>
      refine ih ?_
      by_cases hpainted : action = .paint
      · subst hpainted
        cases hrunning : d.animator.running with
        | true => exact .inr (.inl hrunning)
        | false => exact .inr (.inr (hpaint d screen hrunning))
      · rcases step_requests d hpainted with hpending | hrunning | hkept
        · exact .inl hpending
        · exact .inr (.inl hrunning)
        · rcases h with hpending | hrunning | hrests
          · exact .inl (hkept.pending.trans hpending)
          · exact .inr (.inl (by rw [hkept.animator]; exact hrunning))
          · cases hrunning : d.animator.running with
            | true => exact .inr (.inl (by rw [hkept.animator]; exact hrunning))
            | false => exact .inr (.inr (hidle d screen action hkept hrunning hrests))

/-- From a resize on, which asks for an update. -/
theorem Settling.of_resized {χ : Type} {next : Digits → χ → Action → χ}
    (rests : Digits → χ → Prop)
    (hpaint : ∀ d screen, d.animator.running = false →
      rests (d.step .paint) (next d screen .paint))
    (hidle : ∀ d screen action, Idle d action → d.animator.running = false →
      rests d screen → rests (d.step action) (next d screen action))
    {size : Size} {actions : List Action} (screen : χ)
    (hsettled : ((d.step (.resize size)).run actions).updatePending = false)
    (hstopped : ((d.step (.resize size)).run actions).animator.running = false) :
    rests ((d.step (.resize size)).run actions)
      (shownAfter next (d.step (.resize size)) screen actions) := by
  have hstart : Settling (d.step (.resize size)) (rests (d.step (.resize size)) screen) := .inl rfl
  rcases hstart.run hpaint hidle actions with hpending | hrunning | hrests
  · exact absurd (hpending.symm.trans hsettled) (by simp)
  · exact absurd (hrunning.symm.trans hstopped) (by simp)
  · exact hrests

/-- A paint event replaces the pictures on the screen by those it draws. -/
def painted (d : Digits) (pictures : Option (List Stroke)) : Action → Option (List Stroke)
  | .paint => some d.paintEvent
  | _ => pictures

/-- The last paint event drew what the widget shows, from a resize on, whenever no
update is pending and no animation runs. -/
theorem screen_upToDate (d : Digits) (size : Size) (actions : List Action)
    (hsettled : ((d.step (.resize size)).run actions).updatePending = false)
    (hstopped : ((d.step (.resize size)).run actions).animator.running = false) :
    shownAfter painted (d.step (.resize size)) none actions =
      some ((d.step (.resize size)).run actions).paintEvent := by
  refine Settling.of_resized (fun d pictures => pictures = some d.paintEvent)
    (fun d pictures _ => rfl) ?_ none hsettled hstopped
  intro d pictures action hkept hrunning hpictures
  have hsame : (d.step action).paintEvent = d.paintEvent := by
    simp [paintEvent, hkept.animator, hrunning, paintStatic, hkept.picture.pixmap]
  rw [hsame, ← hpictures]
  cases action with
  | paint => exact absurd rfl hkept.notPaint
  | _ => rfl

end Digits
end Clock
end DigmaE605
