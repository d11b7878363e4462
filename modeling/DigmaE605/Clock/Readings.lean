import DigmaE605.Clock.DigiFlip
import DigmaE605.Clock.Lettering

/-!
# The dial and the title

The window reads the clock again and again, and keys and the menu change the
transition.  What becomes of both, over whole runs:

* `run_transition`: right and left turn a dial of three transitions, and the
  menu sets it, for both widgets at once.
* `title_eq_iff`: the title tells apart whatever the window shows.
-/

namespace DigmaE605
namespace Clock
namespace DigiFlip

open Digits Text

variable {w : DigiFlip} {actions : List WindowAction}

/-! ## The dial -/

/-- What an action does to a dial that is turned without end. -/
def turn (dial : ℤ) : WindowAction → ℤ
  | .keyPressEvent .right _ => dial + 1
  | .keyPressEvent .left _ => dial - 1
  | .chooseSlide _ => 0
  | .chooseFlip _ => 1
  | .chooseRotate _ => 2
  | _ => dial

/-- Where a sequence of actions leaves the dial. -/
def turned (dial : ℤ) (actions : List WindowAction) : ℤ := actions.foldl turn dial

/-- Both widgets use the transition that the dial stands for. -/
structure Dialled (w : DigiFlip) (dial : ℤ) : Prop where
  hour : w.hour.transition.toInt = dial % 3
  minute : w.minute.transition = w.hour.transition

/-- `(m_hour->transition() + delta + 3) % 3` -/
theorem toInt_nextTransition {delta : Int32} {dial : ℤ} (h : Dialled w dial)
    (hlow : -3 ≤ delta.toInt) (hhigh : delta.toInt ≤ 3) :
    (w.nextTransition delta).toInt = (dial + delta.toInt) % 3 := by
  have hhour := h.hour
  have hthree : (3 : Int32).toInt = 3 := rfl
  have hfirst := Arithmetic.toInt_add_of_fits (a := w.hour.transition) (b := delta)
    (by omega) (by omega)
  have hsecond := Arithmetic.toInt_add_of_fits (a := w.hour.transition + delta) (b := 3)
    (by omega) (by omega)
  unfold nextTransition
  rw [Int32.toInt_mod, hsecond, hfirst, hthree, Int.tmod_eq_emod_of_nonneg (by omega)]
  omega

theorem dialled_setTransitions {i : Int32} {dial : ℤ} (hdial : i.toInt = dial % 3) (t : QTime) :
    Dialled (w.setTransitions i t) dial := by
  have hhour : (w.setTransitions i t).hour.transition = i :=
    flipTo_transition (w.hour.setTransition i) t.hour
  have hminute : (w.setTransitions i t).minute.transition = i :=
    flipTo_transition (w.minute.setTransition i) t.minute
  refine ⟨?_, ?_⟩
  · rw [hhour]
    exact hdial
  · rw [hhour, hminute]

theorem Dialled.step {dial : ℤ} (h : Dialled w dial) (action : WindowAction) :
    Dialled (w.step action) (turn dial action) := by
  cases action with
  | timerEvent t =>
      have hhour : (w.updateTime t).hour.transition = w.hour.transition := flipTo_transition _ _
      have hminute : (w.updateTime t).minute.transition = w.minute.transition :=
        flipTo_transition _ _
      refine ⟨?_, ?_⟩
      · show (w.updateTime t).hour.transition.toInt = dial % 3
        rw [hhour]
        exact h.hour
      · show (w.updateTime t).minute.transition = (w.updateTime t).hour.transition
        rw [hhour, hminute]
        exact h.minute
  | keyPressEvent key t =>
      cases key with
      | right => exact dialled_setTransitions (toInt_nextTransition h (by decide) (by decide)) t
      | left => exact dialled_setTransitions (toInt_nextTransition h (by decide) (by decide)) t
      | other => exact h
  | chooseSlide t => exact dialled_setTransitions rfl t
  | chooseFlip t => exact dialled_setTransitions rfl t
  | chooseRotate t => exact dialled_setTransitions rfl t
  | resizeEvent digits => exact ⟨h.hour, h.minute⟩
  | hourProgress progress =>
      -- An animation leaves the transition alone.
      have hkept := progress_transition w.hour progress
      refine ⟨?_, ?_⟩
      · show (w.hour.step progress.action).transition.toInt = dial % 3
        rw [hkept]
        exact h.hour
      · exact h.minute.trans hkept.symm
  | minuteProgress progress => exact ⟨h.hour, (progress_transition w.minute progress).trans h.minute⟩

theorem Dialled.run {dial : ℤ} (h : Dialled w dial) (actions : List WindowAction) :
    Dialled (w.run actions) (turned dial actions) := by
  induction actions generalizing w dial with
  | nil => exact h
  | cons action actions ih => exact ih (h.step action)

theorem dialled_constructed (size : Size) (t t' : QTime) : Dialled (constructed size t t') 0 := by
  have hslide : ∀ n m : Int32,
      (((Digits.constructed size).setNumber n).flipTo m).transition = slide := by
    intro n m
    rw [flipTo_transition, setNumber_transition]
    rfl
  have hhour : (constructed size t t').hour.transition = slide := hslide _ _
  have hminute : (constructed size t t').minute.transition = slide := hslide _ _
  refine ⟨?_, hminute.trans hhour.symm⟩
  rw [hhour]
  rfl

/-- A dial stands for one of the three transitions. -/
theorem Dialled.known {dial : ℤ} (h : Dialled w dial) : Known w.hour.transition := by
  have hhour := h.hour
  have hcases : w.hour.transition.toInt = slide.toInt ∨ w.hour.transition.toInt = Clock.flip.toInt ∨
      w.hour.transition.toInt = rotate.toInt := by
    have hslide : slide.toInt = 0 := rfl
    have hflip : Clock.flip.toInt = 1 := rfl
    have hrotate : rotate.toInt = 2 := rfl
    omega
  rw [Int32.toInt_inj, Int32.toInt_inj, Int32.toInt_inj] at hcases
  exact hcases

/-- **The transitions are a dial.**  In every run both widgets use the transition
that the dial stands for, which right and left turn without end and the menu
sets; so no frame of an animation is ever blank. -/
theorem run_transition (size : Size) (t t' : QTime) (actions : List WindowAction) :
    Dialled ((constructed size t t').run actions) (turned 0 actions) ∧
      ((constructed size t t').run actions).hour.paintEvent ≠ [] ∧
      ((constructed size t t').run actions).minute.paintEvent ≠ [] := by
  have hdialled := (dialled_constructed size t t').run actions
  refine ⟨hdialled, paintEvent_ne_nil hdialled.known, paintEvent_ne_nil ?_⟩
  rw [hdialled.minute]
  exact hdialled.known

/-! ## The title -/

/-- The title gives the transition and a time. -/
def Titled (w : DigiFlip) (t : QTime) : Prop :=
  w.title = transitionName w.hour.transition ++ (": " ++ t.text)

theorem Titled.step {t : QTime} (h : Titled w t) (action : WindowAction) :
    Titled (w.step action) (action.reads.getD t) := by
  cases action with
  | timerEvent t => rfl
  | keyPressEvent key t =>
      cases key with
      | right => rfl
      | left => rfl
      | other => exact h
  | chooseSlide t => rfl
  | chooseFlip t => rfl
  | chooseRotate t => rfl
  | resizeEvent digits => exact h
  | hourProgress progress =>
      show w.title = transitionName (w.hour.step progress.action).transition ++ _
      rw [progress_transition]
      exact h
  | minuteProgress progress => exact h

theorem Titled.run {t : QTime} (h : Titled w t) (actions : List WindowAction) :
    Titled (w.run actions) (lastRead t actions) := by
  induction actions generalizing w t with
  | nil => exact h
  | cons action actions ih => exact ih (h.step action)

theorem titled_constructed (size : Size) (t t' : QTime) : Titled (constructed size t t') t' := rfl

/-- A number from 0 to 99 is written in the title as in a picture. -/
theorem toList_twoDigits {n : Int32} (hnonneg : 0 ≤ n.toInt) :
    (twoDigits n).toList = digitsText n := by
  have hdecimal : decimalText n.toInt = Nat.toDigits 10 n.toInt.natAbs := if_neg (by omega)
  have hnat : n.toInt.toNat = n.toInt.natAbs := by omega
  have htext : (toString n.toInt).toList = decimalText n.toInt := by
    rw [Int.toString_eq_repr, Int.repr_eq_if, if_pos hnonneg, Nat.toList_repr, hdecimal, hnat]
  have hpos : 0 < (Nat.toDigits 10 n.toInt.natAbs).length :=
    List.length_pos_iff.mpr Nat.toDigits_ne_nil
  have hshort : (decimalText n.toInt).length = 1 ↔ n < 10 := by
    have hone := Nat.length_toDigits_le_iff (n := n.toInt.natAbs) (k := 1) (b := 10) (by omega)
      (by omega)
    have hten : (10 : Int32).toInt = 10 := rfl
    rw [hdecimal, Int32.lt_iff_toInt_lt, hten]
    omega
  unfold twoDigits digitsText
  rw [String.toList_append, htext]
  by_cases hsmall : n < 10
  · simp [hsmall, hshort.mpr hsmall]
  · simp [hsmall, mt hshort.mp hsmall]

theorem digitsText_inj {a b : Int32} (ha : 0 ≤ a.toInt) (hb : 0 ≤ b.toInt)
    (heq : digitsText a = digitsText b) : a = b := by
  have hread := congrArg atoi heq
  rwa [atoi_digitsText ha, atoi_digitsText hb] at hread

/-- What a time reads as integers. -/
theorem toInt_range (t : QTime) :
    (0 ≤ t.hour.toInt ∧ t.hour.toInt ≤ 99) ∧ (0 ≤ t.minute.toInt ∧ t.minute.toInt ≤ 99) ∧
      0 ≤ t.second.toInt ∧ t.second.toInt ≤ 99 := by
  have hzero : (0 : Int32).toInt = 0 := rfl
  have hlast : (23 : Int32).toInt = 23 := rfl
  have hlast' : (59 : Int32).toInt = 59 := rfl
  obtain ⟨hour, minute, second, hhour, hminute, hsecond⟩ := t
  rw [Int32.le_iff_toInt_le, Int32.le_iff_toInt_le] at hhour hminute hsecond
  refine ⟨⟨?_, ?_⟩, ⟨?_, ?_⟩, ?_, ?_⟩ <;> dsimp only <;> omega

/-- `hh:mm:ss` -/
theorem toList_text (t : QTime) :
    t.text.toList =
      digitsText t.hour ++ ':' :: (digitsText t.minute ++ ':' :: digitsText t.second) := by
  obtain ⟨⟨hhour, -⟩, ⟨hminute, -⟩, hsecond, -⟩ := toInt_range t
  have hcolon : ":".toList = [':'] := rfl
  rw [QTime.text, String.toList_append, String.toList_append, String.toList_append,
    String.toList_append, hcolon, toList_twoDigits hhour, toList_twoDigits hminute,
    toList_twoDigits hsecond]
  simp

theorem length_text (t : QTime) : t.text.toList.length = 8 := by
  obtain ⟨⟨hhour, hhour'⟩, ⟨hminute, hminute'⟩, hsecond, hsecond'⟩ := toInt_range t
  rw [toList_text]
  simp [length_digitsText, hhour, hhour', hminute, hminute', hsecond, hsecond']

/-- The text of a time is read in only one way. -/
theorem text_inj {t t' : QTime} (heq : t.text.toList = t'.text.toList) :
    t.hour = t'.hour ∧ t.minute = t'.minute ∧ t.second = t'.second := by
  obtain ⟨⟨hhour, hhour'⟩, ⟨hminute, hminute'⟩, hsecond, -⟩ := toInt_range t
  obtain ⟨⟨hhour₁, hhour₁'⟩, ⟨hminute₁, hminute₁'⟩, hsecond₁, -⟩ := toInt_range t'
  rw [toList_text, toList_text] at heq
  obtain ⟨hfirst, hrest⟩ := List.append_inj heq
    (by rw [length_digitsText hhour hhour', length_digitsText hhour₁ hhour₁'])
  obtain ⟨hsecondPart, hrest⟩ := List.append_inj (List.cons.inj hrest).2
    (by rw [length_digitsText hminute hminute', length_digitsText hminute₁ hminute₁'])
  exact ⟨digitsText_inj hhour hhour₁ hfirst, digitsText_inj hminute hminute₁ hsecondPart,
    digitsText_inj hsecond hsecond₁ (List.cons.inj hrest).2⟩

/-- The three transitions have three names. -/
theorem transitionName_inj {tr tr' : Int32} (hknown : Known tr) (hknown' : Known tr')
    (heq : transitionName tr = transitionName tr') : tr = tr' := by
  rcases hknown with rfl | rfl | rfl <;> rcases hknown' with rfl | rfl | rfl
  all_goals first
    | rfl
    | exact absurd heq (by decide)

theorem Titled.eq_iff {w' : DigiFlip} {t t' : QTime} (h : Titled w t) (h' : Titled w' t')
    (hknown : Known w.hour.transition) (hknown' : Known w'.hour.transition) :
    w.title = w'.title ↔
      w.hour.transition = w'.hour.transition ∧
        t.hour = t'.hour ∧ t.minute = t'.minute ∧ t.second = t'.second := by
  have hcolon : ": ".toList = [':', ' '] := rfl
  rw [h, h']
  constructor
  · intro heq
    have hlist := congrArg String.toList heq
    rw [String.toList_append, String.toList_append, String.toList_append,
      String.toList_append, ← List.append_assoc, ← List.append_assoc] at hlist
    obtain ⟨hname, htext⟩ := List.append_inj' hlist (by rw [length_text, length_text])
    have hname' := List.append_cancel_right hname
    exact ⟨transitionName_inj hknown hknown' (String.toList_inj.mp hname'), text_inj htext⟩
  · rintro ⟨htransition, hhour, hminute, hsecond⟩
    rw [htransition, QTime.text, QTime.text, hhour, hminute, hsecond]

/-- **The title tells everything.**  Two windows, after any runs, have one title
exactly if they use one transition, their widgets show the same numbers, and the
times they read last agree in the second. -/
theorem title_eq_iff (size size₁ : Size) (t t' t₁ t₁' : QTime)
    (actions actions₁ : List WindowAction) :
    ((constructed size t t').run actions).title = ((constructed size₁ t₁ t₁').run actions₁).title ↔
      ((constructed size t t').run actions).hour.transition =
          ((constructed size₁ t₁ t₁').run actions₁).hour.transition ∧
        ((constructed size t t').run actions).hour.number =
          ((constructed size₁ t₁ t₁').run actions₁).hour.number ∧
        ((constructed size t t').run actions).minute.number =
          ((constructed size₁ t₁ t₁').run actions₁).minute.number ∧
        (lastRead t' actions).second = (lastRead t₁' actions₁).second := by
  obtain ⟨hhour, hminute⟩ := (shows_constructed size t t').run actions
  obtain ⟨hhour₁, hminute₁⟩ := (shows_constructed size₁ t₁ t₁').run actions₁
  have htitled := (titled_constructed size t t').run actions
  have htitled₁ := (titled_constructed size₁ t₁ t₁').run actions₁
  have hknown := ((dialled_constructed size t t').run actions).known
  have hknown₁ := ((dialled_constructed size₁ t₁ t₁').run actions₁).known
  rw [htitled.eq_iff htitled₁ hknown hknown₁, hhour, hminute, hhour₁, hminute₁]

end DigiFlip
end Clock
end DigmaE605
