import Mathlib.Data.Int.ConditionallyCompleteOrder
import Mathlib.Order.Interval.Set.Basic
import DigmaE605.Arithmetic.Int32
import DigmaE605.Arithmetic.Binary64
import DigmaE605.Clock.DigiFlip

/-!
# Where the window puts its widgets

`DigiFlip::resizeEvent` computes the height of the widgets from their width in
floating point, `digitsWidth * 1.2`, and truncates.  `toInt_digitsHeight` shows
that nothing is lost: the result is `6 * digitsWidth / 5` in integers, for every
width that a widget can have, although the double `1.2` is smaller than 6/5 and
every width divisible by 5 depends on the product being rounded up.

`Screen` is the window with the positions of its widgets.  `screen_laidOut`: in
every run, from the first `resizeEvent` on, both widgets are rendered at the
size that the window in its present size gives them, they stand side by side in
it, and they fit into it whenever they are not too high for it.
-/

namespace DigmaE605
namespace Clock

open Digits DigiFlip Arithmetic Float.Model Float.Model.UnpackedFloat

/-! ## The height of the digits -/

/-- The literal `1.2` -/
def oneTwo : UnpackedFloat := ofScientific .binary64 12 (-1)

/-- `int digitsHeight = digitsWidth * 1.2` -/
def digitsHeight (digitsWidth : Int32) : Int32 :=
  (mul .binary64 (UnpackedFloat.ofInt .binary64 digitsWidth.toInt) oneTwo).toInt32

/-- The literal falls short of 6/5 by a fifth of a unit. -/
theorem oneTwo_eq : oneTwo = .finite .positive 5404319552844595 (-52) (by decide) := rfl

/-- The height is six fifths of the width, rounded down. -/
theorem toInt_digitsHeight {digitsWidth : Int32} (hnonneg : 0 ≤ digitsWidth.toInt)
    (hsmall : digitsWidth.toInt ≤ 2 ^ 30) :
    (digitsHeight digitsWidth).toInt = 6 * digitsWidth.toInt / 5 := by
  obtain ⟨n, hn⟩ := Int.eq_ofNat_of_zero_le hnonneg
  have htrunc : ∀ lower upper : ℤ, (mul .binary64 (UnpackedFloat.ofInt .binary64 n) oneTwo).toInt
      lower upper = (6 * n / 5 : ℕ) := by
    intro lower upper
    rcases Nat.eq_zero_or_pos n with rfl | hpos
    · rfl
    · obtain ⟨places, hplaces, hmany⟩ := exists_places hpos (by omega)
      -- What five times the literal falls short of 6, in its last place.
      have hratio : 5 * 5404319552844595 + 1 = 6 * 2 ^ 52 + 0 := by norm_num
      rw [oneTwo_eq]
      exact toInt_mul_ratio hpos hplaces (by norm_num) (by norm_num) (by norm_num) hratio
        (by norm_num) (by omega) lower upper
  have hmin : Int32.minValue.toInt = -2 ^ 31 := rfl
  have hmax : Int32.maxValue.toInt = 2 ^ 31 - 1 := rfl
  unfold digitsHeight UnpackedFloat.toInt32
  rw [hn, htrunc, Int32.toInt_ofIntClamp]
  · omega
  · omega
  · omega

/-! ## The geometry -/

/-- `QPoint` -/
structure Point where
  x : Int32
  y : Int32
  deriving DecidableEq, Repr

/-- The size of the top-level widget, which Qt never makes negative. -/
structure WindowSize extends Size where
  width_nonneg : 0 ≤ width.toInt
  height_nonneg : 0 ≤ height.toInt
  deriving DecidableEq, Repr

namespace WindowSize

variable (window : WindowSize)

/-- `int digitsWidth = width() / 2` -/
def digitsWidth : Int32 := window.width / 2

/-- The size that `resizeEvent` gives to both widgets. -/
def digitsSize : Size := ⟨window.digitsWidth, digitsHeight window.digitsWidth⟩

/-- `int y = (height() - digitsHeight) / 3` -/
def digitsTop : Int32 := (window.height - digitsHeight window.digitsWidth) / 3

/-- Where `m_hour` is moved. -/
def hourAt : Point := ⟨0, window.digitsTop⟩

/-- Where `m_minute` is moved. -/
def minuteAt : Point := ⟨window.width / 2, window.digitsTop⟩

theorem toInt_digitsWidth : window.digitsWidth.toInt = window.width.toInt / 2 :=
  toInt_div_of_nonneg (by decide) window.width_nonneg

theorem toInt_digitsHeight' :
    (digitsHeight window.digitsWidth).toInt = 6 * (window.width.toInt / 2) / 5 := by
  have hwidth := window.toInt_digitsWidth
  have hnonneg := window.width_nonneg
  have hlt := window.width.toInt_lt
  rw [toInt_digitsHeight (by omega) (by omega), hwidth]

/-- The difference is divided towards zero. -/
theorem toInt_digitsTop :
    window.digitsTop.toInt =
      (window.height.toInt - 6 * (window.width.toInt / 2) / 5).tdiv 3 := by
  have hheight := window.toInt_digitsHeight'
  have hnonneg := window.height_nonneg
  have hnonneg' := window.width_nonneg
  have hlt := window.height.toInt_lt
  have hlt' := window.width.toInt_lt
  unfold digitsTop
  rw [toInt_div_of_pos (by decide), toInt_sub_of_fits (by omega) (by omega), hheight]
  rfl

/-- `time.resize(320, 240)`, from `main` -/
def main : WindowSize := ⟨⟨320, 240⟩, by decide, by decide⟩

example : main.digitsSize = ⟨160, 192⟩ ∧ main.hourAt = ⟨0, 16⟩ ∧ main.minuteAt = ⟨160, 16⟩ :=
  ⟨rfl, rfl, rfl⟩

end WindowSize

/-! ## The window with the positions of its widgets -/

/-- The window, its widgets and where they are. -/
structure Screen where
  window : WindowSize
  clock : DigiFlip
  hourAt : Point
  minuteAt : Point

/-- What happens to the clock other than a resize of the window. -/
def ClockAction := { action : WindowAction // ∀ digits, action ≠ .resizeEvent digits }

/-- What happens to the window. -/
inductive ScreenAction
  | resizeEvent (window : WindowSize)
  | clock (action : ClockAction)

namespace Screen

/-- `DigiFlip::resizeEvent`, in a window that got a new size. -/
def resizeEvent (s : Screen) (window : WindowSize) : Screen where
  window := window
  clock := s.clock.step (.resizeEvent window.digitsSize)
  hourAt := window.hourAt
  minuteAt := window.minuteAt

/-- What an action does. -/
def step (s : Screen) : ScreenAction → Screen
  | .resizeEvent window => s.resizeEvent window
  | .clock action => { s with clock := s.clock.step action.val }

/-- What a sequence of actions does. -/
def run (s : Screen) (actions : List ScreenAction) : Screen := actions.foldl step s

/-- The window as it is constructed: the widgets have the size that Qt gives to a
new widget, and its position. -/
def constructed (window : WindowSize) (size : Size) (t t' : QTime) : Screen where
  window := window
  clock := DigiFlip.constructed size t t'
  hourAt := ⟨0, 0⟩
  minuteAt := ⟨0, 0⟩

variable {s : Screen}

/-- The columns that a widget takes. -/
def columns (corner : Point) (size : Size) : Set ℤ :=
  Set.Ico corner.x.toInt (corner.x.toInt + size.width.toInt)

/-- The rows that a widget takes. -/
def rows (corner : Point) (size : Size) : Set ℤ :=
  Set.Ico corner.y.toInt (corner.y.toInt + size.height.toInt)

/-- The widgets are where the layout of the present window puts them, and
rendered at the size that it gives them. -/
structure LaidOut (s : Screen) : Prop where
  hour : Shown s.clock.hour
  minute : Shown s.clock.minute
  hourSize : s.clock.hour.size = s.window.digitsSize
  minuteSize : s.clock.minute.size = s.window.digitsSize
  hourAt : s.hourAt = s.window.hourAt
  minuteAt : s.minuteAt = s.window.minuteAt

/-- Both widgets stay within what their pictures can show. -/
structure Sound (s : Screen) : Prop where
  hour : Consistent s.clock.hour
  minute : Consistent s.clock.minute

theorem laidOut_resizeEvent (h : Sound s) (window : WindowSize) :
    LaidOut (s.resizeEvent window) where
  hour := shown_resize h.hour window.digitsSize
  minute := shown_resize h.minute window.digitsSize
  hourSize := rfl
  minuteSize := rfl
  hourAt := rfl
  minuteAt := rfl

/-- The clock hands its widgets a resize only when it is resized. -/
theorem resize_notMem_widgetActions {w : DigiFlip} {number : QTime → Int32}
    {own : WindowAction → Option Progress} (action : ClockAction) (size : Size) :
    Action.resize size ∉ w.widgetActions number own action.val := by
  obtain ⟨action, hother⟩ := action
  have hprogress : ∀ progress : Option Progress,
      Action.resize size ∉ (progress.map Progress.action).toList := by
    intro progress
    rcases progress with - | progress
    · simp
    · cases progress <;> simp [Progress.action]
  cases action with
  | resizeEvent digits => exact absurd rfl (hother digits)
  | _ => simp [widgetActions, hprogress]

/-- Besides a resize of the window, its widgets keep their sizes and stay
rendered. -/
theorem LaidOut.clock (h : LaidOut s) (action : ClockAction) :
    LaidOut (s.step (.clock action)) := by
  have hhour := step_hour s.clock action.val
  have hminute := step_minute s.clock action.val
  -- Only a resize moves the widgets.
  refine ⟨?_, ?_, ?_, ?_, h.hourAt, h.minuteAt⟩
  · show Shown (s.clock.step action.val).hour
    rw [hhour]
    exact h.hour.run _
  · show Shown (s.clock.step action.val).minute
    rw [hminute]
    exact h.minute.run _
  · show (s.clock.step action.val).hour.size = _
    rw [hhour, run_size _ fun size => resize_notMem_widgetActions action size]
    exact h.hourSize
  · show (s.clock.step action.val).minute.size = _
    rw [hminute, run_size _ fun size => resize_notMem_widgetActions action size]
    exact h.minuteSize

theorem Sound.step (h : Sound s) (action : ScreenAction) : Sound (s.step action) := by
  have hclock : ∀ action, Sound { s with clock := s.clock.step action } := by
    intro action
    refine ⟨?_, ?_⟩
    · show Consistent (s.clock.step action).hour
      rw [step_hour]
      exact h.hour.run _
    · show Consistent (s.clock.step action).minute
      rw [step_minute]
      exact h.minute.run _
  cases action with
  | resizeEvent window => exact ⟨(hclock _).hour, (hclock _).minute⟩
  | clock action => exact hclock action.val

/-- An action leaves the widgets laid out, or lays them out. -/
theorem LaidOut.step (h : LaidOut s) (action : ScreenAction) : LaidOut (s.step action) := by
  cases action with
  | resizeEvent window =>
      exact laidOut_resizeEvent ⟨h.hour.consistent, h.minute.consistent⟩ window
  | clock action => exact h.clock action

theorem LaidOut.run (h : LaidOut s) (actions : List ScreenAction) : LaidOut (s.run actions) := by
  induction actions generalizing s with
  | nil => exact h
  | cons action actions ih => exact ih (h.step action)

theorem Sound.run (h : Sound s) (actions : List ScreenAction) : Sound (s.run actions) := by
  induction actions generalizing s with
  | nil => exact h
  | cons action actions ih => exact ih (h.step action)

theorem sound_constructed (window : WindowSize) (size : Size) (t t' : QTime) :
    Sound (constructed window size t t') :=
  ⟨(constructed_consistent size t t').1, (constructed_consistent size t t').2⟩

theorem LaidOut.of_resized {actions : List ScreenAction} {window : WindowSize} (h : Sound s)
    (hmem : ScreenAction.resizeEvent window ∈ actions) : LaidOut (s.run actions) := by
  obtain ⟨earlier, later, rfl⟩ := List.append_of_mem hmem
  have hsplit : s.run (earlier ++ .resizeEvent window :: later) =
      ((s.run earlier).resizeEvent window).run later := List.foldl_append
  rw [hsplit]
  exact (laidOut_resizeEvent (h.run earlier) window).run later

/-! ## Side by side -/

/-- How the widgets stand in the window. -/
structure Arranged (s : Screen) : Prop where
  /-- The widgets have one size, and never overlap. -/
  sameSize : s.clock.hour.size = s.clock.minute.size
  apart : columns s.hourAt s.clock.hour.size ∩ columns s.minuteAt s.clock.minute.size = ∅
  inside : columns s.hourAt s.clock.hour.size ∪ columns s.minuteAt s.clock.minute.size ⊆
    Set.Ico 0 s.window.width.toInt
  /-- Together they take the width of the window, but for one column of an odd
  width. -/
  wide : columns s.hourAt s.clock.hour.size ∪ columns s.minuteAt s.clock.minute.size =
    Set.Ico 0 (2 * (s.window.width.toInt / 2))
  /-- They are cut off at the top or at the bottom exactly if they are higher than
  the window. -/
  fits : rows s.hourAt s.clock.hour.size ∪ rows s.minuteAt s.clock.minute.size ⊆
      Set.Ico 0 s.window.height.toInt ↔
    s.clock.hour.size.height.toInt ≤ s.window.height.toInt
  /-- They are six fifths as high as they are wide. -/
  height : s.clock.hour.size.height.toInt = 6 * s.clock.hour.size.width.toInt / 5

theorem columns_hour (window : WindowSize) :
    columns window.hourAt window.digitsSize = Set.Ico 0 (window.width.toInt / 2) := by
  have hzero : window.hourAt.x.toInt = 0 := rfl
  have hwidth : window.digitsSize.width.toInt = window.width.toInt / 2 := window.toInt_digitsWidth
  rw [columns, hzero, hwidth, zero_add]

theorem columns_minute (window : WindowSize) :
    columns window.minuteAt window.digitsSize =
      Set.Ico (window.width.toInt / 2) (window.width.toInt / 2 + window.width.toInt / 2) := by
  have hleft : window.minuteAt.x.toInt = window.width.toInt / 2 := window.toInt_digitsWidth
  have hwidth : window.digitsSize.width.toInt = window.width.toInt / 2 := window.toInt_digitsWidth
  rw [columns, hleft, hwidth]

/-- A third of the space is left above the widgets, also where there is none. -/
theorem rows_subset_iff (window : WindowSize) (corner : Point) (htop : corner.y = window.digitsTop) :
    rows corner window.digitsSize ⊆ Set.Ico 0 window.height.toInt ↔
      window.digitsSize.height.toInt ≤ window.height.toInt := by
  have hheight : window.digitsSize.height.toInt = 6 * (window.width.toInt / 2) / 5 :=
    window.toInt_digitsHeight'
  have hwidth := window.width_nonneg
  have hnonneg := window.height_nonneg
  rw [rows, htop, hheight, window.toInt_digitsTop]
  generalize 6 * (window.width.toInt / 2) / 5 = height at *
  rcases le_or_gt height window.height.toInt with hfits | hhigh
  · have hthird : (window.height.toInt - height).tdiv 3 = (window.height.toInt - height) / 3 :=
      Int.tdiv_eq_ediv_of_nonneg (by omega)
    rw [hthird]
    refine ⟨fun _ => hfits, fun _ => Set.Ico_subset_Ico ?_ ?_⟩
    · omega
    · omega
  · have hthird : (window.height.toInt - height).tdiv 3 = -((height - window.height.toInt) / 3) := by
      rw [← Int.neg_sub, Int.neg_tdiv, Int.tdiv_eq_ediv_of_nonneg (by omega)]
    rw [hthird, Set.Ico_subset_Ico_iff (by omega)]
    omega

theorem LaidOut.arranged (h : LaidOut s) : Arranged s := by
  have hwidth := s.window.width_nonneg
  refine ⟨?_, ?_, ?_, ?_, ?_, ?_⟩
  · rw [h.hourSize, h.minuteSize]
  · rw [h.hourSize, h.minuteSize, h.hourAt, h.minuteAt, columns_hour, columns_minute]
    refine Set.eq_empty_of_forall_notMem ?_
    rintro column ⟨⟨-, hleft⟩, hright, -⟩
    omega
  · rw [h.hourSize, h.minuteSize, h.hourAt, h.minuteAt, columns_hour, columns_minute]
    refine Set.union_subset (Set.Ico_subset_Ico_right ?_) (Set.Ico_subset_Ico ?_ ?_)
    · omega
    · omega
    · omega
  · rw [h.hourSize, h.minuteSize, h.hourAt, h.minuteAt, columns_hour, columns_minute,
      Set.Ico_union_Ico_eq_Ico (by omega) (by omega), Int.two_mul]
  · rw [h.hourSize, h.minuteSize, h.hourAt, h.minuteAt, Set.union_subset_iff,
      rows_subset_iff _ _ rfl, rows_subset_iff _ _ rfl, and_self_iff]
  · rw [h.hourSize]
    show (digitsHeight s.window.digitsWidth).toInt = 6 * s.window.digitsWidth.toInt / 5
    rw [s.window.toInt_digitsHeight', s.window.toInt_digitsWidth]

/-- **The layout.**  In every run, from the first resize on, the widgets are
rendered at the size that the present window gives them and stand in it side by
side. -/
theorem screen_laidOut {window : WindowSize} {actions : List ScreenAction} (initial : WindowSize)
    (size : Size) (t t' : QTime) (hmem : ScreenAction.resizeEvent window ∈ actions) :
    LaidOut ((constructed initial size t t').run actions) ∧
      Arranged ((constructed initial size t t').run actions) := by
  have hlaidOut := LaidOut.of_resized (sound_constructed initial size t t') hmem
  exact ⟨hlaidOut, hlaidOut.arranged⟩

/-- The window as `main` opens it, a minute later. -/
theorem screen_laidOut_main :
    let noon : QTime := ⟨12, 0, 0, by decide, by decide, by decide⟩
    let later : QTime := ⟨12, 1, 0, by decide, by decide, by decide⟩
    let s := (constructed .main ⟨100, 30⟩ noon noon).run
      [.resizeEvent .main, .clock ⟨.timerEvent later, by simp⟩]
    s.clock.minute.number = 1 ∧ LaidOut s ∧ Arranged s :=
  ⟨rfl, screen_laidOut .main ⟨100, 30⟩ _ _ List.mem_cons_self⟩

end Screen

end Clock
end DigmaE605
