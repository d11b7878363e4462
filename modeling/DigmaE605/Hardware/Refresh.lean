import DigmaE605.Hardware.FileAccess

/-!
# Refreshing the e-ink display

The refresh probe and the three update routines of `digma_hw.c`.

* `exec_epaperUpdateHelper` is the whole behaviour of the helper: one `ioctl`
  whose `errno` it returns, or nothing but a 1 on a negative descriptor.
* `exec_detectRefreshType` lists the four ways a probe can go.
* `exec_epaperUpdateRoutine` gives the exact shape of an update routine: the
  e-ink mode controller is taken, at most one `ioctl` is issued, and the
  controller is released.

The routines differ in two numbers only: the mode handed to the display and the
digit written to the controller.
-/

namespace DigmaE605
namespace Hardware

open Interaction Program Text

variable {s s' : Globals} {t : Trace} {κ : Type} {part : Globals → κ}

/-! ## The requests of `digma_hw.h` -/

namespace Request

/-- `EPAPER_UPDATE_LOCAL` -/
def epaperUpdateLocal : UInt32 := 0x101

/-- `EPAPER_UPDATE_PART` -/
def epaperUpdatePart : UInt32 := 0x102

/-- `EPAPER_UPDATE_FULL` -/
def epaperUpdateFull : UInt32 := 0x103

/-- `EPAPER_UPDATE_DISPLAY_QT` -/
def epaperUpdateDisplayQt : UInt32 := 0x120d

end Request

/-! ## The helpers -/

/-- `epaper_update_helper`.  The answer is an `errno`, or `TRUE` when there is
no descriptor to talk to. -/
def epaperUpdateHelper (fb : Int32) (ioctlCall : UInt32) (mode : Int32) : Hw Int32 := do
  let s ← get
  if 0 ≤ s.framebufferDescriptor then do
    modify fun s => s.setErrno 0
    ioctl fb ioctlCall (.pointer mode)
    let s ← get
    pure s.errno
  else pure 1

theorem exec_epaperUpdateHelper {fb : Int32} {ioctlCall : UInt32} {mode result : Int32} :
    Exec (epaperUpdateHelper fb ioctlCall mode) s t result s' ↔
      (0 ≤ s.framebufferDescriptor ∧
          t = [event (.ioctl fb ioctlCall (.pointer mode)) result] ∧
          s' = s.setErrno result) ∨
        (¬ 0 ≤ s.framebufferDescriptor ∧ t = [] ∧ result = 1 ∧ s' = s) := by
  unfold epaperUpdateHelper
  rw [exec_get_bind, exec_ite]
  apply or_congr
  · apply and_congr_right
    intro _
    rw [exec_modify_bind, exec_bind]
    constructor
    · rintro ⟨first, _, middle, second, rfl, hioctl, hreturn⟩
      obtain ⟨errno, rfl, rfl⟩ := exec_ioctl.mp hioctl
      rw [exec_get_bind, exec_pure] at hreturn
      obtain ⟨rfl, rfl, rfl⟩ := hreturn
      exact ⟨rfl, rfl⟩
    · rintro ⟨rfl, rfl⟩
      refine ⟨_, (), (s.setErrno result), [], rfl,
        exec_ioctl.mpr ⟨result, rfl, rfl⟩, ?_⟩
      rw [exec_get_bind, exec_pure]
      exact ⟨rfl, rfl, rfl⟩
  · rw [exec_pure]

theorem keeps_epaperUpdateHelper {fb : Int32} {ioctlCall : UInt32} {mode : Int32}
    (herrno : ∀ s errno, part (Globals.setErrno s errno) = part s) :
    Keeps part (epaperUpdateHelper fb ioctlCall mode) := by
  intro s t result s' h
  rcases exec_epaperUpdateHelper.mp h with ⟨-, -, rfl⟩ | ⟨-, -, -, rfl⟩
  · exact herrno s result
  · rfl

/-- `epaperUpdate`. -/
def epaperUpdate (ioctlCall : UInt32) (mode : Int32) : Hw Unit := do
  let s ← get
  if s.enableRefresh = false then pure ()
  else do
    let _ ← epaperUpdateHelper s.framebufferDescriptor ioctlCall mode
    pure ()

theorem exec_epaperUpdate {ioctlCall : UInt32} {mode : Int32} {result : Unit}
    (henabled : s.enableRefresh = true) :
    Exec (epaperUpdate ioctlCall mode) s t result s' ↔
      (0 ≤ s.framebufferDescriptor ∧ ∃ errno : Int32,
          t = [event (.ioctl s.framebufferDescriptor ioctlCall (.pointer mode)) errno] ∧
          s' = s.setErrno errno) ∨
        (¬ 0 ≤ s.framebufferDescriptor ∧ t = [] ∧ s' = s) := by
  unfold epaperUpdate
  have hunlocked : ¬ s.enableRefresh = false := by simp [henabled]
  rw [exec_get_bind, if_neg hunlocked, exec_bind]
  constructor
  · rintro ⟨first, errno, middle, second, rfl, hhelper, hpure⟩
    obtain ⟨rfl, -, rfl⟩ := exec_pure.mp hpure
    rw [List.append_nil]
    rcases exec_epaperUpdateHelper.mp hhelper with ⟨hfb, rfl, rfl⟩ | ⟨hfb, rfl, -, rfl⟩
    · exact .inl ⟨hfb, errno, rfl, rfl⟩
    · exact .inr ⟨hfb, rfl, rfl⟩
  · rintro (⟨hfb, errno, rfl, rfl⟩ | ⟨hfb, rfl, rfl⟩)
    · exact ⟨_, errno, (s.setErrno errno), [], rfl,
        exec_epaperUpdateHelper.mpr (.inl ⟨hfb, rfl, rfl⟩), exec_pure.mpr ⟨rfl, rfl, rfl⟩⟩
    · exact ⟨[], 1, s', [], rfl,
        exec_epaperUpdateHelper.mpr (.inr ⟨hfb, rfl, rfl, rfl⟩),
        exec_pure.mpr ⟨rfl, rfl, rfl⟩⟩

theorem keeps_epaperUpdate {ioctlCall : UInt32} {mode : Int32}
    (herrno : ∀ s errno, part (Globals.setErrno s errno) = part s) :
    Keeps part (epaperUpdate ioctlCall mode) :=
  .get_bind fun _ => .ite (.pure _) (.bind (keeps_epaperUpdateHelper herrno) fun _ => .pure _)

/-! ## The probe -/

/-- `detect_refresh_type`. -/
def detectRefreshType : Hw RefreshType := do
  let s ← get
  let qt ← epaperUpdateHelper s.framebufferDescriptor Request.epaperUpdateDisplayQt 3
  if qt = 0 then do
    modify fun s => s.setRefreshType .new
    let s ← get
    pure s.refreshType
  else do
    let full ← epaperUpdateHelper s.framebufferDescriptor Request.epaperUpdateFull 3
    when (full = 0) (modify fun s => s.setRefreshType .legacy)
    let s ← get
    pure s.refreshType

/-- How a probe went: no descriptor, the Qt request accepted, only the legacy
request accepted, or both refused. -/
inductive ProbeOutcome (s : Globals) : Trace → RefreshType → Globals → Prop
  | noDescriptor (hfb : ¬ 0 ≤ s.framebufferDescriptor) :
      ProbeOutcome s [] s.refreshType s
  | qtAccepted (hfb : 0 ≤ s.framebufferDescriptor) :
      ProbeOutcome s
        [event (.ioctl s.framebufferDescriptor Request.epaperUpdateDisplayQt
          (.pointer 3)) (0 : Int32)]
        .new ((s.setErrno 0).setRefreshType .new)
  | legacyAccepted (hfb : 0 ≤ s.framebufferDescriptor) (qt : Int32) (hqt : qt ≠ 0) :
      ProbeOutcome s
        [event (.ioctl s.framebufferDescriptor Request.epaperUpdateDisplayQt
            (.pointer 3)) qt,
          event (.ioctl s.framebufferDescriptor Request.epaperUpdateFull
            (.pointer 3)) (0 : Int32)]
        .legacy ((s.setErrno 0).setRefreshType .legacy)
  | bothRefused (hfb : 0 ≤ s.framebufferDescriptor) (qt full : Int32) (hqt : qt ≠ 0)
      (hfull : full ≠ 0) :
      ProbeOutcome s
        [event (.ioctl s.framebufferDescriptor Request.epaperUpdateDisplayQt
            (.pointer 3)) qt,
          event (.ioctl s.framebufferDescriptor Request.epaperUpdateFull
            (.pointer 3)) full]
        s.refreshType (s.setErrno full)

theorem exec_detectRefreshType {result : RefreshType}
    (h : Exec detectRefreshType s t result s') : ProbeOutcome s t result s' := by
  unfold detectRefreshType at h
  rw [exec_get_bind, exec_bind] at h
  obtain ⟨first, qt, middle, second, rfl, hqt, hrest⟩ := h
  rcases exec_epaperUpdateHelper.mp hqt with ⟨hfb, rfl, rfl⟩ | ⟨hfb, rfl, rfl, rfl⟩
  · rcases exec_ite.mp hrest with ⟨rfl, hnew⟩ | ⟨hrefused, hlegacy⟩
    · rw [exec_modify_bind, exec_get_bind, exec_pure] at hnew
      obtain ⟨rfl, rfl, rfl⟩ := hnew
      exact .qtAccepted hfb
    · obtain ⟨_, full, _, _, rfl, hfull, hset⟩ := exec_bind.mp hlegacy
      rcases exec_epaperUpdateHelper.mp hfull with ⟨-, rfl, rfl⟩ | ⟨hno, -⟩
      · obtain ⟨_, _, _, _, rfl, hwhen, hreturn⟩ := exec_bind.mp hset
        rw [exec_get_bind, exec_pure] at hreturn
        obtain ⟨rfl, rfl, rfl⟩ := hreturn
        rcases exec_when.mp hwhen with ⟨rfl, hmodify⟩ | ⟨hfull, rfl, rfl⟩
        · obtain ⟨rfl, rfl⟩ := exec_modify.mp hmodify
          exact .legacyAccepted hfb qt hrefused
        · exact .bothRefused hfb qt full hrefused hfull
      · exact absurd hfb hno
  · -- Without a descriptor both helpers return `TRUE`, which is no success.
    rcases exec_ite.mp hrest with ⟨hone, -⟩ | ⟨-, hlegacy⟩
    · exact absurd hone (by decide)
    · obtain ⟨_, full, _, _, rfl, hfull, hset⟩ := exec_bind.mp hlegacy
      rcases exec_epaperUpdateHelper.mp hfull with ⟨hyes, -⟩ | ⟨-, rfl, rfl, rfl⟩
      · exact absurd hyes hfb
      · obtain ⟨_, _, _, _, rfl, hwhen, hreturn⟩ := exec_bind.mp hset
        rw [exec_get_bind, exec_pure] at hreturn
        obtain ⟨rfl, rfl, rfl⟩ := hreturn
        rcases exec_when.mp hwhen with ⟨hone, -⟩ | ⟨-, rfl, rfl⟩
        · exact absurd hone (by decide)
        · exact .noDescriptor hfb

theorem keeps_detectRefreshType
    (herrno : ∀ s errno, part (Globals.setErrno s errno) = part s)
    (hrefresh : ∀ s type, part (Globals.setRefreshType s type) = part s) :
    Keeps part detectRefreshType := by
  refine .get_bind fun _ => .bind (keeps_epaperUpdateHelper herrno) fun _ => .ite ?_ ?_
  · exact .bind (.modify fun s => hrefresh s _) fun _ => .get_bind fun _ => .pure _
  · refine .bind (keeps_epaperUpdateHelper herrno) fun _ => ?_
    exact .bind (.when (.modify fun s => hrefresh s _)) fun _ => .get_bind fun _ => .pure _

/-! ## The update routines -/

/-- The common body of `epaperUpdateFull`, `epaperUpdateLocal` and
`epaperUpdatePart`. -/
def epaperUpdateRoutine (mode digit : Int32) : Hw Unit := do
  let s ← get
  when (s.hardwareHasEinkModeControl = true) (do
    writeStringToFile s.einkModeControlPath "m"
    writeIntToFile s.einkModeControlPath digit)
  let s ← get
  -- the branches for the other protocols are commented out in the source
  when (s.refreshType = .new) (epaperUpdate Request.epaperUpdateDisplayQt mode)
  let s ← get
  when (s.hardwareHasEinkModeControl = true)
    (writeStringToFile s.einkModeControlPath "q")

/-- `epaperUpdateFull`. -/
def epaperUpdateFull : Hw Unit := epaperUpdateRoutine 3 0

/-- `epaperUpdateLocal`. -/
def epaperUpdateLocal : Hw Unit := epaperUpdateRoutine 2 2

/-- `epaperUpdatePart`. -/
def epaperUpdatePart : Hw Unit := epaperUpdateRoutine 1 5

theorem keeps_epaperUpdateRoutine {mode digit : Int32}
    (herrno : ∀ s errno, part (Globals.setErrno s errno) = part s) :
    Keeps part (epaperUpdateRoutine mode digit) := by
  refine .get_bind fun _ => .bind (.when ?_) fun _ => .get_bind fun _ => ?_
  · exact .bind keeps_writeTextToFile fun _ => keeps_writeTextToFile
  · exact .bind (.when (keeps_epaperUpdate herrno)) fun _ => .get_bind fun _ =>
      .when keeps_writeTextToFile

/-- What an update routine does between taking and releasing the controller. -/
inductive Refreshed (s : Globals) (mode : Int32) : Trace → Globals → Prop
  | sent (hnew : s.refreshType = .new) (hfb : 0 ≤ s.framebufferDescriptor)
      (errno : Int32) :
      Refreshed s mode
        [event (.ioctl s.framebufferDescriptor Request.epaperUpdateDisplayQt
          (.pointer mode)) errno]
        (s.setErrno errno)
  | skipped (hskip : s.refreshType ≠ .new ∨ ¬ 0 ≤ s.framebufferDescriptor) :
      Refreshed s mode [] s

/-- The trace of an update routine: `take` and `release` are the writes to the
controller, both empty on a reader without one. -/
structure UpdateTrace (s : Globals) (mode digit : Int32) (t : Trace) (s' : Globals) where
  take : Trace
  refresh : Trace
  release : Trace
  trace_eq : t = take ++ (refresh ++ release)
  refreshed : Refreshed s mode refresh s'
  taken : s.hardwareHasEinkModeControl = true →
    ∃ manual number, take = manual ++ number ∧
      WritesText s.einkModeControlPath ['m'] manual ∧
      WritesText s.einkModeControlPath (decimalText digit.toInt) number
  released : s.hardwareHasEinkModeControl = true →
    WritesText s.einkModeControlPath ['q'] release
  untouched : s.hardwareHasEinkModeControl = false → take = [] ∧ release = []

theorem exec_refresh {mode : Int32} {result : Unit} (henabled : s.enableRefresh = true)
    (h : Exec (when (s.refreshType = .new)
      (epaperUpdate Request.epaperUpdateDisplayQt mode)) s t result s') :
    Refreshed s mode t s' := by
  rcases exec_when.mp h with ⟨hnew, hupdate⟩ | ⟨hold, rfl, rfl⟩
  · rcases (exec_epaperUpdate henabled).mp hupdate with ⟨hfb, errno, rfl, rfl⟩ | ⟨hfb, rfl, rfl⟩
    · exact .sent hnew hfb errno
    · exact .skipped (.inr hfb)
  · exact .skipped (.inl hold)

theorem Refreshed.frame {mode : Int32} (h : Refreshed s mode t s') :
    ∃ errno, s' = s.setErrno errno := by
  cases h with
  | sent _ _ errno => exact ⟨errno, rfl⟩
  | skipped _ => exact ⟨s.errno, rfl⟩

theorem exec_epaperUpdateRoutine {mode digit : Int32} {result : Unit}
    (henabled : s.enableRefresh = true)
    (h : Exec (epaperUpdateRoutine mode digit) s t result s') :
    Nonempty (UpdateTrace s mode digit t s') := by
  unfold epaperUpdateRoutine at h
  rw [exec_get_bind, exec_bind] at h
  obtain ⟨take, _, middle, _, rfl, htake, hrest⟩ := h
  rw [exec_get_bind, exec_bind] at hrest
  obtain ⟨refresh, _, refreshedState, release, rfl, hrefresh, hrelease⟩ := hrest
  rw [exec_get_bind] at hrelease
  -- The flag is read again before the release; only `errno` has changed since.
  rcases exec_when.mp htake with ⟨heink, hwrites⟩ | ⟨heink, rfl, rfl⟩
  · obtain ⟨manual, _, _, number, rfl, hmanual, hnumber⟩ := exec_bind.mp hwrites
    obtain ⟨htaken, rfl⟩ := exec_writeStringToFile.mp hmanual
    obtain ⟨hchosen, rfl⟩ := exec_writeIntToFile.mp hnumber
    have hrefreshed := exec_refresh henabled hrefresh
    obtain ⟨errno, rfl⟩ := hrefreshed.frame
    rcases exec_when.mp hrelease with ⟨-, hquit⟩ | ⟨hno, -⟩
    · obtain ⟨hreleased, rfl⟩ := exec_writeStringToFile.mp hquit
      exact ⟨{ take := manual ++ number, refresh := refresh, release := release
               trace_eq := rfl, refreshed := hrefreshed
               taken := fun _ => ⟨manual, number, rfl, htaken, hchosen⟩
               released := fun _ => hreleased
               untouched := fun hno => absurd heink (by simp [hno]) }⟩
    · exact absurd heink hno
  · have hrefreshed := exec_refresh henabled hrefresh
    obtain ⟨errno, rfl⟩ := hrefreshed.frame
    rcases exec_when.mp hrelease with ⟨hyes, -⟩ | ⟨-, rfl, rfl⟩
    · exact absurd hyes heink
    · exact ⟨{ take := [], refresh := refresh, release := []
               trace_eq := rfl, refreshed := hrefreshed
               taken := fun hyes => absurd hyes heink
               released := fun hyes => absurd hyes heink
               untouched := fun _ => ⟨rfl, rfl⟩ }⟩

end Hardware
end DigmaE605
