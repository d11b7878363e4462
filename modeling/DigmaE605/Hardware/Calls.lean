import DigmaE605.Hardware.Capabilities
import DigmaE605.Hardware.Refresh

/-!
# The entry points of `digma_hw.h`

`set_brightness` and `set_led_state`, and the module as its callers see it: a
`Call` for every function of the header, and for the one assignment that
`main` makes, `framebuffer_descriptor = open("/dev/fb0", O_RDWR)`.  A run of
the module is a `Session` over these calls from `Globals.initial`.

* `keeps_call` and `keeps_entry`: only `detect_hardware` changes anything but
  the refresh type, the descriptor and `errno`.
* `Steady` and `Run.steady`: the facts true in every state of every run.
* `Run.latch`: a capability holds what the first successful detection of the
  run found.
-/

namespace DigmaE605
namespace Hardware

open Interaction Program Text

variable {s s' : Globals} {t : Trace} {κ β : Type}

/-! ## The controls -/

/-- `set_brightness`. -/
def setBrightness (value : Int32) : Hw Unit := do
  let s ← get
  if s.hwPlatform = .kobo then do
    let ntxIoFd ← openRdwr .ntxIo
    when (0 ≤ ntxIoFd) (do
      -- the level is clamped from above only
      ioctl ntxIoFd 0xf1 (.int (if 100 < value then 100 else value))
      close ntxIoFd)
  else when (s.hardwareHasBacklight = true) (writeIntToFile s.backlightPath value)

/-- What driving `/dev/ntx_io` does to the outside. -/
def ntxIoTrace (fd value errno : Int32) : Trace :=
  event (.openRdwr .ntxIo) fd ::
    if 0 ≤ fd then [event (.ioctl fd 0xf1 (.int value)) errno, event (.close fd) ()] else []

theorem exec_setBrightness {value : Int32} {result : Unit}
    (h : Exec (setBrightness value) s t result s') :
    (s.hwPlatform = .kobo ∧ ∃ fd errno errno' : Int32,
        t = ntxIoTrace fd (if 100 < value then 100 else value) errno ∧
        s' = s.setErrno errno') ∨
      (s.hwPlatform ≠ .kobo ∧ s.hardwareHasBacklight = true ∧
        WritesText s.backlightPath (decimalText value.toInt) t ∧ s' = s) ∨
      (s.hwPlatform ≠ .kobo ∧ s.hardwareHasBacklight = false ∧ t = [] ∧ s' = s) := by
  rw [setBrightness, exec_get_bind] at h
  rcases exec_ite.mp h with ⟨hkobo, hntx⟩ | ⟨hother, hwrite⟩
  · obtain ⟨first, fd, middle, second, rfl, hopen, hdrive⟩ := exec_bind.mp hntx
    obtain ⟨rfl, rfl⟩ := exec_openRdwr.mp hopen
    refine .inl ⟨hkobo, fd, ?_⟩
    rcases exec_when.mp hdrive with ⟨hfd, hioctl⟩ | ⟨hfd, rfl, rfl⟩
    · obtain ⟨_, _, _, _, rfl, hcall, hclose⟩ := exec_bind.mp hioctl
      obtain ⟨errno, rfl, rfl⟩ := exec_ioctl.mp hcall
      obtain ⟨rfl, rfl⟩ := exec_close.mp hclose
      exact ⟨errno, errno, by simp [ntxIoTrace, hfd], rfl⟩
    · exact ⟨0, s'.errno, by simp [ntxIoTrace, hfd], rfl⟩
  · rcases exec_when.mp hwrite with ⟨hflag, hfile⟩ | ⟨hflag, rfl, rfl⟩
    · obtain ⟨hwritten, rfl⟩ := exec_writeIntToFile.mp hfile
      exact .inr (.inl ⟨hother, hflag, hwritten, rfl⟩)
    · exact .inr (.inr ⟨hother, by simpa using hflag, rfl, rfl⟩)

/-- `set_led_state`. -/
def setLedState (state : Int32) : Hw Unit := do
  let s ← get
  when (s.ledNotify = true ∧ s.hardwareHasLED = true) (do
    match s.ledState.read state with
    | some value => writeIntToFile s.ledPath value
    | none => do
        let value ← outsideArray
        writeIntToFile s.ledPath value)

/-- With notifications off the LED is left alone, array index included. -/
theorem exec_setLedState {state : Int32} {result : Unit} (hnotify : s.ledNotify = false)
    (h : Exec (setLedState state) s t result s') : t = [] ∧ s' = s := by
  rw [setLedState, exec_get_bind] at h
  rcases exec_when.mp h with ⟨⟨hon, -⟩, -⟩ | ⟨-, hquiet⟩
  · exact absurd hon (by simp [hnotify])
  · exact hquiet

/-! ## The calls -/

/-- The update routines. -/
inductive Update
  | full
  | localArea
  | part
  deriving DecidableEq, Repr

/-- The mode a routine hands to the display. -/
def Update.mode : Update → Int32
  | full => 3
  | localArea => 2
  | part => 1

/-- The digit a routine writes to the e-ink mode controller. -/
def Update.digit : Update → Int32
  | full => 0
  | localArea => 2
  | part => 5

/-- The routine itself. -/
def Update.routine : Update → Hw Unit
  | full => epaperUpdateFull
  | localArea => epaperUpdateLocal
  | part => epaperUpdatePart

theorem Update.routine_eq (update : Update) :
    update.routine = epaperUpdateRoutine update.mode update.digit := by
  cases update <;> rfl

/-- What a program that uses the module can do. -/
inductive Call
  | update (update : Update)
  | setBrightness (value : Int32)
  | setLedState (state : Int32)
  | detectHardware
  | detectRefreshType
  | openFramebuffer
  deriving DecidableEq, Repr

/-- `framebuffer_descriptor = open("/dev/fb0", O_RDWR)`, from `main`. -/
def openFramebuffer : Hw Unit := do
  let fd ← openRdwr .framebuffer
  modify fun s => { s with framebufferDescriptor := fd }

/-- Run a function for its result or for nothing. -/
def returning {α ρ : Type} (body : Hw α) (result : α → ρ) : Hw ρ := do
  let value ← body
  pure (result value)

/-- The function behind a call; only `detect_refresh_type` returns a value. -/
def Call.entry : Call → Hw (Option RefreshType)
  | update u => returning u.routine fun _ => none
  | setBrightness value => returning (Hardware.setBrightness value) fun _ => none
  | setLedState state => returning (Hardware.setLedState state) fun _ => none
  | detectHardware => returning Hardware.detectHardware fun _ => none
  | detectRefreshType => returning Hardware.detectRefreshType some
  | openFramebuffer => returning Hardware.openFramebuffer fun _ => none

/-- A completed call of the module. -/
abbrev Done := Deed sys Globals Call (Option RefreshType)

/-- A run of the module. -/
abbrev Run (s : Globals) (h : List Done) (s' : Globals) : Prop :=
  Session Call.entry s h s'

theorem exec_returning {α ρ : Type} {body : Hw α} {result : α → ρ} {value : ρ} :
    Exec (returning body result) s t value s' ↔
      ∃ inner, Exec body s t inner s' ∧ value = result inner := by
  unfold returning
  rw [exec_bind]
  constructor
  · rintro ⟨first, inner, middle, second, rfl, hbody, hpure⟩
    obtain ⟨rfl, rfl, rfl⟩ := exec_pure.mp hpure
    exact ⟨inner, by rwa [List.append_nil], rfl⟩
  · rintro ⟨inner, hbody, rfl⟩
    exact ⟨t, inner, s', [], (List.append_nil t).symm, hbody, exec_pure.mpr ⟨rfl, rfl, rfl⟩⟩

/-! ## What a run preserves -/

/-- What each call may change: `errno`, and, for three of them, the refresh
type, the descriptor and the capabilities. -/
theorem keeps_call {part : Globals → κ} {call : Call}
    (herrno : ∀ s errno, part (Globals.setErrno s errno) = part s)
    (hrefresh : call = .detectRefreshType →
      ∀ s type, part (Globals.setRefreshType s type) = part s)
    (hdescriptor : call = .openFramebuffer →
      ∀ s fd, part { s with framebufferDescriptor := fd } = part s)
    (hdetect : call = .detectHardware → ∀ capability, Capability.Ignored part capability) :
    Keeps part call.entry := by
  cases call with
  | update update =>
      rw [Call.entry, update.routine_eq]
      exact .bind (keeps_epaperUpdateRoutine herrno) fun _ => .pure _
  | setBrightness value =>
      refine .bind ?_ fun _ => .pure _
      intro s t result s' h
      rcases exec_setBrightness h with ⟨-, fd, errno, errno', -, rfl⟩ | ⟨-, -, -, rfl⟩ |
        ⟨-, -, -, rfl⟩
      · exact herrno s errno'
      · rfl
      · rfl
  | setLedState state =>
      refine .bind (.get_bind fun s => .when ?_) fun _ => .pure _
      cases s.ledState.read state with
      | some value => exact keeps_writeTextToFile
      | none => exact .bind (.call _) fun _ => keeps_writeTextToFile
  | detectHardware => exact .bind (keeps_detectHardware (hdetect rfl)) fun _ => .pure _
  | detectRefreshType =>
      exact .bind (keeps_detectRefreshType herrno (hrefresh rfl)) fun _ => .pure _
  | openFramebuffer =>
      exact .bind (.bind (.call _) fun _ => .modify fun s => hdescriptor rfl s _)
        fun _ => .pure _

/-- No call but `detect_hardware` changes anything beyond the refresh type, the
descriptor and `errno`. -/
theorem keeps_entry {part : Globals → κ} {call : Call} (hcall : call ≠ .detectHardware)
    (herrno : ∀ s errno, part (Globals.setErrno s errno) = part s)
    (hrefresh : ∀ s type, part (Globals.setRefreshType s type) = part s)
    (hdescriptor : ∀ s fd, part { s with framebufferDescriptor := fd } = part s) :
    Keeps part call.entry :=
  keeps_call herrno (fun _ => hrefresh) (fun _ => hdescriptor) fun hdetect => absurd hdetect hcall

/-- What is true of the globals in every state of every run. -/
structure Steady (s : Globals) : Prop where
  refreshEnabled : s.enableRefresh = true
  notifyOff : s.ledNotify = false
  backlightPath : s.backlightPath = none ∨
    s.hardwareHasBacklight = true ∧ s.backlightPath = some .boeyeBrightness
  einkModeControlPath : s.hardwareHasEinkModeControl = true →
    s.einkModeControlPath = some .einkmode

theorem Steady.initial : Steady Globals.initial where
  refreshEnabled := rfl
  notifyOff := rfl
  backlightPath := .inl rfl
  einkModeControlPath := fun h => absurd h (by decide)

theorem Steady.backlight_clean (h : Steady s) : backlightLatch.Clean s := by
  intro hopen
  rcases h.backlightPath with hpath | ⟨hflag, -⟩
  · exact hpath
  · exact absurd hflag (by simpa [backlightLatch] using hopen)

/-- Detection finds no other backlight path than the one of the sysfs node. -/
theorem backlightFound_path {path : Node} (h : backlightFound t = some (some path)) :
    path = .boeyeBrightness := by
  unfold backlightFound at h
  split at h
  · exact (Option.some.inj (Option.some.inj h)).symm
  · split at h
    · exact absurd (Option.some.inj h) (by simp)
    · exact absurd h (by simp)

/-- Detection binds no other path than those of its own probes. -/
theorem Steady.detectHardware {result : Unit} (hsteady : Steady s)
    (h : Exec Hardware.detectHardware s t result s') : Steady s' := by
  obtain ⟨hbacklight, hclean⟩ := detectHardware_backlight hsteady.backlight_clean h
  have heink := detectHardware_einkModeControl h
  have hkeeps : Keeps (fun s : Globals => (s.enableRefresh, s.ledNotify))
      Hardware.detectHardware := keeps_detectHardware (by
    intro capability
    cases capability <;> simp [Capability.Ignored])
  have hconst := hkeeps h
  refine ⟨?_, ?_, ?_, ?_⟩
  · exact (congrArg Prod.fst hconst).trans hsteady.refreshEnabled
  · exact (congrArg Prod.snd hconst).trans hsteady.notifyOff
  · -- A path in the new state was there before or comes from this detection.
    cases hflag : s'.hardwareHasBacklight with
    | false => exact .inl (hclean hflag)
    | true =>
        cases hpath : s'.backlightPath with
        | none => exact .inl rfl
        | some path =>
            refine .inr ⟨rfl, ?_⟩
            have hview : backlightLatch.view s' = some (some path) :=
              Latch.view_eq_some_iff.mpr ⟨hflag, hpath⟩
            rw [hbacklight, Option.or_eq_some_iff] at hview
            rcases hview with hold | ⟨-, hnew⟩
            · obtain ⟨-, hpath'⟩ := Latch.view_eq_some_iff.mp hold
              rcases hsteady.backlightPath with hnone | ⟨-, hboeye⟩
              · exact absurd (hnone.symm.trans hpath') (by simp)
              · exact hpath'.symm.trans hboeye
            · rw [backlightFound_path hnew]
  · intro hflag
    have hview : einkModeControlLatch.view s' = some s'.einkModeControlPath :=
      Latch.view_eq_some_iff.mpr ⟨hflag, rfl⟩
    rw [heink, Option.or_eq_some_iff] at hview
    rcases hview with hold | ⟨-, hnew⟩
    · obtain ⟨hflag', hpath⟩ := Latch.view_eq_some_iff.mp hold
      exact hpath.symm.trans (hsteady.einkModeControlPath hflag')
    · unfold einkModeControlFound fileFound at hnew
      split at hnew
      · exact (Option.some.inj hnew).symm
      · exact absurd hnew (by simp)

/-- The globals that `Steady` speaks about. -/
def steadyPart (s : Globals) : (Bool × Bool) × (Bool × Option Node) × (Bool × Option Node) :=
  ((s.enableRefresh, s.ledNotify), (s.hardwareHasBacklight, s.backlightPath),
    (s.hardwareHasEinkModeControl, s.einkModeControlPath))

theorem Steady.congr (h : steadyPart s' = steadyPart s) (hsteady : Steady s) : Steady s' := by
  simp only [steadyPart, Prod.mk.injEq] at h
  obtain ⟨⟨hrefresh, hnotify⟩, ⟨hflag, hpath⟩, heink, heinkPath⟩ := h
  constructor
  · exact hrefresh.trans hsteady.refreshEnabled
  · exact hnotify.trans hsteady.notifyOff
  · rw [hflag, hpath]
    exact hsteady.backlightPath
  · rw [heink, heinkPath]
    exact hsteady.einkModeControlPath

/-- Every call keeps the globals steady. -/
theorem Steady.entry {deed : Done}
    (h : Exec (Call.entry deed.call) deed.before deed.trace deed.result deed.after)
    (hsteady : Steady deed.before) : Steady deed.after := by
  by_cases hcall : deed.call = .detectHardware
  · rw [hcall] at h
    obtain ⟨_, hdetect, -⟩ := exec_returning.mp h
    exact hsteady.detectHardware hdetect
  · have hkept : Keeps steadyPart deed.call.entry :=
      keeps_entry hcall (fun _ _ => rfl) (fun _ _ => rfl) (fun _ _ => rfl)
    exact hsteady.congr (hkept h)

/-- The globals are steady at the end of every run, and before each call. -/
theorem Run.steady {h : List Done} (hrun : Run Globals.initial h s) : Steady s :=
  Session.invariant (fun _ => Steady.entry) hrun Steady.initial

/-! ## What the detections of a run found -/

/-- The trace of the call, if it was a detection. -/
def detectionOf (deed : Done) : Option Trace :=
  if deed.call = .detectHardware then some deed.trace else none

/-- The traces of the detections of a run, in order. -/
def detections (h : List Done) : List Trace := h.filterMap detectionOf

theorem findSome?_detections (found : Trace → Option β) (h : List Done) :
    (detections h).findSome? found = h.findSome? fun deed => (detectionOf deed).bind found := by
  induction h with
  | nil => rfl
  | cons deed h ih =>
      unfold detections at ih ⊢
      rw [List.findSome?_cons, List.filterMap_cons]
      cases hdeed : detectionOf deed with
      | none => simpa using ih
      | some trace =>
          rw [List.findSome?_cons, ih]
          rfl

/-- **First success wins.**  A latch that a detection closes on what it found,
and that no other call touches, holds what the first successful detection of
the run found. -/
theorem Run.latch {latch : Latch Globals β} {found : Trace → Option β} {h : List Done}
    (hopen : latch.view Globals.initial = none)
    (herrno : ∀ s errno, latch.view (Globals.setErrno s errno) = latch.view s)
    (hrefresh : ∀ s type, latch.view (Globals.setRefreshType s type) = latch.view s)
    (hdescriptor : ∀ s fd, latch.view { s with framebufferDescriptor := fd } = latch.view s)
    (hdetect : ∀ t ∈ detections h, ∀ s s', Steady s →
      Exec detectHardware s t () s' → latch.view s' = (latch.view s).or (found t))
    (hrun : Run Globals.initial h s) :
    latch.view s = (detections h).findSome? found := by
  have hentry : ∀ deed ∈ h,
      Exec (Call.entry deed.call) deed.before deed.trace deed.result deed.after →
        Steady deed.before → latch.view deed.after =
          (latch.view deed.before).or ((detectionOf deed).bind found) := by
    intro deed hmem hexec hsteady
    -- A detection closes an open latch; the other calls leave the cell alone.
    by_cases hcall : deed.call = .detectHardware
    · have htrace : detectionOf deed = some deed.trace := by simp [detectionOf, hcall]
      have hdetection : deed.trace ∈ detections h :=
        List.mem_filterMap.mpr ⟨deed, hmem, htrace⟩
      rw [hcall] at hexec
      obtain ⟨_, hexec', -⟩ := exec_returning.mp hexec
      rw [htrace]
      exact hdetect deed.trace hdetection deed.before deed.after hsteady hexec'
    · have hnone : detectionOf deed = none := by simp [detectionOf, hcall]
      have hkept := keeps_entry hcall herrno hrefresh hdescriptor hexec
      rw [hnone, hkept]
      simp
  have hlatch := Session.latch (fun _ => Steady.entry) hentry hrun Steady.initial
  rw [hlatch, hopen, Option.none_or, findSome?_detections]

end Hardware
end DigmaE605
