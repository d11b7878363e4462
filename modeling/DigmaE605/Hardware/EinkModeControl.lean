import DigmaE605.Hardware.Effects
import DigmaE605.Hardware.Device

/-!
# The e-ink mode controller is released

An update routine takes `/sys/eink/einkmode` with `m`, chooses a mode with a
digit and releases it with `q`.  Over any run, the attempts on that file are
the blocks `m`, digit, `q` of the update calls made with a controller, and
nothing else; within a block at most one request goes to the framebuffer,
between the digit and the `q`.

`exec_controllerAttempts` computes the attempts of one call, `Run.attempts`
adds them up by induction on the run, and `Run.balanced` counts them.
-/

namespace DigmaE605
namespace Hardware

open Interaction Program Text

variable {s s' : Globals} {t t' : Trace} {h : List Done}

/-- What is attempted on one file, in order. -/
def attemptsOn (node : Node) (writes : List (Option Node × List Char)) : List (List Char) :=
  (writes.filter fun write => write.1 == some node).map Prod.snd

/-- The attempts on the e-ink mode controller. -/
def controllerAttempts (t : Trace) : List (List Char) := attemptsOn .einkmode (writings t)

@[simp] theorem controllerAttempts_append (t t' : Trace) :
    controllerAttempts (t ++ t') = controllerAttempts t ++ controllerAttempts t' := by
  simp [controllerAttempts, attemptsOn]

/-- `m`, the digit of the routine, `q`. -/
def Update.block (update : Update) : List (List Char) :=
  [['m'], decimalText update.digit.toInt, ['q']]

example : Update.block .full = [['m'], ['0'], ['q']] ∧
    Update.block .localArea = [['m'], ['2'], ['q']] ∧
    Update.block .part = [['m'], ['5'], ['q']] := by decide

/-- The block of a call: none without a controller, none for other calls. -/
def controllerBlock (deed : Done) : List (List Char) :=
  match deed.call with
  | .update u => if deed.before.hardwareHasEinkModeControl = true then u.block else []
  | _ => []

/-- The steps of a block, in order: the request, if there is one, comes after
the digit and before the `q`, and names the mode of the routine. -/
def ControllerHeld (update : Update) (fd : Int32) (t : Trace) : Prop :=
  ∃ manual number refresh release,
    t = manual ++ (number ++ (refresh ++ release)) ∧
      WritesText (some .einkmode) ['m'] manual ∧
      WritesText (some .einkmode) (decimalText update.digit.toInt) number ∧
      (refresh = [] ∨ ∃ (request : UInt32) (errno : Int32),
        refresh = [event (.ioctl fd request (.pointer update.mode)) errno]) ∧
      WritesText (some .einkmode) ['q'] release

/-- A call attempts its block on the controller.  Brightness goes to another
file, or to none. -/
theorem exec_controllerAttempts {deed : Done} (hsteady : Steady deed.before)
    (hdeed : Exec (Call.entry deed.call) deed.before deed.trace deed.result deed.after) :
    controllerAttempts deed.trace = controllerBlock deed := by
  unfold controllerAttempts controllerBlock
  rw [exec_writings hsteady hdeed]
  cases deed.call with
  | update update =>
      cases hflag : deed.before.hardwareHasEinkModeControl with
      | true =>
          have hpath := hsteady.einkModeControlPath hflag
          simp [Call.writings, hflag, hpath, attemptsOn, Update.block]
      | false => simp [Call.writings, hflag, attemptsOn]
  | setBrightness value =>
      have hpath : deed.before.backlightPath ≠ some .einkmode := by
        rcases hsteady.backlightPath with hnone | ⟨-, hboeye⟩
        · simp [hnone]
        · simp [hboeye]
      by_cases hdrive : deed.before.hwPlatform ≠ .kobo ∧
          deed.before.hardwareHasBacklight = true
      · simp [Call.writings, hdrive, attemptsOn, hpath]
      · simp only [Call.writings, if_neg hdrive]
        rfl
  | _ => rfl

/-- An update with a controller holds it around its request. -/
theorem exec_controllerHeld {update : Update} {result : Option RefreshType}
    (hsteady : Steady s) (hflag : s.hardwareHasEinkModeControl = true)
    (hexec : Exec (Call.entry (.update update)) s t result s') :
    ControllerHeld update s.framebufferDescriptor t := by
  obtain ⟨u⟩ := exec_update hsteady hexec
  have hpath := hsteady.einkModeControlPath hflag
  obtain ⟨manual, number, htake, hmanual, hnumber⟩ := u.taken hflag
  have hrelease := u.released hflag
  rw [hpath] at hmanual hnumber hrelease
  refine ⟨manual, number, u.refresh, u.release, ?_, hmanual, hnumber, ?_, hrelease⟩
  · have htrace := u.trace_eq
    rwa [htake, List.append_assoc] at htrace
  · have hrefreshed := u.refreshed
    generalize u.refresh = refresh at hrefreshed
    cases hrefreshed with
    | sent hnew hfb errno => exact .inr ⟨_, errno, rfl⟩
    | skipped hskip => exact .inl rfl

/-- The attempts of a run are the blocks of its calls. -/
theorem Run.attempts (hrun : Run s h s') (hsteady : Steady s) :
    controllerAttempts (runTrace h) = h.flatMap controllerBlock := by
  induction hrun with
  | nil state => rfl
  | cons deed hdeed _ ih =>
      have hhead := exec_controllerAttempts hsteady hdeed
      have htail := ih (hsteady.entry hdeed)
      unfold runTrace at htail ⊢
      rw [List.flatMap_cons, controllerAttempts_append, hhead, htail, List.flatMap_cons]

theorem controllerBlock_balanced (deed : Done) :
    (controllerBlock deed).count ['m'] = (controllerBlock deed).count ['q'] := by
  unfold controllerBlock
  cases deed.call with
  | update update =>
      dsimp only
      split
      · cases update <;> decide
      · rfl
  | _ => rfl

/-- As many `m` as `q` have been attempted when a run stops. -/
theorem Run.balanced (hrun : Run s h s') (hsteady : Steady s) :
    (controllerAttempts (runTrace h)).count ['m'] =
      (controllerAttempts (runTrace h)).count ['q'] := by
  rw [hrun.attempts hsteady, List.count_flatMap, List.count_flatMap]
  congr 1
  apply List.map_congr_left
  intro deed _
  exact controllerBlock_balanced deed

/-- The controller is released: every attempt belongs to a block, a block
holds its request, and no run stops between an `m` and its `q`. -/
structure ControllerReleased (h : List Done) : Prop where
  attempts : controllerAttempts (runTrace h) = h.flatMap controllerBlock
  held : ∀ deed ∈ h, ∀ update, deed.call = .update update →
    deed.before.hardwareHasEinkModeControl = true →
      ControllerHeld update deed.before.framebufferDescriptor deed.trace
  balanced : ∀ earlier later, h = earlier ++ later →
    (controllerAttempts (runTrace earlier)).count ['m'] =
      (controllerAttempts (runTrace earlier)).count ['q']

/-- **The e-ink mode controller is always released**, after every run, whatever
files, descriptors and requests do. -/
theorem einkModeControl_released (hrun : Run Globals.initial h s) : ControllerReleased h := by
  constructor
  · exact hrun.attempts Steady.initial
  · intro deed hmem update hcall hflag
    obtain ⟨hsteady, hexec⟩ :=
      Session.invariant_before (fun _ => Steady.entry) hrun Steady.initial hmem
    rw [hcall] at hexec
    exact exec_controllerHeld hsteady hflag hexec
  · rintro earlier later rfl
    obtain ⟨middle, hearlier, -⟩ := Session.append_iff.mp hrun
    exact Run.balanced hearlier Steady.initial

/-- A Digma reader with a controller, whose display refuses every request. -/
def deafDisplay : Device where
  present := [.einkmode, .framebuffer]
  accepted := []
  apmSuspend := none
  brightness := ⟨[], []⟩

theorem einkModeControl_released_deafDisplay :
    let h := (deafDisplay.run Globals.initial
      [.update .full, .detectHardware, .openFramebuffer, .update .part, .update .localArea]).1
    controllerAttempts (runTrace h) = Update.block .part ++ Update.block .localArea ∧
      ControllerReleased h :=
  ⟨by decide, einkModeControl_released (deafDisplay.run_isRun _ _)⟩

end Hardware
end DigmaE605
