import DigmaE605.Hardware.BacklightControl
import DigmaE605.Hardware.EinkModeControl
import DigmaE605.Interaction.Extension

/-!
# Putting a Kobo to sleep

`kobo_enter_sleep` of `digma_hw.c` is not declared in the header, but any program
that declares it can call it.  It needs two operations more than the rest of the
module, `nanosleep` and `sync`, so it is an entry point added to the module.

It arms `/sys/power/state-extended`, waits, suspends through `/sys/power/state`
and disarms.  `SleepKept` says what this amounts to in a run that mixes it with
the calls of the header: those calls are a run of their own, the two files are
written by the sleeping calls alone, and between two calls the reader is never
left armed.
-/

namespace DigmaE605
namespace Hardware

open Interaction Program Text

variable {s s' : Globals}

/-! ## The source -/

/-- The operations that only sleeping needs. -/
inductive SleepOp
  | nanosleep (seconds nanoseconds : Int32)
  | sync
  deriving DecidableEq, Repr

/-- The interface of sleeping. -/
abbrev sleepSys : Interface where
  Op := SleepOp
  Ans := fun _ => Unit

/-- The interface of the whole module. -/
abbrev sleepySys : Interface := sys.plus sleepSys

/-- A C function that may sleep. -/
abbrev SleepyHw (α : Type) := Program sleepySys Globals α

def nanosleep (seconds nanoseconds : Int32) : SleepyHw Unit :=
  Program.call (I := sleepySys) (.inr (.nanosleep seconds nanoseconds))

def sync : SleepyHw Unit := Program.call (I := sleepySys) (.inr .sync)

/-- `kobo_enter_sleep` -/
def koboEnterSleep (deepSleep : Int32) : SleepyHw Unit := do
  let s ← get
  when (s.hwPlatform = .kobo) (do
    (writeIntToFile (some .stateExtended) (if deepSleep = 0 then 0 else 1)).lift
    nanosleep 2 0
    sync
    (writeStringToFile (some .powerState) "mem").lift
    (writeIntToFile (some .stateExtended) 0).lift)

/-! ## One call -/

/-- What the sleeping operations leave in a trace. -/
def sleepEvent (op : SleepOp) : Event sleepySys := ⟨.inr op, ()⟩

/-- What is written to arm the reader. -/
def armText (deepSleep : Int32) : List Char := if deepSleep = 0 then ['0'] else ['1']

/-- The trace of a Kobo that goes to sleep: armed before it waits, suspended
after the files were synchronised, disarmed when it wakes up. -/
def FallsAsleep (deepSleep : Int32) (t : List (Event sleepySys)) : Prop :=
  ∃ arm suspend disarm : Trace,
    t = arm.map Event.old ++ sleepEvent (.nanosleep 2 0) :: sleepEvent .sync ::
        (suspend.map Event.old ++ disarm.map Event.old) ∧
      WritesText (some .stateExtended) (armText deepSleep) arm ∧
      WritesText (some .powerState) ['m', 'e', 'm'] suspend ∧
      WritesText (some .stateExtended) ['0'] disarm

theorem decimalText_arm (deepSleep : Int32) :
    decimalText (if deepSleep = 0 then (0 : Int32) else 1).toInt = armText deepSleep := by
  unfold armText
  split <;> decide

theorem exec_koboEnterSleep {deepSleep : Int32} {t : List (Event sleepySys)} {result : Unit}
    (h : Exec (koboEnterSleep deepSleep) s t result s') :
    (s.hwPlatform = .kobo ∧ FallsAsleep deepSleep t ∨ s.hwPlatform ≠ .kobo ∧ t = []) ∧
      s' = s := by
  rw [koboEnterSleep, exec_get_bind] at h
  rcases exec_when.mp h with ⟨hkobo, hsleep⟩ | ⟨hother, rfl, rfl⟩
  · obtain ⟨arm, _, _, _, rfl, harm, hwait⟩ := exec_lift_bind.mp hsleep
    obtain ⟨harmed, rfl⟩ := exec_writeIntToFile.mp harm
    obtain ⟨_, _, rfl, hsync⟩ := exec_call_bind.mp hwait
    obtain ⟨_, _, rfl, hpower⟩ := exec_call_bind.mp hsync
    obtain ⟨suspend, _, _, _, rfl, hsuspend, hwake⟩ := exec_lift_bind.mp hpower
    obtain ⟨hsuspended, rfl⟩ := exec_writeStringToFile.mp hsuspend
    obtain ⟨disarm, rfl, hdisarm⟩ := exec_lift.mp hwake
    obtain ⟨hdisarmed, rfl⟩ := exec_writeIntToFile.mp hdisarm
    rw [decimalText_arm] at harmed
    exact ⟨.inl ⟨hkobo, arm, suspend, disarm, rfl, harmed, hsuspended, hdisarmed⟩, rfl⟩
  · exact ⟨.inr ⟨hother, rfl⟩, rfl⟩

/-! ## Runs with sleep -/

/-- A call of the header, or one of `kobo_enter_sleep`. -/
abbrev SleepyCall := Call ⊕ Int32

/-- The function behind such a call. -/
def sleepyEntry : SleepyCall → SleepyHw (Option RefreshType) :=
  extended Call.entry fun deepSleep => do
    koboEnterSleep deepSleep
    pure none

/-- A completed call. -/
abbrev SleepyDone := Deed sleepySys Globals SleepyCall (Option RefreshType)

/-- A run of the whole module. -/
abbrev SleepyRun (s : Globals) (h : List SleepyDone) (s' : Globals) : Prop :=
  Session sleepyEntry s h s'

/-- What a run attempts to write to a file, in order. -/
def attemptsAt (node : Node) (h : List SleepyDone) : List (List Char) :=
  attemptsOn node (writings (oldPart (h.flatMap Deed.trace)))

/-- Whether the call puts the reader to sleep, and how deep. -/
def sleepOf (deed : SleepyDone) : Option Int32 :=
  match deed.call with
  | .inl _ => none
  | .inr deepSleep => if deed.before.hwPlatform = .kobo then some deepSleep else none

variable {h : List SleepyDone}

/-- The calls of the header are a run of their own. -/
theorem SleepyRun.erase (hrun : SleepyRun s h s') : Run s (oldDeeds h) s' := by
  refine Session.erase ?_ hrun
  intro deepSleep before trace result after hexec
  obtain ⟨_, _, middle, _, rfl, hsleep, hreturn⟩ := exec_bind.mp hexec
  obtain ⟨rfl, rfl, rfl⟩ := exec_pure.mp hreturn
  exact (exec_koboEnterSleep hsleep).2

/-- A call of `kobo_enter_sleep`, inverted. -/
theorem exec_sleepyEntry {deepSleep : Int32} {t : List (Event sleepySys)}
    {result : Option RefreshType} (h : Exec (sleepyEntry (.inr deepSleep)) s t result s') :
    s.hwPlatform = .kobo ∧ FallsAsleep deepSleep t ∨ s.hwPlatform ≠ .kobo ∧ t = [] := by
  obtain ⟨_, _, middle, _, rfl, hsleep, hreturn⟩ := exec_bind.mp h
  obtain ⟨rfl, rfl, rfl⟩ := exec_pure.mp hreturn
  rw [List.append_nil]
  exact (exec_koboEnterSleep hsleep).1

/-- The calls of the header write the backlight node and the controller, no
other file. -/
theorem attemptsOn_call {node : Node} (hsteady : Steady s) (hboeye : node ≠ .boeyeBrightness)
    (heink : node ≠ .einkmode) (call : Call) : attemptsOn node (call.writings s) = [] := by
  cases call with
  | update update =>
      cases hflag : s.hardwareHasEinkModeControl with
      | true =>
          have hpath := hsteady.einkModeControlPath hflag
          simp [Call.writings, hflag, hpath, attemptsOn, heink.symm]
      | false => simp [Call.writings, hflag, attemptsOn]
  | setBrightness value =>
      have hpath : s.backlightPath ≠ some node := by
        -- On a reader that is driven by `ioctl` the path stays unset.
        rcases hsteady.backlightPath with hnone | ⟨-, hsysfs⟩
        · simp [hnone]
        · simp [hsysfs, hboeye.symm]
      by_cases hdrive : s.hwPlatform ≠ .kobo ∧ s.hardwareHasBacklight = true
      · simp [Call.writings, hdrive, attemptsOn, hpath]
      · simp only [Call.writings, if_neg hdrive]
        rfl
  | _ => rfl

/-- What a sleeping call attempts, file by file. -/
def asleepOn (deepSleep : Int32) (node : Node) : List (List Char) :=
  match node with
  | .stateExtended => [armText deepSleep, ['0']]
  | .powerState => [['m', 'e', 'm']]
  | _ => []

theorem FallsAsleep.attempts {deepSleep : Int32} {t : List (Event sleepySys)}
    (hsleep : FallsAsleep deepSleep t) (node : Node) :
    attemptsOn node (writings (oldPart t)) = asleepOn deepSleep node := by
  obtain ⟨arm, suspend, disarm, rfl, harm, hsuspend, hdisarm⟩ := hsleep
  have hold : oldPart (arm.map Event.old ++ sleepEvent (.nanosleep 2 0) ::
      sleepEvent .sync :: (suspend.map Event.old ++ disarm.map Event.old)) =
      arm ++ (suspend ++ disarm) := by
    rw [oldPart_append, oldPart_old]
    congr 1
    exact (oldPart_append _ _).trans (congrArg₂ _ (oldPart_old _) (oldPart_old _))
  rw [hold, writings_append, writings_append, harm.writings_eq, hsuspend.writings_eq,
    hdisarm.writings_eq]
  cases node <;> rfl

/-- A call attempts nothing on the files of sleeping unless it sleeps. -/
theorem attempts_deed {deed : SleepyDone} {node : Node} (hsteady : Steady deed.before)
    (hboeye : node ≠ .boeyeBrightness) (heink : node ≠ .einkmode)
    (hexec : Exec (sleepyEntry deed.call) deed.before deed.trace deed.result deed.after) :
    attemptsOn node (writings (oldPart deed.trace)) =
      (sleepOf deed).toList.flatMap fun deepSleep => asleepOn deepSleep node := by
  obtain ⟨call, before, trace, result, after⟩ := deed
  cases call with
  | inl call =>
      obtain ⟨t, rfl, hcall⟩ := exec_lift.mp hexec
      rw [oldPart_old, exec_writings hsteady hcall]
      exact attemptsOn_call hsteady hboeye heink call
  | inr deepSleep =>
      rcases exec_sleepyEntry hexec with ⟨hkobo, hsleep⟩ | ⟨hother, rfl⟩
      · have hof : sleepOf ⟨.inr deepSleep, before, trace, result, after⟩ = some deepSleep :=
          if_pos hkobo
        rw [hof, hsleep.attempts]
        simp
      · have hof : sleepOf ⟨.inr deepSleep, before, [], result, after⟩ = none := if_neg hother
        rw [hof]
        rfl

/-- The files of sleeping are written by the sleeping calls alone. -/
theorem SleepyRun.attempts {node : Node} (hboeye : node ≠ .boeyeBrightness)
    (heink : node ≠ .einkmode) (hrun : SleepyRun s h s') (hsteady : Steady s) :
    attemptsAt node h = (h.filterMap sleepOf).flatMap fun deepSleep => asleepOn deepSleep node := by
  unfold attemptsAt
  induction hrun with
  | nil state => rfl
  | cons deed hdeed hrest ih =>
      have hhead := attempts_deed hsteady hboeye heink hdeed
      -- A sleeping call keeps the globals, the others keep them steady.
      have hnext : Steady deed.after := by
        have hone : SleepyRun deed.before [deed] deed.after :=
          Session.cons_iff.mpr ⟨rfl, hdeed, Session.nil _⟩
        exact Session.invariant (fun _ => Steady.entry) hone.erase hsteady
      have htail := ih hnext
      rw [List.flatMap_cons, oldPart_append, writings_append, attemptsOn, List.filter_append,
        List.map_append]
      rw [attemptsOn] at hhead htail
      rw [hhead, htail, List.filterMap_cons]
      cases sleepOf deed <;> simp

/-- What a run with sleeping calls keeps to. -/
structure SleepKept (h : List SleepyDone) (s : Globals) : Prop where
  header : Run Globals.initial (oldDeeds h) s
  asleep : ∀ earlier deed later deepSleep, h = earlier ++ deed :: later →
    deed.call = .inr deepSleep →
      KoboSeen (oldDeeds earlier) ∧ FallsAsleep deepSleep deed.trace ∨
        ¬ KoboSeen (oldDeeds earlier) ∧ deed.trace = []
  armed : attemptsAt .stateExtended h =
    (h.filterMap sleepOf).flatMap fun deepSleep => [armText deepSleep, ['0']]
  suspended : attemptsAt .powerState h = (h.filterMap sleepOf).map fun _ => ['m', 'e', 'm']
  disarmed : ∀ earlier later, h = earlier ++ later →
    ∀ text ∈ (attemptsAt .stateExtended earlier).getLast?, text = ['0']

/-- The last attempt of a list of sleeps disarms. -/
theorem getLast?_armed (sleeps : List Int32) :
    ∀ text ∈ (sleeps.flatMap fun deepSleep => [armText deepSleep, ['0']]).getLast?,
      text = ['0'] := by
  induction sleeps with
  | nil => exact fun text hmem => absurd hmem (by simp)
  | cons deepSleep sleeps ih =>
      intro text hmem
      rw [List.flatMap_cons, List.getLast?_append] at hmem
      cases hrest : (sleeps.flatMap fun deepSleep => [armText deepSleep, ['0']]).getLast? with
      | none =>
          rw [hrest] at hmem
          simpa using hmem.symm
      | some last =>
          rw [hrest] at hmem ih
          exact ih text (by simpa using hmem)

/-- **A Kobo never stays armed.**  In every run of the calls of the header and of
`kobo_enter_sleep`, in any order: the calls of the header are a run by
themselves and end in the same globals; a sleeping call does nothing before a
detection has seen a Kobo and goes through all of its steps after it; the two
power files are written by those steps alone, `mem` once for each; and between
two calls the last attempt on `/sys/power/state-extended` was a `0`. -/
theorem koboEnterSleep_kept (hrun : SleepyRun Globals.initial h s) : SleepKept h s := by
  have harmed : ∀ {h' : List SleepyDone} {s'}, SleepyRun Globals.initial h' s' →
      attemptsAt .stateExtended h' =
        (h'.filterMap sleepOf).flatMap fun deepSleep => [armText deepSleep, ['0']] :=
    fun hrun' => SleepyRun.attempts (by decide) (by decide) hrun' Steady.initial
  constructor
  · exact hrun.erase
  · rintro earlier ⟨call, before, trace, result, after⟩ later deepSleep rfl rfl
    obtain ⟨hearlier, hexec, -⟩ := Session.split_deed hrun
    have hkobo := Run.kobo (SleepyRun.erase hearlier)
    rcases exec_sleepyEntry hexec with ⟨hplatform, hsleep⟩ | ⟨hother, htrace⟩
    · exact .inl ⟨hkobo.mp hplatform, hsleep⟩
    · exact .inr ⟨fun hseen => hother (hkobo.mpr hseen), htrace⟩
  · exact harmed hrun
  · have hattempts := SleepyRun.attempts (by decide : Node.powerState ≠ .boeyeBrightness)
      (by decide) hrun Steady.initial
    rw [hattempts, List.map_eq_flatMap]
    rfl
  · rintro earlier later rfl
    -- Up to any point between two calls it is a run, whose last sleep disarmed.
    obtain ⟨middle, hearlier, -⟩ := Session.append_iff.mp hrun
    rw [harmed hearlier]
    exact getLast?_armed _

/-- A reader that sleeps answers as it does otherwise. -/
def Device.respondSleepy (device : Device) : (op : sleepySys.Op) → sleepySys.Ans op × Device
  | .inl op => device.respond op
  | .inr _ => ((), device)

/-- A Kobo that can suspend. -/
def koboGlo : Device where
  present := [.stateExtended, .powerState]
  accepted := []
  apmSuspend := none
  brightness := ⟨[], []⟩

theorem koboEnterSleep_kept_koboGlo :
    let calls := [Sum.inr 1, .inl .detectHardware, .inr 1, .inl (.setBrightness 5), .inr 0]
    let played := Session.playAll sleepyEntry Device.respondSleepy koboGlo Globals.initial calls
    attemptsAt .stateExtended played.1 = [['1'], ['0'], ['0'], ['0']] ∧
      SleepKept played.1 played.2.1 :=
  ⟨by decide, koboEnterSleep_kept (Session.of_playAll _ _ _ _ _)⟩

end Hardware
end DigmaE605
