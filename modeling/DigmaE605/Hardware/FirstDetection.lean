import DigmaE605.Hardware.Device

/-!
# The first successful detection wins

`detect_hardware` may run any number of times, against files that come and go
and a linker that may or may not find `libapm.so`.  After any run, a capability
flag is up exactly when some detection of the run probed the capability
successfully, and what is bound to it is what the first such detection bound.

`FirstWins` states this for one flag.  `Run.firstWins` derives it for every
latch from its reference value, the first success of the run, so that each
capability only supplies its own reference.
-/

namespace DigmaE605
namespace Hardware

open Interaction Program Text

variable {s : Globals} {h : List Done} {β : Type}

/-- First success wins: the flag tells whether some detection of the run probed
successfully, and the bound value is the one the first of them left. -/
structure FirstWins (flag : Globals → Bool) (bound : Globals → β) (probed : Trace → Prop)
    (h : List Done) (s : Globals) : Prop where
  flag_iff : flag s = true ↔ ∃ t ∈ detections h, probed t
  bound_eq : ∀ earlier deed later, h = earlier ++ deed :: later →
    deed.call = .detectHardware → probed deed.trace →
    (∀ t ∈ detections earlier, ¬ probed t) → bound s = bound deed.after

/-- A detection probed one of the LED nodes successfully. -/
def LedProbed (t : Trace) : Prop := ∃ row ∈ ledRows, reported row.node t = true

/-- A detection found `/dev/apm_bios`, and its `dlopen` and `dlsym` succeeded. -/
def ApmProbed (t : Trace) : Prop :=
  reported .apmBios t = true ∧ (∃ e ∈ t, libraryOpened e = true) ∧
    ∃ e ∈ t, (symbolLoaded e).isSome = true

theorem ledProbed_iff (t : Trace) : LedProbed t ↔ (ledFound t).isSome = true := by
  unfold LedProbed ledFound
  rw [List.find?_isSome]

theorem apmProbed_iff (t : Trace) : ApmProbed t ↔ (apmFound t).isSome = true := by
  unfold ApmProbed apmFound
  rw [← List.any_eq_true, ← List.findSome?_isSome_iff]
  cases reported .apmBios t <;> cases t.any libraryOpened <;> simp

theorem fileProbed_iff (node : Node) (bound : β) (t : Trace) :
    reported node t = true ↔ (fileFound node bound t).isSome = true := by
  unfold fileFound
  cases reported node t <;> simp

/-- A linker that keeps its contract never yields a `NULL` function. -/
theorem apmFound_ne_none {t : Trace} {pointer : Option Nat} (hcontract : LinkerContract t)
    (hfound : apmFound t = some pointer) : pointer ≠ none := by
  unfold apmFound at hfound
  split at hfound
  · obtain ⟨⟨op, answer⟩, hmem, hloaded⟩ := List.exists_of_findSome?_eq_some hfound
    have hnonnull := hcontract.dlsymNonNull _ hmem
    cases op with
    | dlsym handle symbol =>
        have hsymbol : (if (show DlResult from answer).failed then none
            else some (show DlResult from answer).pointer) = some pointer := hloaded
        split at hsymbol
        · exact absurd hsymbol (by simp)
        · rename_i hfailed
          have hpointer := Option.some.inj hsymbol
          exact hpointer ▸ hnonnull (by simpa using hfailed)
    | _ => exact absurd hloaded (by simp [symbolLoaded])
  · exact absurd hfound (by simp)

/-- The detections of a run that goes on. -/
theorem detections_append (earlier later : List Done) :
    detections (earlier ++ later) = detections earlier ++ detections later :=
  List.filterMap_append

theorem detections_cons {deed : Done} (hcall : deed.call = .detectHardware)
    (later : List Done) : detections (deed :: later) = deed.trace :: detections later := by
  simp [detections, detectionOf, hcall]

/-- A latch whose content is the first success of every run obeys `FirstWins`.
The detections may be assumed to keep a contract. -/
theorem Run.firstWins (latch : Latch Globals β) {contract : Trace → Prop}
    {found : Trace → Option β} {probed : Trace → Prop}
    (hprobed : ∀ t, probed t ↔ (found t).isSome = true)
    (hlatch : ∀ {h s}, (∀ t ∈ detections h, contract t) → Run Globals.initial h s →
      latch.view s = (detections h).findSome? found)
    (hcontract : ∀ t ∈ detections h, contract t) (hrun : Run Globals.initial h s) :
    FirstWins latch.closed latch.value probed h s where
  flag_iff := by
    rw [← Latch.view_isSome, hlatch hcontract hrun, List.findSome?_isSome_iff]
    apply exists_congr
    intro t
    rw [hprobed t]
  bound_eq := by
    rintro earlier deed later rfl hcall hdeed hearlier
    have hnone : (detections earlier).findSome? found = none := by
      rw [List.findSome?_eq_none_iff]
      intro t ht
      have hmiss := hearlier t ht
      rwa [hprobed t, Bool.not_eq_true, Option.isSome_eq_false_iff, Option.isNone_iff_eq_none]
        at hmiss
    obtain ⟨value, hvalue⟩ := Option.isSome_iff_exists.mp ((hprobed deed.trace).mp hdeed)
    -- The run up to this detection and the whole run hold the same first success.
    have hfirst : ∀ rest, (detections (earlier ++ deed :: rest)).findSome? found = some value := by
      intro rest
      rw [detections_append, detections_cons hcall, List.findSome?_append, hnone,
        List.findSome?_cons, hvalue]
      rfl
    obtain ⟨hbefore, hexec, -⟩ := Session.split_deed hrun
    have hshort : Run Globals.initial (earlier ++ [deed]) deed.after :=
      Session.append_iff.mpr ⟨deed.before, hbefore,
        Session.cons_iff.mpr ⟨rfl, hexec, Session.nil deed.after⟩⟩
    have hcontract' : ∀ t ∈ detections (earlier ++ [deed]), contract t := by
      intro t ht
      apply hcontract t
      rw [detections_append, detections_cons hcall] at ht ⊢
      simp only [List.mem_append, List.mem_cons] at ht ⊢
      rcases ht with ht | rfl | ht
      · exact .inl ht
      · exact .inr (.inl rfl)
      · exact absurd ht (by simp [detections])
    have hend := hlatch hcontract hrun
    have hthen := hlatch hcontract' hshort
    rw [hfirst later] at hend
    rw [hfirst []] at hthen
    exact (Latch.view_eq_some_iff.mp hend).2.trans (Latch.view_eq_some_iff.mp hthen).2.symm

/-! ## The reference of each capability -/

theorem Run.led (hrun : Run Globals.initial h s) :
    ledLatch.view s = (detections h).findSome? fun t => (ledFound t).map LedRow.bound :=
  Run.latch rfl (fun _ _ => rfl) (fun _ _ => rfl) (fun _ _ => rfl)
    (fun _ _ _ _ _ hexec => detectHardware_led hexec) hrun

theorem Run.sysfsSleep (hrun : Run Globals.initial h s) :
    sysfsSleepLatch.view s = (detections h).findSome? sysfsSleepFound :=
  Run.latch rfl (fun _ _ => rfl) (fun _ _ => rfl) (fun _ _ => rfl)
    (fun _ _ _ _ _ hexec => detectHardware_sysfsSleep hexec) hrun

theorem Run.einkModeControl (hrun : Run Globals.initial h s) :
    einkModeControlLatch.view s = (detections h).findSome? einkModeControlFound :=
  Run.latch rfl (fun _ _ => rfl) (fun _ _ => rfl) (fun _ _ => rfl)
    (fun _ _ _ _ _ hexec => detectHardware_einkModeControl hexec) hrun

theorem Run.apm (hlinker : ∀ t ∈ detections h, LinkerContract t)
    (hrun : Run Globals.initial h s) :
    apmLatch.view s = (detections h).findSome? apmFound :=
  Run.latch rfl (fun _ _ => rfl) (fun _ _ => rfl) (fun _ _ => rfl)
    (fun t ht _ _ _ hexec => detectHardware_apm (hlinker t ht) hexec) hrun

/-- The LED keeps the first row that the first successful detection reported. -/
theorem Run.led_row {row : LedRow} (hrun : Run Globals.initial h s)
    (hrow : (detections h).findSome? ledFound = some row) :
    s.ledPath = some row.node ∧ s.ledState = row.states := by
  have href : (detections h).findSome? (fun t => (ledFound t).map LedRow.bound) =
      ((detections h).findSome? ledFound).map LedRow.bound := by
    rw [List.map_findSome?]
    rfl
  have hview : ledLatch.view s = some row.bound := by
    rw [hrun.led, href, hrow]
    rfl
  obtain ⟨-, hbound⟩ := Latch.view_eq_some_iff.mp hview
  exact ⟨congrArg Prod.fst hbound, congrArg Prod.snd hbound⟩

/-- A capability with one file and one path has that path bound once it is there. -/
theorem fileFound_bound {node : Node} {latch : Latch Globals (Option Node)}
    (hview : latch.view s = (detections h).findSome? (fileFound node (some node)))
    (hclosed : latch.closed s = true) : latch.value s = some node := by
  have hsome : latch.view s = some (latch.value s) :=
    Latch.view_eq_some_iff.mpr ⟨hclosed, rfl⟩
  rw [hview] at hsome
  obtain ⟨t, -, hfound⟩ := List.exists_of_findSome?_eq_some hsome
  unfold fileFound at hfound
  split at hfound
  · exact (Option.some.inj hfound).symm
  · exact absurd hfound (by simp)

theorem Run.apm_bound (hlinker : ∀ t ∈ detections h, LinkerContract t)
    (hrun : Run Globals.initial h s) (hflag : s.hardwareHasAPM = true) :
    (detections h).findSome? apmFound = some s.apmSuspend ∧ s.apmSuspend ≠ none := by
  have hview : apmLatch.view s = some s.apmSuspend :=
    Latch.view_eq_some_iff.mpr ⟨hflag, rfl⟩
  rw [hrun.apm hlinker] at hview
  obtain ⟨t, ht, hfound⟩ := List.exists_of_findSome?_eq_some hview
  exact ⟨hview, apmFound_ne_none (hlinker t ht) hfound⟩

/-- What a run has made of the four capabilities. -/
structure FirstDetectionWins (h : List Done) (s : Globals) : Prop where
  led : FirstWins Globals.hardwareHasLED (fun s => (s.ledPath, s.ledState)) LedProbed h s
  ledRow : ∀ row, (detections h).findSome? ledFound = some row →
    s.ledPath = some row.node ∧ s.ledState = row.states
  sysfsSleep : FirstWins Globals.hardwareHasSysfsSleep Globals.sysfsSleepPath
    (fun t => reported .powerState t = true) h s
  sysfsSleepPath : s.hardwareHasSysfsSleep = true → s.sysfsSleepPath = some .powerState
  einkModeControl : FirstWins Globals.hardwareHasEinkModeControl Globals.einkModeControlPath
    (fun t => reported .einkmode t = true) h s
  einkModeControlPath :
    s.hardwareHasEinkModeControl = true → s.einkModeControlPath = some .einkmode
  apm : FirstWins Globals.hardwareHasAPM Globals.apmSuspend ApmProbed h s
  apmSuspend : s.hardwareHasAPM = true →
    (detections h).findSome? apmFound = some s.apmSuspend ∧ s.apmSuspend ≠ none

/-- **Detection is "first success wins".**  For a linker that keeps its
contract, after every run each of the four capabilities is there exactly when
some detection of the run probed it successfully, and it is bound to what the
first such detection bound: for the LED the path and the table of the first row
reported, for the other files their path, for APM the function that was
loaded, which is not `NULL`. -/
theorem detectHardware_firstWins (hlinker : ∀ t ∈ detections h, LinkerContract t)
    (hrun : Run Globals.initial h s) : FirstDetectionWins h s := by
  have hfree : ∀ t ∈ detections h, True := fun _ _ => trivial
  constructor
  · have hprobed : ∀ t, LedProbed t ↔ ((ledFound t).map LedRow.bound).isSome = true := by
      intro t
      rw [ledProbed_iff, Option.isSome_map]
    exact Run.firstWins ledLatch hprobed (fun _ => Run.led) hfree hrun
  · exact fun row => hrun.led_row
  · exact Run.firstWins sysfsSleepLatch (fileProbed_iff _ _) (fun _ => Run.sysfsSleep)
      hfree hrun
  · exact fileFound_bound hrun.sysfsSleep
  · exact Run.firstWins einkModeControlLatch (fileProbed_iff _ _)
      (fun _ => Run.einkModeControl) hfree hrun
  · exact fileFound_bound hrun.einkModeControl
  · exact Run.firstWins apmLatch apmProbed_iff Run.apm hlinker hrun
  · exact hrun.apm_bound hlinker

/-- A Ritmix RBK700HD with a second LED node, detected before and after an
update. -/
def ritmix : Device where
  present := [.axp192Led, .pmicLed, .apmBios, .powerState, .einkmode]
  accepted := [Request.epaperUpdateDisplayQt]
  apmSuspend := some 7
  brightness := ⟨[], []⟩

theorem detectHardware_firstWins_ritmix :
    let calls := [Call.detectHardware, .update .full, .detectHardware]
    (ritmix.run Globals.initial calls).2.ledPath = some .axp192Led ∧
      FirstDetectionWins (ritmix.run Globals.initial calls).1
        (ritmix.run Globals.initial calls).2 :=
  ⟨by decide, detectHardware_firstWins (by decide) (ritmix.run_isRun _ _)⟩

end Hardware
end DigmaE605
