import Mathlib.Data.List.Chain
import Mathlib.Data.List.Find
import DigmaE605.Hardware.Detection
import DigmaE605.Interaction.Session

/-!
# What one detection finds

Each capability is a latch: a flag and what is bound when the flag goes up.
The reference for a detection is a function of its trace alone, `koboFound`,
`backlightFound`, `ledFound`, `apmFound`, `sysfsSleepFound` and
`einkModeControlFound`: what the probes of this one call reported, with no word
about earlier calls.

The theorems `detectHardware_...` say that `detect_hardware` refines the
write-once cell: an open latch takes what the call found, a closed latch stays
as it is.
-/

namespace DigmaE605
namespace Hardware

open Interaction Program Text

variable {s s' : Globals} {t : Trace} {β : Type}

/-! ## The latches -/

/-- The platform, once it is known to be a Kobo. -/
def koboLatch : Latch Globals Unit where
  closed := fun s => s.hwPlatform == .kobo
  value := fun _ => ()
  unset := ()

/-- The backlight and the path `set_brightness` writes to. -/
def backlightLatch : Latch Globals (Option Node) where
  closed := Globals.hardwareHasBacklight
  value := Globals.backlightPath
  unset := none

/-- The LED, its path and its table of values. -/
def ledLatch : Latch Globals (Option Node × LedStates) where
  closed := Globals.hardwareHasLED
  value := fun s => (s.ledPath, s.ledState)
  unset := (Globals.initial.ledPath, Globals.initial.ledState)

/-- APM and the function loaded for it. -/
def apmLatch : Latch Globals (Option Nat) where
  closed := Globals.hardwareHasAPM
  value := Globals.apmSuspend
  unset := none

/-- The sysfs sleep trigger and its path. -/
def sysfsSleepLatch : Latch Globals (Option Node) where
  closed := Globals.hardwareHasSysfsSleep
  value := Globals.sysfsSleepPath
  unset := none

/-- The e-ink mode controller and its path. -/
def einkModeControlLatch : Latch Globals (Option Node) where
  closed := Globals.hardwareHasEinkModeControl
  value := Globals.einkModeControlPath
  unset := none

/-! ## What a trace found -/

/-- The probe of one file, with what belongs to the file. -/
def fileFound (node : Node) (bound : β) (t : Trace) : Option β :=
  if reported node t then some bound else none

/-- A Kobo shows `/sys/power/state-extended`. -/
def koboFound (t : Trace) : Option Unit := fileFound .stateExtended () t

/-- The backlight control: the sysfs node, whose path is bound, or
`/dev/ntx_io`, for which no path is. -/
def backlightFound (t : Trace) : Option (Option Node) :=
  if reported .boeyeBrightness t then some (some .boeyeBrightness)
  else if reported .ntxIo t then some none
  else none

/-- The first LED row, in the order of the source, whose node was reported. -/
def ledFound (t : Trace) : Option LedRow :=
  ledRows.find? fun row => reported row.node t

/-- What an LED row binds. -/
def LedRow.bound (row : LedRow) : Option Node × LedStates := (some row.node, row.states)

/-- A `dlopen` that did not fail. -/
def libraryOpened : Event sys → Bool
  | ⟨.dlopen _, answer⟩ => !(show DlResult from answer).failed
  | _ => false

/-- The pointer of a `dlsym` that did not fail. -/
def symbolLoaded : Event sys → Option (Option Nat)
  | ⟨.dlsym _ _, answer⟩ =>
      if (show DlResult from answer).failed then none
      else some (show DlResult from answer).pointer
  | _ => none

/-- APM: the node present, and `dlopen` and `dlsym` both successful. -/
def apmFound (t : Trace) : Option (Option Nat) :=
  if reported .apmBios t && t.any libraryOpened then t.findSome? symbolLoaded else none

/-- The sysfs sleep trigger. -/
def sysfsSleepFound (t : Trace) : Option (Option Node) :=
  fileFound .powerState (some .powerState) t

/-- The e-ink mode controller. -/
def einkModeControlFound (t : Trace) : Option (Option Node) :=
  fileFound .einkmode (some .einkmode) t

/-- `dlerror()` is non-`NULL` exactly when the `dlopen` or `dlsym` just made
failed. -/
def DlerrorTells : Event sys → Event sys → Prop
  | ⟨.dlopen _, result⟩, ⟨.dlerror, error⟩ =>
      (show Option String from error) ≠ none ↔ (show DlResult from result).failed = true
  | ⟨.dlsym _ _, result⟩, ⟨.dlerror, error⟩ =>
      (show Option String from error) ≠ none ↔ (show DlResult from result).failed = true
  | _, _ => True

/-- A successful `dlsym` gives a non-`NULL` pointer. -/
def DlsymNonNull : Event sys → Prop
  | ⟨.dlsym _ _, result⟩ =>
      (show DlResult from result).failed = false → (show DlResult from result).pointer ≠ none
  | _ => True

/-- The dynamic linker behaves as documented throughout the trace. -/
structure LinkerContract (t : Trace) : Prop where
  dlerrorTells : t.IsChain DlerrorTells
  dlsymNonNull : ∀ e ∈ t, DlsymNonNull e

instance : DecidableRel DlerrorTells := fun e e' => by
  unfold DlerrorTells
  split <;> infer_instance

instance : DecidablePred DlsymNonNull := fun e => by
  unfold DlsymNonNull
  split <;> infer_instance

instance (t : Trace) : Decidable (LinkerContract t) :=
  decidable_of_iff (t.IsChain DlerrorTells ∧ ∀ e ∈ t, DlsymNonNull e)
    ⟨fun h => ⟨h.1, h.2⟩, fun h => ⟨h.1, h.2⟩⟩

/-- The contract holds of every stretch of the trace. -/
theorem LinkerContract.part {earlier later : Trace}
    (h : LinkerContract (earlier ++ (t ++ later))) : LinkerContract t where
  dlerrorTells := h.dlerrorTells.right_of_append.left_of_append
  dlsymNonNull := by
    intro e he
    refine h.dlsymNonNull e ?_
    exact List.mem_append_right _ (List.mem_append_left _ he)

/-- A block other than APM does not touch the dynamic linker. -/
theorem linker_of_detects {own : List Node} {linker : Prop} (hlinker : ¬ linker)
    (h : ∀ e ∈ t, Detects own linker e.op) :
    t.any libraryOpened = false ∧ t.findSome? symbolLoaded = none := by
  rw [List.any_eq_false, List.findSome?_eq_none_iff]
  constructor
  · rintro ⟨op, answer⟩ he
    have hop := h _ he
    cases op with
    | dlopen library => exact absurd hop hlinker
    | _ => simp [libraryOpened]
  · rintro ⟨op, answer⟩ he
    have hop := h _ he
    cases op with
    | dlsym handle symbol => exact absurd hop hlinker
    | _ => rfl

/-! ## One block -/

/-- A block of the common shape closes its latch on its own success. -/
theorem detectFile_latch {latch : Latch Globals β} {setFlag : Globals → Bool → Globals}
    {fpath : Node} {bind : Globals → Globals} {value : β} {result : Unit}
    (hup : ∀ s, latch.closed (bind (setFlag s true)) = true)
    (hdown : ∀ s, latch.closed (setFlag s false) = false)
    (hvalue : ∀ s, latch.value (bind (setFlag s true)) = value)
    (h : Exec (detectFile latch.closed setFlag fpath bind) s t result s') :
    latch.view s' = (latch.view s).or (fileFound fpath value t) := by
  rcases exec_detectFile h with ⟨hclosed, rfl, rfl⟩ | ⟨hopen, answer, rfl, rfl⟩
  · simp [fileFound]
  · have hview : latch.view s = none := Latch.view_eq_none_iff.mpr hopen
    rw [hview, Option.none_or]
    by_cases hanswer : answer = 0
    · have hbound := Latch.view_eq_some_iff.mpr ⟨hup s, hvalue s⟩
      simp [fileFound, hanswer, hbound]
    · have hnone := Latch.view_eq_none_iff.mpr (hdown s)
      simp [fileFound, hanswer, hnone]

theorem detectPlatform_latch {result : Unit} (h : Exec detectPlatform s t result s') :
    koboLatch.view s' = (koboLatch.view s).or (koboFound t) := by
  obtain ⟨answer, rfl, rfl⟩ := exec_detectPlatform h
  by_cases hanswer : answer = 0
  · cases hplatform : s.hwPlatform <;>
      simp [koboFound, fileFound, koboLatch, Latch.view, hanswer, hplatform]
  · simp [koboFound, fileFound, hanswer]

/-- An open backlight latch has no path yet. -/
theorem detectBacklight_clean {result : Unit} (hclean : backlightLatch.Clean s)
    (h : Exec detectBacklight s t result s') : backlightLatch.Clean s' := by
  cases exec_detectBacklight h with
  | known hflag => exact hclean
  | boeye hflag line =>
      intro hopen
      exact absurd hopen (by simp [backlightLatch])
  | other hflag boeye ntx hboeye =>
      intro _
      exact hclean hflag

theorem detectBacklight_latch {result : Unit} (hclean : backlightLatch.Clean s)
    (h : Exec detectBacklight s t result s') :
    backlightLatch.view s' = (backlightLatch.view s).or (backlightFound t) := by
  cases exec_detectBacklight h with
  | known hflag => simp [backlightFound]
  | boeye hflag line =>
      have hview : backlightLatch.view s = none := Latch.view_eq_none_iff.mpr hflag
      rw [hview]
      simp [backlightFound, Latch.view, backlightLatch]
  | other hflag boeye ntx hboeye =>
      have hview : backlightLatch.view s = none := Latch.view_eq_none_iff.mpr hflag
      have hpath : s.backlightPath = none := hclean hflag
      rw [hview]
      by_cases hntx : ntx = 0
      · simp [backlightFound, Latch.view, backlightLatch, hboeye, hntx, hpath]
      · simp [backlightFound, Latch.view, backlightLatch, hboeye, hntx]

/-- The LED blocks close the latch on the first reported row.  The rows must
probe different files, or a later probe could report an earlier row. -/
theorem detectLeds_latch {rows : List LedRow} {result : Unit}
    (hnodup : (rows.map LedRow.node).Nodup)
    (h : Exec (detectLeds rows) s t result s') :
    ledLatch.view s' =
      (ledLatch.view s).or ((rows.find? fun row => reported row.node t).map LedRow.bound) := by
  induction rows generalizing s t with
  | nil =>
      obtain ⟨rfl, -, rfl⟩ := exec_pure.mp h
      simp
  | cons row rows ih =>
      rw [List.map_cons, List.nodup_cons] at hnodup
      obtain ⟨first, _, middle, second, rfl, hrow, hrows⟩ := exec_bind.mp h
      -- No row reports the node of another: the first block's success is its own.
      have hlater : reported row.node second = false :=
        reported_of_detects (uses_detectLeds rows hrows) hnodup.1
      have hothers : ∀ other ∈ rows, reported other.node first = false := by
        intro other hother
        have hne : other.node ∉ [row.node] := by
          rw [List.mem_singleton]
          exact fun heq => hnodup.1 (heq ▸ List.mem_map_of_mem hother)
        exact reported_of_detects (uses_detectFile _ _ _ _ hrow) hne
      have hhead : ledLatch.view middle =
          (ledLatch.view s).or (fileFound row.node row.bound first) :=
        detectFile_latch (fun _ => rfl) (fun _ => rfl) (fun _ => rfl) hrow
      have htail : rows.find? (fun other => reported other.node (first ++ second)) =
          rows.find? (fun other => reported other.node second) := by
        refine List.find?_congr fun other hother => ?_
        rw [reported_append, hothers other hother, Bool.false_or]
      rw [ih hnodup.2 hrows, hhead, Option.or_assoc, List.find?_cons, htail,
        reported_append, hlater, Bool.or_false]
      cases hfound : reported row.node first <;> simp [fileFound, hfound]

/-- Only a `bound` run of the APM block closes the latch; the linker contract
turns its two silent `dlerror` calls into two successes. -/
theorem detectApm_latch {result : Unit} (hcontract : LinkerContract t)
    (h : Exec detectApm s t result s') :
    apmLatch.view s' = (apmLatch.view s).or (apmFound t) := by
  cases exec_detectApm h with
  | known hflag => simp [apmFound]
  | absent hflag answer hanswer =>
      have hview : apmLatch.view s = none := Latch.view_eq_none_iff.mpr hflag
      rw [hview]
      simp [apmFound, Latch.view, apmLatch, hanswer]
  | noLibrary hflag cleared library error =>
      have hview : apmLatch.view s = none := Latch.view_eq_none_iff.mpr hflag
      have hfailed : library.failed = true := by
        simpa [DlerrorTells] using hcontract.dlerrorTells
      rw [hview]
      simp [apmFound, Latch.view, apmLatch, libraryOpened, hfailed]
  | noSymbol hflag cleared library symbol error =>
      have hview : apmLatch.view s = none := Latch.view_eq_none_iff.mpr hflag
      have hfailed : symbol.failed = true := by
        have hchain := hcontract.dlerrorTells
        simp [DlerrorTells] at hchain
        exact hchain.2
      rw [hview]
      simp [apmFound, Latch.view, apmLatch, symbolLoaded, List.findSome?_cons, hfailed]
  | bound hflag cleared library symbol =>
      have hview : apmLatch.view s = none := Latch.view_eq_none_iff.mpr hflag
      have hlinked : library.failed = false ∧ symbol.failed = false := by
        simpa [DlerrorTells] using hcontract.dlerrorTells
      obtain ⟨hlibrary, hsymbol⟩ := hlinked
      rw [hview]
      simp [apmFound, Latch.view, apmLatch, libraryOpened, symbolLoaded, List.findSome?_cons,
        hlibrary, hsymbol]

/-! ## One detection -/

/-- A successful probe of one file, seen from the whole call. -/
theorem Detection.fileFound_eq (d : Detection s t s') {capability : Capability}
    {node : Node} (hnode : node ∈ capability.nodes) (value : β) :
    fileFound node value t = fileFound node value (d.trace capability) := by
  rw [fileFound, fileFound, d.reported_eq hnode]

/-- A latch that only one block can change is what that block makes of it. -/
theorem Detection.frame_latch (d : Detection s t s') (latch : Latch Globals β)
    (capability : Capability)
    (h : ∀ other, other ≠ capability →
      Capability.Ignored (fun s => (latch.closed s, latch.value s)) other) :
    (latch.view (d.before capability) = latch.view s ∧
        (latch.Clean (d.before capability) ↔ latch.Clean s)) ∧
      (latch.view s' = latch.view (d.after capability) ∧
        (latch.Clean s' ↔ latch.Clean (d.after capability))) := by
  obtain ⟨hbefore, hafter⟩ := d.frame (fun s => (latch.closed s, latch.value s)) capability h
  exact ⟨Latch.congr (congrArg Prod.fst hbefore) (congrArg Prod.snd hbefore),
    Latch.congr (congrArg Prod.fst hafter) (congrArg Prod.snd hafter)⟩

theorem detectHardware_kobo {result : Unit} (h : Exec detectHardware s t result s') :
    koboLatch.view s' = (koboLatch.view s).or (koboFound t) := by
  obtain ⟨d⟩ := exec_detectHardware h
  obtain ⟨⟨hbefore, -⟩, hafter, -⟩ := d.frame_latch koboLatch .platform (by
    intro other hother
    cases other <;> simp_all [Capability.Ignored, koboLatch])
  have hfound : koboFound t = koboFound (d.trace .platform) :=
    d.fileFound_eq (by decide : Node.stateExtended ∈ Capability.platform.nodes) ()
  rw [hafter, ← hbefore, hfound]
  exact detectPlatform_latch (d.exec_block .platform)

theorem detectHardware_backlight {result : Unit} (hclean : backlightLatch.Clean s)
    (h : Exec detectHardware s t result s') :
    backlightLatch.view s' = (backlightLatch.view s).or (backlightFound t) ∧
      backlightLatch.Clean s' := by
  obtain ⟨d⟩ := exec_detectHardware h
  obtain ⟨⟨hbefore, hcleanBefore⟩, hafter, hcleanAfter⟩ :=
    d.frame_latch backlightLatch .backlight (by
      intro other hother
      cases other <;> simp_all [Capability.Ignored, backlightLatch])
  have hfound : backlightFound t = backlightFound (d.trace .backlight) := by
    have hboeye := d.reported_eq
      (by decide : Node.boeyeBrightness ∈ Capability.backlight.nodes)
    have hntx := d.reported_eq (by decide : Node.ntxIo ∈ Capability.backlight.nodes)
    rw [backlightFound, backlightFound, hboeye, hntx]
  have hclean' := hcleanBefore.mpr hclean
  rw [hafter, ← hbefore, hfound, hcleanAfter]
  exact ⟨detectBacklight_latch hclean' (d.exec_block .backlight),
    detectBacklight_clean hclean' (d.exec_block .backlight)⟩

theorem detectHardware_led {result : Unit} (h : Exec detectHardware s t result s') :
    ledLatch.view s' = (ledLatch.view s).or ((ledFound t).map LedRow.bound) := by
  obtain ⟨d⟩ := exec_detectHardware h
  obtain ⟨⟨hbefore, -⟩, hafter, -⟩ := d.frame_latch ledLatch .led (by
    intro other hother
    cases other <;> simp_all [Capability.Ignored, ledLatch])
  have hfound : ledFound t = ledFound (d.trace .led) :=
    List.find?_congr fun row hrow =>
      d.reported_eq (show row.node ∈ Capability.led.nodes from List.mem_map_of_mem hrow)
  rw [hafter, ← hbefore, hfound]
  exact detectLeds_latch (by decide) (d.exec_block .led)

/-- The linker is used by the APM block alone. -/
theorem Detection.linker_eq (d : Detection s t s') :
    t.any libraryOpened = (d.trace .apm).any libraryOpened ∧
      t.findSome? symbolLoaded = (d.trace .apm).findSome? symbolLoaded := by
  have hsilent : ∀ other, other ≠ Capability.apm →
      (d.trace other).any libraryOpened = false ∧
        (d.trace other).findSome? symbolLoaded = none :=
    fun other hother => linker_of_detects hother
      (Capability.uses_block other (d.exec_block other))
  obtain ⟨hopen₁, hload₁⟩ := hsilent .platform (by decide)
  obtain ⟨hopen₂, hload₂⟩ := hsilent .backlight (by decide)
  obtain ⟨hopen₃, hload₃⟩ := hsilent .led (by decide)
  obtain ⟨hopen₄, hload₄⟩ := hsilent .sysfsSleep (by decide)
  obtain ⟨hopen₅, hload₅⟩ := hsilent .einkModeControl (by decide)
  have hany := congrArg (fun trace : Trace => trace.any libraryOpened) d.trace_eq
  have hfind := congrArg (fun trace : Trace => trace.findSome? symbolLoaded) d.trace_eq
  simp only [List.any_append, hopen₁, hopen₂, hopen₃, hopen₄, hopen₅, Bool.false_or,
    Bool.or_false] at hany
  simp only [List.findSome?_append, hload₁, hload₂, hload₃, hload₄, hload₅, Option.none_or,
    Option.or_none] at hfind
  exact ⟨hany, hfind⟩

theorem detectHardware_apm {result : Unit} (hcontract : LinkerContract t)
    (h : Exec detectHardware s t result s') :
    apmLatch.view s' = (apmLatch.view s).or (apmFound t) := by
  obtain ⟨d⟩ := exec_detectHardware h
  obtain ⟨⟨hbefore, -⟩, hafter, -⟩ := d.frame_latch apmLatch .apm (by
    intro other hother
    cases other <;> simp_all [Capability.Ignored, apmLatch])
  have hpart : t = (d.trace .platform ++ (d.trace .backlight ++ d.trace .led)) ++
      (d.trace .apm ++ (d.trace .sysfsSleep ++ d.trace .einkModeControl)) := by
    have htrace := d.trace_eq
    simp only [List.append_assoc] at htrace ⊢
    exact htrace
  have hfound : apmFound t = apmFound (d.trace .apm) := by
    obtain ⟨hopened, hloaded⟩ := d.linker_eq
    have hnode := d.reported_eq (by decide : Node.apmBios ∈ Capability.apm.nodes)
    rw [apmFound, apmFound, hnode, hopened, hloaded]
  rw [hafter, ← hbefore, hfound]
  exact detectApm_latch (hpart ▸ hcontract).part (d.exec_block .apm)

theorem detectHardware_sysfsSleep {result : Unit} (h : Exec detectHardware s t result s') :
    sysfsSleepLatch.view s' = (sysfsSleepLatch.view s).or (sysfsSleepFound t) := by
  obtain ⟨d⟩ := exec_detectHardware h
  obtain ⟨⟨hbefore, -⟩, hafter, -⟩ := d.frame_latch sysfsSleepLatch .sysfsSleep (by
    intro other hother
    cases other <;> simp_all [Capability.Ignored, sysfsSleepLatch])
  have hfound : sysfsSleepFound t = sysfsSleepFound (d.trace .sysfsSleep) :=
    d.fileFound_eq (by decide : Node.powerState ∈ Capability.sysfsSleep.nodes) _
  rw [hafter, ← hbefore, hfound]
  exact detectFile_latch (fun _ => rfl) (fun _ => rfl) (fun _ => rfl)
    (d.exec_block .sysfsSleep)

theorem detectHardware_einkModeControl {result : Unit}
    (h : Exec detectHardware s t result s') :
    einkModeControlLatch.view s' =
      (einkModeControlLatch.view s).or (einkModeControlFound t) := by
  obtain ⟨d⟩ := exec_detectHardware h
  obtain ⟨⟨hbefore, -⟩, hafter, -⟩ := d.frame_latch einkModeControlLatch .einkModeControl (by
    intro other hother
    cases other <;> simp_all [Capability.Ignored, einkModeControlLatch])
  have hfound : einkModeControlFound t = einkModeControlFound (d.trace .einkModeControl) :=
    d.fileFound_eq (by decide : Node.einkmode ∈ Capability.einkModeControl.nodes) _
  rw [hafter, ← hbefore, hfound]
  exact detectFile_latch (fun _ => rfl) (fun _ => rfl) (fun _ => rfl)
    (d.exec_block .einkModeControl)

end Hardware
end DigmaE605
