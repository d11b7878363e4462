import DigmaE605.Hardware.FileAccess

/-!
# Detecting the hardware

`detect_hardware` of `digma_hw.c`, one definition per block of the source, and
what each block can do.

Each block guards one capability: it does nothing once the capability's flag is
up, and it probes only its own files.  For every block there is a lemma
`uses_...`, which lists the calls it may make, a lemma `keeps_...`, which says
that an observation insensitive to the block's own assignments survives it, and
a lemma `exec_...`, which inverts an execution of it.
-/

namespace DigmaE605
namespace Hardware

open Interaction Program Text

variable {s s' : Globals} {t : Trace} {κ : Type} {part : Globals → κ}

/-! ## The source -/

/-- The platform probe. -/
def detectPlatform : Hw Unit := do
  let answer ← access .stateExtended
  when (answer = 0) (modify fun s => { s with hwPlatform := .kobo })

/-- The backlight block: the sysfs node first, `/dev/ntx_io` second. -/
def detectBacklight : Hw Unit := do
  let s ← get
  when (s.hardwareHasBacklight = false) (do
    let found ← checkForFile .boeyeBrightness
    modify fun s => { s with hardwareHasBacklight := found }
    if found = true then do
      modify fun s => { s with backlightPath := some .boeyeBrightness }
      let s ← get
      let level ← readIntFromFile s.backlightPath
      modify fun s => { s with previousBacklightLevel := level }
    else do
      -- the flag goes up here too, but no path is stored with it
      let found ← checkForFile .ntxIo
      modify fun s => { s with hardwareHasBacklight := found })

/-- The shape that the LED, sleep and e-ink blocks share: while the flag is
down, probe one file, store the outcome in the flag, and bind what belongs to
the file if it is there. -/
def detectFile (flag : Globals → Bool) (setFlag : Globals → Bool → Globals)
    (fpath : Node) (bound : Globals → Globals) : Hw Unit := do
  let s ← get
  when (flag s = false) (do
    let found ← checkForFile fpath
    modify fun s => setFlag s found
    when (found = true) (modify bound))

/-- One of the LED blocks: the node it probes and the values it stores. -/
structure LedRow where
  node : Node
  states : LedStates
  deriving DecidableEq, Repr

/-- Digma R60G/GMini C6LHD (Qt) -/
def chargerLed : LedRow where
  node := .chargerLed
  states := { off := 0, blinkSlow := 1, blinkFast := 4, on := 2 }

/-- Ritmix RBK700HD GTK/Qt -/
def axp192Led : LedRow where
  node := .axp192Led
  states := { off := 4, blinkSlow := 5, blinkFast := 6, on := 3 }

/-- Digma E600 GTK -/
def da9030Led : LedRow where
  node := .da9030Led
  states := { off := 4, blinkSlow := 5, blinkFast := 6, on := 3 }

/-- Kobo Aura H2O -/
def pmicLed : LedRow where
  node := .pmicLed
  states := { off := 0, blinkSlow := 255, blinkFast := 255, on := 255 }

/-- The LED blocks in the order of the source. -/
def ledRows : List LedRow := [chargerLed, axp192Led, da9030Led, pmicLed]

/-- One LED block. -/
def detectLed (row : LedRow) : Hw Unit :=
  detectFile Globals.hardwareHasLED
    (fun s found => { s with hardwareHasLED := found }) row.node
    (fun s => { s with ledPath := some row.node, ledState := row.states })

/-- The LED blocks, one after another. -/
def detectLeds : List LedRow → Hw Unit
  | [] => pure ()
  | row :: rows => do
      detectLed row
      detectLeds rows

/-- The APM block: the node, then `libapm.so`, then its `apm_suspend`. -/
def detectApm : Hw Unit := do
  let s ← get
  when (s.hardwareHasAPM = false) (do
    let found ← checkForFile .apmBios
    modify fun s => { s with hardwareHasAPM := found }
    when (found = true) (do
      let _ ← dlerror
      let libapmHandle ← dlopen "libapm.so"
      let error ← dlerror
      if error ≠ none then
        modify fun s => { s with hardwareHasAPM := false }
      else do
        -- the pointer is stored before its error is looked at
        let symbol ← dlsym libapmHandle.pointer "apm_suspend"
        modify fun s => { s with apmSuspend := symbol.pointer }
        let error ← dlerror
        when (error ≠ none) (modify fun s => { s with hardwareHasAPM := false })))

/-- The sysfs sleep block. -/
def detectSysfsSleep : Hw Unit :=
  detectFile Globals.hardwareHasSysfsSleep
    (fun s found => { s with hardwareHasSysfsSleep := found }) .powerState
    (fun s => { s with sysfsSleepPath := some .powerState })

/-- The e-ink mode control block. -/
def detectEinkModeControl : Hw Unit :=
  detectFile Globals.hardwareHasEinkModeControl
    (fun s found => { s with hardwareHasEinkModeControl := found }) .einkmode
    (fun s => { s with einkModeControlPath := some .einkmode })

/-- `detect_hardware`. -/
def detectHardware : Hw Unit := do
  detectPlatform
  detectBacklight
  detectLeds ledRows
  detectApm
  detectSysfsSleep
  detectEinkModeControl

/-! ## The calls a block may make -/

/-- The calls of detection: probing the files `own`, reading, and, for the APM
block, the dynamic linker. -/
def Detects (own : List Node) (linker : Prop) : Sys → Prop
  | .access node => node ∈ own
  | .fopen _ mode => mode = .rt
  | .fgets _ _ => True
  | .fclose _ => True
  | .dlerror => linker
  | .dlopen _ => linker
  | .dlsym _ _ => linker
  | _ => False

/-- A block reports none but its own files. -/
theorem reported_of_detects {own : List Node} {linker : Prop} {node : Node}
    (h : ∀ e ∈ t, Detects own linker e.op) (hnode : node ∉ own) :
    reported node t = false := by
  unfold reported
  rw [List.any_eq_false]
  rintro ⟨op, answer⟩ he
  have hop := h _ he
  cases op with
  | access probed =>
      have hne : probed ≠ node := fun heq => hnode (heq ▸ hop)
      simp [finds, hne]
  | _ => simp [finds]

theorem uses_detectPlatform :
    Uses (I := sys) (Detects [.stateExtended] False) detectPlatform :=
  .bind (.call (by simp [Detects])) fun _ => .when (.modify _)

theorem uses_detectBacklight :
    Uses (I := sys) (Detects [.boeyeBrightness, .ntxIo] False) detectBacklight := by
  refine .get_bind fun s => .when (.bind (uses_checkForFile (by simp [Detects])) fun found => ?_)
  refine .bind (.modify _) fun _ => .ite ?_ ?_
  · refine .bind (.modify _) fun _ => .get_bind fun s => .bind ?_ fun _ => .modify _
    exact uses_readIntFromFile rfl (fun _ _ => trivial) (fun _ => trivial)
  · exact .bind (uses_checkForFile (by simp [Detects])) fun _ => .modify _

theorem uses_detectFile (flag : Globals → Bool) (setFlag : Globals → Bool → Globals)
    (fpath : Node) (bound : Globals → Globals) :
    Uses (I := sys) (Detects [fpath] False) (detectFile flag setFlag fpath bound) :=
  .get_bind fun _ => .when (.bind (uses_checkForFile (by simp [Detects])) fun _ =>
    .bind (.modify _) fun _ => .when (.modify _))

theorem uses_detectLeds (rows : List LedRow) :
    Uses (I := sys) (Detects (rows.map LedRow.node) False) (detectLeds rows) := by
  induction rows with
  | nil => exact .pure ()
  | cons row rows ih =>
      have hhead : ∀ op, Detects [row.node] False op →
          Detects ((row :: rows).map LedRow.node) False op := by
        intro op hop
        cases op <;> simp_all [Detects]
      have htail : ∀ op, Detects (rows.map LedRow.node) False op →
          Detects ((row :: rows).map LedRow.node) False op := by
        intro op hop
        cases op <;> simp_all [Detects]
      exact .bind ((uses_detectFile _ _ _ _).mono hhead) fun _ => ih.mono htail

theorem uses_detectApm : Uses (I := sys) (Detects [.apmBios] True) detectApm := by
  refine .get_bind fun s => .when (.bind (uses_checkForFile (by simp [Detects])) fun found => ?_)
  refine .bind (.modify _) fun _ => .when (.bind (.call trivial) fun _ => ?_)
  refine .bind (.call trivial) fun handle => .bind (.call trivial) fun error => ?_
  refine .ite (.modify _) (.bind (.call trivial) fun symbol => ?_)
  exact .bind (.modify _) fun _ => .bind (.call trivial) fun _ => .when (.modify _)

/-! ## The globals a block may change -/

theorem keeps_detectPlatform
    (hplatform : ∀ s platform, part { s with hwPlatform := platform } = part s) :
    Keeps part detectPlatform :=
  .bind (.call _) fun _ => .when (.modify fun s => hplatform s _)

theorem keeps_detectBacklight
    (hflag : ∀ s flag, part { s with hardwareHasBacklight := flag } = part s)
    (hpath : ∀ s path, part { s with backlightPath := path } = part s)
    (hlevel : ∀ s level, part { s with previousBacklightLevel := level } = part s) :
    Keeps part detectBacklight := by
  refine .get_bind fun _ => .when (.bind keeps_checkForFile fun found => ?_)
  refine .bind (.modify fun s => hflag s _) fun _ => .ite ?_ ?_
  · refine .bind (.modify fun s => hpath s _) fun _ => .get_bind fun _ => ?_
    exact .bind keeps_readIntFromFile fun _ => .modify fun s => hlevel s _
  · exact .bind keeps_checkForFile fun _ => .modify fun s => hflag s _

theorem keeps_detectFile {flag : Globals → Bool} {setFlag : Globals → Bool → Globals}
    {fpath : Node} {bound : Globals → Globals}
    (hflag : ∀ s found, part (setFlag s found) = part s)
    (hbound : ∀ s, part (bound s) = part s) :
    Keeps part (detectFile flag setFlag fpath bound) :=
  .get_bind fun _ => .when (.bind keeps_checkForFile fun _ =>
    .bind (.modify fun s => hflag s _) fun _ => .when (.modify hbound))

theorem keeps_detectLeds (rows : List LedRow)
    (hflag : ∀ s flag, part { s with hardwareHasLED := flag } = part s)
    (hbound : ∀ s path states, part { s with ledPath := path, ledState := states } = part s) :
    Keeps part (detectLeds rows) := by
  induction rows with
  | nil => exact .pure ()
  | cons row rows ih => exact .bind (keeps_detectFile hflag fun s => hbound s _ _) fun _ => ih

theorem keeps_detectApm
    (hflag : ∀ s flag, part { s with hardwareHasAPM := flag } = part s)
    (hbound : ∀ s pointer, part { s with apmSuspend := pointer } = part s) :
    Keeps part detectApm := by
  refine .get_bind fun _ => .when (.bind keeps_checkForFile fun _ => ?_)
  refine .bind (.modify fun s => hflag s _) fun _ => .when (.bind (.call _) fun _ => ?_)
  refine .bind (.call _) fun _ => .bind (.call _) fun _ => .ite (.modify fun s => hflag s _) ?_
  refine .bind (.call _) fun _ => .bind (.modify fun s => hbound s _) fun _ => ?_
  exact .bind (.call _) fun _ => .when (.modify fun s => hflag s _)

/-! ## The executions of a block -/

theorem exec_detectPlatform {result : Unit} (h : Exec detectPlatform s t result s') :
    ∃ answer : Int32, t = [event (.access .stateExtended) answer] ∧
      s' = if answer = 0 then { s with hwPlatform := .kobo } else s := by
  obtain ⟨first, answer, middle, second, rfl, haccess, hwhen⟩ := exec_bind.mp h
  obtain ⟨rfl, rfl⟩ := exec_access.mp haccess
  refine ⟨answer, ?_⟩
  rcases exec_when.mp hwhen with ⟨hfound, hmodify⟩ | ⟨habsent, rfl, rfl⟩
  · obtain ⟨rfl, rfl⟩ := exec_modify.mp hmodify
    exact ⟨rfl, by rw [if_pos hfound]⟩
  · exact ⟨rfl, by rw [if_neg habsent]⟩

theorem exec_detectFile {flag : Globals → Bool} {setFlag : Globals → Bool → Globals}
    {fpath : Node} {bound : Globals → Globals} {result : Unit}
    (h : Exec (detectFile flag setFlag fpath bound) s t result s') :
    (flag s = true ∧ t = [] ∧ s' = s) ∨
      (flag s = false ∧ ∃ answer : Int32, t = [event (.access fpath) answer] ∧
        s' = if answer = 0 then bound (setFlag s true) else setFlag s false) := by
  rw [detectFile, exec_get_bind] at h
  rcases exec_when.mp h with ⟨hdown, hprobe⟩ | ⟨hup, rfl, rfl⟩
  · obtain ⟨first, found, middle, second, rfl, hcheck, hrest⟩ := exec_bind.mp hprobe
    obtain ⟨answer, rfl, rfl, rfl⟩ := exec_checkForFile.mp hcheck
    refine .inr ⟨hdown, answer, ?_⟩
    rw [exec_modify_bind] at hrest
    rcases exec_when.mp hrest with ⟨hfound, hmodify⟩ | ⟨habsent, rfl, rfl⟩
    · obtain ⟨rfl, rfl⟩ := exec_modify.mp hmodify
      have hanswer : answer = 0 := by simpa using hfound
      subst hanswer
      exact ⟨rfl, rfl⟩
    · have hanswer : answer ≠ 0 := by simpa using habsent
      have hflag : (answer == 0) = false := by simpa using hanswer
      exact ⟨rfl, by rw [if_neg hanswer, hflag]⟩
  · exact .inl ⟨by simpa using hup, rfl, rfl⟩

/-- How the backlight block can go. -/
inductive BacklightProbe (s : Globals) : Trace → Globals → Prop
  | known (hflag : s.hardwareHasBacklight = true) : BacklightProbe s [] s
  | boeye (hflag : s.hardwareHasBacklight = false)
      (line : Option (Option (List Char))) :
      BacklightProbe s
        (event (.access .boeyeBrightness) (0 : Int32) ::
          readTrace (some .boeyeBrightness) line)
        { s with
          hardwareHasBacklight := true
          backlightPath := some .boeyeBrightness
          previousBacklightLevel := readValue line }
  | other (hflag : s.hardwareHasBacklight = false) (boeye ntx : Int32)
      (hboeye : boeye ≠ 0) :
      BacklightProbe s
        [event (.access .boeyeBrightness) boeye, event (.access .ntxIo) ntx]
        { s with hardwareHasBacklight := ntx == 0 }

theorem exec_detectBacklight {result : Unit} (h : Exec detectBacklight s t result s') :
    BacklightProbe s t s' := by
  rw [detectBacklight, exec_get_bind] at h
  rcases exec_when.mp h with ⟨hdown, hprobe⟩ | ⟨hup, rfl, rfl⟩
  · obtain ⟨first, found, middle, second, rfl, hcheck, hrest⟩ := exec_bind.mp hprobe
    obtain ⟨answer, rfl, rfl, rfl⟩ := exec_checkForFile.mp hcheck
    rw [exec_modify_bind] at hrest
    rcases exec_ite.mp hrest with ⟨hfound, hbind⟩ | ⟨habsent, hother⟩
    · rw [exec_modify_bind, exec_get_bind] at hbind
      obtain ⟨_, level, _, _, rfl, hread, hstore⟩ := exec_bind.mp hbind
      obtain ⟨line, rfl, rfl, rfl⟩ := exec_readIntFromFile.mp hread
      obtain ⟨rfl, rfl⟩ := exec_modify.mp hstore
      have hanswer : answer = 0 := by simpa using hfound
      subst hanswer
      rw [List.append_nil]
      exact .boeye hdown line
    · obtain ⟨_, found, _, _, rfl, hcheck', hstore⟩ := exec_bind.mp hother
      obtain ⟨ntx, rfl, rfl, rfl⟩ := exec_checkForFile.mp hcheck'
      obtain ⟨rfl, rfl⟩ := exec_modify.mp hstore
      exact .other hdown answer ntx (by simpa using habsent)
  · exact .known (by simpa using hup)

/-- How the APM block can go. -/
inductive ApmProbe (s : Globals) : Trace → Globals → Prop
  | known (hflag : s.hardwareHasAPM = true) : ApmProbe s [] s
  | absent (hflag : s.hardwareHasAPM = false) (answer : Int32) (hanswer : answer ≠ 0) :
      ApmProbe s [event (.access .apmBios) answer] { s with hardwareHasAPM := false }
  | noLibrary (hflag : s.hardwareHasAPM = false) (cleared : Option String)
      (library : DlResult) (error : String) :
      ApmProbe s
        [event (.access .apmBios) (0 : Int32), event .dlerror cleared,
          event (.dlopen "libapm.so") library, event .dlerror (some error)]
        { s with hardwareHasAPM := false }
  | noSymbol (hflag : s.hardwareHasAPM = false) (cleared : Option String)
      (library symbol : DlResult) (error : String) :
      ApmProbe s
        [event (.access .apmBios) (0 : Int32), event .dlerror cleared,
          event (.dlopen "libapm.so") library, event .dlerror none,
          event (.dlsym library.pointer "apm_suspend") symbol, event .dlerror (some error)]
        { s with hardwareHasAPM := false, apmSuspend := symbol.pointer }
  | bound (hflag : s.hardwareHasAPM = false) (cleared : Option String)
      (library symbol : DlResult) :
      ApmProbe s
        [event (.access .apmBios) (0 : Int32), event .dlerror cleared,
          event (.dlopen "libapm.so") library, event .dlerror none,
          event (.dlsym library.pointer "apm_suspend") symbol, event .dlerror none]
        { s with hardwareHasAPM := true, apmSuspend := symbol.pointer }

theorem exec_detectApm {result : Unit} (h : Exec detectApm s t result s') :
    ApmProbe s t s' := by
  -- The two `dlerror` answers decide the case; the handles do not.
  rw [detectApm, exec_get_bind] at h
  rcases exec_when.mp h with ⟨hdown, hprobe⟩ | ⟨hup, rfl, rfl⟩
  · obtain ⟨_, found, _, _, rfl, hcheck, hrest⟩ := exec_bind.mp hprobe
    obtain ⟨answer, rfl, rfl, rfl⟩ := exec_checkForFile.mp hcheck
    rw [exec_modify_bind] at hrest
    rcases exec_when.mp hrest with ⟨hfound, hlink⟩ | ⟨habsent, rfl, rfl⟩
    · have hanswer : answer = 0 := by simpa using hfound
      subst hanswer
      obtain ⟨_, cleared, _, _, rfl, hclear, hopen⟩ := exec_bind.mp hlink
      obtain ⟨rfl, rfl⟩ := exec_dlerror.mp hclear
      obtain ⟨_, library, _, _, rfl, hlibrary, hcheck⟩ := exec_bind.mp hopen
      obtain ⟨rfl, rfl⟩ := exec_dlopen.mp hlibrary
      obtain ⟨_, error, _, _, rfl, herror, hsymbol⟩ := exec_bind.mp hcheck
      obtain ⟨rfl, rfl⟩ := exec_dlerror.mp herror
      cases error with
      | some error =>
          obtain ⟨rfl, rfl⟩ := exec_modify.mp hsymbol
          exact .noLibrary hdown cleared library error
      | none =>
          obtain ⟨_, symbol, _, _, rfl, hdlsym, hbind⟩ := exec_bind.mp hsymbol
          obtain ⟨rfl, rfl⟩ := exec_dlsym.mp hdlsym
          rw [exec_modify_bind] at hbind
          obtain ⟨_, error, _, _, rfl, herror', hlast⟩ := exec_bind.mp hbind
          obtain ⟨rfl, rfl⟩ := exec_dlerror.mp herror'
          cases error with
          | some error =>
              rcases exec_when.mp hlast with ⟨-, hmodify⟩ | ⟨hno, -⟩
              · obtain ⟨rfl, rfl⟩ := exec_modify.mp hmodify
                exact .noSymbol hdown cleared library symbol error
              · exact absurd (Option.some_ne_none error) hno
          | none =>
              rcases exec_when.mp hlast with ⟨hyes, -⟩ | ⟨-, rfl, rfl⟩
              · exact absurd rfl hyes
              · exact .bound hdown cleared library symbol
    · have hanswer : answer ≠ 0 := by simpa using habsent
      have hflag : (answer == 0) = false := by simpa using hanswer
      rw [hflag]
      exact .absent hdown answer hanswer
  · exact .known (by simpa using hup)

/-! ## The blocks together -/

/-- What `detect_hardware` looks for, one block each, in the order of the
source. -/
inductive Capability
  | platform
  | backlight
  | led
  | apm
  | sysfsSleep
  | einkModeControl
  deriving DecidableEq, Repr

namespace Capability

/-- The block that looks for the capability. -/
def block : Capability → Hw Unit
  | platform => detectPlatform
  | backlight => detectBacklight
  | led => detectLeds ledRows
  | apm => detectApm
  | sysfsSleep => detectSysfsSleep
  | einkModeControl => detectEinkModeControl

/-- The files the block probes. -/
def nodes : Capability → List Node
  | platform => [.stateExtended]
  | backlight => [.boeyeBrightness, .ntxIo]
  | led => ledRows.map LedRow.node
  | apm => [.apmBios]
  | sysfsSleep => [.powerState]
  | einkModeControl => [.einkmode]

/-- No two blocks probe one file. -/
theorem eq_of_mem_nodes {capability other : Capability} {node : Node}
    (h : node ∈ capability.nodes) (h' : node ∈ other.nodes) : other = capability := by
  revert h h'
  cases capability <;> cases other <;> cases node <;> decide

/-- The observation ignores the assignments of the block. -/
def Ignored (part : Globals → κ) : Capability → Prop
  | platform => ∀ s value, part { s with hwPlatform := value } = part s
  | backlight =>
      (∀ s flag, part { s with hardwareHasBacklight := flag } = part s) ∧
        (∀ s path, part { s with backlightPath := path } = part s) ∧
        ∀ s level, part { s with previousBacklightLevel := level } = part s
  | led =>
      (∀ s flag, part { s with hardwareHasLED := flag } = part s) ∧
        ∀ s path states, part { s with ledPath := path, ledState := states } = part s
  | apm =>
      (∀ s flag, part { s with hardwareHasAPM := flag } = part s) ∧
        ∀ s pointer, part { s with apmSuspend := pointer } = part s
  | sysfsSleep =>
      (∀ s flag, part { s with hardwareHasSysfsSleep := flag } = part s) ∧
        ∀ s path, part { s with sysfsSleepPath := path } = part s
  | einkModeControl =>
      (∀ s flag, part { s with hardwareHasEinkModeControl := flag } = part s) ∧
        ∀ s path, part { s with einkModeControlPath := path } = part s

theorem uses_block (capability : Capability) :
    Uses (I := sys) (Detects capability.nodes (capability = .apm)) capability.block := by
  have hweaken : ∀ own op, Detects own False op → Detects own (capability = .apm) op := by
    intro own op hop
    cases op <;> first | exact hop | exact hop.elim
  cases capability with
  | platform => exact uses_detectPlatform.mono (hweaken _)
  | backlight => exact uses_detectBacklight.mono (hweaken _)
  | led => exact (uses_detectLeds ledRows).mono (hweaken _)
  | apm =>
      refine uses_detectApm.mono fun op hop => ?_
      cases op <;> first | exact hop | rfl
  | sysfsSleep => exact (uses_detectFile _ _ _ _).mono (hweaken _)
  | einkModeControl => exact (uses_detectFile _ _ _ _).mono (hweaken _)

theorem keeps_block {capability : Capability} (h : Ignored part capability) :
    Keeps part capability.block := by
  cases capability with
  | platform => exact keeps_detectPlatform h
  | backlight => exact keeps_detectBacklight h.1 h.2.1 h.2.2
  | led => exact keeps_detectLeds ledRows h.1 h.2
  | apm => exact keeps_detectApm h.1 h.2
  | sysfsSleep => exact keeps_detectFile h.1 fun s => h.2 s _
  | einkModeControl => exact keeps_detectFile h.1 fun s => h.2 s _

end Capability

/-- An observation that ignores every block survives a detection. -/
theorem keeps_detectHardware (h : ∀ capability, Capability.Ignored part capability) :
    Keeps part detectHardware :=
  .bind (Capability.keeps_block (h .platform)) fun _ =>
    .bind (Capability.keeps_block (h .backlight)) fun _ =>
    .bind (Capability.keeps_block (h .led)) fun _ =>
    .bind (Capability.keeps_block (h .apm)) fun _ =>
    .bind (Capability.keeps_block (h .sysfsSleep)) fun _ =>
      Capability.keeps_block (h .einkModeControl)

/-- One detection: where each block starts and ends, and what it emits. -/
structure Detection (s : Globals) (t : Trace) (s' : Globals) where
  before : Capability → Globals
  after : Capability → Globals
  trace : Capability → Trace
  exec_block : ∀ capability, Exec (Capability.block capability) (before capability)
    (trace capability) () (after capability)
  trace_eq : t = trace .platform ++ (trace .backlight ++ (trace .led ++
    (trace .apm ++ (trace .sysfsSleep ++ trace .einkModeControl))))
  start : before .platform = s
  afterPlatform : after .platform = before .backlight
  afterBacklight : after .backlight = before .led
  afterLed : after .led = before .apm
  afterApm : after .apm = before .sysfsSleep
  afterSysfsSleep : after .sysfsSleep = before .einkModeControl
  finish : after .einkModeControl = s'

theorem exec_detectHardware {result : Unit} (h : Exec detectHardware s t result s') :
    Nonempty (Detection s t s') := by
  obtain ⟨platform, _, s₁, _, rfl, hplatform, h₁⟩ := exec_bind.mp h
  obtain ⟨backlight, _, s₂, _, rfl, hbacklight, h₂⟩ := exec_bind.mp h₁
  obtain ⟨leds, _, s₃, _, rfl, hleds, h₃⟩ := exec_bind.mp h₂
  obtain ⟨apm, _, s₄, _, rfl, hapm, h₄⟩ := exec_bind.mp h₃
  obtain ⟨sleep, _, s₅, eink, rfl, hsleep, heink⟩ := exec_bind.mp h₄
  refine ⟨{
    before := fun
      | .platform => s | .backlight => s₁ | .led => s₂
      | .apm => s₃ | .sysfsSleep => s₄ | .einkModeControl => s₅
    after := fun
      | .platform => s₁ | .backlight => s₂ | .led => s₃
      | .apm => s₄ | .sysfsSleep => s₅ | .einkModeControl => s'
    trace := fun
      | .platform => platform | .backlight => backlight | .led => leds
      | .apm => apm | .sysfsSleep => sleep | .einkModeControl => eink
    exec_block := ?_, trace_eq := rfl, start := rfl, afterPlatform := rfl
    afterBacklight := rfl, afterLed := rfl, afterApm := rfl, afterSysfsSleep := rfl
    finish := rfl }⟩
  intro capability
  cases capability with
  | platform => exact hplatform
  | backlight => exact hbacklight
  | led => exact hleds
  | apm => exact hapm
  | sysfsSleep => exact hsleep
  | einkModeControl => exact heink

namespace Detection

variable (d : Detection s t s')

/-- An observation that only one block can change is what that block makes of
it. -/
theorem frame (part : Globals → κ) (capability : Capability)
    (h : ∀ other, other ≠ capability → Capability.Ignored part other) :
    part (d.before capability) = part s ∧ part s' = part (d.after capability) := by
  have hstep : ∀ other, other ≠ capability → part (d.after other) = part (d.before other) :=
    fun other hother => Capability.keeps_block (h other hother) (d.exec_block other)
  -- All blocks but one keep the observation, so it travels along the chain of
  -- states up to that block and from there to the end.
  have hstart := congrArg part d.start
  have h₁ := congrArg part d.afterPlatform
  have h₂ := congrArg part d.afterBacklight
  have h₃ := congrArg part d.afterLed
  have h₄ := congrArg part d.afterApm
  have h₅ := congrArg part d.afterSysfsSleep
  have hfinish := congrArg part d.finish
  have hplatform := hstep .platform
  have hbacklight := hstep .backlight
  have hled := hstep .led
  have hapm := hstep .apm
  have hsleep := hstep .sysfsSleep
  have heink := hstep .einkModeControl
  cases capability <;> simp_all

/-- Every file is reported by the block that probes it, or not at all. -/
theorem reported_eq {capability : Capability} {node : Node}
    (hnode : node ∈ capability.nodes) :
    reported node t = reported node (d.trace capability) := by
  have hsilent : ∀ other, other ≠ capability → reported node (d.trace other) = false :=
    fun other hother => reported_of_detects (Capability.uses_block other (d.exec_block other))
      fun hmem => hother (Capability.eq_of_mem_nodes hnode hmem)
  have htrace := congrArg (reported node) d.trace_eq
  simp only [reported_append] at htrace
  have hplatform := hsilent .platform
  have hbacklight := hsilent .backlight
  have hled := hsilent .led
  have hapm := hsilent .apm
  have hsleep := hsilent .sysfsSleep
  have heink := hsilent .einkModeControl
  cases capability <;> simp_all

end Detection

end Hardware
end DigmaE605
