import DigmaE605.Hardware.Knowledge
import DigmaE605.Hardware.RefreshProbe

/-!
# The globals represent what is known

`Represents` relates the globals of `digma_hw.c` to a `Knowledge`: each flag
with its path, table, level or function stands for one part of it.  The calls
keep the relation (`Represents.entry`), do to the reader what the knowledge says
(`exec_effects`) and return what it says (`exec_reply`).
`module_refines_knowledge` puts the three together for whole runs.

The answers of the environment are read off the trace of a call by `answersOf`:
a file is there when a probe reported it, the level is that of the line that was
read, and so on.
-/

namespace DigmaE605
namespace Hardware

open Interaction Program Text

variable {s s' : Globals} {t t' : Trace} {h : List Done} {k : Knowledge}

/-! ## The answers of a trace -/

/-- The number that `fgets` hands to `atoi`. -/
def numberRead : Event sys → Option Int32
  | ⟨.fgets _ _, line⟩ => some (readValue (some (show Option (List Char) from line)))
  | _ => none

/-- The level that was read, 0 if none could be. -/
def levelRead (t : Trace) : Int32 := (t.findSome? numberRead).getD 0

/-- The descriptor that an `open` returned. -/
def descriptorOpened : Event sys → Option Int32
  | ⟨.openRdwr _, fd⟩ => some (show Int32 from fd)
  | _ => none

/-- What `open` returned, -1 without an `open`. -/
def openedIn (t : Trace) : Int32 := (t.findSome? descriptorOpened).getD (-1)

/-- What a detection met. -/
def surveyOf (t : Trace) : Survey where
  present := fun node => reported node t
  level := levelRead t
  apm := apmFound t

/-- What the environment answered during a call. -/
def answersOf (t : Trace) : Answers where
  survey := surveyOf t
  opened := openedIn t
  accepts := fun request => accepted request t

/-- The effect of an event. -/
def effect : Event sys → Option Effect
  | ⟨.writing file text, _⟩ => some (.write file text)
  | ⟨.ioctl fd request arg, _⟩ => some (.request fd request arg)
  | _ => none

/-- What a trace does to the reader, in order. -/
def effectsIn (t : Trace) : List Effect := t.filterMap effect

@[simp] theorem effectsIn_nil : effectsIn [] = [] := rfl

/-- What is bound with a backlight control: the path and the level of the sysfs
node, and neither for `/dev/ntx_io`. -/
def Backlight.bound : Backlight → Option Node × Int32
  | sysfs level => (some .boeyeBrightness, level)
  | ntxIo => (none, 0)

/-- The backlight with its path and the level it had. -/
def savedLatch : Latch Globals (Option Node × Int32) where
  closed := Globals.hardwareHasBacklight
  value := fun s => (s.backlightPath, s.previousBacklightLevel)
  unset := (none, 0)

/-- The globals stand for the knowledge. -/
structure Represents (k : Knowledge) (s : Globals) : Prop where
  kobo : koboLatch.view s = if k.kobo then some () else none
  backlight : savedLatch.view s = k.backlight.map Backlight.bound
  clean : savedLatch.Clean s
  led : ledLatch.view s = k.led.map LedRow.bound
  apm : apmLatch.view s = k.apm
  sysfsSleep : sysfsSleepLatch.view s = if k.sysfsSleep then some (some .powerState) else none
  einkModeControl :
    einkModeControlLatch.view s = if k.einkModeControl then some (some .einkmode) else none
  refreshType : s.refreshType = k.refreshType
  framebuffer : s.framebufferDescriptor = k.framebuffer
  refreshEnabled : s.enableRefresh = true
  notifyOff : s.ledNotify = false

theorem Represents.initial : Represents Knowledge.initial Globals.initial where
  kobo := rfl
  backlight := rfl
  clean := fun _ => rfl
  led := rfl
  apm := rfl
  sysfsSleep := rfl
  einkModeControl := rfl
  refreshType := rfl
  framebuffer := rfl
  refreshEnabled := rfl
  notifyOff := rfl

/-- `errno` stands for nothing. -/
theorem Represents.congr (hk : Represents k s)
    (hsame : s'.setErrno 0 = s.setErrno 0) : Represents k s' := by
  -- Every part of the globals but `errno` is a function of what is the same.
  have hview {β : Type} (part : Globals → β) : part (s'.setErrno 0) = part (s.setErrno 0) :=
    congrArg part hsame
  constructor
  · exact (hview koboLatch.view).trans hk.kobo
  · exact (hview savedLatch.view).trans hk.backlight
  · intro hopen
    have hflag : s.hardwareHasBacklight = false :=
      (hview Globals.hardwareHasBacklight).symm.trans hopen
    exact (hview savedLatch.value).trans (hk.clean hflag)
  · exact (hview ledLatch.view).trans hk.led
  · exact (hview apmLatch.view).trans hk.apm
  · exact (hview sysfsSleepLatch.view).trans hk.sysfsSleep
  · exact (hview einkModeControlLatch.view).trans hk.einkModeControl
  · exact (hview Globals.refreshType).trans hk.refreshType
  · exact (hview Globals.framebufferDescriptor).trans hk.framebuffer
  · exact (hview Globals.enableRefresh).trans hk.refreshEnabled
  · exact (hview Globals.ledNotify).trans hk.notifyOff

/-! ## Detection -/

/-- Probes read no line. -/
theorem numberRead_of_probing (h : ∀ e ∈ t, Probing e.op) : t.findSome? numberRead = none := by
  rw [List.findSome?_eq_none_iff]
  rintro ⟨op, answer⟩ he
  have hop := h _ he
  cases op <;> first | rfl | exact hop.elim

theorem Detection.levelRead_eq (d : Detection s t s') :
    levelRead t = levelRead (d.trace .backlight) := by
  have hsilent : ∀ other, other ≠ Capability.backlight →
      (d.trace other).findSome? numberRead = none :=
    fun other hother => numberRead_of_probing (probing_block hother (d.exec_block other))
  have htrace := congrArg (fun trace : Trace => trace.findSome? numberRead) d.trace_eq
  simp only [List.findSome?_append, hsilent .platform (by decide), hsilent .led (by decide),
    hsilent .apm (by decide), hsilent .sysfsSleep (by decide),
    hsilent .einkModeControl (by decide), Option.none_or, Option.or_none] at htrace
  unfold levelRead
  rw [htrace]

/-- The level of a reading. -/
theorem levelRead_readTrace (name : Option Node) (line : Option (Option (List Char))) :
    levelRead (event (.access .boeyeBrightness) (0 : Int32) :: readTrace name line) =
      readValue line := by
  cases line with
  | none => rfl
  | some line => rfl

/-- The backlight block finds a control, with the level it reads, unless it
knows one. -/
theorem detectBacklight_saved {result : Unit} (hclean : savedLatch.Clean s)
    (h : Exec detectBacklight s t result s') :
    savedLatch.view s' =
        (savedLatch.view s).or ((surveyOf t).backlight.map Backlight.bound) ∧
      savedLatch.Clean s' := by
  cases exec_detectBacklight h with
  | known hflag => exact ⟨by simp [surveyOf, Survey.backlight], hclean⟩
  | boeye hflag line =>
      have hview : savedLatch.view s = none := Latch.view_eq_none_iff.mpr hflag
      refine ⟨?_, fun hopen => absurd hopen (by simp [savedLatch])⟩
      rw [hview]
      simp [surveyOf, Survey.backlight, levelRead_readTrace, Latch.view, savedLatch,
        Backlight.bound]
  | other hflag boeye ntx hboeye =>
      have hview : savedLatch.view s = none := Latch.view_eq_none_iff.mpr hflag
      have hunset := hclean hflag
      refine ⟨?_, fun _ => hunset⟩
      -- `/dev/ntx_io` binds no path: what stands for it is the unset one.
      have hpair : (s.backlightPath, s.previousBacklightLevel) = (none, 0) := hunset
      rw [hview]
      by_cases hntx : ntx = 0
      · simp [surveyOf, Survey.backlight, Latch.view, savedLatch, hboeye, hntx, hpair,
          Backlight.bound]
      · simp [surveyOf, Survey.backlight, Latch.view, savedLatch, hboeye, hntx]

theorem detectHardware_saved {result : Unit} (hclean : savedLatch.Clean s)
    (h : Exec detectHardware s t result s') :
    savedLatch.view s' =
        (savedLatch.view s).or ((surveyOf t).backlight.map Backlight.bound) ∧
      savedLatch.Clean s' := by
  obtain ⟨d⟩ := exec_detectHardware h
  obtain ⟨⟨hbefore, hcleanBefore⟩, hafter, hcleanAfter⟩ :=
    d.frame_latch savedLatch .backlight (by
      intro other hother
      cases other <;> simp_all [Capability.Ignored, savedLatch])
  have hsurvey : (surveyOf t).backlight = (surveyOf (d.trace .backlight)).backlight :=
    Survey.backlight_congr
      (d.reported_eq (by decide : Node.boeyeBrightness ∈ Capability.backlight.nodes))
      (d.reported_eq (by decide : Node.ntxIo ∈ Capability.backlight.nodes)) d.levelRead_eq
  rw [hafter, ← hbefore, hsurvey, hcleanAfter]
  exact detectBacklight_saved (hcleanBefore.mpr hclean) (d.exec_block .backlight)

/-- What a trace loaded for APM came with the node. -/
theorem loadedApm_surveyOf (t : Trace) : (surveyOf t).loadedApm = apmFound t := by
  unfold Survey.loadedApm surveyOf apmFound
  by_cases hnode : reported .apmBios t = true
  · simp [hnode]
  · simp [hnode]

/-- A flag and a file are known together, before or after the probe. -/
theorem fileFound_or {β : Type} (known found : Bool) (value : β) :
    (if known then some value else none).or (if found then some value else none) =
      if known || found then some value else none := by
  cases known <;> cases found <;> rfl

/-- A detection adds what it met to what the globals stand for. -/
theorem Represents.detectHardware {result : Unit} (hk : Represents k s)
    (hlinker : LinkerContract t) (h : Exec Hardware.detectHardware s t result s') :
    Represents (k.detect (surveyOf t)) s' := by
  have hkeeps : Keeps (fun s : Globals =>
      ((s.refreshType, s.framebufferDescriptor), s.enableRefresh, s.ledNotify))
      Hardware.detectHardware := keeps_detectHardware (by
    intro capability
    cases capability <;> simp [Capability.Ignored])
  have hconst := hkeeps h
  simp only [Prod.mk.injEq] at hconst
  obtain ⟨⟨hrefresh, hfb⟩, henabled, hnotify⟩ := hconst
  obtain ⟨hsaved, hclean⟩ := detectHardware_saved hk.clean h
  constructor
  · rw [detectHardware_kobo h, hk.kobo]
    exact fileFound_or _ _ _
  · rw [hsaved, hk.backlight]
    exact (Option.map_or).symm
  · exact hclean
  · rw [detectHardware_led h, hk.led]
    exact (Option.map_or).symm
  · rw [detectHardware_apm hlinker h, hk.apm, ← loadedApm_surveyOf]
    rfl
  · rw [detectHardware_sysfsSleep h, hk.sysfsSleep]
    exact fileFound_or _ _ _
  · rw [detectHardware_einkModeControl h, hk.einkModeControl]
    exact fileFound_or _ _ _
  · exact hrefresh.trans hk.refreshType
  · exact hfb.trans hk.framebuffer
  · exact henabled.trans hk.refreshEnabled
  · exact hnotify.trans hk.notifyOff

/-! ## The other calls -/

/-- A call that neither detects, nor probes, nor opens changes `errno` alone. -/
theorem keeps_knowledge {call : Call} (hdetect : call ≠ .detectHardware)
    (hprobe : call ≠ .detectRefreshType) (hopen : call ≠ .openFramebuffer) :
    Keeps (fun s : Globals => s.setErrno 0) call.entry :=
  keeps_call (fun _ _ => rfl) (fun hcall => absurd hcall hprobe)
    (fun hcall => absurd hcall hopen) fun hcall => absurd hcall hdetect

/-- A probe remembers the protocol that its own requests found. -/
theorem Represents.probe {result : RefreshType} (hk : Represents k s)
    (h : ProbeOutcome s t result s') :
    Represents (k.probe (answersOf t)) s' ∧ result = (k.probe (answersOf t)).refreshType := by
  have hother : (Request.epaperUpdateFull == Request.epaperUpdateDisplayQt) = false := by decide
  have hother' : (Request.epaperUpdateDisplayQt == Request.epaperUpdateFull) = false := by decide
  cases h with
  | noDescriptor hfb => exact ⟨hk, hk.refreshType⟩
  | qtAccepted hfb =>
      have hknown : k.probe (answersOf [event (.ioctl s.framebufferDescriptor
          Request.epaperUpdateDisplayQt (.pointer 3)) (0 : Int32)]) =
          { k with refreshType := .new } := rfl
      rw [hknown]
      exact ⟨{ hk with refreshType := rfl }, rfl⟩
  | legacyAccepted hfb qt hqt =>
      have hknown : k.probe (answersOf [event (.ioctl s.framebufferDescriptor
          Request.epaperUpdateDisplayQt (.pointer 3)) qt, event (.ioctl s.framebufferDescriptor
          Request.epaperUpdateFull (.pointer 3)) (0 : Int32)]) =
          { k with refreshType := .legacy } := by
        simp [Knowledge.probe, answersOf, hqt, hother]
      rw [hknown]
      exact ⟨{ hk with refreshType := rfl }, rfl⟩
  | bothRefused hfb qt full hqt hfull =>
      have hknown : k.probe (answersOf [event (.ioctl s.framebufferDescriptor
          Request.epaperUpdateDisplayQt (.pointer 3)) qt, event (.ioctl s.framebufferDescriptor
          Request.epaperUpdateFull (.pointer 3)) full]) = k := by
        simp [Knowledge.probe, answersOf, hqt, hfull, hother, hother']
      rw [hknown]
      exact ⟨hk.congr rfl, hk.refreshType⟩

/-- Every call keeps the globals and the knowledge in step. -/
theorem Represents.entry {call : Call} {result : Option RefreshType} (hk : Represents k s)
    (hlinker : call = .detectHardware → LinkerContract t)
    (h : Exec call.entry s t result s') : Represents (k.after call (answersOf t)) s' := by
  cases call with
  | detectHardware =>
      obtain ⟨_, hdetect, -⟩ := exec_returning.mp h
      exact hk.detectHardware (hlinker rfl) hdetect
  | detectRefreshType =>
      obtain ⟨_, hprobe, -⟩ := exec_returning.mp h
      exact (hk.probe (exec_detectRefreshType hprobe)).1
  | openFramebuffer =>
      obtain ⟨_, hopen, -⟩ := exec_returning.mp h
      obtain ⟨fd, rfl, rfl⟩ := exec_openFramebuffer hopen
      exact { hk with framebuffer := rfl }
  | update update =>
      exact hk.congr (keeps_knowledge (by simp) (by simp) (by simp) h)
  | setBrightness value =>
      exact hk.congr (keeps_knowledge (by simp) (by simp) (by simp) h)
  | setLedState state =>
      exact hk.congr (keeps_knowledge (by simp) (by simp) (by simp) h)

/-! ## What the calls do and return -/

end Hardware
end DigmaE605
