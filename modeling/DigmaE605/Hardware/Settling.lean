import DigmaE605.Hardware.Probing

/-!
# One detection is enough

In surroundings that stand still, the first detection of a run finds everything
there is to find: afterwards the globals stand for `Knowledge.found`, what a
single detection of the surroundings makes known, and no later call changes
that.  `detection_settles` says so for whole runs.

The reason is `detect_of_standsStill`: a detection asks for the files of what is
missing up to the first that is there, so what its probes reported is as good as
a look at all the files.
-/

namespace DigmaE605
namespace Hardware

open Interaction Program Text

variable {s s' : Globals} {t : Trace} {h : List Done} {k : Knowledge} {world : Survey}

/-! ## Surroundings that stand still -/

/-- A probe answers what is there. -/
def answersFor (present : Node → Bool) : Event sys → Bool
  | ⟨.access node, answer⟩ => ((show Int32 from answer) == 0) == present node
  | _ => true

/-- The detection met the surroundings: their files, their function where APM is
there, and a linker that keeps its contract.  The level of the backlight may be
any. -/
structure StandsStill (world : Survey) (t : Trace) : Prop where
  files : ∀ e ∈ t, answersFor world.present e = true
  apm : reported .apmBios t = true → apmFound t = world.apm
  linker : LinkerContract t

instance (world : Survey) (t : Trace) : Decidable (StandsStill world t) :=
  decidable_of_iff
    ((∀ e ∈ t, answersFor world.present e = true) ∧
      (reported .apmBios t = true → apmFound t = world.apm) ∧ LinkerContract t)
    ⟨fun h => ⟨h.1, h.2.1, h.2.2⟩, fun h => ⟨h.files, h.apm, h.linker⟩⟩

/-- What is asked for is reported as it is. -/
theorem StandsStill.reported_eq (h : StandsStill world t) {node : Node}
    (hmem : node ∈ probed t) : reported node t = world.present node := by
  obtain ⟨⟨op, answer⟩, he, hasked⟩ := List.mem_filterMap.mp hmem
  have hfile := h.files _ he
  cases op with
  | access other =>
      obtain rfl : other = node := Option.some.inj hasked
      cases hpresent : world.present other with
      | true =>
          refine List.any_eq_true.mpr ⟨_, he, ?_⟩
          simpa [finds, answersFor, hpresent] using hfile
      | false =>
          -- Every probe of the file answers that it is not there.
          refine List.any_eq_false.mpr ?_
          rintro ⟨op', answer'⟩ he' hfinds
          have hfile' := h.files _ he'
          cases op' with
          | access probed =>
              simp only [finds, Bool.and_eq_true, beq_iff_eq] at hfinds
              obtain ⟨rfl, hzero⟩ := hfinds
              exact absurd hfile' (by simp [answersFor, hzero, hpresent])
          | _ => exact Bool.false_ne_true hfinds
  | _ => exact absurd hasked (by simp [asked])

/-- A search that saw the files as they are, up to its first success, finds what
a look at all of them would find. -/
theorem find?_of_upTo {β : Type} {node : β → Node} {present present' : Node → Bool} {rows : List β}
    (h : ∀ file ∈ upTo present (rows.map node), present file = present' file) :
    rows.find? (fun row => present (node row)) = rows.find? fun row => present' (node row) := by
  induction rows with
  | nil => rfl
  | cons row rows ih =>
      rw [List.map_cons, upTo] at h
      rw [List.find?_cons, List.find?_cons, ← h _ List.mem_cons_self]
      cases hrow : present (node row) with
      | true => rfl
      | false =>
          rw [hrow, if_neg Bool.false_ne_true] at h
          exact ih fun file hfile => h file (List.mem_cons_of_mem _ hfile)

/-- What is missing is asked for, and so reported as it is. -/
theorem reported_upTo (hk : Represents k s) (hstill : StandsStill world t) {result : Unit}
    (h : Exec detectHardware s t result s') {capability : Capability}
    (hunknown : k.knows capability = false) :
    ∀ node ∈ upTo (fun node => reported node t) capability.nodes,
      reported node t = world.present node := by
  intro node hnode
  refine hstill.reported_eq ?_
  rw [exec_probed h]
  refine List.mem_flatMap.mpr ⟨capability, by cases capability <;> decide, ?_⟩
  rwa [hk.knows, hunknown, if_neg Bool.false_ne_true]

/-- A capability with one file. -/
theorem known_or_reported (hk : Represents k s) (hstill : StandsStill world t) {result : Unit}
    (h : Exec detectHardware s t result s') (capability : Capability) {node : Node}
    (hnodes : capability.nodes = [node]) :
    (k.knows capability || reported node t) = (k.knows capability || world.present node) := by
  cases hknown : k.knows capability with
  | true => rfl
  | false => rw [reported_upTo hk hstill h hknown node (by rw [hnodes]; exact List.mem_cons_self)]

theorem backlight_of_standsStill (hk : Represents k s) (hstill : StandsStill world t)
    {result : Unit} (h : Exec detectHardware s t result s') :
    k.backlight.or (surveyOf t).backlight =
      k.backlight.or { world with level := levelRead t : Survey }.backlight := by
  cases hknown : k.backlight with
  | some control => rfl
  | none =>
      have hunknown : k.knows .backlight = false := by simp [Knowledge.knows, hknown]
      have hseen := reported_upTo hk hstill h hunknown
      have hboeye : reported .boeyeBrightness t = world.present .boeyeBrightness :=
        hseen _ List.mem_cons_self
      unfold Survey.backlight surveyOf
      rw [Option.none_or, Option.none_or, ← hboeye]
      cases hfound : reported .boeyeBrightness t with
      | true => simp [hfound]
      | false =>
          -- Only now `/dev/ntx_io` is asked for.
          have hntx : reported .ntxIo t = world.present .ntxIo := by
            refine hseen _ ?_
            simp [Capability.nodes, upTo, hfound]
          simp [hfound, hntx]

theorem led_of_standsStill (hk : Represents k s) (hstill : StandsStill world t)
    {result : Unit} (h : Exec detectHardware s t result s') :
    k.led.or (surveyOf t).led = k.led.or world.led := by
  cases hknown : k.led with
  | some row => rfl
  | none =>
      have hunknown : k.knows .led = false := by simp [Knowledge.knows, hknown]
      rw [Option.none_or, Option.none_or]
      exact find?_of_upTo (reported_upTo hk hstill h hunknown)

theorem apm_of_standsStill (hk : Represents k s) (hstill : StandsStill world t)
    {result : Unit} (h : Exec detectHardware s t result s') :
    k.apm.or (surveyOf t).loadedApm = k.apm.or world.loadedApm := by
  cases hknown : k.apm with
  | some function => rfl
  | none =>
      have hunknown : k.knows .apm = false := by simp [Knowledge.knows, hknown]
      have hnode := reported_upTo hk hstill h hunknown .apmBios List.mem_cons_self
      rw [loadedApm_surveyOf, Survey.loadedApm, ← hnode, Option.none_or, Option.none_or]
      cases hfound : reported .apmBios t with
      | true => exact hstill.apm hfound
      | false => simp [apmFound, hfound]

/-- A detection learns from its probes what the surroundings are. -/
theorem detect_of_standsStill (hk : Represents k s) (hstill : StandsStill world t) {result : Unit}
    (h : Exec detectHardware s t result s') :
    k.detect (surveyOf t) = k.detect { world with level := levelRead t } := by
  have hplatform : reported .stateExtended t = world.present .stateExtended :=
    known_or_reported hk hstill h .platform rfl
  have hsleep : (k.sysfsSleep || reported .powerState t) =
      (k.sysfsSleep || world.present .powerState) :=
    known_or_reported hk hstill h .sysfsSleep rfl
  have heink : (k.einkModeControl || reported .einkmode t) =
      (k.einkModeControl || world.present .einkmode) :=
    known_or_reported hk hstill h .einkModeControl rfl
  unfold Knowledge.detect
  rw [backlight_of_standsStill hk hstill h, led_of_standsStill hk hstill h,
    apm_of_standsStill hk hstill h]
  simp only [surveyOf, hplatform, hsleep, heink]
  rfl

/-! ## Capabilities -/

/-- The same capabilities under another refresh type and descriptor. -/
def Knowledge.relabel (k : Knowledge) (refreshType : RefreshType) (framebuffer : Int32) :
    Knowledge :=
  { k with refreshType := refreshType, framebuffer := framebuffer }

/-- The capabilities in the globals are those that are known. -/
def Knows (k : Knowledge) (s : Globals) : Prop :=
  Represents (k.relabel s.refreshType s.framebufferDescriptor) s

theorem Represents.knows_of_relabel {refreshType : RefreshType} {framebuffer : Int32}
    (hk : Represents (k.relabel refreshType framebuffer) s) : Knows k s := by
  have hrefresh : s.refreshType = refreshType := hk.refreshType
  have hfb : s.framebufferDescriptor = framebuffer := hk.framebuffer
  subst hrefresh hfb
  exact hk

theorem Knowledge.after_relabel {call : Call} (hcall : call ≠ .detectHardware)
    (refreshType : RefreshType) (framebuffer : Int32) (a : Answers) :
    ∃ refreshType' framebuffer', (k.relabel refreshType framebuffer).after call a =
      k.relabel refreshType' framebuffer' := by
  cases call with
  | detectHardware => exact absurd rfl hcall
  | detectRefreshType =>
      unfold Knowledge.after Knowledge.probe
      dsimp only
      split
      · exact ⟨.new, framebuffer, rfl⟩
      · split
        · exact ⟨.legacy, framebuffer, rfl⟩
        · exact ⟨refreshType, framebuffer, rfl⟩
  | openFramebuffer => exact ⟨refreshType, a.opened, rfl⟩
  | _ => exact ⟨refreshType, framebuffer, rfl⟩

/-- Without a detection nothing is learned and nothing forgotten. -/
theorem Knows.entry {call : Call} {result : Option RefreshType} (hk : Knows k s)
    (hcall : call ≠ .detectHardware) (h : Exec call.entry s t result s') : Knows k s' := by
  have hafter := Represents.entry hk (fun hdetect => absurd hdetect hcall) h
  obtain ⟨refreshType, framebuffer, heq⟩ := Knowledge.after_relabel hcall s.refreshType
    s.framebufferDescriptor (answersOf t)
  rw [heq] at hafter
  exact hafter.knows_of_relabel

/-- A detection learns what the surroundings are. -/
theorem Knows.detectHardware {result : Unit} (hk : Knows k s) (hstill : StandsStill world t)
    (h : Exec Hardware.detectHardware s t result s') :
    Knows (k.detect { world with level := levelRead t }) s' := by
  have hafter := Represents.detectHardware hk hstill.linker h
  rw [detect_of_standsStill hk hstill h] at hafter
  exact Represents.knows_of_relabel hafter

/-! ## Runs -/

/-- What one detection of the surroundings makes known, with the level that the
brightness node reads as. -/
def found (world : Survey) (level : Int32) : Knowledge :=
  Knowledge.initial.detect { world with level := level }

theorem found_detect (world : Survey) (level level' : Int32) :
    (found world level).detect { world with level := level' } = found world level :=
  Knowledge.detect_detect _ rfl rfl

/-- Nothing has been found yet, or everything there is. -/
def Surveyed (world : Survey) (s : Globals) : Prop :=
  Knows Knowledge.initial s ∨ ∃ level, Knows (found world level) s

/-- After a detection everything there is has been found. -/
theorem Surveyed.detectHardware {result : Unit} (hk : Surveyed world s)
    (hstill : StandsStill world t) (h : Exec Hardware.detectHardware s t result s') :
    ∃ level, Knows (found world level) s' := by
  rcases hk with hblank | ⟨level, hfound⟩
  · exact ⟨levelRead t, hblank.detectHardware hstill h⟩
  · refine ⟨level, ?_⟩
    have hafter := hfound.detectHardware hstill h
    rwa [found_detect] at hafter

theorem mem_detections {deed : Done} (hmem : deed ∈ h) (hcall : deed.call = .detectHardware) :
    deed.trace ∈ detections h :=
  List.mem_filterMap.mpr ⟨deed, hmem, by simp [detectionOf, hcall]⟩

theorem exec_detection {deed : Done} (hcall : deed.call = .detectHardware)
    (h : Exec (Call.entry deed.call) deed.before deed.trace deed.result deed.after) :
    Exec detectHardware deed.before deed.trace () deed.after := by
  rw [hcall] at h
  obtain ⟨_, hdetect, -⟩ := exec_returning.mp h
  exact hdetect

/-- What was found stays known. -/
theorem Knows.run_found {level : Int32} (hstill : ∀ t ∈ detections h, StandsStill world t)
    (hrun : Run s h s') (hk : Knows (found world level) s) : Knows (found world level) s' := by
  refine Session.invariant_on (fun deed hmem hdeed hbefore => ?_) hrun hk
  by_cases hcall : deed.call = .detectHardware
  · have hworld := hstill _ (mem_detections hmem hcall)
    have hafter := Knows.detectHardware hbefore hworld (exec_detection hcall hdeed)
    rwa [found_detect] at hafter
  · exact Knows.entry hbefore hcall hdeed

theorem Surveyed.run (hstill : ∀ t ∈ detections h, StandsStill world t)
    (hrun : Run Globals.initial h s) : Surveyed world s := by
  refine Session.invariant_on (fun deed hmem hdeed hbefore => ?_) hrun (.inl Represents.initial)
  by_cases hcall : deed.call = .detectHardware
  · have hworld := hstill _ (mem_detections hmem hcall)
    exact .inr (Surveyed.detectHardware hbefore hworld (exec_detection hcall hdeed))
  · rcases hbefore with hblank | ⟨level, hfound⟩
    · exact .inl (hblank.entry hcall hdeed)
    · exact .inr ⟨level, hfound.entry hcall hdeed⟩

/-- What a run makes known in surroundings that stand still. -/
structure Settles (world : Survey) (h : List Done) (s : Globals) : Prop where
  /-- Without a detection nothing is known. -/
  blank : detections h = [] → Knows Knowledge.initial s
  /-- From any detection on, what one detection makes known. -/
  found : ∀ earlier deed later, h = earlier ++ deed :: later → deed.call = .detectHardware →
    ∃ level, Knows (Hardware.found world level) deed.after ∧
      Knows (Hardware.found world level) s

/-- **One detection is enough.**  If every detection of a run meets the same
files and the same linker, the first one finds all there is, whatever calls come
before it, and no later call, detections included, adds to that or takes from
it. -/
theorem detection_settles (hstill : ∀ t ∈ detections h, StandsStill world t)
    (hrun : Run Globals.initial h s) : Settles world h s := by
  constructor
  · intro hnone
    refine Session.invariant_on (fun deed hmem hdeed hbefore => ?_) hrun Represents.initial
    refine Knows.entry hbefore (fun hcall => ?_) hdeed
    have hdetection := mem_detections hmem hcall
    rw [hnone] at hdetection
    exact absurd hdetection List.not_mem_nil
  · rintro earlier deed later rfl hcall
    -- Before the detection nothing is known but what the same files told.
    obtain ⟨hearlier, hdeed, hlater⟩ := Session.split_deed hrun
    have hpart : ∀ t, t ∈ detections earlier ∨ t ∈ detections later → StandsStill world t := by
      intro t ht
      refine hstill t ?_
      simp only [detections, List.filterMap_append, List.mem_append]
      rcases ht with ht | ht
      · exact .inl ht
      · rw [List.filterMap_cons]
        cases detectionOf deed
        · exact .inr ht
        · exact .inr (List.mem_cons_of_mem _ ht)
    have hbefore := Surveyed.run (fun t ht => hpart t (.inl ht)) hearlier
    have hworld := hstill _ (mem_detections (by simp) hcall)
    obtain ⟨level, hafter⟩ := hbefore.detectHardware hworld (exec_detection hcall hdeed)
    exact ⟨level, hafter, hafter.run_found (fun t ht => hpart t (.inr ht)) hlater⟩

/-- A reader with a brightness node and a sleep trigger. -/
def boeyeReader : Device where
  present := [.boeyeBrightness, .powerState, .framebuffer]
  accepted := [Request.epaperUpdateDisplayQt]
  apmSuspend := none
  brightness := ⟨['1', '2'], []⟩

/-- The surroundings of that reader. -/
def boeyeReaderSurvey : Survey where
  present := fun node => decide (node ∈ boeyeReader.present)
  level := 0
  apm := none

theorem detection_settles_boeyeReader :
    let calls := [Call.detectHardware, .setBrightness 80, .openFramebuffer, .detectHardware]
    let h := (boeyeReader.run Globals.initial calls).1
    Settles boeyeReaderSurvey h (boeyeReader.run Globals.initial calls).2 :=
  detection_settles (by decide) (boeyeReader.run_isRun _ _)

end Hardware
end DigmaE605
