import DigmaE605.Hardware.BacklightControl
import DigmaE605.Interaction.World

/-!
# The backlight level from before the program started

The detection that finds the sysfs backlight reads the level it has, and
`set_brightness` can write that level back.  Between the two the program may
set other levels and detect again: the level that was read stays, because a
detection reads it only while the backlight flag is down.

The brightness node is a `TextFile` of the environment, `NodeStep` its
behaviour.  `exec_read_node` and `exec_write_node` are the two halves of the
round trip, `BacklightSaved` is the invariant of the calls in between, and
`backlight_restored` puts them together.
-/

namespace DigmaE605
namespace Hardware

open Interaction Program Text

variable {s s' : Globals} {t : Trace} {h : List Done} {file file' : TextFile} {v : Int32}

/-! ## The node -/

/-- The brightness node behaves as a file that can always be opened. -/
def NodeStep (file : TextFile) : Event sys → TextFile → Prop
  | ⟨.fopen (some .boeyeBrightness) .rt, opened⟩, file' =>
      (show Bool from opened) = true ∧ file' = file.openRead
  | ⟨.fopen (some .boeyeBrightness) .wt, opened⟩, file' =>
      (show Bool from opened) = true ∧ file' = file.openWrite
  | ⟨.fgets ⟨some .boeyeBrightness, _⟩ size, line⟩, file' =>
      (show Option (List Char) from line, file') = file.gets size
  | ⟨.fprintf ⟨some .boeyeBrightness, _⟩ text, _⟩, file' => file' = file.print text
  | _, file' => file' = file

/-- Reading a node that holds a value gives the value. -/
theorem readTrace_node {line : Option (Option (List Char))} (hholds : file.Holds v)
    (hnode : Follows NodeStep file (readTrace (some .boeyeBrightness) line) file') :
    readValue line = v := by
  cases line with
  | none =>
      -- A failed `fopen` is not what the node answers.
      obtain ⟨middle, ⟨hopened, -⟩, -⟩ := hnode
      exact absurd hopened (by simp)
  | some line =>
      obtain ⟨middle, ⟨-, rfl⟩, next, hgets, -⟩ := hnode
      obtain ⟨text, htext, hvalue⟩ := TextFile.gets_of_holds hholds (by omega : 13 ≤ 256)
      have hline : line = some text := (congrArg Prod.fst hgets).trans htext
      rw [hline]
      exact hvalue

theorem exec_read_node {value : Int32} (hholds : file.Holds v)
    (hexec : Exec (readIntFromFile (some .boeyeBrightness)) s t value s')
    (hnode : Follows NodeStep file t file') : value = v := by
  obtain ⟨line, rfl, rfl, -⟩ := exec_readIntFromFile.mp hexec
  exact readTrace_node hholds hnode

/-- Writing a value to the node makes it hold the value. -/
theorem exec_write_node
    (hwrites : WritesText (some .boeyeBrightness) (decimalText v.toInt) t)
    (hnode : Follows NodeStep file t file') : file'.Holds v := by
  obtain ⟨opened, rfl⟩ := hwrites
  cases opened with
  | false =>
      obtain ⟨middle, -, next, ⟨hopened, -⟩, -⟩ := hnode
      exact absurd hopened (by simp)
  | true =>
      obtain ⟨_, rfl, _, ⟨-, rfl⟩, _, rfl, _, rfl, rfl⟩ := hnode
      exact TextFile.holds_print _ v

/-- A detection that probes no further than the backlight leaves the node
alone until the backlight block reads it. -/
theorem detectPlatform_node {result : Unit} (hexec : Exec detectPlatform s t result s')
    (hnode : Follows NodeStep file t file') : file' = file := by
  obtain ⟨answer, rfl, -⟩ := exec_detectPlatform hexec
  refine hnode.unchanged ?_
  intro e he w w' hstep
  rw [List.mem_singleton.mp he] at hstep
  exact hstep

/-! ## The saved level -/

/-- The sysfs backlight is known and its level was saved. -/
structure BacklightSaved (v : Int32) (s : Globals) : Prop where
  flag : s.hardwareHasBacklight = true
  path : s.backlightPath = some .boeyeBrightness
  level : s.previousBacklightLevel = v

/-- The globals that `BacklightSaved` speaks about. -/
def backlightPart (s : Globals) : Bool × Option Node × Int32 :=
  (s.hardwareHasBacklight, s.backlightPath, s.previousBacklightLevel)

theorem BacklightSaved.congr (hsaved : BacklightSaved v s)
    (hpart : backlightPart s' = backlightPart s) : BacklightSaved v s' := by
  simp only [backlightPart, Prod.mk.injEq] at hpart
  obtain ⟨hflag, hpath, hlevel⟩ := hpart
  exact ⟨hflag.trans hsaved.flag, hpath.trans hsaved.path, hlevel.trans hsaved.level⟩

/-- What a detection does to the backlight, its block does. -/
theorem Detection.backlight_frame (d : Detection s t s') :
    backlightPart (d.before .backlight) = backlightPart s ∧
      backlightPart s' = backlightPart (d.after .backlight) := by
  refine d.frame backlightPart .backlight ?_
  intro other hother
  cases other <;> simp_all [Capability.Ignored, backlightPart]

/-- The detection that finds the sysfs backlight saves the level it reads. -/
theorem detectHardware_saves {result : Unit} (hopen : s.hardwareHasBacklight = false)
    (hfound : reported .boeyeBrightness t = true) (hholds : file.Holds v)
    (hexec : Exec detectHardware s t result s') (hnode : Follows NodeStep file t file') :
    BacklightSaved v s' := by
  obtain ⟨d⟩ := exec_detectHardware hexec
  obtain ⟨hbefore, hafter⟩ := d.backlight_frame
  have hreported := d.reported_eq
    (by decide : Node.boeyeBrightness ∈ Capability.backlight.nodes)
  have hdown : (d.before .backlight).hardwareHasBacklight = false :=
    (congrArg Prod.fst hbefore).trans hopen
  have htrace := d.trace_eq
  rw [htrace] at hnode
  -- The platform probe comes first and does not touch the node.
  obtain ⟨middle, hplatform, hrest⟩ := follows_append.mp hnode
  have hsame := detectPlatform_node (d.exec_block .platform) hplatform
  subst hsame
  obtain ⟨next, hbacklight, -⟩ := follows_append.mp hrest
  have hprobe := exec_detectBacklight (d.exec_block .backlight)
  generalize d.trace .backlight = trace at hprobe hbacklight hreported
  generalize d.after .backlight = last at hprobe hafter
  suffices hblock : BacklightSaved v last from hblock.congr hafter
  cases hprobe with
  | known hup => exact absurd (hup.symm.trans hdown) (by simp)
  | boeye _ line =>
      obtain ⟨_, rfl, hread⟩ := hbacklight
      exact ⟨rfl, rfl, readTrace_node hholds hread⟩
  | other _ boeye ntx hboeye =>
      rw [hfound] at hreported
      exact absurd hreported (by simp [hboeye])

/-- A detection after it saves nothing. -/
theorem detectHardware_keeps_saved {result : Unit} (hsaved : BacklightSaved v s)
    (hexec : Exec detectHardware s t result s') : BacklightSaved v s' := by
  obtain ⟨d⟩ := exec_detectHardware hexec
  obtain ⟨hbefore, hafter⟩ := d.backlight_frame
  have hsavedBefore := hsaved.congr hbefore
  have hprobe := exec_detectBacklight (d.exec_block .backlight)
  generalize d.before .backlight = start at hprobe hsavedBefore
  generalize d.after .backlight = last at hprobe hafter
  generalize d.trace .backlight = trace at hprobe
  suffices hblock : BacklightSaved v last from hblock.congr hafter
  -- With the flag up the block returns at once, so the level is not read again.
  cases hprobe with
  | known _ => exact hsavedBefore
  | boeye hdown _ => exact absurd (hsavedBefore.flag.symm.trans hdown) (by simp)
  | other hdown _ _ _ => exact absurd (hsavedBefore.flag.symm.trans hdown) (by simp)

/-- No call changes the saved level. -/
theorem BacklightSaved.entry {deed : Done}
    (hexec : Exec (Call.entry deed.call) deed.before deed.trace deed.result deed.after)
    (hsaved : BacklightSaved v deed.before) : BacklightSaved v deed.after := by
  by_cases hcall : deed.call = .detectHardware
  · rw [hcall] at hexec
    obtain ⟨_, hdetect, -⟩ := exec_returning.mp hexec
    exact detectHardware_keeps_saved hsaved hdetect
  · have hkept : Keeps backlightPart deed.call.entry :=
      keeps_entry hcall (fun _ _ => rfl) (fun _ _ => rfl) fun _ _ => rfl
    exact hsaved.congr (hkept hexec)

/-! ## The round trip -/

/-- Setting the saved level again leaves a node that reads as `v`: whenever the
write and the read are done against the node, and there is a way to do them. -/
structure Restores (s : Globals) (file : TextFile) (v : Int32) : Prop where
  always : ∀ t s₁ file₁ t' value s₂ file₂,
    Exec (setBrightness s.previousBacklightLevel) s t () s₁ → Follows NodeStep file t file₁ →
    Exec (readIntFromFile (some .boeyeBrightness)) s₁ t' value s₂ →
    Follows NodeStep file₁ t' file₂ → value = v
  possible : ∃ t s₁ file₁ t' value s₂ file₂,
    Exec (setBrightness s.previousBacklightLevel) s t () s₁ ∧ Follows NodeStep file t file₁ ∧
    Exec (readIntFromFile (some .boeyeBrightness)) s₁ t' value s₂ ∧
    Follows NodeStep file₁ t' file₂

/-- A reader that has the node answers for it as the node would. -/
theorem Device.respond_node (device : Device) (op : Sys)
    (hpresent : Node.boeyeBrightness ∈ device.present) :
    NodeStep device.brightness ⟨op, (device.respond op).1⟩ (device.respond op).2.brightness := by
  cases op with
  | fopen name mode =>
      cases name with
      | none => rfl
      | some node =>
          by_cases hnode : node ∈ device.present
          · cases node <;> cases mode <;>
              simp [Device.respond, hnode, Device.opened, NodeStep]
          · cases node <;> first | exact absurd hpresent hnode | simp [Device.respond, hnode, NodeStep]
  | fgets stream size =>
      obtain ⟨name, mode⟩ := stream
      by_cases hname : name = some .boeyeBrightness
      · subst hname
        simp [Device.respond, NodeStep]
      · simp only [Device.respond, if_neg hname]
        rcases name with _ | node
        · rfl
        · cases node <;> first | exact absurd rfl hname | rfl
  | fprintf stream text =>
      obtain ⟨name, mode⟩ := stream
      by_cases hname : name = some .boeyeBrightness
      · subst hname
        simp [Device.respond, NodeStep]
      · simp only [Device.respond, if_neg hname]
        rcases name with _ | node
        · rfl
        · cases node <;> first | exact absurd rfl hname | rfl
  | _ => rfl

theorem Device.respond_present (device : Device) (op : Sys) :
    (device.respond op).2.present = device.present := by
  cases op with
  | fopen name mode =>
      cases name with
      | none => rfl
      | some node =>
          unfold Device.respond
          by_cases hnode : node ∈ device.present
          · cases node <;> cases mode <;> simp [hnode, Device.opened]
          · simp [hnode]
  | fgets stream size =>
      by_cases hname : stream.file = some .boeyeBrightness <;> simp [Device.respond, hname]
  | fprintf stream text =>
      by_cases hname : stream.file = some .boeyeBrightness <;> simp [Device.respond, hname]
  | _ => rfl

/-- A program played on a reader that has the node follows the node. -/
theorem Device.play_follows {α : Type} (device : Device) (program : Hw α) (s : Globals)
    (hpresent : Node.boeyeBrightness ∈ device.present) :
    Follows NodeStep device.brightness (program.play Device.respond device s).1
        (program.play Device.respond device s).2.2.brightness ∧
      Node.boeyeBrightness ∈ (program.play Device.respond device s).2.2.present :=
  follows_play Device.brightness
    (fun device op hpresent => (device.respond_present op).symm ▸ hpresent)
    (fun device op hpresent => device.respond_node op hpresent) program s hpresent

theorem Device.run_follows (device : Device) (s : Globals) (calls : List Call)
    (hpresent : Node.boeyeBrightness ∈ device.present) :
    ∃ file, Follows NodeStep device.brightness (runTrace (device.run s calls).1) file :=
  ⟨_, follows_playAll Device.brightness
    (fun device op hpresent => (device.respond_present op).symm ▸ hpresent)
    (fun device op hpresent => device.respond_node op hpresent) Call.entry calls s hpresent⟩

/-- A saved level can be restored wherever the platform is not a Kobo. -/
theorem BacklightSaved.restores (hsaved : BacklightSaved v s) (hplatform : s.hwPlatform ≠ .kobo)
    (file : TextFile) : Restores s file v := by
  constructor
  · intro t s₁ file₁ t' value s₂ file₂ hset hwritten hread hnode
    rcases exec_setBrightness hset with ⟨hkobo, -⟩ | ⟨-, -, hwrites, -⟩ | ⟨-, hflag, -⟩
    · exact absurd hkobo hplatform
    · rw [hsaved.path, hsaved.level] at hwrites
      exact exec_read_node (exec_write_node hwrites hwritten) hread hnode
    · exact absurd (hsaved.flag.symm.trans hflag) (by simp)
  · let device : Device :=
      { present := [.boeyeBrightness], accepted := [], apmSuspend := none, brightness := file }
    have hpresent : Node.boeyeBrightness ∈ device.present := List.mem_cons_self
    obtain ⟨hwritten, hpresent'⟩ :=
      device.play_follows (setBrightness s.previousBacklightLevel) s hpresent
    obtain ⟨hread, -⟩ := Device.play_follows _ (readIntFromFile (some .boeyeBrightness))
      (Program.play Device.respond (setBrightness s.previousBacklightLevel) device s).2.1.2
      hpresent'
    exact ⟨_, _, _, _, _, _, _, exec_play _ _ _ _, hwritten, exec_play _ _ _ _, hread⟩

/-- **The first level can be restored.**  In a run that never sees a Kobo, let
`probe` be the detection that raises the backlight flag, by finding the sysfs
node while it holds `v`.  Then whatever calls follow, the saved level is `v`,
and setting it again leaves a node that reads as `v`. -/
theorem backlight_restored (earlier later : List Done) (probe : Done)
    (hrun : Run Globals.initial (earlier ++ probe :: later) s)
    (hkobo : ¬ KoboSeen (earlier ++ probe :: later))
    (hcall : probe.call = .detectHardware)
    (hopen : probe.before.hardwareHasBacklight = false)
    (hfound : reported .boeyeBrightness probe.trace = true) (hholds : file.Holds v)
    (hnode : Follows NodeStep file (probe.trace ++ runTrace later) file') :
    s.previousBacklightLevel = v ∧ Restores s file' v := by
  obtain ⟨-, hexec, hlater⟩ := Session.split_deed hrun
  rw [hcall] at hexec
  obtain ⟨_, hdetect, -⟩ := exec_returning.mp hexec
  obtain ⟨middle, hprobe, -⟩ := follows_append.mp hnode
  have hsaved : BacklightSaved v probe.after :=
    detectHardware_saves hopen hfound hholds hdetect hprobe
  have hstill : BacklightSaved v s :=
    Session.invariant (fun _ => BacklightSaved.entry) hlater hsaved
  have hplatform : s.hwPlatform ≠ .kobo := fun hseen => hkobo (hrun.kobo.mp hseen)
  exact ⟨hstill.level, hstill.restores hplatform file'⟩

/-- A Digma R60G whose backlight stands at 17. -/
def digmaR60G : Device where
  present := [.boeyeBrightness, .chargerLed]
  accepted := [Request.epaperUpdateDisplayQt]
  apmSuspend := none
  brightness := ⟨['1', '7', '\n'], []⟩

theorem backlight_restored_digmaR60G :
    let calls := [Call.detectHardware, .setBrightness 255, .detectHardware, .setBrightness (-5)]
    (digmaR60G.run Globals.initial calls).2.previousBacklightLevel = 17 ∧
      ∃ file, Restores (digmaR60G.run Globals.initial calls).2 file 17 := by
  intro calls
  obtain ⟨file, hnode⟩ := digmaR60G.run_follows Globals.initial calls (by decide)
  have hrestored := backlight_restored (v := 17) [] _ _
    (digmaR60G.run_isRun Globals.initial calls) (by decide) rfl rfl (by decide)
    (.inr (by decide)) hnode
  exact ⟨hrestored.1, file, hrestored.2⟩

end Hardware
end DigmaE605
