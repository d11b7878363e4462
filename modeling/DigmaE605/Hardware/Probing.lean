import DigmaE605.Hardware.Refinement

/-!
# What is asked for, and how often

A detection asks for the files of what is not known yet, each search up to its
first success (`exec_probed`), and the other calls ask for none
(`unasking_entry`).  Over a whole run, each of the backlight, the LED, the sleep
trigger and the controller is found at most once, and nothing is asked about it
afterwards: `found_once` counts the successful probes of the run.
-/

namespace DigmaE605
namespace Hardware

open Interaction Program Text

variable {s s' : Globals} {t t' : Trace} {h : List Done} {k : Knowledge}

/-! ## The probes of a detection -/

/-- The file that an event asks for. -/
def asked : Event sys → Option Node
  | ⟨.access node, _⟩ => some node
  | _ => none

/-- The files that a trace asks for, in order. -/
def probed (t : Trace) : List Node := t.filterMap asked

@[simp] theorem probed_nil : probed [] = [] := rfl

@[simp] theorem probed_append (t t' : Trace) : probed (t ++ t') = probed t ++ probed t' :=
  List.filterMap_append

@[simp] theorem probed_access (node : Node) (answer : Int32) (t : Trace) :
    probed (event (.access node) answer :: t) = node :: probed t := rfl

@[simp] theorem probed_readTrace (name : Option Node) (line : Option (Option (List Char))) :
    probed (readTrace name line) = [] := by
  cases line <;> rfl

/-- The flag of a capability; the platform is looked for every time. -/
def Globals.knows (s : Globals) : Capability → Bool
  | .platform => false
  | .backlight => s.hardwareHasBacklight
  | .led => s.hardwareHasLED
  | .apm => s.hardwareHasAPM
  | .sysfsSleep => s.hardwareHasSysfsSleep
  | .einkModeControl => s.hardwareHasEinkModeControl

theorem isSome_known {β : Type} (known : Bool) (value : β) :
    (if known then some value else none).isSome = known := by
  cases known <;> rfl

/-- The flags stand for what is known. -/
theorem Represents.knows (hk : Represents k s) (capability : Capability) :
    s.knows capability = k.knows capability := by
  cases capability with
  | platform => rfl
  | backlight =>
      have hview := congrArg Option.isSome hk.backlight
      rwa [Latch.view_isSome, Option.isSome_map] at hview
  | led =>
      have hview := congrArg Option.isSome hk.led
      rwa [Latch.view_isSome, Option.isSome_map] at hview
  | apm =>
      have hview := congrArg Option.isSome hk.apm
      rwa [Latch.view_isSome] at hview
  | sysfsSleep =>
      have hview := congrArg Option.isSome hk.sysfsSleep
      rw [Latch.view_isSome, isSome_known] at hview
      exact hview
  | einkModeControl =>
      have hview := congrArg Option.isSome hk.einkModeControl
      rw [Latch.view_isSome, isSome_known] at hview
      exact hview

/-- The files up to the first that is there. -/
def upTo (present : Node → Bool) : List Node → List Node
  | [] => []
  | node :: nodes => node :: if present node then [] else upTo present nodes

theorem upTo_congr {present present' : Node → Bool} {nodes : List Node}
    (h : ∀ node ∈ nodes, present node = present' node) :
    upTo present nodes = upTo present' nodes := by
  induction nodes with
  | nil => rfl
  | cons node nodes ih =>
      rw [upTo, upTo, h node List.mem_cons_self,
        ih fun other hother => h other (List.mem_cons_of_mem _ hother)]

theorem mem_of_mem_upTo {present : Node → Bool} {nodes : List Node} {node : Node}
    (h : node ∈ upTo present nodes) : node ∈ nodes := by
  induction nodes with
  | nil => exact h
  | cons first nodes ih =>
      rcases List.mem_cons.mp h with rfl | hrest
      · exact List.mem_cons_self
      · split at hrest
        · exact absurd hrest List.not_mem_nil
        · exact List.mem_cons_of_mem _ (ih hrest)

/-- A block of the common shape asks for its file unless it knows it. -/
theorem probed_detectFile {flag : Globals → Bool} {setFlag : Globals → Bool → Globals}
    {fpath : Node} {bound : Globals → Globals} {result : Unit} (present : Node → Bool)
    (h : Exec (detectFile flag setFlag fpath bound) s t result s') :
    probed t = if flag s then [] else upTo present [fpath] := by
  rcases exec_detectFile h with ⟨hup, rfl, -⟩ | ⟨hdown, answer, rfl, -⟩
  · simp [hup]
  · simp [hdown, upTo]

/-- An LED that is known is not looked for. -/
theorem detectLeds_known {rows : List LedRow} {result : Unit} (hup : s.hardwareHasLED = true)
    (h : Exec (detectLeds rows) s t result s') : t = [] ∧ s' = s := by
  induction rows generalizing s t with
  | nil =>
      obtain ⟨rfl, -, rfl⟩ := exec_pure.mp h
      exact ⟨rfl, rfl⟩
  | cons row rows ih =>
      obtain ⟨first, _, middle, second, rfl, hrow, hrows⟩ := exec_bind.mp h
      rcases exec_detectFile hrow with ⟨-, rfl, rfl⟩ | ⟨hdown, -⟩
      · exact ih hup hrows
      · exact absurd (hup.symm.trans hdown) (by simp)

theorem probed_detectLeds {rows : List LedRow} {result : Unit}
    (hnodup : (rows.map LedRow.node).Nodup) (hdown : s.hardwareHasLED = false)
    (h : Exec (detectLeds rows) s t result s') :
    probed t = upTo (fun node => reported node t) (rows.map LedRow.node) := by
  induction rows generalizing s t with
  | nil =>
      obtain ⟨rfl, -, rfl⟩ := exec_pure.mp h
      rfl
  | cons row rows ih =>
      rw [List.map_cons, List.nodup_cons] at hnodup
      obtain ⟨first, _, middle, second, rfl, hrow, hrows⟩ := exec_bind.mp h
      rcases exec_detectFile hrow with ⟨hup, -⟩ | ⟨-, answer, rfl, rfl⟩
      · exact absurd (hup.symm.trans hdown) (by simp)
      · have hlater : reported row.node second = false :=
          reported_of_detects (uses_detectLeds rows hrows) hnodup.1
        by_cases hanswer : answer = 0
        · -- The row is there, so the later blocks find the flag up.
          rw [if_pos hanswer] at hrows
          obtain ⟨rfl, -⟩ := detectLeds_known rfl hrows
          simp [upTo, hanswer]
        · rw [if_neg hanswer] at hrows
          have hothers : ∀ other ∈ rows.map LedRow.node,
              reported other second =
                reported other (event (.access row.node) answer :: second) := by
            intro other hother
            have hne : row.node ≠ other := fun heq => hnodup.1 (heq ▸ hother)
            simp [hne]
          have habsent : reported row.node (event (.access row.node) answer :: second) = false := by
            simp [hlater, hanswer]
          rw [List.map_cons, upTo, List.singleton_append, probed_access, ih hnodup.2 rfl hrows,
            upTo_congr hothers, if_neg (by simp [habsent])]

theorem probed_detectBacklight {result : Unit} (h : Exec detectBacklight s t result s') :
    probed t = if s.hardwareHasBacklight then []
      else upTo (fun node => reported node t) [.boeyeBrightness, .ntxIo] := by
  cases exec_detectBacklight h with
  | known hflag => simp [hflag]
  | boeye hflag line => simp [hflag, upTo]
  | other hflag boeye ntx hboeye => simp [hflag, upTo, hboeye]

theorem probed_detectApm {result : Unit} (present : Node → Bool)
    (h : Exec detectApm s t result s') :
    probed t = if s.hardwareHasAPM then [] else upTo present [.apmBios] := by
  cases exec_detectApm h with
  | known hflag => simp [hflag]
  | absent hflag answer hanswer => simp [hflag, upTo]
  | noLibrary hflag cleared library error => simp [hflag, upTo, probed, asked]
  | noSymbol hflag cleared library symbol error => simp [hflag, upTo, probed, asked]
  | bound hflag cleared library symbol => simp [hflag, upTo, probed, asked]

/-- A block asks for the files of its capability, up to the first success, unless
the capability is known. -/
theorem probed_block {capability : Capability} {result : Unit}
    (h : Exec capability.block s t result s') :
    probed t = if s.knows capability then []
      else upTo (fun node => reported node t) capability.nodes := by
  cases capability with
  | platform =>
      obtain ⟨answer, rfl, -⟩ := exec_detectPlatform h
      simp [Globals.knows, Capability.nodes, upTo]
  | backlight => exact probed_detectBacklight h
  | led =>
      cases hflag : s.hardwareHasLED with
      | true =>
          obtain ⟨rfl, -⟩ := detectLeds_known hflag h
          simp [Globals.knows, hflag]
      | false =>
          rw [probed_detectLeds (by decide) hflag h]
          simp [Globals.knows, hflag, Capability.nodes]
  | apm => exact probed_detectApm _ h
  | sysfsSleep => exact probed_detectFile _ h
  | einkModeControl => exact probed_detectFile _ h

/-- Each block finds the flag of its capability as the detection found it. -/
theorem Detection.knows_before (d : Detection s t s') (capability : Capability) :
    (d.before capability).knows capability = s.knows capability := by
  refine (d.frame (fun s => s.knows capability) capability ?_).1
  intro other hother
  cases capability <;> cases other <;> simp_all [Capability.Ignored, Globals.knows]

/-- What `detect_hardware` looks for, in the order of the source. -/
def capabilities : List Capability :=
  [.platform, .backlight, .led, .apm, .sysfsSleep, .einkModeControl]

/-- The files of what is not known, each search up to its first success. -/
def missing (known : Capability → Bool) (present : Node → Bool) : List Node :=
  capabilities.flatMap fun capability =>
    if known capability then [] else upTo present capability.nodes

/-- A detection asks for the files of what is missing, in the order of the
source, and for nothing else. -/
theorem exec_probed {result : Unit} (h : Exec detectHardware s t result s') :
    probed t = missing s.knows fun node => reported node t := by
  obtain ⟨d⟩ := exec_detectHardware h
  have hblock : ∀ capability, probed (d.trace capability) =
      if s.knows capability then [] else upTo (fun node => reported node t) capability.nodes := by
    intro capability
    rw [probed_block (d.exec_block capability), d.knows_before]
    have hreported : ∀ node ∈ capability.nodes,
        reported node (d.trace capability) = reported node t :=
      fun node hnode => (d.reported_eq hnode).symm
    rw [upTo_congr hreported]
  have htrace := congrArg probed d.trace_eq
  simp only [probed_append, hblock] at htrace
  rw [htrace]
  simp [missing, capabilities]

/-! ## Successful probes -/

/-- The event found a file of the capability. -/
def hit (capability : Capability) (e : Event sys) : Bool :=
  capability.nodes.any fun node => finds node e

/-- How often a trace found a file of the capability. -/
def hits (capability : Capability) (t : Trace) : Nat := t.countP (hit capability)

@[simp] theorem hits_append (capability : Capability) (t t' : Trace) :
    hits capability (t ++ t') = hits capability t + hits capability t' :=
  List.countP_append

theorem hits_eq_zero {capability : Capability}
    (h : ∀ node ∈ capability.nodes, reported node t = false) : hits capability t = 0 := by
  refine List.countP_eq_zero.mpr fun e he hhit => ?_
  obtain ⟨node, hnode, hfinds⟩ := List.any_eq_true.mp hhit
  have hmiss := List.any_eq_false.mp (h node hnode) e he
  exact hmiss hfinds

/-- What is found once and for all.  The platform is looked for every time, and
for APM there is more to find than a file. -/
def FoundOnce (capability : Capability) : Prop := capability ≠ .platform ∧ capability ≠ .apm

theorem hits_detectFile {flag : Globals → Bool} {setFlag : Globals → Bool → Globals}
    {fpath : Node} {bound : Globals → Globals} {result : Unit} {capability : Capability}
    (hnode : fpath ∈ capability.nodes) (hup : ∀ s, flag (bound (setFlag s true)) = true)
    (hdown : ∀ s, flag (setFlag s false) = false)
    (h : Exec (detectFile flag setFlag fpath bound) s t result s') :
    hits capability t + (flag s).toNat = (flag s').toNat := by
  rcases exec_detectFile h with ⟨hclosed, rfl, rfl⟩ | ⟨hopen, answer, rfl, rfl⟩
  · exact Nat.zero_add _
  · by_cases hanswer : answer = 0
    · subst hanswer
      have hhit : hit capability (event (.access fpath) (0 : Int32)) = true :=
        List.any_eq_true.mpr ⟨fpath, hnode, by simp⟩
      simp [hits, hhit, hopen, hup]
    · have hmiss : hits capability [event (.access fpath) answer] = 0 :=
        hits_eq_zero fun node _ => by simp [hanswer]
      simp [hmiss, hopen, hanswer, hdown]

theorem hits_detectLeds {rows : List LedRow} {result : Unit}
    (hrows : ∀ row ∈ rows, row.node ∈ Capability.led.nodes)
    (h : Exec (detectLeds rows) s t result s') :
    hits .led t + s.hardwareHasLED.toNat = s'.hardwareHasLED.toNat := by
  induction rows generalizing s t with
  | nil =>
      obtain ⟨rfl, -, rfl⟩ := exec_pure.mp h
      exact Nat.zero_add _
  | cons row rows ih =>
      obtain ⟨first, _, middle, second, rfl, hrow, hrest⟩ := exec_bind.mp h
      have hhead := hits_detectFile (hrows row List.mem_cons_self) (fun _ => rfl) (fun _ => rfl)
        hrow
      have htail := ih (fun other hother => hrows other (List.mem_cons_of_mem _ hother)) hrest
      rw [hits_append]
      omega

theorem hits_detectBacklight {result : Unit} (h : Exec detectBacklight s t result s') :
    hits .backlight t + s.hardwareHasBacklight.toNat = s'.hardwareHasBacklight.toNat := by
  cases exec_detectBacklight h with
  | known hflag => exact Nat.zero_add _
  | boeye hflag line =>
      -- Reading the level is no search.
      have hline : hits .backlight (readTrace (some .boeyeBrightness) line) = 0 :=
        hits_eq_zero fun node _ => reported_readTrace node _ line
      have hhit : hits .backlight [event (.access .boeyeBrightness) (0 : Int32)] = 1 := rfl
      have hsplit := hits_append .backlight [event (.access .boeyeBrightness) (0 : Int32)]
        (readTrace (some .boeyeBrightness) line)
      rw [List.singleton_append, hline, hhit] at hsplit
      rw [hsplit, hflag]
      rfl
  | other hflag boeye ntx hboeye =>
      by_cases hntx : ntx = 0
      · subst hntx
        simp [hits, hit, Capability.nodes, hflag, hboeye]
      · have hrefused : (ntx == 0) = false := by simpa using hntx
        simp [hits, hit, Capability.nodes, hflag, hboeye, hrefused]

/-- A block that raises its flag found a file, and one that does not found
none. -/
theorem hits_block {capability : Capability} (honce : FoundOnce capability) {result : Unit}
    (h : Exec capability.block s t result s') :
    hits capability t + (s.knows capability).toNat = (s'.knows capability).toNat := by
  cases capability with
  | platform => exact absurd rfl honce.1
  | backlight => exact hits_detectBacklight h
  | led => exact hits_detectLeds (fun row hrow => List.mem_map_of_mem hrow) h
  | apm => exact absurd rfl honce.2
  | sysfsSleep => exact hits_detectFile (by decide) (fun _ => rfl) (fun _ => rfl) h
  | einkModeControl => exact hits_detectFile (by decide) (fun _ => rfl) (fun _ => rfl) h

theorem Detection.hits_eq (d : Detection s t s') (capability : Capability) :
    hits capability t = hits capability (d.trace capability) := by
  -- No file belongs to two capabilities.
  have hsilent : ∀ other, other ≠ capability → hits capability (d.trace other) = 0 := by
    intro other hother
    refine hits_eq_zero fun node hnode => ?_
    exact reported_of_detects (Capability.uses_block other (d.exec_block other))
      fun hmem => hother (Capability.eq_of_mem_nodes hnode hmem)
  have htrace := congrArg (hits capability) d.trace_eq
  simp only [hits_append] at htrace
  have hplatform := hsilent .platform
  have hbacklight := hsilent .backlight
  have hled := hsilent .led
  have hapm := hsilent .apm
  have hsleep := hsilent .sysfsSleep
  have heink := hsilent .einkModeControl
  cases capability <;> simp_all

theorem hits_detectHardware {capability : Capability} (honce : FoundOnce capability)
    {result : Unit} (h : Exec detectHardware s t result s') :
    hits capability t + (s.knows capability).toNat = (s'.knows capability).toNat := by
  obtain ⟨d⟩ := exec_detectHardware h
  have hafter : s'.knows capability = (d.after capability).knows capability := by
    refine (d.frame (fun s => s.knows capability) capability ?_).2
    intro other hother
    cases capability <;> cases other <;> simp_all [Capability.Ignored, Globals.knows]
  rw [d.hits_eq, hafter, ← d.knows_before]
  exact hits_block honce (d.exec_block capability)

/-! ## The other calls -/

/-- Operations that ask for no file. -/
def Unasking : Sys → Prop
  | .access _ => False
  | _ => True

theorem probed_of_unasking (h : ∀ e ∈ t, Unasking e.op) : probed t = [] := by
  unfold probed
  rw [List.filterMap_eq_nil_iff]
  rintro ⟨op, answer⟩ he
  have hop := h _ he
  cases op <;> first | rfl | exact hop.elim

theorem unasking_writeTextToFile (file : Option Node) (text : List Char) :
    Uses (I := sys) Unasking (writeTextToFile file text) := by
  refine .bind (.call trivial) fun _ => .bind (.bind (.call trivial) fun _ => .pure _) ?_
  intro stream
  cases stream with
  | none => exact .pure _
  | some opened => exact .bind (.call trivial) fun _ => .call trivial

theorem unasking_ioctl (fd : Int32) (request : UInt32) (arg : IoctlArg) :
    Uses (I := sys) Unasking (ioctl fd request arg) := by
  intro s t result s' h e he
  obtain ⟨errno, rfl, -⟩ := exec_ioctl.mp h
  rw [List.mem_singleton.mp he]
  trivial

theorem unasking_epaperUpdateHelper (fb : Int32) (ioctlCall : UInt32) (mode : Int32) :
    Uses (I := sys) Unasking (epaperUpdateHelper fb ioctlCall mode) :=
  .get_bind fun _ => .ite
    (.bind (.modify _) fun _ => .bind (unasking_ioctl fb ioctlCall (.pointer mode)) fun _ =>
      .get_bind fun _ => .pure _)
    (.pure _)

theorem unasking_update (update : Update) : Uses (I := sys) Unasking update.routine := by
  rw [update.routine_eq]
  refine .get_bind fun _ => .bind (.when ?_) fun _ => .get_bind fun _ => .bind (.when ?_)
    fun _ => .get_bind fun _ => .when (unasking_writeTextToFile _ _)
  · exact .bind (unasking_writeTextToFile _ _) fun _ => unasking_writeTextToFile _ _
  · exact .get_bind fun _ => .ite (.pure _)
      (.bind (unasking_epaperUpdateHelper _ _ _) fun _ => .pure _)

/-- Only detection asks for files. -/
theorem unasking_entry {call : Call} (hcall : call ≠ .detectHardware) :
    Uses (I := sys) Unasking call.entry := by
  cases call with
  | detectHardware => exact absurd rfl hcall
  | update update => exact .bind (unasking_update update) fun _ => .pure _
  | setBrightness value =>
      refine .bind (.get_bind fun s => .ite ?_ ?_) fun _ => .pure _
      · exact .bind (.call trivial) fun fd => .when
          (.bind (unasking_ioctl _ _ _) fun _ => .call trivial)
      · exact .when (unasking_writeTextToFile _ _)
  | setLedState state =>
      refine .bind (.get_bind fun s => .when ?_) fun _ => .pure _
      cases s.ledState.read state with
      | some value => exact unasking_writeTextToFile _ _
      | none => exact .bind (.call trivial) fun _ => unasking_writeTextToFile _ _
  | detectRefreshType =>
      refine .bind (.get_bind fun _ => .bind (unasking_epaperUpdateHelper _ _ _) fun _ =>
        .ite ?_ ?_) fun _ => .pure _
      · exact .bind (.modify _) fun _ => .get_bind fun _ => .pure _
      · exact .bind (unasking_epaperUpdateHelper _ _ _) fun _ =>
          .bind (.when (.modify _)) fun _ => .get_bind fun _ => .pure _
  | openFramebuffer => exact .bind (.bind (.call trivial) fun _ => .modify _) fun _ => .pure _

theorem hits_of_unasking {capability : Capability} (h : ∀ e ∈ t, Unasking e.op) :
    hits capability t = 0 := by
  refine hits_eq_zero fun node _ => List.any_eq_false.mpr ?_
  rintro ⟨op, answer⟩ he
  have hop := h _ he
  cases op <;> first | exact Bool.false_ne_true | exact hop.elim

/-! ## Runs -/

/-- What a call finds, it did not know before and knows afterwards. -/
theorem hits_entry {capability : Capability} (honce : FoundOnce capability) {call : Call}
    {result : Option RefreshType} (h : Exec call.entry s t result s') :
    hits capability t + (s.knows capability).toNat = (s'.knows capability).toNat := by
  by_cases hcall : call = .detectHardware
  · subst hcall
    obtain ⟨_, hdetect, -⟩ := exec_returning.mp h
    exact hits_detectHardware honce hdetect
  · have hkept : Keeps (fun s : Globals => s.knows capability) call.entry := by
      refine keeps_entry hcall ?_ ?_ ?_ <;> intro s _ <;> cases capability <;> rfl
    have hsame : s'.knows capability = s.knows capability := hkept h
    rw [hits_of_unasking (unasking_entry hcall h), hsame, Nat.zero_add]

theorem hits_run {capability : Capability} (honce : FoundOnce capability)
    (hrun : Run s h s') :
    hits capability (runTrace h) + (s.knows capability).toNat = (s'.knows capability).toNat := by
  induction hrun with
  | nil s => exact Nat.zero_add _
  | cons deed hdeed _ ih =>
      have hhead := hits_entry honce hdeed
      rw [runTrace, List.flatMap_cons, hits_append]
      rw [runTrace] at ih
      omega

/-- What is asked for is missing. -/
theorem unknown_of_mem_missing {known : Capability → Bool} {present : Node → Bool} {node : Node}
    {capability : Capability} (hmem : node ∈ missing known present)
    (hnode : node ∈ capability.nodes) : known capability = false := by
  obtain ⟨other, -, hother⟩ := List.mem_flatMap.mp hmem
  cases hknown : known other with
  | true => simp [hknown] at hother
  | false =>
      rw [hknown, if_neg Bool.false_ne_true] at hother
      rw [Capability.eq_of_mem_nodes (mem_of_mem_upTo hother) hnode, hknown]

/-- The probes of a run. -/
structure FindsOnce (h : List Done) (s : Globals) : Prop where
  /-- A capability was found once if its flag is up, and never otherwise. -/
  hits : ∀ capability, FoundOnce capability →
    hits capability (runTrace h) = (s.knows capability).toNat
  /-- A detection asks for what is missing, the other calls for nothing. -/
  probes : ∀ deed ∈ h, probed deed.trace =
    if deed.call = .detectHardware then
      missing deed.before.knows fun node => reported node deed.trace
    else []
  /-- What was found is not asked for again. -/
  silent : ∀ earlier deed later, h = earlier ++ deed :: later → ∀ capability,
    FoundOnce capability → 0 < DigmaE605.Hardware.hits capability (runTrace earlier) →
      ∀ node ∈ capability.nodes, node ∉ probed deed.trace

/-- **Everything is found once.**  In every run the backlight, an LED, the sleep
trigger and the controller are each found at most once, exactly if the flag is
up at the end, and no file of theirs is asked for after that.  Every detection
asks for the files of what is missing, each search up to its first success, and
no other call asks for a file. -/
theorem found_once (hrun : Run Globals.initial h s) : FindsOnce h s := by
  have hinitial : ∀ capability, Globals.initial.knows capability = false := by
    intro capability
    cases capability <;> rfl
  have hcount : ∀ {h : List Done} {s : Globals}, Run Globals.initial h s → ∀ capability,
      FoundOnce capability → hits capability (runTrace h) = (s.knows capability).toNat := by
    intro h s hrun capability honce
    have hhits := hits_run honce hrun
    rwa [hinitial] at hhits
  have hprobes : ∀ deed ∈ h, probed deed.trace =
      if deed.call = .detectHardware then
        missing deed.before.knows fun node => reported node deed.trace
      else [] := by
    intro deed hmem
    obtain ⟨-, hdeed⟩ := Session.invariant_before (fun _ => Steady.entry) hrun Steady.initial hmem
    split
    · rename_i hcall
      rw [hcall] at hdeed
      obtain ⟨_, hdetect, -⟩ := exec_returning.mp hdeed
      exact exec_probed hdetect
    · rename_i hcall
      exact probed_of_unasking (unasking_entry hcall hdeed)
  refine ⟨hcount hrun, hprobes, ?_⟩
  intro earlier deed later hsplit capability honce hfound node hnode hmem
  subst hsplit
  obtain ⟨hearlier, -, -⟩ := Session.split_deed hrun
  -- The flag is up where the call starts, so nothing of the capability is missing.
  rw [hcount hearlier capability honce] at hfound
  rw [hprobes deed (by simp)] at hmem
  split at hmem
  · rw [unknown_of_mem_missing hmem hnode] at hfound
    exact absurd hfound (by decide)
  · exact absurd hmem List.not_mem_nil

/-- A Digma E600 with a sleep trigger. -/
def digmaE600 : Device where
  present := [.da9030Led, .powerState]
  accepted := []
  apmSuspend := none
  brightness := ⟨[], []⟩

/-- The second detection asks for what the first did not find. -/
theorem found_once_digmaE600 :
    let calls := [Call.detectHardware, .update .part, .detectHardware]
    let h := (digmaE600.run Globals.initial calls).1
    h.map (fun deed => probed deed.trace) =
        [[.stateExtended, .boeyeBrightness, .ntxIo, .chargerLed, .axp192Led, .da9030Led,
          .apmBios, .powerState, .einkmode], [],
          [.stateExtended, .boeyeBrightness, .ntxIo, .apmBios, .einkmode]] ∧
      FindsOnce h (digmaE600.run Globals.initial calls).2 :=
  ⟨by decide, found_once (digmaE600.run_isRun _ _)⟩

end Hardware
end DigmaE605
