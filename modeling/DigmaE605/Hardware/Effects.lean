import DigmaE605.Hardware.Calls

/-!
# What a call writes and sends

The two effects that callers of the module care about are read off a trace:
`writings`, the attempts to write a file, and `ioctls`, the requests sent to a
descriptor, both in order.

`exec_writings` is the main result: the attempts of a call are a function of
the call and of the globals before it, `Call.writings`, whatever the
environment answers.  `exec_startProgram` gives the effects of `main`.
-/

namespace DigmaE605
namespace Hardware

open Interaction Program Text

variable {s s' : Globals} {t t' : Trace}

/-- The trace of a whole run. -/
def runTrace (h : List Done) : Trace := h.flatMap Deed.trace

/-! ## Reading a trace -/

/-- The attempt to write that an event marks. -/
def written : Event sys → Option (Option Node × List Char)
  | ⟨.writing file text, _⟩ => some (file, text)
  | _ => none

/-- The request that an event sends. -/
def issued : Event sys → Option (Int32 × UInt32 × IoctlArg)
  | ⟨.ioctl fd request arg, _⟩ => some (fd, request, arg)
  | _ => none

/-- The attempts to write, in order. -/
def writings (t : Trace) : List (Option Node × List Char) := t.filterMap written

/-- The requests sent, in order. -/
def ioctls (t : Trace) : List (Int32 × UInt32 × IoctlArg) := t.filterMap issued

@[simp] theorem writings_nil : writings [] = [] := rfl

@[simp] theorem writings_append (t t' : Trace) :
    writings (t ++ t') = writings t ++ writings t' :=
  List.filterMap_append

@[simp] theorem ioctls_nil : ioctls [] = [] := rfl

@[simp] theorem ioctls_append (t t' : Trace) : ioctls (t ++ t') = ioctls t ++ ioctls t' :=
  List.filterMap_append

@[simp] theorem ioctls_ioctl (fd : Int32) (request : UInt32) (arg : IoctlArg) (errno : Int32) :
    ioctls [event (.ioctl fd request arg) errno] = [(fd, request, arg)] := rfl

@[simp] theorem writings_ioctl (fd : Int32) (request : UInt32) (arg : IoctlArg)
    (errno : Int32) : writings [event (.ioctl fd request arg) errno] = [] := rfl

theorem WritesText.writings_eq {file : Option Node} {text : List Char}
    (h : WritesText file text t) : writings t = [(file, text)] := by
  obtain ⟨opened, rfl⟩ := h
  cases opened <;> rfl

theorem WritesText.ioctls_eq {file : Option Node} {text : List Char}
    (h : WritesText file text t) : ioctls t = [] := by
  obtain ⟨opened, rfl⟩ := h
  cases opened <;> rfl

/-- Operations that neither write a file nor send a request. -/
def Quiet : Sys → Prop
  | .writing _ _ => False
  | .ioctl _ _ _ => False
  | _ => True

theorem effects_of_quiet (h : ∀ e ∈ t, Quiet e.op) : writings t = [] ∧ ioctls t = [] := by
  unfold writings ioctls
  rw [List.filterMap_eq_nil_iff, List.filterMap_eq_nil_iff]
  constructor
  · rintro ⟨op, answer⟩ he
    have hop := h _ he
    cases op <;> first | rfl | exact hop.elim
  · rintro ⟨op, answer⟩ he
    have hop := h _ he
    cases op <;> first | rfl | exact hop.elim

/-- Detection only looks. -/
theorem uses_detectHardware : Uses (I := sys) Quiet detectHardware := by
  have hblock : ∀ capability : Capability, Uses (I := sys) Quiet capability.block := by
    intro capability
    refine capability.uses_block.mono fun op hop => ?_
    cases op <;> first | exact hop | trivial
  exact .bind (hblock .platform) fun _ => .bind (hblock .backlight) fun _ =>
    .bind (hblock .led) fun _ => .bind (hblock .apm) fun _ =>
    .bind (hblock .sysfsSleep) fun _ => hblock .einkModeControl

/-- Operations that probe a file or ask the dynamic linker. -/
def Probing : Sys → Prop
  | .access _ => True
  | .dlerror => True
  | .dlopen _ => True
  | .dlsym _ _ => True
  | _ => False

theorem probing_detectFile (flag : Globals → Bool) (setFlag : Globals → Bool → Globals)
    (fpath : Node) (bound : Globals → Globals) :
    Uses (I := sys) Probing (detectFile flag setFlag fpath bound) :=
  .get_bind fun _ => .when (.bind (uses_checkForFile trivial) fun _ =>
    .bind (.modify _) fun _ => .when (.modify _))

theorem probing_detectLeds (rows : List LedRow) :
    Uses (I := sys) Probing (detectLeds rows) := by
  induction rows with
  | nil => exact .pure ()
  | cons row rows ih => exact .bind (probing_detectFile _ _ _ _) fun _ => ih

theorem probing_detectApm : Uses (I := sys) Probing detectApm := by
  refine .get_bind fun s => .when (.bind (uses_checkForFile trivial) fun found => ?_)
  refine .bind (.modify _) fun _ => .when (.bind (.call trivial) fun _ => ?_)
  refine .bind (.call trivial) fun handle => .bind (.call trivial) fun error => ?_
  refine .ite (.modify _) (.bind (.call trivial) fun symbol => ?_)
  exact .bind (.modify _) fun _ => .bind (.call trivial) fun _ => .when (.modify _)

/-- Only the backlight block does more than probe. -/
theorem probing_block {capability : Capability} (h : capability ≠ .backlight) :
    Uses (I := sys) Probing capability.block := by
  cases capability with
  | platform => exact .bind (.call trivial) fun _ => .when (.modify _)
  | backlight => exact absurd rfl h
  | led => exact probing_detectLeds ledRows
  | apm => exact probing_detectApm
  | sysfsSleep => exact probing_detectFile _ _ _ _
  | einkModeControl => exact probing_detectFile _ _ _ _

/-- Opening the framebuffer stores what `open` returned. -/
theorem exec_openFramebuffer {result : Unit} (h : Exec openFramebuffer s t result s') :
    ∃ fd : Int32, t = [event (.openRdwr .framebuffer) fd] ∧
      s' = { s with framebufferDescriptor := fd } := by
  obtain ⟨_, fd, _, _, rfl, hopen, hstore⟩ := exec_bind.mp h
  obtain ⟨rfl, rfl⟩ := exec_openRdwr.mp hopen
  obtain ⟨rfl, rfl⟩ := exec_modify.mp hstore
  exact ⟨fd, rfl, rfl⟩

/-- Driving `/dev/ntx_io` writes no file. -/
theorem writings_ntxIoTrace (fd value errno : Int32) :
    writings (ntxIoTrace fd value errno) = [] := by
  unfold ntxIoTrace
  split <;> rfl

/-! ## The update routines -/

theorem Refreshed.writings_eq {mode : Int32} (h : Refreshed s mode t s') :
    writings t = [] := by
  cases h <;> rfl

/-- The request is sent when the display speaks the new protocol and there is a
descriptor to send it to. -/
theorem Refreshed.ioctls_eq {mode : Int32} (h : Refreshed s mode t s') :
    ioctls t = if s.refreshType = .new ∧ 0 ≤ s.framebufferDescriptor then
      [(s.framebufferDescriptor, Request.epaperUpdateDisplayQt, .pointer mode)] else [] := by
  cases h with
  | sent hnew hfb errno => rw [if_pos ⟨hnew, hfb⟩, ioctls_ioctl]
  | skipped hskip =>
      rw [if_neg, ioctls_nil]
      rintro ⟨hnew, hfb⟩
      rcases hskip with hold | hclosed
      · exact hold hnew
      · exact hclosed hfb

/-- The attempts of an update routine. -/
theorem UpdateTrace.writings_eq {mode digit : Int32} (u : UpdateTrace s mode digit t s') :
    writings t = if s.hardwareHasEinkModeControl = true then
      [(s.einkModeControlPath, ['m']), (s.einkModeControlPath, decimalText digit.toInt),
        (s.einkModeControlPath, ['q'])] else [] := by
  rw [u.trace_eq, writings_append, writings_append, u.refreshed.writings_eq]
  cases hflag : s.hardwareHasEinkModeControl with
  | true =>
      obtain ⟨manual, number, htake, hmanual, hnumber⟩ := u.taken hflag
      rw [htake, writings_append, hmanual.writings_eq, hnumber.writings_eq,
        (u.released hflag).writings_eq]
      rfl
  | false =>
      obtain ⟨htake, hrelease⟩ := u.untouched hflag
      rw [htake, hrelease]
      rfl

/-- The requests of an update routine. -/
theorem UpdateTrace.ioctls_eq {mode digit : Int32} (u : UpdateTrace s mode digit t s') :
    ioctls t = if s.refreshType = .new ∧ 0 ≤ s.framebufferDescriptor then
      [(s.framebufferDescriptor, Request.epaperUpdateDisplayQt, .pointer mode)] else [] := by
  rw [u.trace_eq, ioctls_append, ioctls_append, ← u.refreshed.ioctls_eq]
  cases hflag : s.hardwareHasEinkModeControl with
  | true =>
      obtain ⟨manual, number, htake, hmanual, hnumber⟩ := u.taken hflag
      rw [htake, ioctls_append, hmanual.ioctls_eq, hnumber.ioctls_eq,
        (u.released hflag).ioctls_eq, List.append_nil, List.nil_append, List.append_nil]
  | false =>
      obtain ⟨htake, hrelease⟩ := u.untouched hflag
      rw [htake, hrelease, ioctls_nil, List.append_nil, List.nil_append]

/-- The trace of an update call. -/
theorem exec_update {update : Update} {result : Option RefreshType} (hsteady : Steady s)
    (h : Exec (Call.entry (.update update)) s t result s') :
    Nonempty (UpdateTrace s update.mode update.digit t s') := by
  obtain ⟨_, hupdate, -⟩ := exec_returning.mp h
  rw [update.routine_eq] at hupdate
  exact exec_epaperUpdateRoutine hsteady.refreshEnabled hupdate

/-! ## The attempts of a call -/

/-- What a call attempts to write, from the globals it finds. -/
def Call.writings (s : Globals) : Call → List (Option Node × List Char)
  | update u =>
      if s.hardwareHasEinkModeControl = true then
        [(s.einkModeControlPath, ['m']), (s.einkModeControlPath, decimalText u.digit.toInt),
          (s.einkModeControlPath, ['q'])]
      else []
  | setBrightness value =>
      if s.hwPlatform ≠ .kobo ∧ s.hardwareHasBacklight = true then
        [(s.backlightPath, decimalText value.toInt)]
      else []
  | _ => []

theorem exec_writings {call : Call} {result : Option RefreshType} (hsteady : Steady s)
    (h : Exec call.entry s t result s') : writings t = call.writings s := by
  cases call with
  | update update =>
      obtain ⟨u⟩ := exec_update hsteady h
      exact u.writings_eq
  | setBrightness value =>
      obtain ⟨_, hbrightness, -⟩ := exec_returning.mp h
      rcases exec_setBrightness hbrightness with ⟨hkobo, fd, errno, _, rfl, -⟩ |
        ⟨hother, hflag, hwrites, -⟩ | ⟨hother, hflag, rfl, -⟩
      · rw [writings_ntxIoTrace]
        simp [Call.writings, hkobo]
      · rw [Call.writings, if_pos ⟨hother, hflag⟩, hwrites.writings_eq]
      · simp [Call.writings, hflag]
  | setLedState state =>
      obtain ⟨_, hled, -⟩ := exec_returning.mp h
      obtain ⟨rfl, -⟩ := exec_setLedState hsteady.notifyOff hled
      rfl
  | detectHardware =>
      obtain ⟨_, hdetect, -⟩ := exec_returning.mp h
      exact (effects_of_quiet (uses_detectHardware hdetect)).1
  | detectRefreshType =>
      obtain ⟨_, hprobe, -⟩ := exec_returning.mp h
      cases exec_detectRefreshType hprobe <;> rfl
  | openFramebuffer =>
      have huses : Uses (I := sys) Quiet Hardware.openFramebuffer :=
        .bind (.call trivial) fun _ => .modify _
      obtain ⟨_, hopen, -⟩ := exec_returning.mp h
      exact (effects_of_quiet (huses hopen)).1

/-! ## The start of the program -/

/-- What `main` asks of the module before it shows its window. -/
def startProgram : Hw Unit := do
  openFramebuffer
  epaperUpdateFull

/-- **The program starts with one refresh.**  It opens the framebuffer and, if
there is one, requests one full update of it; it writes no file. -/
theorem exec_startProgram {result : Unit} (h : Exec startProgram Globals.initial t result s') :
    ∃ fd : Int32, s'.framebufferDescriptor = fd ∧
      (t = [event (.openRdwr .framebuffer) fd] ∧ ¬ 0 ≤ fd ∨
        ∃ errno : Int32, 0 ≤ fd ∧ t = [event (.openRdwr .framebuffer) fd,
          event (.ioctl fd Request.epaperUpdateDisplayQt (.pointer 3)) errno]) := by
  obtain ⟨first, _, middle, second, rfl, hopen, hupdate⟩ := exec_bind.mp h
  obtain ⟨_, fd, _, _, rfl, hcall, hstore⟩ := exec_bind.mp hopen
  obtain ⟨rfl, rfl⟩ := exec_openRdwr.mp hcall
  obtain ⟨rfl, rfl⟩ := exec_modify.mp hstore
  obtain ⟨u⟩ := exec_epaperUpdateRoutine rfl hupdate
  -- No controller has been detected yet, so only the request is left.
  obtain ⟨htake, hrelease⟩ := u.untouched rfl
  have htrace := u.trace_eq
  rw [htake, hrelease, List.nil_append, List.append_nil] at htrace
  have hrefreshed := u.refreshed
  rw [← htrace] at hrefreshed
  refine ⟨fd, ?_, ?_⟩
  · obtain ⟨errno, rfl⟩ := hrefreshed.frame
    rfl
  · cases hrefreshed with
    | sent hnew hfb errno => exact .inr ⟨errno, hfb, rfl⟩
    | skipped hskip =>
        rcases hskip with hold | hclosed
        · exact absurd rfl hold
        · exact .inl ⟨rfl, hclosed⟩

end Hardware
end DigmaE605
