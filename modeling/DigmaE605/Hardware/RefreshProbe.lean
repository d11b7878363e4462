import DigmaE605.Hardware.Device
import DigmaE605.Hardware.Effects

/-!
# The refresh probe and the updates that follow it

A `detect_refresh_type` call sends the requests `probeRequests`: the Qt one and,
exactly if that is refused, the legacy one.  `probeSays` reads the protocol off
its trace: what these two requests were answered.  The module follows this
reading as long as one of the requests succeeds: the call returns and stores what
it says, and every update before the next probe sends the Qt request after a Qt
success, and nothing after a legacy success, since the legacy requests are
commented out in the three update routines.

`RefreshFollowsProbe` is the stronger agreement that one would expect, and
`legacyDisplay` and `mutedDisplay` are two readers on which it fails.
-/

namespace DigmaE605
namespace Hardware

open Interaction Program Text

variable {s s' : Globals} {t : Trace} {h : List Done}

/-- The event is a request that succeeded, with `errno` 0. -/
def accepts (request : UInt32) : Event sys → Bool
  | ⟨.ioctl _ sent _, errno⟩ => sent == request && (show Int32 from errno) == 0
  | _ => false

/-- Some request of the trace with this code succeeded. -/
def accepted (request : UInt32) (t : Trace) : Bool := t.any (accepts request)

/-- What the two requests of a probe say. -/
def probeSays (t : Trace) : RefreshType :=
  if accepted Request.epaperUpdateDisplayQt t then .new
  else if accepted Request.epaperUpdateFull t then .legacy
  else .unknown

/-- What a probe sends to a descriptor: the Qt request and, if that one is refused,
the legacy one; nothing without a descriptor. -/
def probeRequests (fd : Int32) (t : Trace) : List (Int32 × UInt32 × IoctlArg) :=
  if 0 ≤ fd then
    (fd, Request.epaperUpdateDisplayQt, .pointer 3) ::
      if accepted Request.epaperUpdateDisplayQt t then []
      else [(fd, Request.epaperUpdateFull, .pointer 3)]
  else []

/-- The requests of a protocol. -/
def RefreshType.family : RefreshType → List UInt32
  | .new => [Request.epaperUpdateDisplayQt]
  | .legacy =>
      [Request.epaperUpdateLocal, Request.epaperUpdatePart, Request.epaperUpdateFull]
  | .unknown => []
  | .kobo => []

/-! ## The probe -/

@[simp] theorem accepted_nil (request : UInt32) : accepted request [] = false := rfl

@[simp] theorem accepted_cons (request : UInt32) (e : Event sys) (t : Trace) :
    accepted request (e :: t) = (accepts request e || accepted request t) := rfl

@[simp] theorem accepts_ioctl (request sent : UInt32) (fd errno : Int32) (arg : IoctlArg) :
    accepts request (event (.ioctl fd sent arg) errno) = (sent == request && errno == 0) := rfl

/-- What a probe returns, what it stores and what its requests say. -/
theorem ProbeOutcome.report {result : RefreshType} (h : ProbeOutcome s t result s') :
    result = s'.refreshType ∧ (probeSays t ≠ .unknown → result = probeSays t) := by
  have hother : (Request.epaperUpdateFull == Request.epaperUpdateDisplayQt) = false := by decide
  have hother' : (Request.epaperUpdateDisplayQt == Request.epaperUpdateFull) = false := by decide
  cases h with
  | noDescriptor hfb => exact ⟨rfl, fun htold => absurd rfl htold⟩
  | qtAccepted hfb => exact ⟨rfl, fun _ => rfl⟩
  | legacyAccepted hfb qt hqt =>
      refine ⟨rfl, fun _ => ?_⟩
      simp [probeSays, hqt, hother]
  | bothRefused hfb qt full hqt hfull =>
      refine ⟨rfl, fun htold => absurd ?_ htold⟩
      simp [probeSays, hqt, hfull, hother, hother']

/-- A probe sends its own two requests, the second one only if the first is
refused. -/
theorem ProbeOutcome.ioctls_eq {result : RefreshType} (h : ProbeOutcome s t result s') :
    ioctls t = probeRequests s.framebufferDescriptor t := by
  have hother : (Request.epaperUpdateFull == Request.epaperUpdateDisplayQt) = false := by decide
  cases h with
  | noDescriptor hfb => simp [probeRequests, hfb]
  | qtAccepted hfb => simp [probeRequests, hfb]
  | legacyAccepted hfb qt hqt => simp [probeRequests, hfb, hqt, hother, ioctls, issued]
  | bothRefused hfb qt full hqt hfull => simp [probeRequests, hfb, hqt, hother, ioctls, issued]

/-- A probe that says something had a descriptor to ask. -/
theorem ProbeOutcome.descriptor {result : RefreshType} (h : ProbeOutcome s t result s')
    (htold : probeSays t ≠ .unknown) : 0 ≤ s.framebufferDescriptor := by
  cases h with
  | noDescriptor hfb => exact absurd rfl htold
  | qtAccepted hfb => exact hfb
  | legacyAccepted hfb qt hqt => exact hfb
  | bothRefused hfb qt full hqt hfull => exact hfb

theorem exec_probe {result : Option RefreshType}
    (hexec : Exec (Call.entry .detectRefreshType) s t result s') :
    ∃ type, result = some type ∧ ProbeOutcome s t type s' := by
  obtain ⟨type, hprobe, hresult⟩ := exec_returning.mp hexec
  exact ⟨type, hresult, exec_detectRefreshType hprobe⟩

/-- Only the probe changes the refresh type. -/
theorem keeps_refreshType {call : Call} (hcall : call ≠ .detectRefreshType) :
    Keeps Globals.refreshType call.entry := by
  refine keeps_call (fun _ _ => rfl) (fun hprobe => absurd hprobe hcall)
    (fun _ _ _ => rfl) (fun _ capability => ?_)
  cases capability <;> simp [Capability.Ignored]

/-! ## The updates after it -/

/-- In the run, `update` is a call of the routine `routine` made after `probe`,
with no other probe between them and with the descriptor the probe had. -/
structure UpdateAfter (h : List Done) (probe update : Done) (routine : Update) : Prop where
  split : ∃ earlier between later, h = earlier ++ probe :: (between ++ update :: later) ∧
    ∀ deed ∈ between, deed.call ≠ .detectRefreshType
  probing : probe.call = .detectRefreshType
  updating : update.call = .update routine
  descriptor : update.before.framebufferDescriptor = probe.before.framebufferDescriptor

/-- An update finds the refresh type that the last probe left, and decides on
it alone. -/
theorem UpdateAfter.ioctls_eq {probe update : Done} {routine : Update}
    (hafter : UpdateAfter h probe update routine) (hrun : Run Globals.initial h s) :
    ioctls update.trace =
      if probe.after.refreshType = .new ∧ 0 ≤ probe.before.framebufferDescriptor then
        [(probe.before.framebufferDescriptor, Request.epaperUpdateDisplayQt,
          .pointer routine.mode)]
      else [] := by
  obtain ⟨earlier, between, later, rfl, hbetween⟩ := hafter.split
  obtain ⟨hearlier, hprobe, hrest⟩ := Session.split_deed hrun
  obtain ⟨hmiddle, hupdate, -⟩ := Session.split_deed hrest
  have hsteadyProbe : Steady probe.after := Steady.entry hprobe (Run.steady hearlier)
  have hsteady : Steady update.before :=
    Session.invariant (fun _ => Steady.entry) hmiddle hsteadyProbe
  -- Only a probe changes the refresh type, and there is none in between.
  have hkept : update.before.refreshType = probe.after.refreshType :=
    Session.keeps (fun deed hmem hexec => keeps_refreshType (hbetween deed hmem) hexec) hmiddle
  rw [hafter.updating] at hupdate
  obtain ⟨u⟩ := exec_update hsteady hupdate
  rw [u.ioctls_eq, hkept, hafter.descriptor]

/-- What the module keeps to, whatever happened before a probe. -/
structure RefreshAgrees (h : List Done) : Prop where
  asked : ∀ probe ∈ h, probe.call = .detectRefreshType →
    ioctls probe.trace = probeRequests probe.before.framebufferDescriptor probe.trace
  returned : ∀ probe ∈ h, probe.call = .detectRefreshType →
    probe.result = some probe.after.refreshType
  stored : ∀ probe ∈ h, probe.call = .detectRefreshType →
    probeSays probe.trace ≠ .unknown → probe.after.refreshType = probeSays probe.trace
  afterNew : ∀ probe update routine, UpdateAfter h probe update routine →
    probeSays probe.trace = .new → ioctls update.trace =
      [(probe.before.framebufferDescriptor, Request.epaperUpdateDisplayQt,
        .pointer routine.mode)]
  afterLegacy : ∀ probe update routine, UpdateAfter h probe update routine →
    probeSays probe.trace = .legacy → ioctls update.trace = []
  noDescriptor : ∀ probe update routine, UpdateAfter h probe update routine →
    probe.before.framebufferDescriptor < 0 → ioctls update.trace = []

/-- A probe of a run, inverted. -/
theorem Run.probe {probe : Done} (hrun : Run Globals.initial h s) (hmem : probe ∈ h)
    (hcall : probe.call = .detectRefreshType) :
    ∃ type, probe.result = some type ∧
      ProbeOutcome probe.before probe.trace type probe.after := by
  obtain ⟨-, hexec⟩ := Session.invariant_before (fun _ => Steady.entry) hrun Steady.initial hmem
  rw [hcall] at hexec
  exact exec_probe hexec

theorem UpdateAfter.mem {probe update : Done} {routine : Update}
    (hafter : UpdateAfter h probe update routine) : probe ∈ h := by
  obtain ⟨earlier, between, later, rfl, -⟩ := hafter.split
  exact List.mem_append_right _ List.mem_cons_self

/-- **The probe and the updates agree with the display.**  In every run, each
probe on a descriptor sends the Qt request and, exactly if that is refused, the
legacy one; it returns what it stores and, if one of its own requests succeeded,
stores the protocol of that request; the updates that follow it send the Qt
request once after a Qt success, and nothing after a legacy success or without a
descriptor. -/
theorem refresh_agrees (hrun : Run Globals.initial h s) : RefreshAgrees h := by
  constructor
  · intro probe hmem hcall
    obtain ⟨type, -, houtcome⟩ := hrun.probe hmem hcall
    exact houtcome.ioctls_eq
  · intro probe hmem hcall
    obtain ⟨type, hresult, houtcome⟩ := hrun.probe hmem hcall
    rw [hresult, houtcome.report.1]
  · intro probe hmem hcall htold
    obtain ⟨type, -, houtcome⟩ := hrun.probe hmem hcall
    exact houtcome.report.1.symm.trans (houtcome.report.2 htold)
  · intro probe update routine hafter hnew
    obtain ⟨type, -, houtcome⟩ := hrun.probe hafter.mem hafter.probing
    have htold : probeSays probe.trace ≠ .unknown := by simp [hnew]
    have hstored : probe.after.refreshType = .new :=
      (houtcome.report.1.symm.trans (houtcome.report.2 htold)).trans hnew
    rw [hafter.ioctls_eq hrun, if_pos ⟨hstored, houtcome.descriptor htold⟩]
  · intro probe update routine hafter hlegacy
    obtain ⟨type, -, houtcome⟩ := hrun.probe hafter.mem hafter.probing
    have htold : probeSays probe.trace ≠ .unknown := by simp [hlegacy]
    have hstored : probe.after.refreshType = .legacy :=
      (houtcome.report.1.symm.trans (houtcome.report.2 htold)).trans hlegacy
    rw [hafter.ioctls_eq hrun, if_neg]
    simp [hstored]
  · intro probe update routine hafter hclosed
    rw [hafter.ioctls_eq hrun, if_neg]
    rintro ⟨-, hopen⟩
    exact absurd hopen (Int32.not_le.mpr hclosed)

/-! ## The readers it is not enough for -/

/-- The agreement one would expect: the probe tells all three cases, and an
update sends one request of the family the probe found, or none. -/
structure RefreshFollowsProbe (h : List Done) : Prop where
  probe : ∀ probe ∈ h, probe.call = .detectRefreshType →
    probe.result = some (probeSays probe.trace) ∧
      probe.after.refreshType = probeSays probe.trace
  update : ∀ probe update routine, UpdateAfter h probe update routine →
    probeSays probe.trace ≠ .unknown → ∃ request ∈ (probeSays probe.trace).family, ∃ arg,
      ioctls update.trace = [(probe.before.framebufferDescriptor, request, arg)]

/-- A reader with a GTK firmware: its display knows the legacy requests. -/
def legacyDisplay : Device where
  present := [.framebuffer]
  accepted := [Request.epaperUpdateLocal, Request.epaperUpdatePart, Request.epaperUpdateFull]
  apmSuspend := none
  brightness := ⟨[], []⟩

/-- A reader whose display knows no request. -/
def mutedDisplay : Device := { legacyDisplay with accepted := [] }

/-- A probe and an update. -/
def probeThenUpdate : List Call := [.detectRefreshType, .update .full]

theorem refresh_agrees_legacyDisplay :
    let h := (legacyDisplay.run Globals.initial probeThenUpdate).1
    h.map (fun deed => ioctls deed.trace) =
        [[(0, Request.epaperUpdateDisplayQt, .pointer 3),
          (0, Request.epaperUpdateFull, .pointer 3)], []] ∧
      RefreshAgrees h :=
  ⟨by decide, refresh_agrees (legacyDisplay.run_isRun _ _)⟩

/-- After a legacy success an update sends nothing, and a probe without any
success returns the protocol that was stored before it. -/
theorem refresh_does_not_follow_probe :
    let legacy := legacyDisplay.run Globals.initial probeThenUpdate
    let muted := mutedDisplay.run Globals.initial probeThenUpdate
    (Run Globals.initial legacy.1 legacy.2 ∧ ¬ RefreshFollowsProbe legacy.1) ∧
      Run Globals.initial muted.1 muted.2 ∧ ¬ RefreshFollowsProbe muted.1 := by
  intro legacy muted
  refine ⟨⟨legacyDisplay.run_isRun _ _, fun hfollows => ?_⟩,
    mutedDisplay.run_isRun _ _, fun hfollows => ?_⟩
  · have hafter : UpdateAfter legacy.1 (legacy.1.get ⟨0, by decide⟩)
        (legacy.1.get ⟨1, by decide⟩) .full := {
      split := ⟨[], [], [], rfl, fun _ hmem => absurd hmem List.not_mem_nil⟩
      probing := rfl
      updating := rfl
      descriptor := rfl }
    obtain ⟨request, -, arg, hsent⟩ := hfollows.update _ _ .full hafter (by decide)
    have hnothing : ioctls (legacy.1.get ⟨1, by decide⟩).trace = [] := by decide
    exact absurd (hnothing.symm.trans hsent) (by simp)
  · have hreturned := (hfollows.probe _ List.mem_cons_self rfl).1
    exact absurd hreturned (by decide)

end Hardware
end DigmaE605
