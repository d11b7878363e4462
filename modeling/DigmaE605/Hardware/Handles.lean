import DigmaE605.Hardware.Device
import DigmaE605.Hardware.Effects
import DigmaE605.Interaction.Monitor

/-!
# Streams and descriptors

Apart from the framebuffer, which stays open, every file that `digma_hw.c` opens
is closed by the function that opened it.  `handles` is the monitor of that
discipline: at most one handle is held at a time, a stream is read only when it
was opened for reading and written only when it was opened for writing, an
`ioctl` goes to the handle that is held or to the framebuffer, and nothing else
is asked of the system while a handle is held.  A read beyond the end of an array
is never accepted.

The framebuffer is the descriptor that its last `open` returned.  Before the
first one it is 0, the initial value of `framebuffer_descriptor`, so an update
that comes too early goes to a descriptor that the module never opened.

`handles_respected` says that the monitor accepts every run, where the requests
for a refresh go, and that what was opened over the run, the framebuffer apart,
is exactly what was closed.
-/

namespace DigmaE605
namespace Hardware

open Interaction Program Text

variable {s s' : Globals} {t : Trace} {h : List Done}

/-! ## The discipline -/

/-- What has to be closed. -/
inductive Handle
  | stream (stream : Stream)
  | descriptor (fd : Int32)
  deriving DecidableEq, Repr

/-- What the last `open` of the framebuffer returned, 0 before the first, and the
handle that is held. -/
structure HandleState where
  framebuffer : Int32
  held : Option Handle
  deriving DecidableEq, Repr

namespace HandleState

/-- Hold something else, or nothing. -/
def hold (w : HandleState) (held : Option Handle) : HandleState := { w with held := held }

/-- Go on only if this is what is held. -/
def expect (w : HandleState) (held : Option Handle) (next : HandleState) :
    Option HandleState :=
  if w.held = held then some next else none

theorem expect_eq_some {w next w' : HandleState} {held : Option Handle} :
    w.expect held next = some w' ↔ w.held = held ∧ next = w' := by
  unfold expect
  rw [Option.ite_none_right_eq_some, Option.some.injEq]

@[simp] theorem expect_held (fb : Int32) (held : Option Handle) (next : HandleState) :
    (HandleState.mk fb held).expect held next = some next :=
  if_pos rfl

end HandleState

/-- The discipline, one rule for each kind of event. -/
def handles : Monitor sys HandleState := fun w e =>
  match e with
  | ⟨.fopen file mode, opened⟩ =>
      w.expect none (w.hold
        (if (show Bool from opened) = true then some (.stream ⟨file, mode⟩) else none))
  | ⟨.fgets stream _, _⟩ =>
      if stream.mode = .rt then w.expect (some (.stream stream)) w else none
  | ⟨.fprintf stream _, _⟩ =>
      if stream.mode = .wt then w.expect (some (.stream stream)) w else none
  | ⟨.fclose stream, _⟩ => w.expect (some (.stream stream)) (w.hold none)
  | ⟨.openRdwr .framebuffer, fd⟩ => w.expect none ⟨(show Int32 from fd), none⟩
  | ⟨.openRdwr _, fd⟩ =>
      w.expect none (w.hold
        (if 0 ≤ (show Int32 from fd) then some (.descriptor fd) else none))
  | ⟨.ioctl fd _ (.pointer _), _⟩ =>
      if fd = w.framebuffer ∧ 0 ≤ fd then w.expect none w else none
  | ⟨.ioctl fd _ (.int _), _⟩ => w.expect (some (.descriptor fd)) w
  | ⟨.close fd, _⟩ => w.expect (some (.descriptor fd)) (w.hold none)
  | ⟨.outsideArray, _⟩ => none
  | ⟨_, _⟩ => w.expect none w

/-- The descriptor of the framebuffer after an event. -/
def framebufferAfter (fb : Int32) : Event sys → Int32
  | ⟨.openRdwr .framebuffer, fd⟩ => fd
  | _ => fb

/-- What the last `open` of the framebuffer in a trace returned, and 0, which
`framebuffer_descriptor` is initialised with, if there is none. -/
def framebufferOf (t : Trace) : Int32 := t.foldl framebufferAfter 0

/-- The handle that an event opens, unless it is the framebuffer. -/
def opening : Event sys → List Handle
  | ⟨.fopen file mode, opened⟩ =>
      if (show Bool from opened) = true then [.stream ⟨file, mode⟩] else []
  | ⟨.openRdwr .framebuffer, _⟩ => []
  | ⟨.openRdwr _, fd⟩ => if 0 ≤ (show Int32 from fd) then [.descriptor fd] else []
  | _ => []

/-- The handle that an event closes. -/
def closing : Event sys → List Handle
  | ⟨.fclose stream, _⟩ => [.stream stream]
  | ⟨.close fd, _⟩ => [.descriptor fd]
  | _ => []

/-- A handle that is opened is held, and one that is closed was. -/
theorem handles_conserve (w : HandleState) (e : Event sys) (w' : HandleState)
    (h : handles w e = some w') :
    w.held.toList ++ opening e = closing e ++ w'.held.toList := by
  obtain ⟨op, answer⟩ := e
  -- Events that neither open nor close keep what is held.
  have hstill : ∀ held, w.expect held w = some w' →
      w.held.toList ++ [] = [] ++ w'.held.toList := by
    intro held hexpect
    obtain ⟨-, rfl⟩ := HandleState.expect_eq_some.mp hexpect
    exact List.append_nil _
  cases op with
  | fopen file mode =>
      obtain ⟨hnone, rfl⟩ := HandleState.expect_eq_some.mp h
      cases (show Bool from answer) <;> simp [hnone, HandleState.hold, opening, closing]
  | openRdwr node =>
      cases node with
      | framebuffer =>
          obtain ⟨hnone, rfl⟩ := HandleState.expect_eq_some.mp h
          simp [hnone, opening, closing]
      | _ =>
          obtain ⟨hnone, rfl⟩ := HandleState.expect_eq_some.mp h
          by_cases hfd : 0 ≤ (show Int32 from answer) <;>
            simp [hnone, hfd, HandleState.hold, opening, closing]
  | fclose stream =>
      obtain ⟨hheld, rfl⟩ := HandleState.expect_eq_some.mp h
      simp [hheld, HandleState.hold, opening, closing]
  | close fd =>
      obtain ⟨hheld, rfl⟩ := HandleState.expect_eq_some.mp h
      simp [hheld, HandleState.hold, opening, closing]
  | fgets stream size => exact hstill _ (Option.ite_none_right_eq_some.mp h).2
  | fprintf stream text => exact hstill _ (Option.ite_none_right_eq_some.mp h).2
  | ioctl fd request arg =>
      cases arg with
      | pointer mode => exact hstill _ (Option.ite_none_right_eq_some.mp h).2
      | int value => exact hstill _ h
  | outsideArray => exact absurd h (by simp [handles])
  | access node => exact hstill _ h
  | dlerror => exact hstill _ h
  | dlopen library => exact hstill _ h
  | dlsym handle symbol => exact hstill _ h
  | writing file text => exact hstill _ h

/-- Only an `open` of the framebuffer changes where the requests go. -/
theorem handles_framebuffer (w : HandleState) (e : Event sys) (w' : HandleState)
    (h : handles w e = some w') : w'.framebuffer = framebufferAfter w.framebuffer e := by
  obtain ⟨op, answer⟩ := e
  have hstill : ∀ held, w.expect held w = some w' → w'.framebuffer = w.framebuffer := by
    intro held hexpect
    obtain ⟨-, rfl⟩ := HandleState.expect_eq_some.mp hexpect
    rfl
  have hheld : ∀ held held', w.expect held (w.hold held') = some w' →
      w'.framebuffer = w.framebuffer := by
    intro held held' hexpect
    obtain ⟨-, rfl⟩ := HandleState.expect_eq_some.mp hexpect
    rfl
  cases op with
  | fopen file mode => exact hheld _ _ h
  | openRdwr node =>
      cases node with
      | framebuffer =>
          obtain ⟨-, rfl⟩ := HandleState.expect_eq_some.mp h
          rfl
      | _ => exact hheld _ _ h
  | fclose stream => exact hheld _ _ h
  | close fd => exact hheld _ _ h
  | fgets stream size => exact hstill _ (Option.ite_none_right_eq_some.mp h).2
  | fprintf stream text => exact hstill _ (Option.ite_none_right_eq_some.mp h).2
  | ioctl fd request arg =>
      cases arg with
      | pointer mode => exact hstill _ (Option.ite_none_right_eq_some.mp h).2
      | int value => exact hstill _ h
  | outsideArray => exact absurd h (by simp [handles])
  | access node => exact hstill _ h
  | dlerror => exact hstill _ h
  | dlopen library => exact hstill _ h
  | dlsym handle symbol => exact hstill _ h
  | writing file text => exact hstill _ h

/-! ## The calls -/

/-- The state of the monitor between two calls. -/
def betweenCalls (s : Globals) : HandleState := ⟨s.framebufferDescriptor, none⟩

/-- Probes hold nothing. -/
theorem watch_probing {fb : Int32} (h : ∀ e ∈ t, Probing e.op) :
    handles.watch ⟨fb, none⟩ t = some ⟨fb, none⟩ := by
  refine Monitor.watch_still ?_
  rintro ⟨op, answer⟩ he
  have hop := h _ he
  cases op <;> first | rfl | exact hop.elim

theorem watch_readTrace (fb : Int32) (name : Option Node)
    (line : Option (Option (List Char))) :
    handles.watch ⟨fb, none⟩ (readTrace name line) = some ⟨fb, none⟩ := by
  cases line <;> simp [readTrace, handles, HandleState.hold]

theorem watch_writesText {fb : Int32} {file : Option Node} {text : List Char}
    (h : WritesText file text t) : handles.watch ⟨fb, none⟩ t = some ⟨fb, none⟩ := by
  obtain ⟨opened, rfl⟩ := h
  cases opened <;> simp [writeTrace, handles, HandleState.hold]

theorem watch_ntxIoTrace (fb fd value errno : Int32) :
    handles.watch ⟨fb, none⟩ (ntxIoTrace fd value errno) = some ⟨fb, none⟩ := by
  unfold ntxIoTrace
  by_cases hfd : 0 ≤ fd <;> simp [hfd, handles, HandleState.hold]

/-- A request goes to the framebuffer. -/
theorem watch_refreshed {mode : Int32} (h : Refreshed s mode t s') :
    handles.watch (betweenCalls s) t = some (betweenCalls s) := by
  cases h with
  | sent hnew hfb errno => simp [betweenCalls, handles, hfb]
  | skipped hskip => rfl

theorem watch_update {mode digit : Int32} (u : UpdateTrace s mode digit t s') :
    handles.watch (betweenCalls s) t = some (betweenCalls s) := by
  rw [u.trace_eq]
  cases hflag : s.hardwareHasEinkModeControl with
  | true =>
      obtain ⟨manual, number, htake, hmanual, hnumber⟩ := u.taken hflag
      rw [htake]
      refine Monitor.watch_trans ?_ (Monitor.watch_trans (watch_refreshed u.refreshed)
        (watch_writesText (u.released hflag)))
      exact Monitor.watch_trans (watch_writesText hmanual) (watch_writesText hnumber)
  | false =>
      obtain ⟨htake, hrelease⟩ := u.untouched hflag
      rw [htake, hrelease, List.nil_append, List.append_nil]
      exact watch_refreshed u.refreshed

theorem watch_probe {result : RefreshType} (h : ProbeOutcome s t result s') :
    handles.watch (betweenCalls s) t = some (betweenCalls s') := by
  cases h with
  | noDescriptor hfb => rfl
  | qtAccepted hfb => simp [betweenCalls, handles, hfb, Globals.setErrno, Globals.setRefreshType]
  | legacyAccepted hfb qt hqt =>
      simp [betweenCalls, handles, hfb, Globals.setErrno, Globals.setRefreshType]
  | bothRefused hfb qt full hqt hfull => simp [betweenCalls, handles, hfb, Globals.setErrno]

/-- The backlight block closes the node that it reads. -/
theorem watch_backlight (fb : Int32) (h : BacklightProbe s t s') :
    handles.watch ⟨fb, none⟩ t = some ⟨fb, none⟩ := by
  cases h with
  | known hflag => rfl
  | boeye hflag line => exact watch_readTrace fb _ line
  | other hflag boeye ntx hboeye => rfl

theorem watch_block (fb : Int32) {capability : Capability} {result : Unit}
    (h : Exec capability.block s t result s') :
    handles.watch ⟨fb, none⟩ t = some ⟨fb, none⟩ := by
  by_cases hcapability : capability = .backlight
  · subst hcapability
    exact watch_backlight fb (exec_detectBacklight h)
  · exact watch_probing (probing_block hcapability h)

theorem watch_detectHardware {result : Unit} (h : Exec detectHardware s t result s') :
    handles.watch (betweenCalls s) t = some (betweenCalls s') := by
  have hkeeps : Keeps Globals.framebufferDescriptor detectHardware :=
    keeps_detectHardware (by
      intro capability
      cases capability <;> simp [Capability.Ignored])
  have hfb : betweenCalls s' = betweenCalls s := by
    unfold betweenCalls
    rw [hkeeps h]
  obtain ⟨d⟩ := exec_detectHardware h
  -- Each block ends with nothing held, so the next one may start.
  have hblock : ∀ capability,
      handles.watch (betweenCalls s) (d.trace capability) = some (betweenCalls s) :=
    fun capability => watch_block _ (d.exec_block capability)
  rw [hfb, d.trace_eq]
  exact Monitor.watch_trans (hblock .platform) (Monitor.watch_trans (hblock .backlight)
    (Monitor.watch_trans (hblock .led) (Monitor.watch_trans (hblock .apm)
      (Monitor.watch_trans (hblock .sysfsSleep) (hblock .einkModeControl)))))

/-- A call that does not open the framebuffer leaves the descriptor alone. -/
theorem betweenCalls_eq {call : Call} {result : Option RefreshType}
    (hdetect : call ≠ .detectHardware) (hopen : call ≠ .openFramebuffer)
    (h : Exec call.entry s t result s') : betweenCalls s' = betweenCalls s := by
  have hkeeps : Keeps Globals.framebufferDescriptor call.entry :=
    keeps_call (fun _ _ => rfl) (fun _ _ _ => rfl) (fun hcall => absurd hcall hopen)
      fun hcall => absurd hcall hdetect
  unfold betweenCalls
  rw [hkeeps h]

/-- The monitor accepts every call. -/
theorem watch_entry {call : Call} {result : Option RefreshType} (hsteady : Steady s)
    (h : Exec call.entry s t result s') :
    handles.watch (betweenCalls s) t = some (betweenCalls s') := by
  cases call with
  | update update =>
      rw [betweenCalls_eq (by simp) (by simp) h]
      obtain ⟨u⟩ := exec_update hsteady h
      exact watch_update u
  | setBrightness value =>
      rw [betweenCalls_eq (by simp) (by simp) h]
      obtain ⟨_, hbrightness, -⟩ := exec_returning.mp h
      rcases exec_setBrightness hbrightness with ⟨-, fd, errno, _, rfl, -⟩ |
        ⟨-, -, hwrites, -⟩ | ⟨-, -, rfl, -⟩
      · exact watch_ntxIoTrace _ _ _ _
      · exact watch_writesText hwrites
      · rfl
  | setLedState state =>
      rw [betweenCalls_eq (by simp) (by simp) h]
      obtain ⟨_, hled, -⟩ := exec_returning.mp h
      obtain ⟨rfl, -⟩ := exec_setLedState hsteady.notifyOff hled
      rfl
  | detectHardware =>
      obtain ⟨_, hdetect, -⟩ := exec_returning.mp h
      exact watch_detectHardware hdetect
  | detectRefreshType =>
      obtain ⟨_, hprobe, -⟩ := exec_returning.mp h
      exact watch_probe (exec_detectRefreshType hprobe)
  | openFramebuffer =>
      obtain ⟨_, hopen, -⟩ := exec_returning.mp h
      obtain ⟨fd, rfl, rfl⟩ := exec_openFramebuffer hopen
      rfl

/-! ## Runs -/

/-- Every event of the run keeps to the discipline, and nothing is held at its
end. -/
structure HandlesRespected (h : List Done) (s : Globals) : Prop where
  accepted : handles.watch ⟨0, none⟩ (runTrace h) = some ⟨s.framebufferDescriptor, none⟩
  /-- A request for a refresh goes to what the last `open` of the framebuffer
  before it returned, and to 0 if there was none; never to an error. -/
  requested : ∀ earlier fd request mode errno later,
    runTrace h = earlier ++ event (.ioctl fd request (.pointer mode)) errno :: later →
      fd = framebufferOf earlier ∧ 0 ≤ fd
  /-- The framebuffer apart, what was opened was closed, in the same order. -/
  balanced : (runTrace h).flatMap opening = (runTrace h).flatMap closing

/-- **Every handle is used as it was opened, and closed.**  In every run, whatever
the opens and the reads answer: one handle at a time besides the framebuffer, a
stream used in its mode, a request sent to the framebuffer as it was last opened,
or to 0 before that, no other handle left open between two calls, and no read
beyond the end of an array. -/
theorem handles_respected (hrun : Run Globals.initial h s) : HandlesRespected h s := by
  have hentry : ∀ deed : Done,
      Exec (Call.entry deed.call) deed.before deed.trace deed.result deed.after →
        Steady deed.before →
          handles.watch (betweenCalls deed.before) deed.trace = some (betweenCalls deed.after) ∧
            Steady deed.after :=
    fun deed hexec hsteady => ⟨watch_entry hsteady hexec, hsteady.entry hexec⟩
  have haccepted : handles.watch (betweenCalls Globals.initial) (runTrace h) =
      some (betweenCalls s) := Session.watched hentry hrun Steady.initial
  refine ⟨haccepted, ?_, ?_⟩
  · intro earlier fd request mode errno later hsplit
    rw [hsplit] at haccepted
    obtain ⟨middle, next, hearlier, hrequest⟩ := Monitor.watch_split haccepted
    have hfb : middle.framebuffer = framebufferOf earlier :=
      Monitor.tracked handles_framebuffer hearlier
    obtain ⟨⟨rfl, hopen⟩, -⟩ := Option.ite_none_right_eq_some.mp hrequest
    exact ⟨hfb, hopen⟩
  · have hbalance := Monitor.conserved (fun w => w.held.toList) handles_conserve haccepted
    simpa [betweenCalls] using hbalance

/-- A Digma reader with a backlight and a controller. -/
def digmaC6LHD : Device where
  present := [.boeyeBrightness, .einkmode, .framebuffer]
  accepted := [Request.epaperUpdateDisplayQt]
  apmSuspend := none
  brightness := ⟨['8'], []⟩

theorem handles_respected_digmaC6LHD :
    let calls := [Call.openFramebuffer, .detectHardware, .update .part, .setLedState 9]
    let h := (digmaC6LHD.run Globals.initial calls).1
    (runTrace h).flatMap opening = [.stream ⟨some .boeyeBrightness, .rt⟩,
        .stream ⟨some .einkmode, .wt⟩, .stream ⟨some .einkmode, .wt⟩,
        .stream ⟨some .einkmode, .wt⟩] ∧
      HandlesRespected h (digmaC6LHD.run Globals.initial calls).2 :=
  ⟨by decide, handles_respected (digmaC6LHD.run_isRun _ _)⟩

end Hardware
end DigmaE605
