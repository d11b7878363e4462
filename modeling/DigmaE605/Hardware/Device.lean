import DigmaE605.Hardware.Calls
import DigmaE605.Text.TextFile

/-!
# A concrete reader

`Device.respond` answers every system call the way a reader does whose files,
display and linker are known: `access`, `open` and `fopen` find the files that
are there, `ioctl` refuses what the display does not know with `EINVAL`, and
the brightness node is a text file.  `Device.run` executes a list of calls.

`Device.run_isRun` places these executions among the runs of the module.
-/

namespace DigmaE605
namespace Hardware

open Interaction Program Text

/-- What has to be known of a reader to answer for it. -/
structure Device where
  /-- The files that are there. -/
  present : List Node
  /-- The requests that the display accepts. -/
  accepted : List UInt32
  /-- The address of `apm_suspend`, if `libapm.so` can be loaded. -/
  apmSuspend : Option Nat
  /-- The brightness node. -/
  brightness : TextFile

/-- The reader after one of its files was opened. -/
def Device.opened (device : Device) : Node → OpenMode → Device
  | .boeyeBrightness, .rt => { device with brightness := device.brightness.openRead }
  | .boeyeBrightness, .wt => { device with brightness := device.brightness.openWrite }
  | _, _ => device

/-- The answer of the reader, and the reader afterwards. -/
def Device.respond (device : Device) : (op : Sys) → op.Ans × Device
  | .access node => (if node ∈ device.present then 0 else -1, device)
  | .openRdwr node => (if node ∈ device.present then 3 else -1, device)
  | .close _ => ((), device)
  | .ioctl _ request _ => (if request ∈ device.accepted then 0 else 22, device)
  | .fopen none _ => (false, device)
  | .fopen (some node) mode =>
      if node ∈ device.present then (true, device.opened node mode) else (false, device)
  | .fgets stream size =>
      if stream.file = some .boeyeBrightness then
        ((device.brightness.gets size).1,
          { device with brightness := (device.brightness.gets size).2 })
      else (none, device)
  | .fprintf stream text =>
      ((), if stream.file = some .boeyeBrightness then
        { device with brightness := device.brightness.print text } else device)
  | .fclose _ => ((), device)
  | .dlerror => (if device.apmSuspend.isSome then none else some "not found", device)
  | .dlopen _ => ({ failed := device.apmSuspend.isNone, pointer := some 1 }, device)
  | .dlsym _ _ => ({ failed := device.apmSuspend.isNone, pointer := device.apmSuspend }, device)
  | .writing _ _ => ((), device)
  | .outsideArray => (0, device)

/-- The run of the calls on the reader. -/
def Device.run (device : Device) (s : Globals) (calls : List Call) : List Done × Globals :=
  let played := Session.playAll Call.entry Device.respond device s calls
  (played.1, played.2.1)

theorem Device.run_isRun (device : Device) (s : Globals) (calls : List Call) :
    Run s (device.run s calls).1 (device.run s calls).2 :=
  Session.of_playAll Call.entry Device.respond device s calls

end Hardware
end DigmaE605
