import DigmaE605.Interaction.Session
import DigmaE605.Text.Decimal

/-!
# The reader's hardware as `digma_hw.c` sees it

The data model of `firstapp/digma_hw.c`, for the device build (`__amd64` and
`debug` undefined): the files it names, the library and system calls it makes,
and its global variables.

* `Node` lists the files, `Node.path` their names.
* `Sys` lists the calls and `Sys.Ans` what each of them may answer.  Nothing
  restricts an answer: a file may come and go between two calls.
* `Globals` holds the global variables that a function of the module uses.  An
  `int` that only ever holds `TRUE` or `FALSE` is a `Bool`, a `const char *` is
  an `Option Node` whose `none` is `NULL`.
-/

namespace DigmaE605
namespace Hardware

open Interaction

/-- The files the program names. -/
inductive Node
  | stateExtended
  | boeyeBrightness
  | ntxIo
  | chargerLed
  | axp192Led
  | da9030Led
  | pmicLed
  | apmBios
  | powerState
  | einkmode
  | framebuffer
  deriving DecidableEq, Repr

/-- Where each file lives. -/
def Node.path : Node → String
  | stateExtended => "/sys/power/state-extended"
  | boeyeBrightness => "/sys/class/backlight/boeye_backlight/brightness"
  | ntxIo => "/dev/ntx_io"
  | chargerLed => "/sys/class/leds/charger-led/brightness"
  | axp192Led => "/sys/class/leds/axp192-led-classdev/brightness"
  | da9030Led => "/sys/devices/platform/boeye-leds/leds/da9030_led/brightness"
  | pmicLed => "/sys/class/leds/pmic_ledsg/brightness"
  | apmBios => "/dev/apm_bios"
  | powerState => "/sys/power/state"
  | einkmode => "/sys/eink/einkmode"
  | framebuffer => "/dev/fb0"

/-- Two nodes are never two names of one path. -/
theorem Node.path_injective : Function.Injective Node.path := by
  intro node node' h
  cases node <;> cases node' <;> first | rfl | exact absurd h (by decide)

/-- The mode string of `fopen`. -/
inductive OpenMode
  | rt
  | wt
  deriving DecidableEq, Repr

/-- A stream that `fopen` opened. -/
structure Stream where
  file : Option Node
  mode : OpenMode
  deriving DecidableEq, Repr

/-- The third argument of `ioctl`: the `int` behind a pointer, or an `int`. -/
inductive IoctlArg
  | pointer (mode : Int32)
  | int (value : Int32)
  deriving DecidableEq, Repr

/-- What `dlopen` and `dlsym` do: whether the call failed, which only
`dlerror` tells the program, and the pointer it returns. -/
structure DlResult where
  failed : Bool
  pointer : Option Nat
  deriving DecidableEq, Repr

/-- The calls that leave the module.  `writing` marks the entry of
`write_int_to_file` and `write_string_to_file`, at their `TRACE("writing ...")`
line, before `fopen` decides whether the attempt succeeds.  `outsideArray` is a
read beyond the end of an array. -/
inductive Sys
  | access (node : Node)
  | openRdwr (node : Node)
  | close (fd : Int32)
  | ioctl (fd : Int32) (request : UInt32) (arg : IoctlArg)
  | fopen (file : Option Node) (mode : OpenMode)
  | fgets (stream : Stream) (size : Nat)
  | fprintf (stream : Stream) (text : List Char)
  | fclose (stream : Stream)
  | dlerror
  | dlopen (library : String)
  | dlsym (handle : Option Nat) (symbol : String)
  | writing (file : Option Node) (text : List Char)
  | outsideArray
  deriving DecidableEq, Repr

/-- What a call may answer: the `int` of `access` and `open`, the `errno` that
`ioctl` leaves, whether `fopen` yields a stream, the line `fgets` reads. -/
abbrev Sys.Ans : Sys → Type
  | access _ => Int32
  | openRdwr _ => Int32
  | close _ => Unit
  | ioctl _ _ _ => Int32
  | fopen _ _ => Bool
  | fgets _ _ => Option (List Char)
  | fprintf _ _ => Unit
  | fclose _ => Unit
  | dlerror => Option String
  | dlopen _ => DlResult
  | dlsym _ _ => DlResult
  | writing _ _ => Unit
  | outsideArray => Int32

/-- The interface between the module and the system. -/
abbrev sys : Interface where
  Op := Sys
  Ans := Sys.Ans

/-- What a call does to the outside, in order. -/
abbrev Trace := List (Event sys)

/-- The refresh protocols, `enum { REFRESH_UNKNOWN, ... }`. -/
inductive RefreshType
  | unknown
  | legacy
  | new
  | kobo
  deriving DecidableEq, Repr

/-- The hardware platforms, `enum { HW_PLATFORM_UNKNOWN, ... }`. -/
inductive HwPlatform
  | unknown
  | sibraryGtk
  | sibraryQt
  | kobo
  deriving DecidableEq, Repr

/-- The array `LED_state`, indexed by `LED_OFF`, `LED_BLINK_SLOW`,
`LED_BLINK_FAST` and `LED_ON`. -/
structure LedStates where
  off : Int32
  blinkSlow : Int32
  blinkFast : Int32
  on : Int32
  deriving DecidableEq, Repr

/-- `LED_state[index]`, `none` beyond the array. -/
def LedStates.read (states : LedStates) (index : Int32) : Option Int32 :=
  if index = 0 then some states.off
  else if index = 1 then some states.blinkSlow
  else if index = 2 then some states.blinkFast
  else if index = 3 then some states.on
  else none

/-- The global variables of `digma_hw.c`, and `errno`. -/
structure Globals where
  refreshType : RefreshType
  framebufferDescriptor : Int32
  hardwareHasBacklight : Bool
  hardwareHasLED : Bool
  hardwareHasAPM : Bool
  hardwareHasSysfsSleep : Bool
  hardwareHasEinkModeControl : Bool
  ledPath : Option Node
  backlightPath : Option Node
  sysfsSleepPath : Option Node
  einkModeControlPath : Option Node
  ledState : LedStates
  previousBacklightLevel : Int32
  hwPlatform : HwPlatform
  enableRefresh : Bool
  ledNotify : Bool
  apmSuspend : Option Nat
  errno : Int32
  deriving DecidableEq, Repr

/-- The initialisers of the source; C zeroes the others. -/
def Globals.initial : Globals where
  refreshType := .new
  framebufferDescriptor := 0
  hardwareHasBacklight := false
  hardwareHasLED := false
  hardwareHasAPM := false
  hardwareHasSysfsSleep := false
  hardwareHasEinkModeControl := false
  ledPath := none
  backlightPath := none
  sysfsSleepPath := none
  einkModeControlPath := none
  ledState := { off := 0, blinkSlow := 0, blinkFast := 0, on := 0 }
  previousBacklightLevel := 0
  hwPlatform := .unknown
  enableRefresh := true
  ledNotify := false
  apmSuspend := none
  errno := 0

/-- `errno = ...` -/
def Globals.setErrno (s : Globals) (errno : Int32) : Globals := { s with errno := errno }

/-- `refresh_type = ...` -/
def Globals.setRefreshType (s : Globals) (refreshType : RefreshType) : Globals :=
  { s with refreshType := refreshType }

/-- A C function of the module. -/
abbrev Hw (α : Type) := Program sys Globals α

/-! ## The calls and their traces -/

def access (node : Node) : Hw Int32 := Program.call (I := sys) (.access node)

def openRdwr (node : Node) : Hw Int32 := Program.call (I := sys) (.openRdwr node)

def close (fd : Int32) : Hw Unit := Program.call (I := sys) (.close fd)

/-- `ioctl`, whose outcome the module reads from `errno` only. -/
def ioctl (fd : Int32) (request : UInt32) (arg : IoctlArg) : Hw Unit := do
  let errno ← Program.call (I := sys) (.ioctl fd request arg)
  Program.modify fun s => s.setErrno errno

/-- `fopen`: a stream on the file, or `NULL`. -/
def fopen (file : Option Node) (mode : OpenMode) : Hw (Option Stream) := do
  let opened ← Program.call (I := sys) (.fopen file mode)
  pure (if opened then some { file := file, mode := mode } else none)

def fgets (stream : Stream) (size : Nat) : Hw (Option (List Char)) :=
  Program.call (I := sys) (.fgets stream size)

def fprintf (stream : Stream) (text : List Char) : Hw Unit :=
  Program.call (I := sys) (.fprintf stream text)

def fclose (stream : Stream) : Hw Unit := Program.call (I := sys) (.fclose stream)

def dlerror : Hw (Option String) := Program.call (I := sys) .dlerror

def dlopen (library : String) : Hw DlResult := Program.call (I := sys) (.dlopen library)

def dlsym (handle : Option Nat) (symbol : String) : Hw DlResult :=
  Program.call (I := sys) (.dlsym handle symbol)

def writing (file : Option Node) (text : List Char) : Hw Unit :=
  Program.call (I := sys) (.writing file text)

def outsideArray : Hw Int32 := Program.call (I := sys) .outsideArray

/-- The event of one call and its answer. -/
abbrev event (op : Sys) (ans : op.Ans) : Event sys := ⟨op, ans⟩

end Hardware
end DigmaE605
