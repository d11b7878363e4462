import DigmaE605.Hardware.Calls
import DigmaE605.Interaction.Machine

/-!
# What the module knows of the reader

The purpose of `digma_hw.c`, without its globals.  A program that uses the
module comes to know the reader: which platform it is, how its backlight is
driven, which LED it has, whether it can sleep, which refresh protocol its
display speaks.  `Knowledge` is that, with the parts that belong together kept
together: a backlight that is driven through sysfs has the level it had, an LED
has its row.

`Knowledge.after` says what a call adds, `Knowledge.effects` what it does to the
reader and `Knowledge.reply` what it returns, all three from the `Answers` that
the environment gave during the call; `Knowledge.machine` puts them together.

`Knowledge.detect_detect`: in the same surroundings a second detection adds
nothing.
-/

namespace DigmaE605
namespace Hardware

open Interaction Text

/-- A backlight control.  Only the one in sysfs has a path and a level that was
read. -/
inductive Backlight
  | sysfs (level : Int32)
  | ntxIo
  deriving DecidableEq, Repr

/-- What is known of a reader. -/
structure Knowledge where
  kobo : Bool
  backlight : Option Backlight
  led : Option LedRow
  /-- The function loaded from `libapm.so`. -/
  apm : Option (Option Nat)
  sysfsSleep : Bool
  einkModeControl : Bool
  refreshType : RefreshType
  framebuffer : Int32
  deriving DecidableEq, Repr

/-- What is known before the first call. -/
def Knowledge.initial : Knowledge where
  kobo := false
  backlight := none
  led := none
  apm := none
  sysfsSleep := false
  einkModeControl := false
  refreshType := .new
  framebuffer := 0

/-- What a detection meets: the files that are there, the level that the
brightness node reads as, and the function that the linker loads, if it does. -/
structure Survey where
  present : Node → Bool
  level : Int32
  apm : Option (Option Nat)

namespace Survey

/-- The backlight: the sysfs node first, `/dev/ntx_io` second. -/
def backlight (e : Survey) : Option Backlight :=
  if e.present .boeyeBrightness then some (.sysfs e.level)
  else if e.present .ntxIo then some .ntxIo
  else none

theorem backlight_congr {e e' : Survey}
    (hboeye : e.present .boeyeBrightness = e'.present .boeyeBrightness)
    (hntx : e.present .ntxIo = e'.present .ntxIo) (hlevel : e.level = e'.level) :
    e.backlight = e'.backlight := by
  unfold backlight
  rw [hboeye, hntx, hlevel]

/-- The first LED row, in the order of the source, whose node is there. -/
def led (e : Survey) : Option LedRow := ledRows.find? fun row => e.present row.node

/-- APM: the node, then the function. -/
def loadedApm (e : Survey) : Option (Option Nat) :=
  if e.present .apmBios then e.apm else none

end Survey

/-- What the environment answers during one call. -/
structure Answers where
  survey : Survey
  /-- What `open` returns. -/
  opened : Int32
  /-- The requests that the display accepts. -/
  accepts : UInt32 → Bool

/-- What a call does to the reader. -/
inductive Effect
  | write (file : Option Node) (text : List Char)
  | request (fd : Int32) (code : UInt32) (arg : IoctlArg)
  deriving DecidableEq, Repr

namespace Knowledge

variable (k : Knowledge) (e : Survey)

/-! ## Detection -/

/-- A detection adds what it finds to what is not known yet. -/
def detect : Knowledge :=
  { k with
    kobo := k.kobo || e.present .stateExtended
    backlight := k.backlight.or e.backlight
    led := k.led.or e.led
    apm := k.apm.or e.loadedApm
    sysfsSleep := k.sysfsSleep || e.present .powerState
    einkModeControl := k.einkModeControl || e.present .einkmode }

/-- Whether the capability is known already.  The platform is asked for in every
detection. -/
def knows : Capability → Bool
  | .platform => false
  | .backlight => k.backlight.isSome
  | .led => k.led.isSome
  | .apm => k.apm.isSome
  | .sysfsSleep => k.sysfsSleep
  | .einkModeControl => k.einkModeControl

/-- A second detection that meets the same files and the same linker adds
nothing; the level does not matter any more. -/
theorem detect_detect {e e' : Survey} (hpresent : e'.present = e.present)
    (hapm : e'.apm = e.apm) : (k.detect e).detect e' = k.detect e := by
  have hbacklight : (k.backlight.or e.backlight).or e'.backlight =
      k.backlight.or e.backlight := by
    unfold Survey.backlight
    rw [hpresent]
    cases k.backlight with
    | some control => rfl
    | none => cases e.present .boeyeBrightness <;> cases e.present .ntxIo <;> rfl
  have hled : e'.led = e.led := by
    unfold Survey.led
    rw [hpresent]
  have hloaded : e'.loadedApm = e.loadedApm := by
    unfold Survey.loadedApm
    rw [hpresent, hapm]
  unfold detect
  simp only [hbacklight, hled, hloaded, hpresent, Bool.or_assoc, Bool.or_self, Option.or_assoc,
    Option.or_self]

/-! ## The calls -/

/-- A refresh probe remembers the protocol of the request that was accepted. -/
def probe (a : Answers) : Knowledge :=
  if a.accepts Request.epaperUpdateDisplayQt then { k with refreshType := .new }
  else if a.accepts Request.epaperUpdateFull then { k with refreshType := .legacy }
  else k

/-- What is known after a call. -/
def after (call : Call) (a : Answers) : Knowledge :=
  match call with
  | .detectHardware => k.detect a.survey
  | .detectRefreshType => k.probe a
  | .openFramebuffer => { k with framebuffer := a.opened }
  | .update _ => k
  | .setBrightness _ => k
  | .setLedState _ => k

/-- What a call returns. -/
def reply (call : Call) (a : Answers) : Option RefreshType :=
  match call with
  | .detectRefreshType => some (k.probe a).refreshType
  | _ => none

/-- The request of an update. -/
def refresh (update : Update) : List Effect :=
  if k.refreshType = .new ∧ 0 ≤ k.framebuffer then
    [.request k.framebuffer Request.epaperUpdateDisplayQt (.pointer update.mode)]
  else []

/-- What a call does to the reader, in order. -/
def effects (call : Call) (a : Answers) : List Effect :=
  match call with
  | .update update =>
      if k.einkModeControl then
        [.write (some .einkmode) ['m'],
            .write (some .einkmode) (decimalText update.digit.toInt)] ++
          (k.refresh update ++ [.write (some .einkmode) ['q']])
      else k.refresh update
  | .setBrightness value =>
      if k.kobo then
        if 0 ≤ a.opened then
          [.request a.opened 0xf1 (.int (if 100 < value then 100 else value))]
        else []
      else
        match k.backlight with
        | some (.sysfs _) => [.write (some .boeyeBrightness) (decimalText value.toInt)]
        -- the path that `/dev/ntx_io` left unset
        | some .ntxIo => [.write none (decimalText value.toInt)]
        | none => []
  | .detectRefreshType =>
      if 0 ≤ k.framebuffer then
        .request k.framebuffer Request.epaperUpdateDisplayQt (.pointer 3) ::
          if a.accepts Request.epaperUpdateDisplayQt then []
          else [.request k.framebuffer Request.epaperUpdateFull (.pointer 3)]
      else []
  | .detectHardware => []
  | .setLedState _ => []
  | .openFramebuffer => []

/-- The module as it is used: each call, with what the environment answers, has
effects and a reply, and adds to what is known. -/
def machine : Machine Knowledge (Call × Answers) (List Effect × Option RefreshType) where
  next := fun k step => k.after step.1 step.2
  output := fun k step => (k.effects step.1 step.2, k.reply step.1 step.2)

end Knowledge

end Hardware
end DigmaE605
