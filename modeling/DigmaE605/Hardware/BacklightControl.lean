import DigmaE605.Hardware.Device
import DigmaE605.Hardware.Effects

/-!
# The backlight that `set_brightness` drives

`detect_hardware` raises one flag for two backlight controls: the sysfs node,
whose path it stores, and `/dev/ntx_io`, for which it stores no path.
`set_brightness` does not ask which of them was found; it asks whether the
platform is a Kobo.  So it drives the control that was found only when the two
questions have the same answer, and it clamps the level from above only.

`DrivesFound` is what should happen at one call and `DispatchFits` when it
does; `setBrightness_drives_iff` compares them at every call of every run.
-/

namespace DigmaE605
namespace Hardware

open Interaction Program Text

variable {s s' : Globals} {t : Trace} {h earlier later : List Done} {value : Int32}

/-- The backlight that the detections of a run found: the sysfs node's path,
or, without a path, `/dev/ntx_io`. -/
def backlightFoundBy (h : List Done) : Option (Option Node) :=
  (detections h).findSome? backlightFound

/-- Some detection of the run saw `/sys/power/state-extended`. -/
def KoboSeen (h : List Done) : Prop :=
  ∃ t ∈ detections h, reported .stateExtended t = true

instance (h : List Done) : Decidable (KoboSeen h) := by
  unfold KoboSeen
  infer_instance

/-- The trace of `set_brightness` drives the control that was found, within its
range: one write of the level, or one `ioctl` with a level of 0 to 100, or
nothing when there is nothing to drive. -/
def DrivesFound (found : Option (Option Node)) (value : Int32) (t : Trace) : Prop :=
  match found with
  | some (some _) => WritesText (some .boeyeBrightness) (decimalText value.toInt) t
  | some none => ∃ fd level errno : Int32, t = ntxIoTrace fd level errno ∧
      (0 ≤ fd → 0 ≤ level ∧ level ≤ 100)
  | none => t = []

/-- The platform agrees with the control that was found and, if `/dev/ntx_io`
could be opened, the level is not negative. -/
def DispatchFits (earlier : List Done) (value : Int32) (t : Trace) : Prop :=
  match backlightFoundBy earlier with
  | some (some _) => ¬ KoboSeen earlier
  | some none => KoboSeen earlier ∧
      ∀ fd : Int32, event (.openRdwr .ntxIo) fd ∈ t → 0 ≤ fd → 0 ≤ value
  | none => ¬ KoboSeen earlier

/-! ## Detection and dispatch -/

/-- The flag and the path of the backlight hold what the run found. -/
theorem Run.backlight (hrun : Run Globals.initial h s) :
    backlightLatch.view s = backlightFoundBy h :=
  Run.latch rfl (fun _ _ => rfl) (fun _ _ => rfl) (fun _ _ => rfl)
    (fun _ _ _ _ hsteady hexec =>
      (detectHardware_backlight hsteady.backlight_clean hexec).1) hrun

/-- The platform is a Kobo once a detection saw one. -/
theorem Run.kobo (hrun : Run Globals.initial h s) : s.hwPlatform = .kobo ↔ KoboSeen h := by
  have hview : koboLatch.view s = (detections h).findSome? koboFound :=
    Run.latch rfl (fun _ _ => rfl) (fun _ _ => rfl) (fun _ _ => rfl)
      (fun _ _ _ _ _ hexec => detectHardware_kobo hexec) hrun
  have hclosed : (koboLatch.view s).isSome = true ↔ s.hwPlatform = .kobo := by
    rw [Latch.view_isSome]
    simp [koboLatch]
  rw [← hclosed, hview, List.findSome?_isSome_iff]
  unfold KoboSeen koboFound fileFound
  apply exists_congr
  intro t
  cases reported .stateExtended t <;> simp

/-- Opening `/dev/ntx_io` is neither silence nor a write. -/
theorem ntxIoTrace_ne_nil (fd level errno : Int32) : ntxIoTrace fd level errno ≠ [] :=
  List.cons_ne_nil _ _

theorem WritesText.ne_ntxIoTrace {file : Option Node} {text : List Char}
    {fd level errno : Int32} (hwrites : WritesText file text t) :
    t ≠ ntxIoTrace fd level errno := by
  intro htrace
  have hone := hwrites.writings_eq
  rw [htrace, writings_ntxIoTrace] at hone
  exact absurd hone (by simp)

/-- The request that `/dev/ntx_io` receives. -/
theorem ioctls_ntxIoTrace (fd level errno : Int32) :
    ioctls (ntxIoTrace fd level errno) =
      if 0 ≤ fd then [(fd, 0xf1, .int level)] else [] := by
  unfold ntxIoTrace
  split <;> rfl

theorem open_mem_ntxIoTrace (fd level errno : Int32) :
    event (.openRdwr .ntxIo) fd ∈ ntxIoTrace fd level errno :=
  List.mem_cons_self

/-- The only `open` of the trace is the one that heads it. -/
theorem fd_of_mem_ntxIoTrace {fd fd' level errno : Int32}
    (hmem : event (.openRdwr .ntxIo) fd' ∈ ntxIoTrace fd level errno) : fd' = fd := by
  unfold ntxIoTrace at hmem
  split at hmem <;> simpa using hmem

/-- The level is clamped from above. -/
theorem clamp_le (value : Int32) : (if 100 < value then 100 else value) ≤ 100 := by
  split
  · exact Int32.le_refl 100
  · exact Int32.not_lt.mp ‹_›

theorem nonneg_clamp_iff (value : Int32) :
    0 ≤ (if 100 < value then 100 else value) ↔ 0 ≤ value := by
  split
  · rename_i habove
    have hpos : 0 ≤ value := by
      rw [Int32.le_iff_toInt_le]
      rw [Int32.lt_iff_toInt_lt] at habove
      have hzero : (0 : Int32).toInt = 0 := rfl
      have hhundred : (100 : Int32).toInt = 100 := rfl
      omega
    exact ⟨fun _ => hpos, fun _ => by decide⟩
  · exact Iff.rfl

/-- On a Kobo the level reaches `/dev/ntx_io` clamped from above only. -/
theorem ntxIo_inRange_iff (fd errno value : Int32) :
    (∃ fd' level errno' : Int32,
        ntxIoTrace fd (if 100 < value then 100 else value) errno = ntxIoTrace fd' level errno' ∧
          (0 ≤ fd' → 0 ≤ level ∧ level ≤ 100)) ↔
      (0 ≤ fd → 0 ≤ value) := by
  constructor
  · rintro ⟨fd', level, errno', htrace, hrange⟩ hfd
    have hopened := fd_of_mem_ntxIoTrace (htrace ▸ open_mem_ntxIoTrace fd' level errno')
    subst hopened
    have hrequests := congrArg ioctls htrace
    rw [ioctls_ntxIoTrace, ioctls_ntxIoTrace, if_pos hfd, if_pos hfd] at hrequests
    have hlevel : (if 100 < value then 100 else value) = level := by
      simpa using hrequests
    rw [← hlevel] at hrange
    exact (nonneg_clamp_iff value).mp (hrange hfd).1
  · intro hvalue
    exact ⟨fd, _, errno, rfl, fun hfd =>
      ⟨(nonneg_clamp_iff value).mpr (hvalue hfd), clamp_le value⟩⟩

/-- One call of `set_brightness`: it drives what was found exactly when the
dispatch fits. -/
theorem exec_drives_iff {result : Option RefreshType}
    (hrun : Run Globals.initial earlier s)
    (hexec : Exec (Call.entry (.setBrightness value)) s t result s') :
    DrivesFound (backlightFoundBy earlier) value t ↔ DispatchFits earlier value t := by
  obtain ⟨_, hbrightness, -⟩ := exec_returning.mp hexec
  have hkobo := hrun.kobo
  have hview := hrun.backlight
  unfold DrivesFound DispatchFits
  rcases exec_setBrightness hbrightness with ⟨hplatform, fd, errno, _, rfl, -⟩ |
    ⟨hplatform, hflag, hwrites, -⟩ | ⟨hplatform, hflag, rfl, -⟩
  · -- On a Kobo `/dev/ntx_io` is opened, whatever was found.
    have hseen := hkobo.mp hplatform
    cases backlightFoundBy earlier with
    | none => exact iff_of_false (ntxIoTrace_ne_nil _ _ _) fun hother => hother hseen
    | some found =>
        cases found with
        | some path =>
            exact iff_of_false (fun hwrites => hwrites.ne_ntxIoTrace rfl)
              fun hother => hother hseen
        | none =>
            rw [ntxIo_inRange_iff]
            constructor
            · intro hvalue
              refine ⟨hseen, fun fd' hmem hfd' => hvalue ?_⟩
              rwa [← fd_of_mem_ntxIoTrace hmem]
            · intro hfits
              exact hfits.2 fd (open_mem_ntxIoTrace _ _ _)
  · -- Elsewhere the path is written, even when none was stored.
    have hunseen : ¬ KoboSeen earlier := fun hseen => hplatform (hkobo.mpr hseen)
    have hfound : backlightFoundBy earlier = some s.backlightPath :=
      hview.symm.trans (Latch.view_eq_some_iff.mpr ⟨hflag, rfl⟩)
    rw [hfound]
    rcases hrun.steady.backlightPath with hpath | ⟨-, hpath⟩
    · rw [hpath]
      refine iff_of_false ?_ fun hfits => hunseen hfits.1
      rintro ⟨fd, level, errno, htrace, -⟩
      exact hwrites.ne_ntxIoTrace htrace
    · rw [hpath] at hwrites ⊢
      exact iff_of_true hwrites hunseen
  · have hunseen : ¬ KoboSeen earlier := fun hseen => hplatform (hkobo.mpr hseen)
    have hfound : backlightFoundBy earlier = none :=
      hview.symm.trans (Latch.view_eq_none_iff.mpr hflag)
    rw [hfound]
    exact iff_of_true rfl hunseen

/-! ## Runs -/

/-- At every call of `set_brightness` in the run, `holds` is true of the calls
before it, its argument and its trace. -/
def AtEachBrightness (holds : List Done → Int32 → Trace → Prop) (h : List Done) : Prop :=
  ∀ earlier deed later value, h = earlier ++ deed :: later →
    deed.call = .setBrightness value → holds earlier value deed.trace

/-- The backlight control that detection found is the one that is driven, within
its range, and no write goes to an unset path. -/
structure BacklightControlled (h : List Done) : Prop where
  driven : AtEachBrightness (fun earlier => DrivesFound (backlightFoundBy earlier)) h
  noNull : ∀ text, (none, text) ∉ writings (runTrace h)

/-- Where the dispatch fits, `set_brightness` has a path to write to. -/
theorem DispatchFits.path {result : Option RefreshType}
    (hfits : DispatchFits earlier value t) (hrun : Run Globals.initial earlier s)
    (hexec : Exec (Call.entry (.setBrightness value)) s t result s') (text : List Char) :
    (none, text) ∉ writings t := by
  have hdrives := (exec_drives_iff hrun hexec).mpr hfits
  unfold DrivesFound at hdrives
  split at hdrives
  · rw [hdrives.writings_eq]
    simp
  · obtain ⟨fd, level, errno, rfl, -⟩ := hdrives
    rw [writings_ntxIoTrace]
    exact List.not_mem_nil
  · rw [hdrives]
    exact List.not_mem_nil

/-- The other calls have a path whenever they write. -/
theorem entry_path {call : Call} {result : Option RefreshType} (hsteady : Steady s)
    (hcall : ∀ value, call ≠ .setBrightness value) (hexec : Exec call.entry s t result s')
    (text : List Char) : (none, text) ∉ writings t := by
  rw [exec_writings hsteady hexec]
  cases call with
  | update update =>
      cases hflag : s.hardwareHasEinkModeControl with
      | true =>
          have hpath := hsteady.einkModeControlPath hflag
          simp [Call.writings, hflag, hpath]
      | false => simp [Call.writings, hflag]
  | setBrightness value => exact absurd rfl (hcall value)
  | _ => exact List.not_mem_nil

/-- A run whose dispatches fit writes to no unset path. -/
theorem Run.noNull (hrun : Run Globals.initial h s) (hfits : AtEachBrightness DispatchFits h)
    (text : List Char) : (none, text) ∉ writings (runTrace h) := by
  intro hmem
  obtain ⟨e, he, hwritten⟩ := List.mem_filterMap.mp hmem
  obtain ⟨deed, hdeed, hevent⟩ := List.mem_flatMap.mp he
  obtain ⟨earlier, later, rfl⟩ := List.append_of_mem hdeed
  obtain ⟨hearlier, hexec, -⟩ := Session.split_deed hrun
  have hmem' : (none, text) ∈ writings deed.trace :=
    List.mem_filterMap.mpr ⟨e, hevent, hwritten⟩
  by_cases hcall : ∃ value, deed.call = .setBrightness value
  · obtain ⟨value, hvalue⟩ := hcall
    have hfit := hfits earlier deed later value rfl hvalue
    rw [hvalue] at hexec
    exact hfit.path hearlier hexec text hmem'
  · have hother : ∀ value, deed.call ≠ .setBrightness value :=
      fun value hvalue => hcall ⟨value, hvalue⟩
    exact entry_path (Run.steady hearlier) hother hexec text hmem'

/-- **When the backlight is controlled.**  At every call of `set_brightness` in
every run, the control that detection found is driven within its range exactly
when the dispatch fits.  So a run is controlled throughout, and never writes to
an unset path, exactly when the dispatch fits at each of its calls. -/
theorem setBrightness_drives_iff (hrun : Run Globals.initial h s) :
    AtEachBrightness (fun earlier value t =>
        DrivesFound (backlightFoundBy earlier) value t ↔ DispatchFits earlier value t) h ∧
      (BacklightControlled h ↔ AtEachBrightness DispatchFits h) := by
  have heach : AtEachBrightness (fun earlier value t =>
      DrivesFound (backlightFoundBy earlier) value t ↔ DispatchFits earlier value t) h := by
    rintro earlier deed later value rfl hcall
    obtain ⟨hearlier, hexec, -⟩ := Session.split_deed hrun
    rw [hcall] at hexec
    exact exec_drives_iff hearlier hexec
  refine ⟨heach, ?_, ?_⟩
  · intro hcontrolled earlier deed later value hsplit hcall
    exact (heach earlier deed later value hsplit hcall).mp
      (hcontrolled.driven earlier deed later value hsplit hcall)
  · intro hfits
    refine ⟨?_, hrun.noNull hfits⟩
    intro earlier deed later value hsplit hcall
    exact (heach earlier deed later value hsplit hcall).mpr
      (hfits earlier deed later value hsplit hcall)

/-- A Kobo: it shows its platform, and its backlight is `/dev/ntx_io`. -/
def koboAura : Device where
  present := [.stateExtended, .ntxIo, .pmicLed]
  accepted := []
  apmSuspend := none
  brightness := ⟨[], []⟩

theorem setBrightness_drives_iff_koboAura :
    let h := (koboAura.run Globals.initial [.detectHardware, .setBrightness 255]).1
    ioctls (runTrace h) = [(3, 0xf1, .int 100)] ∧
      (BacklightControlled h ↔ AtEachBrightness DispatchFits h) :=
  ⟨by decide, (setBrightness_drives_iff (koboAura.run_isRun _ _)).2⟩

/-- The same reader without `/sys/power/state-extended`. -/
def ntxIoOnly : Device := { koboAura with present := [.ntxIo] }

/-- A reader whose only backlight is `/dev/ntx_io` and which is not known to be
a Kobo has its brightness written to a `NULL` path. -/
theorem setBrightness_null_path :
    let calls := [Call.detectHardware, .setBrightness 50]
    let h := (ntxIoOnly.run Globals.initial calls).1
    Run Globals.initial h (ntxIoOnly.run Globals.initial calls).2 ∧
      writings (runTrace h) = [(none, ['5', '0'])] ∧ ¬ BacklightControlled h := by
  refine ⟨ntxIoOnly.run_isRun _ _, by decide, ?_⟩
  intro hcontrolled
  exact hcontrolled.noNull ['5', '0'] (by decide)

end Hardware
end DigmaE605
