import DigmaE605.Hardware.Platform
import DigmaE605.Interaction.Footprint

/-!
# Probing, reading and writing files

The four file helpers of `digma_hw.c` and, for each, exactly what it can do:
`exec_checkForFile`, `exec_readIntFromFile`, `exec_writeIntToFile` and
`exec_writeStringToFile`.  None of them touches a global variable.

`reported node trace` says that an `access` probe of the trace found the node.
-/

namespace DigmaE605
namespace Hardware

open Interaction Program Text

variable {s s' : Globals} {t : Trace} {κ : Type} {part : Globals → κ} {allowed : Sys → Prop}

/-! ## The calls, inverted -/

theorem exec_access {node : Node} {answer : Int32} :
    Exec (access node) s t answer s' ↔ t = [event (.access node) answer] ∧ s' = s :=
  exec_call

theorem exec_openRdwr {node : Node} {fd : Int32} :
    Exec (openRdwr node) s t fd s' ↔ t = [event (.openRdwr node) fd] ∧ s' = s :=
  exec_call

theorem exec_close {fd : Int32} {result : Unit} :
    Exec (close fd) s t result s' ↔ t = [event (.close fd) ()] ∧ s' = s :=
  exec_call

theorem exec_ioctl {fd : Int32} {request : UInt32} {arg : IoctlArg} {result : Unit} :
    Exec (ioctl fd request arg) s t result s' ↔
      ∃ errno : Int32, t = [event (.ioctl fd request arg) errno] ∧
        s' = s.setErrno errno := by
  unfold ioctl
  rw [exec_call_bind]
  constructor
  · rintro ⟨errno, rest, rfl, hmodify⟩
    obtain ⟨rfl, rfl⟩ := exec_modify.mp hmodify
    exact ⟨errno, rfl, rfl⟩
  · rintro ⟨errno, rfl, rfl⟩
    exact ⟨errno, [], rfl, exec_modify.mpr ⟨rfl, rfl⟩⟩

theorem exec_fopen {file : Option Node} {mode : OpenMode} {stream : Option Stream} :
    Exec (fopen file mode) s t stream s' ↔
      ∃ opened : Bool, t = [event (.fopen file mode) opened] ∧
        stream = (if opened then some { file := file, mode := mode } else none) ∧
        s' = s := by
  unfold fopen
  rw [exec_call_bind]
  constructor
  · rintro ⟨opened, rest, rfl, hpure⟩
    obtain ⟨rfl, rfl, rfl⟩ := exec_pure.mp hpure
    exact ⟨opened, rfl, rfl, rfl⟩
  · rintro ⟨opened, rfl, rfl, rfl⟩
    exact ⟨opened, [], rfl, exec_pure.mpr ⟨rfl, rfl, rfl⟩⟩

theorem exec_fgets {stream : Stream} {size : Nat} {line : Option (List Char)} :
    Exec (fgets stream size) s t line s' ↔
      t = [event (.fgets stream size) line] ∧ s' = s :=
  exec_call

theorem exec_fprintf {stream : Stream} {text : List Char} {result : Unit} :
    Exec (fprintf stream text) s t result s' ↔
      t = [event (.fprintf stream text) ()] ∧ s' = s :=
  exec_call

theorem exec_fclose {stream : Stream} {result : Unit} :
    Exec (fclose stream) s t result s' ↔ t = [event (.fclose stream) ()] ∧ s' = s :=
  exec_call

theorem exec_dlerror {message : Option String} :
    Exec dlerror s t message s' ↔ t = [event .dlerror message] ∧ s' = s :=
  exec_call

theorem exec_dlopen {library : String} {result : DlResult} :
    Exec (dlopen library) s t result s' ↔
      t = [event (.dlopen library) result] ∧ s' = s :=
  exec_call

theorem exec_dlsym {handle : Option Nat} {symbol : String} {result : DlResult} :
    Exec (dlsym handle symbol) s t result s' ↔
      t = [event (.dlsym handle symbol) result] ∧ s' = s :=
  exec_call

theorem exec_writing {file : Option Node} {text : List Char} {result : Unit} :
    Exec (writing file text) s t result s' ↔
      t = [event (.writing file text) ()] ∧ s' = s :=
  exec_call

/-! ## Probing -/

/-- The event is an `access` that found the node. -/
def finds (node : Node) : Event sys → Bool
  | ⟨.access probed, answer⟩ => probed == node && (show Int32 from answer) == 0
  | _ => false

/-- Some probe of the trace found the node. -/
def reported (node : Node) (t : Trace) : Bool :=
  t.any (finds node)

@[simp] theorem reported_nil (node : Node) : reported node [] = false := rfl

@[simp] theorem reported_cons (node : Node) (e : Event sys) (t : Trace) :
    reported node (e :: t) = (finds node e || reported node t) := rfl

@[simp] theorem reported_append (node : Node) (t t' : Trace) :
    reported node (t ++ t') = (reported node t || reported node t') := by
  simp [reported]

@[simp] theorem finds_access (node probed : Node) (answer : Int32) :
    finds node (event (.access probed) answer) = (probed == node && answer == 0) := rfl

/-- `check_for_file`. -/
def checkForFile (fpath : Node) : Hw Bool := do
  let answer ← access fpath
  if answer ≠ 0 then pure false else pure true

theorem exec_checkForFile {fpath : Node} {found : Bool} :
    Exec (checkForFile fpath) s t found s' ↔
      ∃ answer : Int32, t = [event (.access fpath) answer] ∧ found = (answer == 0) ∧
        s' = s := by
  unfold checkForFile
  rw [exec_bind]
  constructor
  · rintro ⟨first, answer, middle, second, rfl, haccess, hrest⟩
    obtain ⟨rfl, rfl⟩ := exec_access.mp haccess
    refine ⟨answer, ?_⟩
    rcases exec_ite.mp hrest with ⟨hanswer, hpure⟩ | ⟨hanswer, hpure⟩
    · obtain ⟨rfl, rfl, rfl⟩ := exec_pure.mp hpure
      exact ⟨rfl, by simpa using hanswer, rfl⟩
    · obtain ⟨rfl, rfl, rfl⟩ := exec_pure.mp hpure
      exact ⟨rfl, by simpa using hanswer, rfl⟩
  · rintro ⟨answer, rfl, rfl, rfl⟩
    refine ⟨_, answer, s', [], rfl, exec_access.mpr ⟨rfl, rfl⟩, ?_⟩
    by_cases hanswer : answer = 0
    · simp [hanswer]
    · simp [hanswer]

theorem uses_checkForFile {fpath : Node} (haccess : allowed (.access fpath)) :
    Uses (I := sys) allowed (checkForFile fpath) :=
  .bind (.call haccess) fun _ => .ite (.pure _) (.pure _)

theorem keeps_checkForFile {fpath : Node} : Keeps part (checkForFile fpath) :=
  .bind (.call _) fun _ => .ite (.pure _) (.pure _)

/-! ## Reading -/

/-- `read_int_from_file`. -/
def readIntFromFile (name : Option Node) : Hw Int32 := do
  let stream ← fopen name .rt
  match stream with
  | none => pure 0
  | some file => do
      let line ← fgets file 256
      match line with
      | none => do
          fclose file
          pure 0
      | some temp => do
          fclose file
          pure (atoi temp)

/-- What reading does to the outside: `none` for a failed `fopen`, otherwise
the answer of `fgets`. -/
def readTrace (name : Option Node) : Option (Option (List Char)) → Trace
  | none => [event (.fopen name .rt) false]
  | some line =>
      [event (.fopen name .rt) true, event (.fgets ⟨name, .rt⟩ 256) line,
        event (.fclose ⟨name, .rt⟩) ()]

/-- The number that reading returns. -/
def readValue : Option (Option (List Char)) → Int32
  | some (some line) => atoi line
  | _ => 0

theorem exec_readIntFromFile {name : Option Node} {value : Int32} :
    Exec (readIntFromFile name) s t value s' ↔
      ∃ line, t = readTrace name line ∧ value = readValue line ∧ s' = s := by
  unfold readIntFromFile
  rw [exec_bind]
  constructor
  · rintro ⟨first, stream, middle, second, rfl, hopen, hrest⟩
    obtain ⟨opened, rfl, rfl, rfl⟩ := exec_fopen.mp hopen
    cases opened with
    | false =>
        obtain ⟨rfl, rfl, rfl⟩ := exec_pure.mp hrest
        exact ⟨none, rfl, rfl, rfl⟩
    | true =>
        obtain ⟨_, line, _, _, rfl, hgets, hclosing⟩ := exec_bind.mp hrest
        obtain ⟨rfl, rfl⟩ := exec_fgets.mp hgets
        cases line with
        | none =>
            obtain ⟨_, _, _, _, rfl, hclose, hpure⟩ := exec_bind.mp hclosing
            obtain ⟨rfl, rfl⟩ := exec_fclose.mp hclose
            obtain ⟨rfl, rfl, rfl⟩ := exec_pure.mp hpure
            exact ⟨some none, rfl, rfl, rfl⟩
        | some temp =>
            obtain ⟨_, _, _, _, rfl, hclose, hpure⟩ := exec_bind.mp hclosing
            obtain ⟨rfl, rfl⟩ := exec_fclose.mp hclose
            obtain ⟨rfl, rfl, rfl⟩ := exec_pure.mp hpure
            exact ⟨some (some temp), rfl, rfl, rfl⟩
  · rintro ⟨line, rfl, rfl, rfl⟩
    rcases line with _ | line
    · exact ⟨_, none, s', [], rfl, exec_fopen.mpr ⟨false, rfl, rfl, rfl⟩,
        exec_pure.mpr ⟨rfl, rfl, rfl⟩⟩
    · refine ⟨_, some ⟨name, .rt⟩, s', _, rfl, exec_fopen.mpr ⟨true, rfl, rfl, rfl⟩, ?_⟩
      refine exec_bind.mpr ⟨_, line, s', _, rfl, exec_fgets.mpr ⟨rfl, rfl⟩, ?_⟩
      cases line with
      | none =>
          exact exec_bind.mpr ⟨_, (), s', [], rfl, exec_fclose.mpr ⟨rfl, rfl⟩,
            exec_pure.mpr ⟨rfl, rfl, rfl⟩⟩
      | some temp =>
          exact exec_bind.mpr ⟨_, (), s', [], rfl, exec_fclose.mpr ⟨rfl, rfl⟩,
            exec_pure.mpr ⟨rfl, rfl, rfl⟩⟩

theorem uses_readIntFromFile {name : Option Node} (hopen : allowed (.fopen name .rt))
    (hgets : ∀ stream size, allowed (.fgets stream size))
    (hclose : ∀ stream, allowed (.fclose stream)) :
    Uses (I := sys) allowed (readIntFromFile name) := by
  intro s t value s' h
  obtain ⟨line, rfl, -, -⟩ := exec_readIntFromFile.mp h
  cases line with
  | none => simpa [readTrace] using hopen
  | some line =>
      intro e he
      simp only [readTrace, List.mem_cons, List.not_mem_nil, or_false] at he
      rcases he with rfl | rfl | rfl
      · exact hopen
      · exact hgets _ _
      · exact hclose _

theorem keeps_readIntFromFile {name : Option Node} : Keeps part (readIntFromFile name) := by
  intro s t value s' h
  obtain ⟨line, -, -, rfl⟩ := exec_readIntFromFile.mp h
  rfl

@[simp] theorem reported_readTrace (node : Node) (name : Option Node)
    (line : Option (Option (List Char))) : reported node (readTrace name line) = false := by
  cases line <;> rfl

/-! ## Writing -/

/-- The common body of `write_int_to_file` and `write_string_to_file`, which
differ in the conversion given to `fprintf` only. -/
def writeTextToFile (file : Option Node) (text : List Char) : Hw Unit := do
  writing file text
  let stream ← fopen file .wt
  match stream with
  | none => pure ()
  | some opened => do
      fprintf opened text
      fclose opened

/-- `write_int_to_file`. -/
def writeIntToFile (file : Option Node) (value : Int32) : Hw Unit :=
  writeTextToFile file (decimalText value.toInt)

/-- `write_string_to_file`. -/
def writeStringToFile (file : Option Node) (value : String) : Hw Unit :=
  writeTextToFile file value.toList

/-- What one attempt to write does to the outside. -/
def writeTrace (file : Option Node) (text : List Char) (opened : Bool) : Trace :=
  event (.writing file text) () :: event (.fopen file .wt) opened ::
    if opened then
      [event (.fprintf ⟨file, .wt⟩ text) (), event (.fclose ⟨file, .wt⟩) ()]
    else []

/-- The trace is exactly one attempt to write the text to the file. -/
def WritesText (file : Option Node) (text : List Char) (t : Trace) : Prop :=
  ∃ opened, t = writeTrace file text opened

theorem exec_writeTextToFile {file : Option Node} {text : List Char} {result : Unit} :
    Exec (writeTextToFile file text) s t result s' ↔ WritesText file text t ∧ s' = s := by
  unfold writeTextToFile
  rw [exec_bind]
  constructor
  · rintro ⟨_, _, _, _, rfl, hwriting, hrest⟩
    obtain ⟨rfl, rfl⟩ := exec_writing.mp hwriting
    obtain ⟨_, stream, _, _, rfl, hopen, hprinting⟩ := exec_bind.mp hrest
    obtain ⟨opened, rfl, rfl, rfl⟩ := exec_fopen.mp hopen
    cases opened with
    | false =>
        obtain ⟨rfl, -, rfl⟩ := exec_pure.mp hprinting
        exact ⟨⟨false, rfl⟩, rfl⟩
    | true =>
        obtain ⟨_, _, _, _, rfl, hprint, hclose⟩ := exec_bind.mp hprinting
        obtain ⟨rfl, rfl⟩ := exec_fprintf.mp hprint
        obtain ⟨rfl, rfl⟩ := exec_fclose.mp hclose
        exact ⟨⟨true, rfl⟩, rfl⟩
  · rintro ⟨⟨opened, rfl⟩, rfl⟩
    refine ⟨_, (), s', _, rfl, exec_writing.mpr ⟨rfl, rfl⟩, ?_⟩
    cases opened with
    | false =>
        exact exec_bind.mpr ⟨_, none, s', [], rfl, exec_fopen.mpr ⟨false, rfl, rfl, rfl⟩,
          exec_pure.mpr ⟨rfl, rfl, rfl⟩⟩
    | true =>
        refine exec_bind.mpr ⟨_, some ⟨file, .wt⟩, s', _, rfl,
          exec_fopen.mpr ⟨true, rfl, rfl, rfl⟩, ?_⟩
        exact exec_bind.mpr ⟨_, (), s', _, rfl, exec_fprintf.mpr ⟨rfl, rfl⟩,
          exec_fclose.mpr ⟨rfl, rfl⟩⟩

theorem exec_writeIntToFile {file : Option Node} {value : Int32} {result : Unit} :
    Exec (writeIntToFile file value) s t result s' ↔
      WritesText file (decimalText value.toInt) t ∧ s' = s :=
  exec_writeTextToFile

theorem exec_writeStringToFile {file : Option Node} {value : String} {result : Unit} :
    Exec (writeStringToFile file value) s t result s' ↔
      WritesText file value.toList t ∧ s' = s :=
  exec_writeTextToFile

theorem keeps_writeTextToFile {file : Option Node} {text : List Char} :
    Keeps part (writeTextToFile file text) := by
  intro s t result s' h
  obtain ⟨-, rfl⟩ := exec_writeTextToFile.mp h
  rfl

theorem WritesText.reported_eq {file : Option Node} {text : List Char}
    (h : WritesText file text t) (node : Node) : reported node t = false := by
  obtain ⟨opened, rfl⟩ := h
  cases opened <;> rfl

end Hardware
end DigmaE605
