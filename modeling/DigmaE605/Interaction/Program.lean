import Mathlib.Tactic.Common

/-!
# Programs that question their environment

A stateful program talks to an environment that it does not control: it issues
an operation, the environment answers, and the program goes on with the answer.
`Tree` is the finite tree of such dialogues and `Program` adds a state to it.

* `Exec program state trace result state'` says that the environment may answer
  so that the program emits `trace` and stops with `result` in `state'`.  No
  answer is excluded, so a theorem about every `Exec` is a theorem about every
  environment.
* `exec_pure`, `exec_bind`, `exec_get`, `exec_modify`, `exec_call`, `exec_ite`
  and `exec_when` invert an execution one statement at a time.
* `Program.play` runs a program against a concrete environment, and
  `exec_play` places that run among the executions.

Nothing here names a particular program: the operations and their answers are
an arbitrary `Interface`.
-/

namespace DigmaE605
namespace Interaction

/-- The operations a program may issue and the answers each of them admits. -/
structure Interface where
  /-- The operations, with their arguments. -/
  Op : Type
  /-- The answers the environment may give to an operation. -/
  Ans : Op → Type

/-- One exchange: an operation together with the answer it received. -/
structure Event (I : Interface) where
  op : I.Op
  ans : I.Ans op

/-- A finished or still questioning dialogue with the environment. -/
inductive Tree (I : Interface) (α : Type) : Type
  | done (value : α)
  | ask (op : I.Op) (resume : I.Ans op → Tree I α)

namespace Tree

variable {I : Interface} {α β ω : Type}

/-- Continue a dialogue with another one. -/
def bind : Tree I α → (α → Tree I β) → Tree I β
  | done value, next => next value
  | ask op resume, next => ask op fun answer => (resume answer).bind next

/-- `dialogue.Emits trace value`: some sequence of answers makes the dialogue
emit `trace` and finish with `value`. -/
def Emits : Tree I α → List (Event I) → α → Prop
  | done value, trace, result => trace = [] ∧ result = value
  | ask op resume, trace, result =>
      ∃ answer rest, trace = ⟨op, answer⟩ :: rest ∧ (resume answer).Emits rest result

theorem emits_bind (dialogue : Tree I α) (next : α → Tree I β)
    (trace : List (Event I)) (result : β) :
    (dialogue.bind next).Emits trace result ↔
      ∃ first value second, trace = first ++ second ∧
        dialogue.Emits first value ∧ (next value).Emits second result := by
  induction dialogue generalizing trace with
  | done value =>
      constructor
      · intro h
        exact ⟨[], value, trace, rfl, ⟨rfl, rfl⟩, h⟩
      · rintro ⟨first, value', second, rfl, ⟨rfl, rfl⟩, h⟩
        exact h
  | ask op resume ih =>
      -- The question belongs to the first dialogue; the cut lies in the rest.
      constructor
      · rintro ⟨answer, rest, rfl, h⟩
        obtain ⟨first, value, second, rfl, hfirst, hsecond⟩ := (ih answer rest).mp h
        exact ⟨⟨op, answer⟩ :: first, value, second, rfl,
          ⟨answer, first, rfl, hfirst⟩, hsecond⟩
      · rintro ⟨first, value, second, rfl, ⟨answer, rest, rfl, hfirst⟩, hsecond⟩
        exact ⟨answer, rest ++ second, rfl,
          (ih answer (rest ++ second)).mpr ⟨rest, value, second, rfl, hfirst, hsecond⟩⟩

/-- Run a dialogue against an environment with its own memory. -/
def play (respond : ω → (op : I.Op) → I.Ans op × ω) :
    Tree I α → ω → List (Event I) × α × ω
  | done value, memory => ([], value, memory)
  | ask op resume, memory =>
      let reply := respond memory op
      let rest := play respond (resume reply.1) reply.2
      (⟨op, reply.1⟩ :: rest.1, rest.2.1, rest.2.2)

theorem emits_play (respond : ω → (op : I.Op) → I.Ans op × ω)
    (dialogue : Tree I α) (memory : ω) :
    dialogue.Emits (dialogue.play respond memory).1
      (dialogue.play respond memory).2.1 := by
  induction dialogue generalizing memory with
  | done value => exact ⟨rfl, rfl⟩
  | ask op resume ih =>
      exact ⟨(respond memory op).1, _, rfl, ih _ _⟩

end Tree

/-- A dialogue that reads and writes a state of its own. -/
def Program (I : Interface) (σ α : Type) : Type :=
  σ → Tree I (α × σ)

namespace Program

variable {I : Interface} {σ α β ω : Type}

instance : Monad (Program I σ) where
  pure value := fun state => Tree.done (value, state)
  bind program next := fun state =>
    (program state).bind fun outcome => next outcome.1 outcome.2

/-- Read the state. -/
def get : Program I σ σ :=
  fun state => Tree.done (state, state)

/-- Update the state. -/
def modify (update : σ → σ) : Program I σ Unit :=
  fun state => Tree.done ((), update state)

/-- Issue one operation and return the environment's answer. -/
def call (op : I.Op) : Program I σ (I.Ans op) :=
  fun state => Tree.ask op fun answer => Tree.done (answer, state)

/-- An `if` without `else`. -/
def when (test : Prop) [Decidable test] (body : Program I σ Unit) : Program I σ Unit :=
  if test then body else pure ()

/-- One possible execution: from `state` the program may emit `trace`, return
`result` and leave the state `state'`. -/
def Exec (program : Program I σ α) (state : σ) (trace : List (Event I))
    (result : α) (state' : σ) : Prop :=
  (program state).Emits trace (result, state')

/-- Run a program against an environment with its own memory: the trace, the
result, the state reached and the environment's memory afterwards. -/
def play (respond : ω → (op : I.Op) → I.Ans op × ω) (program : Program I σ α)
    (memory : ω) (state : σ) : List (Event I) × (α × σ) × ω :=
  (program state).play respond memory

theorem exec_play (respond : ω → (op : I.Op) → I.Ans op × ω)
    (program : Program I σ α) (memory : ω) (state : σ) :
    program.Exec state (program.play respond memory state).1
      (program.play respond memory state).2.1.1
      (program.play respond memory state).2.1.2 :=
  Tree.emits_play respond (program state) memory

section Inversion

variable {state state' : σ} {trace : List (Event I)}

@[simp] theorem exec_pure {value result : α} :
    Exec (pure value : Program I σ α) state trace result state' ↔
      trace = [] ∧ result = value ∧ state' = state := by
  change trace = [] ∧ (result, state') = (value, state) ↔ _
  rw [Prod.mk.injEq]

theorem exec_bind {program : Program I σ α} {next : α → Program I σ β}
    {result : β} :
    Exec (program >>= next) state trace result state' ↔
      ∃ first value middle second, trace = first ++ second ∧
        Exec program state first value middle ∧
        Exec (next value) middle second result state' := by
  change ((program state).bind _).Emits trace (result, state') ↔ _
  rw [Tree.emits_bind]
  constructor
  · rintro ⟨first, ⟨value, middle⟩, second, htrace, hfirst, hsecond⟩
    exact ⟨first, value, middle, second, htrace, hfirst, hsecond⟩
  · rintro ⟨first, value, middle, second, htrace, hfirst, hsecond⟩
    exact ⟨first, (value, middle), second, htrace, hfirst, hsecond⟩

@[simp] theorem exec_get {result : σ} :
    Exec (get : Program I σ σ) state trace result state' ↔
      trace = [] ∧ result = state ∧ state' = state := by
  change trace = [] ∧ (result, state') = (state, state) ↔ _
  rw [Prod.mk.injEq]

@[simp] theorem exec_modify {update : σ → σ} {result : Unit} :
    Exec (modify update : Program I σ Unit) state trace result state' ↔
      trace = [] ∧ state' = update state := by
  change trace = [] ∧ (result, state') = ((), update state) ↔ _
  simp

@[simp] theorem exec_call {op : I.Op} {result : I.Ans op} :
    Exec (call op : Program I σ (I.Ans op)) state trace result state' ↔
      trace = [⟨op, result⟩] ∧ state' = state := by
  constructor
  · rintro ⟨answer, rest, rfl, rfl, hpair⟩
    obtain ⟨rfl, rfl⟩ := Prod.mk.inj hpair
    exact ⟨rfl, rfl⟩
  · rintro ⟨rfl, rfl⟩
    exact ⟨result, [], rfl, rfl, rfl⟩

theorem exec_ite {test : Prop} [Decidable test] {yes no : Program I σ α}
    {result : α} :
    Exec (if test then yes else no) state trace result state' ↔
      (test ∧ Exec yes state trace result state') ∨
        (¬ test ∧ Exec no state trace result state') := by
  by_cases htest : test
  · simp [htest]
  · simp [htest]

theorem exec_when {test : Prop} [Decidable test] {body : Program I σ Unit}
    {result : Unit} :
    Exec (when test body) state trace result state' ↔
      (test ∧ Exec body state trace result state') ∨
        (¬ test ∧ trace = [] ∧ state' = state) := by
  unfold when
  rw [exec_ite]
  simp

/-- Reading the state first: the rest runs on the state at hand. -/
theorem exec_get_bind {next : σ → Program I σ β} {result : β} :
    Exec (get >>= next) state trace result state' ↔
      Exec (next state) state trace result state' := by
  rw [exec_bind]
  constructor
  · rintro ⟨first, value, middle, second, rfl, hget, hnext⟩
    obtain ⟨rfl, rfl, rfl⟩ := exec_get.mp hget
    exact hnext
  · intro hnext
    exact ⟨[], state, state, trace, rfl, exec_get.mpr ⟨rfl, rfl, rfl⟩, hnext⟩

/-- An assignment first: the rest runs on the updated state. -/
theorem exec_modify_bind {update : σ → σ} {next : Unit → Program I σ β}
    {result : β} :
    Exec (modify update >>= next) state trace result state' ↔
      Exec (next ()) (update state) trace result state' := by
  rw [exec_bind]
  constructor
  · rintro ⟨first, value, middle, second, rfl, hmodify, hnext⟩
    obtain ⟨rfl, rfl⟩ := exec_modify.mp hmodify
    exact hnext
  · intro hnext
    exact ⟨[], (), update state, trace, rfl, exec_modify.mpr ⟨rfl, rfl⟩, hnext⟩

/-- An operation first: its event heads the trace. -/
theorem exec_call_bind {op : I.Op} {next : I.Ans op → Program I σ β}
    {result : β} :
    Exec (call op >>= next) state trace result state' ↔
      ∃ answer rest, trace = ⟨op, answer⟩ :: rest ∧
        Exec (next answer) state rest result state' := by
  rw [exec_bind]
  constructor
  · rintro ⟨first, value, middle, second, rfl, hcall, hnext⟩
    obtain ⟨rfl, rfl⟩ := exec_call.mp hcall
    exact ⟨value, second, rfl, hnext⟩
  · rintro ⟨answer, rest, rfl, hnext⟩
    exact ⟨[⟨op, answer⟩], answer, state, rest, rfl, exec_call.mpr ⟨rfl, rfl⟩, hnext⟩

end Inversion

end Program

end Interaction
end DigmaE605
