import DigmaE605.Interaction.Program

/-!
# Footprints

Two things are true of a program whatever it is told: which operations it may
issue, and which part of its state it leaves alone.

* `Uses allowed program`: every operation the program issues is allowed.
* `Keeps part program`: the program never changes the observation `part`.

Both are closed under the statements of a program, one rule per statement, so
a footprint is read off the text of the program.
-/

namespace DigmaE605
namespace Interaction
namespace Program

variable {I : Interface} {σ α β κ : Type}

/-- Every operation the program may issue is allowed. -/
def Uses (allowed : I.Op → Prop) (program : Program I σ α) : Prop :=
  ∀ ⦃state trace result state'⦄, Exec program state trace result state' →
    ∀ e ∈ trace, allowed e.op

/-- The program leaves the observation alone. -/
def Keeps (part : σ → κ) (program : Program I σ α) : Prop :=
  ∀ ⦃state trace result state'⦄, Exec program state trace result state' →
    part state' = part state

namespace Uses

variable {allowed : I.Op → Prop}

theorem pure (value : α) : Uses allowed (Pure.pure value : Program I σ α) := by
  intro state trace result state' h e he
  obtain ⟨rfl, -, -⟩ := exec_pure.mp h
  exact absurd he List.not_mem_nil

theorem modify (update : σ → σ) : Uses allowed (modify update : Program I σ Unit) := by
  intro state trace result state' h e he
  obtain ⟨rfl, -⟩ := exec_modify.mp h
  exact absurd he List.not_mem_nil

theorem call {op : I.Op} (hop : allowed op) :
    Uses allowed (call op : Program I σ (I.Ans op)) := by
  intro state trace result state' h e he
  obtain ⟨rfl, -⟩ := exec_call.mp h
  rw [List.mem_singleton.mp he]
  exact hop

theorem bind {program : Program I σ α} {next : α → Program I σ β}
    (hprogram : Uses allowed program) (hnext : ∀ value, Uses allowed (next value)) :
    Uses allowed (program >>= next) := by
  intro state trace result state' h e he
  obtain ⟨first, value, middle, second, rfl, hfirst, hsecond⟩ := exec_bind.mp h
  rcases List.mem_append.mp he with he | he
  · exact hprogram hfirst e he
  · exact hnext value hsecond e he

theorem get_bind {next : σ → Program I σ β}
    (hnext : ∀ value, Uses allowed (next value)) : Uses allowed (get >>= next) := by
  intro state trace result state' h
  exact hnext state (exec_get_bind.mp h)

theorem ite {test : Prop} [Decidable test] {yes no : Program I σ α}
    (hyes : Uses allowed yes) (hno : Uses allowed no) :
    Uses allowed (if test then yes else no) := by
  split
  · exact hyes
  · exact hno

theorem when {test : Prop} [Decidable test] {body : Program I σ Unit}
    (hbody : Uses allowed body) : Uses allowed (when test body) :=
  ite hbody (pure ())

theorem mono {allowed' : I.Op → Prop} {program : Program I σ α}
    (h : Uses allowed program) (hallowed : ∀ op, allowed op → allowed' op) :
    Uses allowed' program :=
  fun _ _ _ _ hexec e he => hallowed e.op (h hexec e he)

end Uses

namespace Keeps

variable {part : σ → κ}

theorem pure (value : α) : Keeps part (Pure.pure value : Program I σ α) := by
  intro state trace result state' h
  obtain ⟨-, -, rfl⟩ := exec_pure.mp h
  rfl

theorem modify {update : σ → σ} (hupdate : ∀ state, part (update state) = part state) :
    Keeps part (modify update : Program I σ Unit) := by
  intro state trace result state' h
  obtain ⟨-, rfl⟩ := exec_modify.mp h
  exact hupdate state

theorem call (op : I.Op) : Keeps part (call op : Program I σ (I.Ans op)) := by
  intro state trace result state' h
  obtain ⟨-, rfl⟩ := exec_call.mp h
  rfl

theorem bind {program : Program I σ α} {next : α → Program I σ β}
    (hprogram : Keeps part program) (hnext : ∀ value, Keeps part (next value)) :
    Keeps part (program >>= next) := by
  intro state trace result state' h
  obtain ⟨first, value, middle, second, rfl, hfirst, hsecond⟩ := exec_bind.mp h
  exact (hnext value hsecond).trans (hprogram hfirst)

theorem get_bind {next : σ → Program I σ β}
    (hnext : ∀ value, Keeps part (next value)) : Keeps part (get >>= next) := by
  intro state trace result state' h
  exact hnext state (exec_get_bind.mp h)

theorem ite {test : Prop} [Decidable test] {yes no : Program I σ α}
    (hyes : Keeps part yes) (hno : Keeps part no) :
    Keeps part (if test then yes else no) := by
  split
  · exact hyes
  · exact hno

theorem when {test : Prop} [Decidable test] {body : Program I σ Unit}
    (hbody : Keeps part body) : Keeps part (when test body) :=
  ite hbody (pure ())

end Keeps

end Program
end Interaction
end DigmaE605
