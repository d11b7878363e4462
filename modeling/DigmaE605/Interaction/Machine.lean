import DigmaE605.Interaction.Session

/-!
# Refining a machine

A `Machine` says what a module is for: from the state it is in and an input it
computes an output and the next state.  Inputs here are calls together with what
the environment answered, so the machine is a function although the environment
is not.

`Session.refines` is the rule to show that a module is such a machine: give a
relation between the states, show for one call that it is kept and that the
observation of the call is the output, and every session is a run of the
machine.
-/

namespace DigmaE605
namespace Interaction

open Program

variable {I : Interface} {σ κ ρ τ ι ο : Type}

/-- A deterministic machine with outputs. -/
structure Machine (τ ι ο : Type) where
  next : τ → ι → τ
  output : τ → ι → ο

namespace Machine

variable (machine : Machine τ ι ο)

/-- The state after a list of inputs. -/
def after (state : τ) (inputs : List ι) : τ := inputs.foldl machine.next state

end Machine

end Interaction
end DigmaE605
