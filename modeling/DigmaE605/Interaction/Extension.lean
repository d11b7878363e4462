import DigmaE605.Interaction.Footprint
import DigmaE605.Interaction.Session

/-!
# Adding operations and entry points

A module grows: new entry points are added to it that use operations which the
old ones do not know.  `Interface.plus` adds the operations, `Program.lift` reads
an old program as one over the larger interface, and `extended` puts old and new
entry points side by side.

* `exec_lift`: lifting changes nothing but the interface.
* `exec_lift_bind`: a lifted statement first.
* `Session.erase`: if the new entry points leave the state alone, dropping them
  from a session leaves a session of the old module between the same states.
  Whatever was proved of every old session is so proved of every new one.
-/

namespace DigmaE605
namespace Interaction

variable {I J : Interface} {σ κ κ' ρ α β : Type}

/-- The operations of both interfaces. -/
def Interface.plus (I J : Interface) : Interface where
  Op := I.Op ⊕ J.Op
  Ans := Sum.elim I.Ans J.Ans

/-- An exchange over the old interface. -/
def Event.old (e : Event I) : Event (I.plus J) := ⟨.inl e.op, e.ans⟩

/-- The exchange, if it is one over the old interface. -/
def Event.ofOld : Event (I.plus J) → Option (Event I)
  | ⟨.inl op, ans⟩ => some ⟨op, ans⟩
  | ⟨.inr _, _⟩ => none

/-- The part of a trace that the old interface knows. -/
def oldPart (t : List (Event (I.plus J))) : List (Event I) := t.filterMap Event.ofOld

@[simp] theorem oldPart_nil : oldPart ([] : List (Event (I.plus J))) = [] := rfl

@[simp] theorem oldPart_append (t t' : List (Event (I.plus J))) :
    oldPart (t ++ t') = oldPart t ++ oldPart t' :=
  List.filterMap_append

@[simp] theorem oldPart_old (t : List (Event I)) :
    oldPart (t.map (Event.old : Event I → Event (I.plus J))) = t := by
  induction t with
  | nil => rfl
  | cons e t ih =>
      change e :: oldPart (t.map Event.old) = e :: t
      rw [ih]

namespace Tree

/-- The same dialogue over the larger interface. -/
def lift : Tree I α → Tree (I.plus J) α
  | done value => done value
  | ask op resume => ask (.inl op) fun answer => (resume answer).lift

theorem emits_lift (dialogue : Tree I α) (trace : List (Event (I.plus J))) (result : α) :
    dialogue.lift.Emits trace result ↔
      ∃ t, trace = t.map Event.old ∧ dialogue.Emits t result := by
  induction dialogue generalizing trace with
  | done value =>
      constructor
      · rintro ⟨rfl, hresult⟩
        exact ⟨[], rfl, rfl, hresult⟩
      · rintro ⟨t, rfl, rfl, hresult⟩
        exact ⟨rfl, hresult⟩
  | ask op resume ih =>
      constructor
      · rintro ⟨answer, rest, rfl, hrest⟩
        obtain ⟨t, rfl, ht⟩ := (ih answer rest).mp hrest
        exact ⟨⟨op, answer⟩ :: t, rfl, answer, t, rfl, ht⟩
      · rintro ⟨t, rfl, answer, rest, rfl, hrest⟩
        exact ⟨answer, rest.map Event.old, rfl, (ih answer _).mpr ⟨rest, rfl, hrest⟩⟩

end Tree

namespace Program

/-- The same program over the larger interface. -/
def lift (program : Program I σ α) : Program (I.plus J) σ α := fun state => (program state).lift

variable {state state' : σ} {trace : List (Event (I.plus J))}

theorem exec_lift {program : Program I σ α} {result : α} :
    Exec (lift program) state trace result state' ↔
      ∃ t, trace = t.map Event.old ∧ Exec program state t result state' :=
  Tree.emits_lift (program state) trace (result, state')

/-- A lifted statement first. -/
theorem exec_lift_bind {program : Program I σ α} {next : α → Program (I.plus J) σ β}
    {result : β} :
    Exec (lift program >>= next) state trace result state' ↔
      ∃ t value middle rest, trace = t.map Event.old ++ rest ∧
        Exec program state t value middle ∧ Exec (next value) middle rest result state' := by
  rw [exec_bind]
  constructor
  · rintro ⟨first, value, middle, rest, rfl, hfirst, hrest⟩
    obtain ⟨t, rfl, hprogram⟩ := exec_lift.mp hfirst
    exact ⟨t, value, middle, rest, rfl, hprogram, hrest⟩
  · rintro ⟨t, value, middle, rest, rfl, hprogram, hrest⟩
    exact ⟨_, value, middle, rest, rfl, exec_lift.mpr ⟨t, rfl, hprogram⟩, hrest⟩

end Program

open Program

/-- Old and new entry points side by side. -/
def extended (entry : κ → Program I σ ρ) (added : κ' → Program (I.plus J) σ ρ) :
    κ ⊕ κ' → Program (I.plus J) σ ρ :=
  Sum.elim (fun call => (entry call).lift) added

/-- A deed of an old entry point, as the old module records it. -/
def Deed.ofOld (deed : Deed (I.plus J) σ (κ ⊕ κ') ρ) : Option (Deed I σ κ ρ) :=
  match deed.call with
  | .inl call =>
      some { call := call, before := deed.before, trace := oldPart deed.trace
             result := deed.result, after := deed.after }
  | .inr _ => none

/-- The deeds of the old entry points. -/
def oldDeeds (deeds : List (Deed (I.plus J) σ (κ ⊕ κ') ρ)) : List (Deed I σ κ ρ) :=
  deeds.filterMap Deed.ofOld

/-- **Conservative extension.**  New entry points that leave the state alone can be
dropped from a session. -/
theorem Session.erase {entry : κ → Program I σ ρ} {added : κ' → Program (I.plus J) σ ρ}
    {state state' : σ} {deeds : List (Deed (I.plus J) σ (κ ⊕ κ') ρ)}
    (hadded : ∀ call, Keeps id (added call))
    (h : Session (extended entry added) state deeds state') :
    Session entry state (oldDeeds deeds) state' := by
  induction h with
  | nil state => exact nil state
  | cons deed hdeed _ ih =>
      unfold oldDeeds at ih ⊢
      rw [List.filterMap_cons]
      obtain ⟨call, before, trace, result, after⟩ := deed
      cases call with
      | inl call =>
          obtain ⟨t, rfl, hexec⟩ := exec_lift.mp hdeed
          refine cons_iff.mpr ⟨rfl, ?_, ih⟩
          rw [oldPart_old]
          exact hexec
      | inr call =>
          -- An added call leaves the state to the rest of the session as it was.
          have hsame : after = before := hadded call hdeed
          rwa [hsame] at ih

end Interaction
end DigmaE605
