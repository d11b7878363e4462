import DigmaE605.Interaction.Session

/-!
# An object of the environment that keeps its word

A program is told arbitrary answers.  To speak of one object of the environment
that behaves, give its states a step relation over events: `step w e w'` says
that the exchange `e` is what the object does in `w`, and `w'` is the object
afterwards.  `Follows step w t w'` says that it behaves throughout a trace.

* `follows_append` cuts the behaviour where a trace is cut.
* `Follows.unchanged` skips events that do not concern the object.
* `follows_play` and `follows_playAll`: an environment that answers as the
  object does produces traces that follow it.
-/

namespace DigmaE605
namespace Interaction

open Program

variable {I : Interface} {σ κ ρ α χ ω : Type}

/-- The object behaves throughout the trace. -/
def Follows (step : χ → Event I → χ → Prop) : χ → List (Event I) → χ → Prop
  | w, [], w' => w' = w
  | w, e :: t, w' => ∃ middle, step w e middle ∧ Follows step middle t w'

section Rules

variable {step : χ → Event I → χ → Prop} {w w' : χ} {t t' : List (Event I)} {e : Event I}

theorem follows_append :
    Follows step w (t ++ t') w' ↔
      ∃ middle, Follows step w t middle ∧ Follows step middle t' w' := by
  induction t generalizing w with
  | nil =>
      constructor
      · intro h
        exact ⟨w, rfl, h⟩
      · rintro ⟨middle, rfl, h⟩
        exact h
  | cons e t ih =>
      constructor
      · rintro ⟨next, hstep, h⟩
        obtain ⟨middle, hfirst, hsecond⟩ := ih.mp h
        exact ⟨middle, ⟨next, hstep, hfirst⟩, hsecond⟩
      · rintro ⟨middle, ⟨next, hstep, hfirst⟩, hsecond⟩
        exact ⟨next, hstep, ih.mpr ⟨middle, hfirst, hsecond⟩⟩

/-- Events that do not concern the object leave it as it is. -/
theorem Follows.unchanged (hforeign : ∀ e ∈ t, ∀ w w', step w e w' → w' = w)
    (h : Follows step w t w') : w' = w := by
  induction t generalizing w with
  | nil => exact h
  | cons e t ih =>
      obtain ⟨middle, hstep, hrest⟩ := h
      have hhead : middle = w := hforeign e List.mem_cons_self w middle hstep
      have htail := ih (fun e he => hforeign e (List.mem_cons_of_mem _ he)) hrest
      exact htail.trans hhead

end Rules

section Playing

variable {step : χ → Event I → χ → Prop} {respond : ω → (op : I.Op) → I.Ans op × ω}
  (view : ω → χ) {Inv : ω → Prop}

theorem follows_tree (hinv : ∀ memory op, Inv memory → Inv (respond memory op).2)
    (hstep : ∀ memory op, Inv memory →
      step (view memory) ⟨op, (respond memory op).1⟩ (view (respond memory op).2))
    (dialogue : Tree I α) {memory : ω} (hmemory : Inv memory) :
    Follows step (view memory) (dialogue.play respond memory).1
        (view (dialogue.play respond memory).2.2) ∧
      Inv (dialogue.play respond memory).2.2 := by
  induction dialogue generalizing memory with
  | done value => exact ⟨rfl, hmemory⟩
  | ask op resume ih =>
      obtain ⟨hrest, hlast⟩ := ih (respond memory op).1 (hinv memory op hmemory)
      exact ⟨⟨_, hstep memory op hmemory, hrest⟩, hlast⟩

/-- A played program follows the object that its environment answers for. -/
theorem follows_play (hinv : ∀ memory op, Inv memory → Inv (respond memory op).2)
    (hstep : ∀ memory op, Inv memory →
      step (view memory) ⟨op, (respond memory op).1⟩ (view (respond memory op).2))
    (program : Program I σ α) {memory : ω} (state : σ) (hmemory : Inv memory) :
    Follows step (view memory) (program.play respond memory state).1
        (view (program.play respond memory state).2.2) ∧
      Inv (program.play respond memory state).2.2 :=
  follows_tree view hinv hstep (program state) hmemory

/-- So does a played session. -/
theorem follows_playAll (hinv : ∀ memory op, Inv memory → Inv (respond memory op).2)
    (hstep : ∀ memory op, Inv memory →
      step (view memory) ⟨op, (respond memory op).1⟩ (view (respond memory op).2))
    (entry : κ → Program I σ ρ) (calls : List κ) {memory : ω} (state : σ)
    (hmemory : Inv memory) :
    Follows step (view memory)
      ((Session.playAll entry respond memory state calls).1.flatMap Deed.trace)
      (view (Session.playAll entry respond memory state calls).2.2) := by
  induction calls generalizing memory state with
  | nil => exact rfl
  | cons call calls ih =>
      obtain ⟨hhead, hnext⟩ := follows_play view hinv hstep (entry call) state hmemory
      exact follows_append.mpr ⟨_, hhead, ih _ hnext⟩

end Playing

end Interaction
end DigmaE605
