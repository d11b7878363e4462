import Mathlib.Data.List.Induction
import Mathlib.Tactic.Common

/-!
# The label of `keypress.cpp`

`KeyPress` writes each key event that it gets into a label.  The refresh key
alone writes nothing: on an e-ink display it has to be pressed before the label
can be seen, and would always be the one that is shown.

`label_eq_iff`: the label that a sequence of events leaves shows the last event
of another key, which key it was and whether it was pressed or released, and
nothing else of the sequence.
-/

namespace DigmaE605
namespace KeyPress

/-- The keys that the handlers tell apart. -/
inductive Key
  | keyEscape
  | keyReturn
  | keyF9
  | keyF5
  | keyPause
  | keyPageUp
  | keyPageDown
  | keyUp
  | other (code : Int32)
  deriving DecidableEq, Repr

/-- The two handlers. -/
inductive Handler
  | keyPressEvent
  | keyReleaseEvent
  deriving DecidableEq, Repr

/-- How the texts of a handler begin. -/
def Handler.verb : Handler → String
  | keyPressEvent => "You pressed "
  | keyReleaseEvent => "You released "

/-- How the texts for a key end, of which the refresh key has none.  The text of
`QKeySequence(code)` is for Qt to choose. -/
def Key.text (sequence : Int32 → String) : Key → Option String
  | keyEscape => some "BACK"
  | keyReturn => some "OK"
  | keyF9 => some "MENU"
  | keyF5 => none
  | keyPause => some "POWER BUTTON"
  | keyPageUp => some "PAGE UP"
  | keyPageDown => some "PAGE DOWN"
  | keyUp => some "UP ARROW"
  | other code => some (sequence code)

/-- A key event. -/
structure Event where
  handler : Handler
  key : Key
  deriving DecidableEq, Repr

/-- `keyPressEvent` and `keyReleaseEvent`: what becomes of the label. -/
def handle (sequence : Int32 → String) (label : String) (event : Event) : String :=
  match event.key.text sequence with
  | some text => event.handler.verb ++ text
  | none => label

/-- What a sequence of events makes of the label that the constructor sets. -/
def run (sequence : Int32 → String) (events : List Event) : String :=
  events.foldl (handle sequence) "LABEL"

/-- The last event that was shown, and the text of its key. -/
def lastShown (sequence : Int32 → String) (events : List Event) : Option (Handler × String) :=
  events.reverse.findSome? fun event =>
    (event.key.text sequence).map fun text => (event.handler, text)

variable {sequence : Int32 → String}

/-- The label for an event that was shown, or for none. -/
def labelOf : Option (Handler × String) → String
  | some (handler, text) => handler.verb ++ text
  | none => "LABEL"

theorem run_label (events : List Event) :
    run sequence events = labelOf (lastShown sequence events) := by
  induction events using List.reverseRecOn with
  | nil => rfl
  | append_singleton events event ih =>
      have hlast : run sequence (events ++ [event]) =
          handle sequence (run sequence events) event := by
        simp [run]
      rw [hlast, handle]
      cases htext : event.key.text sequence with
      | none => simpa [lastShown, htext] using ih
      | some text => simp [lastShown, labelOf, htext]

@[simp] theorem toList_pressed : Handler.keyPressEvent.verb.toList =
    ['Y', 'o', 'u', ' ', 'p', 'r', 'e', 's', 's', 'e', 'd', ' '] := rfl

@[simp] theorem toList_released : Handler.keyReleaseEvent.verb.toList =
    ['Y', 'o', 'u', ' ', 'r', 'e', 'l', 'e', 'a', 's', 'e', 'd', ' '] := rfl

theorem verb_append_ne (handler : Handler) (text : String) : handler.verb ++ text ≠ "LABEL" := by
  intro heq
  have hlabel : "LABEL".toList = ['L', 'A', 'B', 'E', 'L'] := rfl
  have hlist := congrArg String.toList heq
  rw [String.toList_append, hlabel] at hlist
  cases handler <;> simp at hlist

/-- The two verbs part at the fifth character. -/
theorem verb_append_inj {handler handler' : Handler} {text text' : String}
    (heq : handler.verb ++ text = handler'.verb ++ text') : handler = handler' ∧ text = text' := by
  have hlist := congrArg String.toList heq
  rw [String.toList_append, String.toList_append] at hlist
  have hhandler : handler = handler' := by
    cases handler <;> cases handler' <;> first | rfl | simp at hlist
  subst hhandler
  exact ⟨rfl, String.toList_inj.mp (List.append_cancel_left hlist)⟩

theorem labelOf_inj {last last' : Option (Handler × String)} (heq : labelOf last = labelOf last') :
    last = last' := by
  rcases last with - | ⟨handler, text⟩ <;> rcases last' with - | ⟨handler', text'⟩
  · rfl
  · exact absurd heq.symm (verb_append_ne handler' text')
  · exact absurd heq (verb_append_ne handler text)
  · obtain ⟨rfl, rfl⟩ := verb_append_inj heq
    rfl

/-- **The label shows the last event, and only that.**  Two sequences of events
leave the same label exactly if the last events other than those of the refresh
key, if there are any, are of one kind and have one text. -/
theorem label_eq_iff (sequence : Int32 → String) (events events' : List Event) :
    run sequence events = run sequence events' ↔
      lastShown sequence events = lastShown sequence events' := by
  rw [run_label, run_label]
  exact ⟨labelOf_inj, congrArg labelOf⟩

end KeyPress
end DigmaE605
