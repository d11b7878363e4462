import DigmaE605.Interaction.Session

/-!
# Monitors

A monitor watches a trace event by event and stops at the first event that it
does not accept.  A safety property of a program is a monitor that accepts every
trace of it, together with the state in which the monitor is left.

* `Monitor.watch_append` cuts a watch where the trace is cut.
* `Monitor.watch_still` skips a stretch of events that leave the monitor where
  it is.
* `Monitor.watch_split` cuts a watch around one of its events.
* `Monitor.tracked` reads a part of the monitor off the trace, when every event
  decides what becomes of that part.
* `Monitor.conserved` counts: when every event moves as much into the monitor's
  hands as it says, what was taken in over a trace is what was given back, up to
  what is held at the two ends.
* `Session.watched` lifts a watch of every call to whole sessions.
-/

namespace DigmaE605
namespace Interaction

open Program

variable {I : Interface} {σ κ ρ χ γ : Type}

/-- The state after an event, if the event is accepted. -/
def Monitor (I : Interface) (χ : Type) : Type := χ → Event I → Option χ

namespace Monitor

variable (monitor : Monitor I χ)

/-- The state after a trace, if all of it is accepted. -/
def watch : χ → List (Event I) → Option χ
  | w, [] => some w
  | w, e :: t => (monitor w e).bind fun next => watch next t

variable {monitor} {w w' : χ} {t t' : List (Event I)} {e : Event I}

@[simp] theorem watch_nil : monitor.watch w [] = some w := rfl

@[simp] theorem watch_cons :
    monitor.watch w (e :: t) = (monitor w e).bind fun next => monitor.watch next t := rfl

theorem watch_append :
    monitor.watch w (t ++ t') = (monitor.watch w t).bind fun middle => monitor.watch middle t' := by
  induction t generalizing w with
  | nil => rfl
  | cons e t ih =>
      rw [List.cons_append, watch_cons, watch_cons, Option.bind_assoc]
      congr 1
      funext next
      exact ih

/-- Two stretches that are accepted one after the other. -/
theorem watch_trans {middle : χ} (h : monitor.watch w t = some middle)
    (h' : monitor.watch middle t' = some w') : monitor.watch w (t ++ t') = some w' := by
  rw [watch_append, h]
  exact h'

/-- Cut a watch around one of its events. -/
theorem watch_split (h : monitor.watch w (t ++ e :: t') = some w') :
    ∃ middle next, monitor.watch w t = some middle ∧ monitor middle e = some next := by
  rw [watch_append, Option.bind_eq_some_iff] at h
  obtain ⟨middle, hmiddle, hrest⟩ := h
  obtain ⟨next, hnext, -⟩ := Option.bind_eq_some_iff.mp hrest
  exact ⟨middle, next, hmiddle, hnext⟩

/-- A part of the monitor that each event decides is decided by the trace. -/
theorem tracked {view : χ → γ} {next : γ → Event I → γ}
    (hstep : ∀ w e w', monitor w e = some w' → view w' = next (view w) e)
    (h : monitor.watch w t = some w') : view w' = t.foldl next (view w) := by
  induction t generalizing w with
  | nil =>
      obtain rfl := Option.some.inj h
      rfl
  | cons e t ih =>
      obtain ⟨middle, hmiddle, hrest⟩ := Option.bind_eq_some_iff.mp h
      rw [List.foldl_cons, ← hstep w e middle hmiddle]
      exact ih hrest

/-- Events that are accepted and change nothing. -/
theorem watch_still (h : ∀ e ∈ t, monitor w e = some w) : monitor.watch w t = some w := by
  induction t with
  | nil => rfl
  | cons e t ih =>
      rw [watch_cons, h e List.mem_cons_self]
      exact ih fun later hlater => h later (List.mem_cons_of_mem _ hlater)

/-- What is held and what is taken in leaves as what is given back and what is
still held, in this order. -/
theorem conserved (held : χ → List γ) {taken given : Event I → List γ}
    (hstep : ∀ w e w', monitor w e = some w' → held w ++ taken e = given e ++ held w')
    (h : monitor.watch w t = some w') :
    held w ++ t.flatMap taken = t.flatMap given ++ held w' := by
  induction t generalizing w with
  | nil =>
      obtain rfl := Option.some.inj h
      simp
  | cons e t ih =>
      obtain ⟨next, hnext, hrest⟩ := Option.bind_eq_some_iff.mp h
      rw [List.flatMap_cons, List.flatMap_cons, ← List.append_assoc, hstep w e next hnext,
        List.append_assoc, ih hrest, List.append_assoc]

end Monitor

/-- A monitor that accepts every call, and whose state between calls can be read
off the module's state, accepts every session. -/
theorem Session.watched {entry : κ → Program I σ ρ} {monitor : Monitor I χ}
    {Inv : σ → Prop} {view : σ → χ} {state state' : σ} {deeds : List (Deed I σ κ ρ)}
    (hentry : ∀ deed : Deed I σ κ ρ,
      Exec (entry deed.call) deed.before deed.trace deed.result deed.after →
        Inv deed.before →
          monitor.watch (view deed.before) deed.trace = some (view deed.after) ∧
            Inv deed.after)
    (h : Session entry state deeds state') (hstate : Inv state) :
    monitor.watch (view state) (deeds.flatMap Deed.trace) = some (view state') := by
  induction h with
  | nil state => rfl
  | cons deed hdeed _ ih =>
      obtain ⟨hwatch, hnext⟩ := hentry deed hdeed hstate
      rw [List.flatMap_cons]
      exact Monitor.watch_trans hwatch (ih hnext)

end Interaction
end DigmaE605
