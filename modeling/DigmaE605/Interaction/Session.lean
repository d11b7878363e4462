import DigmaE605.Interaction.Program

/-!
# Sessions: a module called again and again

A module offers entry points, each of them a `Program` over the module's state.
A session is any finite sequence of calls, one after another, under an
arbitrary environment.  Every call is kept as a `Deed`, which remembers the
state before, the trace, the result and the state after.

* `Session.append_iff` and `Session.split_deed` cut a session at any point.
* `Session.invariant` lifts an invariant of every entry point to whole sessions.
  `Session.invariant_on` asks it only of the calls that were made, and
  `Session.invariant_before` gives it for the state before each of them.
* `Session.keeps` does the same for what the calls leave alone.
* `Latch` is a flag together with the value bound when the flag went up.
  `Session.latch` computes such a cell for a whole session: it holds the first
  success and nothing later touches it.
* `Session.playAll` executes a list of calls against a concrete environment.
-/

namespace DigmaE605
namespace Interaction

open Program

variable {I : Interface} {σ κ ρ β ω : Type}

/-- A completed call. -/
structure Deed (I : Interface) (σ κ ρ : Type) where
  /-- The entry point that was called, with its arguments. -/
  call : κ
  before : σ
  trace : List (Event I)
  result : ρ
  after : σ

/-- `Session entry state deeds state'`: the calls recorded in `deeds` lead from
`state` to `state'`. -/
inductive Session (entry : κ → Program I σ ρ) :
    σ → List (Deed I σ κ ρ) → σ → Prop
  | nil (state : σ) : Session entry state [] state
  | cons (deed : Deed I σ κ ρ) {rest : List (Deed I σ κ ρ)} {state' : σ}
      (hdeed : Exec (entry deed.call) deed.before deed.trace deed.result deed.after)
      (hrest : Session entry deed.after rest state') :
      Session entry deed.before (deed :: rest) state'

namespace Session

variable {entry : κ → Program I σ ρ} {state state' : σ}
  {deeds earlier later : List (Deed I σ κ ρ)} {deed : Deed I σ κ ρ}

theorem cons_iff :
    Session entry state (deed :: later) state' ↔
      deed.before = state ∧
        Exec (entry deed.call) deed.before deed.trace deed.result deed.after ∧
        Session entry deed.after later state' := by
  constructor
  · intro h
    cases h with
    | cons _ hdeed hrest => exact ⟨rfl, hdeed, hrest⟩
  · rintro ⟨rfl, hdeed, hrest⟩
    exact cons deed hdeed hrest

theorem append_iff :
    Session entry state (earlier ++ later) state' ↔
      ∃ middle, Session entry state earlier middle ∧
        Session entry middle later state' := by
  induction earlier generalizing state with
  | nil =>
      constructor
      · intro h
        exact ⟨state, nil state, h⟩
      · rintro ⟨middle, hearlier, hlater⟩
        cases hearlier
        exact hlater
  | cons deed rest ih =>
      rw [List.cons_append, cons_iff, ih]
      constructor
      · rintro ⟨hbefore, hdeed, middle, hrest, hlater⟩
        exact ⟨middle, cons_iff.mpr ⟨hbefore, hdeed, hrest⟩, hlater⟩
      · rintro ⟨middle, hearlier, hlater⟩
        obtain ⟨hbefore, hdeed, hrest⟩ := cons_iff.mp hearlier
        exact ⟨hbefore, hdeed, middle, hrest, hlater⟩

/-- Cut a session around one of its deeds. -/
theorem split_deed
    (h : Session entry state (earlier ++ deed :: later) state') :
    Session entry state earlier deed.before ∧
      Exec (entry deed.call) deed.before deed.trace deed.result deed.after ∧
      Session entry deed.after later state' := by
  obtain ⟨middle, hearlier, hlater⟩ := append_iff.mp h
  obtain ⟨rfl, hdeed, hrest⟩ := cons_iff.mp hlater
  exact ⟨hearlier, hdeed, hrest⟩

/-- An invariant of the calls of a session is an invariant of the session. -/
theorem invariant_on {Inv : σ → Prop}
    (hentry : ∀ deed ∈ deeds,
      Exec (entry deed.call) deed.before deed.trace deed.result deed.after →
        Inv deed.before → Inv deed.after)
    (h : Session entry state deeds state') (hstate : Inv state) : Inv state' := by
  induction h with
  | nil state => exact hstate
  | cons deed hdeed _ ih =>
      refine ih (fun later hlater => hentry later (List.mem_cons_of_mem _ hlater)) ?_
      exact hentry deed List.mem_cons_self hdeed hstate

/-- An invariant of every entry point is an invariant of every session. -/
theorem invariant {Inv : σ → Prop}
    (hentry : ∀ deed : Deed I σ κ ρ,
      Exec (entry deed.call) deed.before deed.trace deed.result deed.after →
        Inv deed.before → Inv deed.after)
    (h : Session entry state deeds state') (hstate : Inv state) : Inv state' :=
  invariant_on (fun deed _ => hentry deed) h hstate

/-- An observation that none of the calls changes is the same at both ends. -/
theorem keeps {τ : Type} {part : σ → τ}
    (hentry : ∀ deed ∈ deeds,
      Exec (entry deed.call) deed.before deed.trace deed.result deed.after →
        part deed.after = part deed.before)
    (h : Session entry state deeds state') : part state' = part state := by
  induction h with
  | nil state => rfl
  | cons deed hdeed _ ih =>
      have htail := ih fun later hlater => hentry later (List.mem_cons_of_mem _ hlater)
      exact htail.trans (hentry deed List.mem_cons_self hdeed)

/-- The invariant also holds where each call of the session starts. -/
theorem invariant_before {Inv : σ → Prop}
    (hentry : ∀ deed : Deed I σ κ ρ,
      Exec (entry deed.call) deed.before deed.trace deed.result deed.after →
        Inv deed.before → Inv deed.after)
    (h : Session entry state deeds state') (hstate : Inv state)
    (hmem : deed ∈ deeds) :
    Inv deed.before ∧
      Exec (entry deed.call) deed.before deed.trace deed.result deed.after := by
  obtain ⟨earlier, later, rfl⟩ := List.append_of_mem hmem
  obtain ⟨hearlier, hdeed, _⟩ := split_deed h
  exact ⟨invariant hentry hearlier hstate, hdeed⟩

/-- Execute a list of calls against an environment with its own memory. -/
def playAll (entry : κ → Program I σ ρ)
    (respond : ω → (op : I.Op) → I.Ans op × ω) :
    ω → σ → List κ → List (Deed I σ κ ρ) × σ × ω
  | memory, state, [] => ([], state, memory)
  | memory, state, call :: calls =>
      let outcome := (entry call).play respond memory state
      let rest := playAll entry respond outcome.2.2 outcome.2.1.2 calls
      ({ call := call, before := state, trace := outcome.1,
         result := outcome.2.1.1, after := outcome.2.1.2 } :: rest.1, rest.2)

/-- What was played is a session. -/
theorem of_playAll (entry : κ → Program I σ ρ)
    (respond : ω → (op : I.Op) → I.Ans op × ω) (memory : ω) (state : σ)
    (calls : List κ) :
    Session entry state (playAll entry respond memory state calls).1
      (playAll entry respond memory state calls).2.1 := by
  induction calls generalizing memory state with
  | nil => exact nil state
  | cons call calls ih =>
      exact cons
        { call := call, before := state
          trace := ((entry call).play respond memory state).1
          result := ((entry call).play respond memory state).2.1.1
          after := ((entry call).play respond memory state).2.1.2 }
        (exec_play respond (entry call) memory state) (ih _ _)

end Session

/-! ## Write-once cells -/

/-- A flag together with the value that was bound when the flag went up. -/
structure Latch (σ β : Type) where
  /-- The flag. -/
  closed : σ → Bool
  /-- The value bound with it. -/
  value : σ → β
  /-- The value before anything was bound. -/
  unset : β

namespace Latch

variable (latch : Latch σ β)

/-- What the latch holds: nothing while the flag is down. -/
def view (state : σ) : Option β :=
  if latch.closed state then some (latch.value state) else none

/-- Nothing is bound while the flag is down. -/
def Clean (state : σ) : Prop :=
  latch.closed state = false → latch.value state = latch.unset

variable {latch} {state : σ} {value : β}

theorem view_eq_some_iff :
    latch.view state = some value ↔
      latch.closed state = true ∧ latch.value state = value := by
  unfold view
  cases latch.closed state <;> simp

theorem view_eq_none_iff : latch.view state = none ↔ latch.closed state = false := by
  unfold view
  cases latch.closed state <;> simp

theorem view_isSome : (latch.view state).isSome = latch.closed state := by
  unfold view
  cases latch.closed state <;> rfl

/-- Flag and value decide what the latch holds and whether it is clean. -/
theorem congr {state' : σ} (hclosed : latch.closed state' = latch.closed state)
    (hvalue : latch.value state' = latch.value state) :
    latch.view state' = latch.view state ∧ (latch.Clean state' ↔ latch.Clean state) := by
  unfold view Clean
  rw [hclosed, hvalue]
  exact ⟨rfl, Iff.rfl⟩

end Latch

/-- A latch that every deed closes on its own success, if it is still open,
holds the first success of the session.  The deeds may rely on an invariant. -/
theorem Session.latch {entry : κ → Program I σ ρ} {Inv : σ → Prop}
    {latch : Latch σ β} {success : Deed I σ κ ρ → Option β}
    {state state' : σ} {deeds : List (Deed I σ κ ρ)}
    (hinvariant : ∀ deed : Deed I σ κ ρ,
      Exec (entry deed.call) deed.before deed.trace deed.result deed.after →
        Inv deed.before → Inv deed.after)
    (hentry : ∀ deed ∈ deeds,
      Exec (entry deed.call) deed.before deed.trace deed.result deed.after →
        Inv deed.before →
        latch.view deed.after = (latch.view deed.before).or (success deed))
    (h : Session entry state deeds state') (hstate : Inv state) :
    latch.view state' = (latch.view state).or (deeds.findSome? success) := by
  induction h with
  | nil state => simp
  | cons deed hdeed _ ih =>
      have hhead := hentry deed List.mem_cons_self hdeed hstate
      have htail := ih (fun later hlater => hentry later (List.mem_cons_of_mem _ hlater))
        (hinvariant deed hdeed hstate)
      -- What the latch held comes first, then this deed, then the later ones.
      rw [htail, hhead, Option.or_assoc, List.findSome?_cons]
      congr 1
      cases success deed <;> rfl

end Interaction
end DigmaE605
