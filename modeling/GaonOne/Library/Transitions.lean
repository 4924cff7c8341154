import Mathlib.Data.List.Basic

/-! Deterministic transition systems driven by actions. A run is a list of
actions; a condition on steps restricts which actions may be taken where.
Invariants, relative invariants and step properties are each packaged once. -/
namespace Transitions

/-- A system: where it starts, and what each action does. An action that is
refused leaves the state as it was. -/
structure System (σ α : Type*) where
  initial : σ
  step : σ → α → σ

variable {σ α : Type*} {S : System σ α} {ok : σ → α → Prop} {P Q : σ → Prop}

namespace System

/-- The states reached by runs all of whose steps meet a condition. -/
inductive ReachableWhile (S : System σ α) (ok : σ → α → Prop) : σ → Prop where
  | initial : ReachableWhile S ok S.initial
  | next {state : σ} {action : α} :
      ReachableWhile S ok state → ok state action → ReachableWhile S ok (S.step state action)

/-- The states reached by any run. -/
def Reachable (S : System σ α) : σ → Prop := ReachableWhile S fun _ _ => True

/-- The state a list of actions leads to. -/
def run (S : System σ α) (state : σ) (actions : List α) : σ := actions.foldl S.step state

theorem run_append (S : System σ α) (state : σ) (first second : List α) :
    S.run state (first ++ second) = S.run (S.run state first) second := List.foldl_append

/-- Every step of a run meets the condition, in the state it is taken. -/
def RunWhile (S : System σ α) (ok : σ → α → Prop) : σ → List α → Prop
  | _, [] => True
  | state, action :: rest => ok state action ∧ RunWhile S ok (S.step state action) rest

instance RunWhile.decidable [∀ state action, Decidable (ok state action)] :
    (state : σ) → (actions : List α) → Decidable (RunWhile S ok state actions)
  | _, [] => .isTrue trivial
  | state, action :: rest =>
    @instDecidableAnd _ _ inferInstance (RunWhile.decidable (S.step state action) rest)

theorem ReachableWhile.reachable (reached : ReachableWhile S ok state) : Reachable S state := by
  induction reached with
  | initial => exact .initial
  | next _ _ ih => exact ih.next trivial

/-- What runs reach while a condition holds they reach under every weaker one. -/
theorem ReachableWhile.mono {weaker : σ → α → Prop}
    (weakened : ∀ state action, ok state action → weaker state action)
    (reached : ReachableWhile S ok state) : ReachableWhile S weaker state := by
  induction reached with
  | initial => exact .initial
  | next _ admitted ih => exact ih.next (weakened _ _ admitted)

theorem Reachable.step (reached : Reachable S state) (action : α) :
    Reachable S (S.step state action) :=
  ReachableWhile.next reached trivial

theorem ReachableWhile.run (reached : ReachableWhile S ok state) :
    ∀ actions, RunWhile S ok state actions → ReachableWhile S ok (S.run state actions) := by
  intro actions
  induction actions generalizing state with
  | nil => exact fun _ => reached
  | cons action rest ih => exact fun kept => ih (reached.next kept.1) kept.2

theorem Reachable.run (reached : Reachable S state) (actions : List α) :
    Reachable S (S.run state actions) := by
  induction actions generalizing state with
  | nil => exact reached
  | cons action rest ih => exact ih (reached.step action)

/-- Actions that meet the condition in every state make up an admitted run. -/
theorem RunWhile.of_forall {actions : List α} (always : ∀ action ∈ actions, ∀ state, ok state action)
    (state : σ) : RunWhile S ok state actions := by
  induction actions generalizing state with
  | nil => exact trivial
  | cons action rest ih =>
    exact ⟨always action List.mem_cons_self state,
      ih (fun other member => always other (List.mem_cons_of_mem _ member)) _⟩

/-- A run whose steps meet a condition meets every weaker one. -/
theorem RunWhile.mono {weaker : σ → α → Prop} {actions : List α}
    (weakened : ∀ state action, ok state action → weaker state action) (admitted : RunWhile S ok state actions) :
    RunWhile S weaker state actions := by
  induction actions generalizing state with
  | nil => exact trivial
  | cons action rest ih => exact ⟨weakened _ _ admitted.1, ih admitted.2⟩

/-- And one about the actions taken. -/
theorem RunWhile.with_mem {always : α → Prop} {actions : List α} (admitted : RunWhile S ok state actions)
    (taken : ∀ action ∈ actions, always action) :
    RunWhile S (fun state action => ok state action ∧ always action) state actions := by
  induction actions generalizing state with
  | nil => exact trivial
  | cons action rest ih =>
    rw [List.forall_mem_cons] at taken
    exact ⟨⟨admitted.1, taken.1⟩, ih admitted.2 taken.2⟩

theorem runWhile_append {first second : List α} : RunWhile S ok state (first ++ second) ↔
    RunWhile S ok state first ∧ RunWhile S ok (S.run state first) second := by
  induction first generalizing state with
  | nil => exact ⟨fun kept => ⟨trivial, kept⟩, And.right⟩
  | cons action rest ih => exact (and_congr_right fun _ => ih).trans and_assoc.symm

/-- Conditions that agree in every reachable state admit the same runs. -/
theorem Reachable.runWhile_iff {other : σ → α → Prop} (reached : Reachable S state)
    (agree : ∀ state, Reachable S state → ∀ action, ok state action ↔ other state action)
    (actions : List α) : RunWhile S ok state actions ↔ RunWhile S other state actions := by
  induction actions generalizing state with
  | nil => exact Iff.rfl
  | cons action rest ih => exact and_congr (agree state reached action) (ih (reached.step action))

/-- What holds of every step from a reachable state holds of every step of a run. -/
theorem Reachable.runWhile (reached : Reachable S state)
    (always : ∀ state, Reachable S state → ∀ action, ok state action) (actions : List α) :
    RunWhile S ok state actions := by
  induction actions generalizing state with
  | nil => exact trivial
  | cons action rest ih => exact ⟨always state reached action, ih (reached.step action)⟩

/-- What holds at the start and is kept by every admitted step holds throughout. -/
theorem ReachableWhile.invariant (reached : ReachableWhile S ok state) (start : P S.initial)
    (kept : ∀ state action, P state → ok state action → P (S.step state action)) : P state := by
  induction reached with
  | initial => exact start
  | next _ admitted ih => exact kept _ _ ih admitted

/-- An invariant whose step may use what is known of every reachable state. -/
theorem ReachableWhile.invariant_given (reached : ReachableWhile S ok state) (start : P S.initial)
    (known : ∀ state, Reachable S state → Q state)
    (kept : ∀ state action, Q state → P state → ok state action → P (S.step state action)) :
    P state := by
  induction reached with
  | initial => exact start
  | next earlier admitted ih => exact kept _ _ (known _ earlier.reachable) ih admitted

/-- What holds in a reached state and is kept by every admitted step holds in every
state an admitted run takes it to. -/
theorem ReachableWhile.persists (reached : ReachableWhile S ok state) (held : P state)
    (kept : ∀ state action, ReachableWhile S ok state → P state → ok state action →
      P (S.step state action)) :
    ∀ actions, RunWhile S ok state actions → P (S.run state actions) := by
  intro actions
  induction actions generalizing state with
  | nil => exact fun _ => held
  | cons action rest ih =>
    exact fun admitted => ih (reached.next admitted.1) (kept _ _ reached held admitted.1) admitted.2

theorem Reachable.invariant (reached : Reachable S state) (start : P S.initial)
    (kept : ∀ state action, P state → P (S.step state action)) : P state :=
  ReachableWhile.invariant reached start fun state action held _ => kept state action held

end System
end Transitions
