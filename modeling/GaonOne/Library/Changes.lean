import GaonOne.Library.ReadCommitted

/-! What a transaction writes, whatever its queries return. A condition on what a program
returns and on the change it has made by then is followed through its statements without
any reliance on the others. -/
namespace ReadCommitted
open Transitions

variable {δ κ ν ε α β : Type}

/-- However the queries answer, the program raises, or ends with a value and a change as
the condition says. -/
def Program.Yields : Program δ κ ν ε α → (α → (δ → δ) → Prop) → (δ → δ) → Prop
  | .done value, post, change => post value change
  | .raise _, _, _ => True
  | .select next, post, change => ∀ db, (next db).Yields post change
  | .lock _ next, post, change => next.Yields post change
  | .lockFirst _ next, post, change => ∀ row, (next row).Yields post change
  | .write later next, post, change => next.Yields post (later ∘ change)
  | .note _ next, post, change => next.Yields post change

namespace Program
variable {post weaker : α → (δ → δ) → Prop} {program : Program δ κ ν ε α} {change : δ → δ}

theorem Yields.mono (weakens : ∀ value change, post value change → weaker value change)
    (yields : program.Yields post change) : program.Yields weaker change := by
  induction program generalizing change with
  | done value => exact weakens _ _ yields
  | raise error => trivial
  | select next ih => exact fun db => ih db (yields db)
  | lock row next ih => exact ih yields
  | lockFirst rows next ih => exact fun row => ih row (yields row)
  | write later next ih => exact ih yields
  | note fact next ih => exact ih yields

@[simp]
theorem yields_bind {post : β → (δ → δ) → Prop} (next : α → Program δ κ ν ε β) :
    (program >>= next).Yields post change ↔
      program.Yields (fun value change => (next value).Yields post change) change := by
  change (program.bind next).Yields post change ↔ _
  induction program generalizing change with
  | done value => exact Iff.rfl
  | raise error => exact Iff.rfl
  | select rest ih => exact forall_congr' fun db => ih db
  | lock row rest ih => exact ih
  | lockFirst rows rest ih => exact forall_congr' fun row => ih row
  | write later rest ih => exact ih
  | note fact rest ih => exact ih

@[simp]
theorem yields_pure (value : α) :
    (pure value : Program δ κ ν ε α).Yields post change ↔ post value change := Iff.rfl

/-! One statement, and the rest of the transaction. -/

theorem Yields.query {read : δ → β} {next : β → Program δ κ ν ε α}
    (rest : ∀ value, (next value).Yields post change) :
    (Program.query read >>= next : Program δ κ ν ε α).Yields post change :=
  fun db => rest (read db)

theorem Yields.flush {later : δ → δ} {next : Unit → Program δ κ ν ε α}
    (rest : (next ()).Yields post (later ∘ change)) :
    (Program.flush later >>= next : Program δ κ ν ε α).Yields post change := rest

theorem Yields.remember {fact : ν} {next : Unit → Program δ κ ν ε α}
    (rest : (next ()).Yields post change) :
    (Program.remember fact >>= next : Program δ κ ν ε α).Yields post change := rest

theorem Yields.lockRows {rows : List κ} {next : Unit → Program δ κ ν ε α}
    (rest : (next ()).Yields post change) :
    (Program.lockRows rows >>= next : Program δ κ ν ε α).Yields post change := by
  rw [yields_bind]
  induction rows with
  | nil => exact rest
  | cons row rows ih => exact ih

theorem Yields.check {check : Except ε β} {next : β → Program δ κ ν ε α}
    (rest : ∀ value, check = .ok value → (next value).Yields post change) :
    (Program.ofExcept check >>= next : Program δ κ ν ε α).Yields post change := by
  cases check with
  | ok value => exact rest value rfl
  | error error => trivial

theorem Yields.branch {check : Prop} [Decidable check] {left right : Program δ κ ν ε α}
    (taken : check → left.Yields post change) (other : ¬check → right.Yields post change) :
    (if check then left else right).Yields post change := by
  split
  · next held => exact taken held
  · next refused => exact other refused

/-- What a program yields it yields under every discipline. -/
theorem Yields.holds {D : Discipline δ κ ν} {footing : Footing δ κ ν} {db : δ}
    (yields : program.Yields post footing.change) :
    D.Holds program (fun value footing _ => post value footing.change) footing db := by
  induction program generalizing footing db with
  | done value => exact yields
  | raise error => trivial
  | select next ih => exact fun now _ => ih _ (yields _)
  | lock row next ih => exact fun now _ => ih yields
  | lockFirst rows next ih => exact fun now _ row _ => ih row (yields row)
  | write later next ih => exact ih yields
  | note fact next ih => exact fun now _ => ih yields

end Program

/-- A request changes the database in its commit only. -/
theorem Service.step_uncommitted {ρ : Type} {service : Service δ κ ν ε α ρ} {state : State δ κ ν ε α}
    {index : Nat} {action : Action δ ρ} (own : action = .advance index ∨ action = .abort index)
    (uncommitted : ∀ value, (service.step state action).sessions[index]? ≠ some (.committed value)) :
    (service.step state action).database = state.database := by
  rcases own with rfl | rfl
  · rcases service.step_advance_database state index with same | ⟨value, footing, standing, valid, -⟩
    · exact same
    · refine absurd ?_ (uncommitted value)
      have bound := (List.getElem?_eq_some_iff.mp standing).1
      rw [service.step_advance standing, Service.advance, if_pos valid]
      simp [bound]
  · rfl

end ReadCommitted
