import Mathlib.Tactic.Common

/-! One database session inside one request. With `autoflush=False` a session
holds three views of the data: what the last commit left, what its queries see,
and what its objects say. A request either raises, and the session is closed
with nothing committed, or commits; a commit that breaks a constraint is
refused and leaves the last commit standing. -/
namespace UnitOfWork

/-- The three views a session holds. -/
structure Session (δ : Type*) where
  /-- What the last commit left, and a rollback returns to. -/
  committed : δ
  /-- What a query sees: the rows as last flushed. -/
  flushed : δ
  /-- What the session's objects say, unflushed changes included. -/
  pending : δ

variable {δ ε : Type*} {α β : Type}

namespace Session

/-- A session opened on a committed database. -/
abbrev start (data : δ) : Session δ := ⟨data, data, data⟩

/-- A change to the session's objects, not yet flushed. -/
def write (db : Session δ) (change : δ → δ) : Session δ := { db with pending := change db.pending }

/-- `db.flush()`: queries now see every pending change. -/
def flush (db : Session δ) : Session δ := { db with flushed := db.pending }

/-- `db.execute`: the statement runs on the database at once. -/
def execute (db : Session δ) (change : δ → δ) : Session δ :=
  { db with flushed := change db.flushed, pending := change db.pending }

/-- `db.rollback()`: every uncommitted change of the session is discarded. -/
def rollback (db : Session δ) : Session δ := start db.committed

@[simp] theorem write_committed (db : Session δ) (f : δ → δ) : (db.write f).committed = db.committed := rfl
@[simp] theorem write_flushed (db : Session δ) (f : δ → δ) : (db.write f).flushed = db.flushed := rfl
@[simp] theorem write_pending (db : Session δ) (f : δ → δ) : (db.write f).pending = f db.pending := rfl
@[simp] theorem flush_committed (db : Session δ) : db.flush.committed = db.committed := rfl
@[simp] theorem flush_flushed (db : Session δ) : db.flush.flushed = db.pending := rfl
@[simp] theorem flush_pending (db : Session δ) : db.flush.pending = db.pending := rfl
@[simp] theorem execute_committed (db : Session δ) (f : δ → δ) :
    (db.execute f).committed = db.committed := rfl
@[simp] theorem execute_pending (db : Session δ) (f : δ → δ) :
    (db.execute f).pending = f db.pending := rfl
@[simp] theorem rollback_pending (db : Session δ) : db.rollback.pending = db.committed := rfl

end Session

/-! ## Checks that raise -/

/-- `if not check: raise error`. -/
def require (check : Prop) [Decidable check] (error : ε) : Except ε Unit :=
  if check then .ok () else .error error

/-- `if value is None: raise error`. -/
def found (value : Option α) (error : ε) : Except ε α :=
  match value with
  | some held => .ok held
  | none => .error error

@[simp]
theorem require_ok (check : Prop) [Decidable check] (error : ε) (result : Unit) :
    require check error = .ok result ↔ check := by
  by_cases held : check <;> simp [require, held]

@[simp]
theorem found_ok (value : Option α) (error : ε) (result : α) :
    found value error = .ok result ↔ value = some result := by
  cases value <;> simp [found]

theorem require_congr {left right : Prop} [Decidable left] [Decidable right] (same : left ↔ right) (error : ε) :
    (require left error : Except ε Unit) = require right error := by
  by_cases held : left
  · rw [require, require, if_pos held, if_pos (same.mp held)]
  · rw [require, require, if_neg held, if_neg (mt same.mpr held)]

theorem require_error {check : Prop} [Decidable check] {error raised : ε} :
    require check error = .error raised ↔ ¬check ∧ raised = error := by
  by_cases held : check <;> simp [require, held, eq_comm]

theorem found_error {value : Option α} {error raised : ε} :
    found value error = .error raised ↔ value = none ∧ raised = error := by
  cases value <;> simp [found, eq_comm]

/-- Steps after a check run exactly when the check holds. -/
@[simp, grind =]
theorem require_bind_ok (check : Prop) [Decidable check] (error : ε) (next : Unit → Except ε β)
    (result : β) : (require check error >>= next) = .ok result ↔ check ∧ next () = .ok result := by
  by_cases held : check <;> simp [require, held, bind, Except.bind]

/-- Steps after a lookup run exactly on the row it finds. -/
@[simp, grind =]
theorem found_bind_ok (value : Option α) (error : ε) (next : α → Except ε β) (result : β) :
    (found value error >>= next) = .ok result ↔ ∃ held, value = some held ∧ next held = .ok result := by
  cases value <;> simp [found, bind, Except.bind]

theorem found_some_bind (held : α) (error : ε) (next : α → Except ε β) :
    (found (some held) error >>= next) = next held := rfl

/-- A condition on what is found can be checked after it is found. -/
theorem found_filter (value : Option α) (keep : α → Prop) [DecidablePred keep] (error : ε) :
    found (value.filter fun held => decide (keep held)) error =
      found value error >>= fun held => require (keep held) error >>= fun _ => pure held := by
  cases value with
  | none => rfl
  | some held =>
    rw [Option.filter_some, found_some_bind]
    by_cases kept : keep held
    · rw [if_pos (decide_eq_true kept), (require_ok _ _ ()).mpr kept]
      rfl
    · rw [if_neg (by simpa using kept), require_error.mpr ⟨kept, rfl⟩]
      rfl

theorem require_bind_error (check : Prop) [Decidable check] (error raised : ε) (next : Unit → Except ε β) :
    (require check error >>= next) = .error raised ↔
      (¬check ∧ raised = error) ∨ (check ∧ next () = .error raised) := by
  by_cases held : check <;> simp [require, held, bind, Except.bind, eq_comm]

theorem found_bind_error (value : Option α) (error raised : ε) (next : α → Except ε β) :
    (found value error >>= next) = .error raised ↔
      (value = none ∧ raised = error) ∨ ∃ held, value = some held ∧ next held = .error raised := by
  cases value <;> simp [found, bind, Except.bind, eq_comm]

/-- Steps after a call that may raise run exactly on what it returns. -/
theorem bind_ok (first : Except ε α) (next : α → Except ε β) (result : β) :
    (first >>= next) = .ok result ↔ ∃ value, first = .ok value ∧ next value = .ok result := by
  cases first <;> simp [bind, Except.bind]

/-- Two ways to go on from a call that may raise, which agree on what it returns. -/
theorem bind_congr_ok {first : Except ε α} {left right : α → Except ε β}
    (same : ∀ value, first = .ok value → left value = right value) : first >>= left = first >>= right := by
  cases first with
  | error error => rfl
  | ok value => exact same value rfl

/-- Steps in a row raise what the first of them raises. -/
theorem bind_error (first : Except ε α) (next : α → Except ε β) (error : ε) :
    (first >>= next) = .error error ↔
      first = .error error ∨ ∃ value, first = .ok value ∧ next value = .error error := by
  cases first <;> simp [bind, Except.bind]

@[simp]
theorem pure_ok (value result : α) : (pure value : Except ε α) = .ok result ↔ value = result := by
  simp [pure, Except.pure]

end UnitOfWork
