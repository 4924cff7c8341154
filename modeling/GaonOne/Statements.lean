import GaonOne.Access
import GaonOne.Library.ReadCommitted

/-! The statements of a request: what it locks, what a locking query returns, and
checks between two statements. The database is PostgreSQL under READ COMMITTED, and
`with_for_update` locks a row until the request's transaction ends. -/
namespace GaonOne
open Relational UnitOfWork ReadCommitted

/-- A value that only one row may carry; two transactions that bring or give up the same
one wait for each other. -/
inductive UniqueValue where
  | eventKey (key : String)
  | refundKey (orderId : UUID)
  | reversalKey (entryId : UUID)
  | paymentId (text : String)
  | refundId (text : String)
  deriving DecidableEq, Repr

/-- A row that transactions lock. -/
inductive Row where
  | user (id : UUID)
  | order (id : UUID)
  | delivery (id : UUID)
  | listing (id : UUID)
  | cart (id : UUID)
  | cartItem (id : UUID)
  | attempt (id : UUID)
  | refund (id : UUID)
  | settlement (id : UUID)
  | proof (id : UUID)
  | collection (id : UUID)
  | value (value : UniqueValue)
  deriving DecidableEq, Repr

/-- How a statement locks a row: the check of a foreign key that names it, an `UPDATE`
of other columns than its key, and `FOR UPDATE` or `DELETE`. -/
inductive Strength where
  | keyShare | noKeyUpdate | update
  deriving DecidableEq, Repr

structure RowLock where
  row : Row
  strength : Strength
  deriving DecidableEq, Repr

/-- A foreign key check waits for `FOR UPDATE` only. -/
def Strength.excludes : Strength → Strength → Bool
  | .keyShare, .keyShare => false
  | .keyShare, .noKeyUpdate => false
  | .noKeyUpdate, .keyShare => false
  | _, _ => true

def RowLock.conflicts (left right : RowLock) : Prop :=
  left.row = right.row ∧ left.strength.excludes right.strength

instance : DecidableRel RowLock.conflicts := fun _ _ => inferInstanceAs (Decidable (_ ∧ _))

theorem RowLock.conflicts_symm {left right : RowLock} (clash : left.conflicts right) :
    right.conflicts left := by
  obtain ⟨same, strong⟩ := clash
  refine ⟨same.symm, ?_⟩
  revert strong
  cases left.strength <;> cases right.strength <;> exact id

/-- `FOR UPDATE` shares a row with nobody. -/
theorem RowLock.update_conflicts (row : Row) (strength : Strength) :
    RowLock.conflicts ⟨row, .update⟩ ⟨row, strength⟩ := by
  cases strength <;> exact ⟨rfl, rfl⟩

/-- The lock of `with_for_update`. -/
abbrev Row.forUpdate (row : Row) : RowLock := ⟨row, .update⟩

/-- And only `FOR UPDATE` keeps the check of a foreign key waiting. -/
theorem RowLock.forUpdate_of_conflicts {lock : RowLock} {held : Row}
    (clash : lock.conflicts ⟨held, .keyShare⟩) : lock = held.forUpdate := by
  obtain ⟨named, strength⟩ := lock
  obtain ⟨rfl, strong⟩ := clash
  cases strength with
  | keyShare => cases strong
  | noKeyUpdate => cases strong
  | update => rfl

/-- The committed tables, with what no table records. -/
structure Market where
  tables : Tables := {}
  /-- The cart rows each order was made from. -/
  ordered : List (UUID × CartItem) := []
  /-- The orders whose stock was put back, one entry each time. -/
  restored : List UUID := []
  /-- The event keys whose effects were committed, one entry each time. -/
  applied : List String := []
  /-- The violations a helper answered by a rollback, as the rest of its request commits. -/
  rolledBack : List UniqueValue := []

def Market.change (write : Tables → Tables) (market : Market) : Market :=
  { market with tables := write market.tables }

@[simp] theorem Market.change_tables (write : Tables → Tables) (market : Market) :
    (market.change write).tables = write market.tables := rfl
@[simp] theorem Market.change_ordered (write : Tables → Tables) (market : Market) :
    (market.change write).ordered = market.ordered := rfl
@[simp] theorem Market.change_restored (write : Tables → Tables) (market : Market) :
    (market.change write).restored = market.restored := rfl
@[simp] theorem Market.change_applied (write : Tables → Tables) (market : Market) :
    (market.change write).applied = market.applied := rfl
@[simp] theorem Market.change_rolledBack (write : Tables → Tables) (market : Market) :
    (market.change write).rolledBack = market.rolledBack := rfl

/-- What a request decided, and from what it had read. -/
inductive Note where
  /-- Checkout has read the rows it makes the order from. -/
  | itemsRead (rows : List CartItem)
  /-- The cart as `add_cart_item` read it, the listing's store, and whether it inserts. -/
  | adding (cart : Cart) (storeId : UUID) (inserts : Bool)
  /-- The rows a removal deletes, and whether it also clears the cart's store. -/
  | removing (cartId : UUID) (deletes : CartItem → Bool) (clears : Bool)
  /-- A claim, and the rider as authentication loaded them. -/
  | claims (loaded : User)
  /-- A helper flushes rows that would carry these values. -/
  | flushing (values : List (UniqueValue × UUID))

/-- The statements of one request. -/
abbrev Statements := Program Market RowLock Note HTTPException

/-- Where a request stands. -/
abbrev Standing := Footing Market RowLock Note

variable {α β ρ : Type}

/-- One query, and the checks on what it returns. -/
def statement (read : Tables → Handler α) : Statements α := do
  let tables ← Program.query Market.tables
  read tables

namespace Statement

/-- `if not check: raise error`. -/
def require (check : Prop) [Decidable check] (error : HTTPException) : Statements Unit :=
  Program.ofExcept (UnitOfWork.require check error)

/-- `if value is None: raise error`. -/
def found (value : Option α) (error : HTTPException) : Statements α :=
  Program.ofExcept (UnitOfWork.found value error)

end Statement

/-- `select(...).with_for_update()` of one row: it waits for the row the statement's
snapshot shows, and answers with that row as it is then. -/
def selectForUpdate (rowOf : ρ → Row) (find : Tables → Option ρ) : Statements (Option ρ) := do
  match ← Program.query fun market : Market => find market.tables with
  | none => pure none
  | some seen => do
    Program.lockRow (rowOf seen).forUpdate
    let current ← Program.query fun market : Market => find market.tables
    pure (current.filter fun row => rowOf row = rowOf seen)

/-- `FOR UPDATE SKIP LOCKED LIMIT 1`: of the rows the snapshot shows, the first that
nobody holds and that still meets the condition. -/
def selectSkipLocked (rowOf : UUID → Row) (find : UUID → Tables → Option ρ) :
    List UUID → Statements (Option ρ)
  | [] => pure none
  | id :: ids => do
    match ← Program.lockOne [(rowOf id).forUpdate] with
    | none => selectSkipLocked rowOf find ids
    | some _ => do
      match ← Program.query fun market : Market => find id market.tables with
      | none => selectSkipLocked rowOf find ids
      | some row => pure (some row)

/-- Unflushed changes reach the database. -/
def flushTables (write : Tables → Tables) : Statements Unit := Program.flush (Market.change write)

/-! ## What a discipline needs to know of them -/

section
variable {D : Discipline Market RowLock Note} {footing : Standing} {db : Market}

@[simp]
theorem holds_statement (read : Tables → Handler α) {post : α → Standing → Market → Prop} :
    D.Holds (statement read : Statements α) post footing db ↔
      ∀ now, D.Later footing db now → ∀ value, read (footing.change now).tables = .ok value →
        post value footing now := by
  simp [statement]

@[simp]
theorem holds_require (check : Prop) [Decidable check] (error : HTTPException)
    {post : Unit → Standing → Market → Prop} :
    D.Holds (Statement.require check error) post footing db ↔ (check → post () footing db) := by
  rw [Statement.require, Discipline.holds_ofExcept]
  simp only [require_ok]
  exact ⟨fun holds => holds (), fun holds _ => holds⟩

@[simp]
theorem holds_found (value : Option α) (error : HTTPException)
    {post : α → Standing → Market → Prop} :
    D.Holds (Statement.found value error) post footing db ↔
      ∀ held, value = some held → post held footing db := by
  rw [Statement.found, Discipline.holds_ofExcept]
  simp

@[simp]
theorem holds_flushTables (write : Tables → Tables) {post : Unit → Standing → Market → Prop} :
    D.Holds (flushTables write : Statements Unit) post footing db ↔
      post () { footing with change := Market.change write ∘ footing.change } db := Iff.rfl

theorem Holds.statement {read : Tables → Handler β} {next : β → Statements α}
    {post : α → Standing → Market → Prop}
    (rest : ∀ now, D.Later footing db now → ∀ value, read (footing.change now).tables = .ok value →
      D.Holds (next value) post footing now) :
    D.Holds (statement read >>= next) post footing db := by
  rw [Discipline.holds_bind, holds_statement]
  exact rest

theorem Holds.require {check : Prop} [Decidable check] {error : HTTPException}
    {next : Unit → Statements α} {post : α → Standing → Market → Prop}
    (rest : check → D.Holds (next ()) post footing db) :
    D.Holds (Statement.require check error >>= next) post footing db := by
  rw [Discipline.holds_bind, holds_require]
  exact rest

theorem Holds.found {value : Option β} {error : HTTPException}
    {next : β → Statements α} {post : α → Standing → Market → Prop}
    (rest : ∀ held, value = some held → D.Holds (next held) post footing db) :
    D.Holds (Statement.found value error >>= next) post footing db := by
  rw [Discipline.holds_bind, holds_found]
  exact rest

/-- A row that is missing ends the request. -/
theorem Holds.missing {error : HTTPException} {next : β → Statements α}
    {post : α → Standing → Market → Prop} :
    D.Holds (Statement.found none error >>= next) post footing db :=
  Holds.found fun _ absent => by cases absent

/-- A locking query answers with the row as it is while the lock is held; with nothing if
there was none, or if the row it waited for no longer meets the condition. -/
theorem holds_selectForUpdate_cases {rowOf : ρ → Row} {find : Tables → Option ρ}
    {post : Option ρ → Standing → Market → Prop}
    (absent : ∀ now, D.Later footing db now → find (footing.change now).tables = none →
      post none footing now)
    (gone : ∀ seen first now, D.Later footing db first → find (footing.change first).tables = some seen →
      D.Later footing first now →
      (find (footing.change now).tables).filter (fun row => rowOf row = rowOf seen) = none →
      post none { footing with held := (rowOf seen).forUpdate :: footing.held } now)
    (found : ∀ row now, D.Later footing db now → find (footing.change now).tables = some row →
      post (some row) { footing with held := (rowOf row).forUpdate :: footing.held } now) :
    D.Holds (selectForUpdate rowOf find : Statements (Option ρ)) post footing db := by
  simp only [selectForUpdate, Discipline.holds_bind, Discipline.holds_query]
  intro first later
  cases read : find (footing.change first).tables with
  | none => exact absent first later read
  | some seen =>
    simp only [Discipline.holds_bind, Discipline.holds_lockRow, Discipline.holds_query,
      Discipline.holds_pure]
    intro locked held now after
    have since : D.Later footing first now := held.trans after.weaken
    cases current : (find (footing.change now).tables).filter fun row => rowOf row = rowOf seen with
    | none => exact gone seen first now later read since current
    | some row =>
      obtain ⟨stored, same⟩ := Option.filter_eq_some_iff.mp current
      rw [← of_decide_eq_true same]
      exact found row now (later.trans since) stored

/-- A locking query answers with the row as it is while the lock is held. -/
theorem holds_selectForUpdate {rowOf : ρ → Row} {find : Tables → Option ρ}
    {post : Option ρ → Standing → Market → Prop}
    (missing : ∀ now held, D.Later footing db now →
      post none { footing with held := held ++ footing.held } now)
    (found : ∀ row now, D.Later footing db now → find (footing.change now).tables = some row →
      post (some row) { footing with held := (rowOf row).forUpdate :: footing.held } now) :
    D.Holds (selectForUpdate rowOf find : Statements (Option ρ)) post footing db := by
  refine holds_selectForUpdate_cases (fun now later _ => ?_) (fun seen first now later _ since _ => ?_) found
  · exact missing now [] later
  · exact missing now [(rowOf seen).forUpdate] (later.trans since)

/-- A row that must be there, read under its lock. -/
theorem Holds.locked {rowOf : ρ → Row} {find : Tables → Option ρ} {check : Option ρ → Option β}
    {error : HTTPException} {next : β → Statements α} {post : α → Standing → Market → Prop}
    (absent : check none = none)
    (rest : ∀ row now, D.Later footing db now → find (footing.change now).tables = some row →
      ∀ value, check (some row) = some value →
        D.Holds (next value) post { footing with held := (rowOf row).forUpdate :: footing.held } now) :
    D.Holds (selectForUpdate rowOf find >>= fun row => Statement.found (check row) error >>= next)
      post footing db := by
  rw [Discipline.holds_bind]
  refine holds_selectForUpdate (fun now held _ => ?_) fun row now later read => ?_
  · rw [absent]
    exact Holds.missing
  · exact Holds.found fun value some => rest row now later read value some

/-- What `SKIP LOCKED` returns is held, and met the condition when it was. -/
theorem holds_selectSkipLocked {rowOf : UUID → Row} {find : UUID → Tables → Option ρ}
    {ids : List UUID} {post : Option ρ → Standing → Market → Prop}
    (kept : D.invariant db)
    (missing : ∀ now held, D.Later footing db now →
      post none { footing with held := held ++ footing.held } now)
    (found : ∀ id row now held, D.Later footing db now → id ∈ ids →
      find id (footing.change now).tables = some row →
      post (some row) { footing with held := (rowOf id).forUpdate :: (held ++ footing.held) } now) :
    D.Holds (selectSkipLocked rowOf find ids : Statements (Option ρ)) post footing db := by
  induction ids generalizing footing db with
  | nil => exact missing db [] (.refl kept)
  | cons id ids ih =>
    simp only [selectSkipLocked, Discipline.holds_bind, Discipline.holds_lockOne]
    intro now later row taken
    cases row with
    | none =>
      refine ih later.2 (fun next held after => missing next held (later.trans after)) ?_
      exact fun other row next held after member => found other row next held (later.trans after)
        (List.mem_cons_of_mem _ member)
    | some lock =>
      have own := List.mem_singleton.mp (taken lock rfl)
      subst own
      simp only [Discipline.holds_bind, Discipline.holds_query]
      intro locked held
      have reached : D.Later footing db locked := later.trans held.weaken
      cases current : find id (footing.change locked).tables with
      | some row => exact found id row locked [] reached List.mem_cons_self current
      | none =>
        refine ih held.2 (fun next more after => ?_) fun other row next more after member read => ?_
        · have whole := missing next (more ++ [(rowOf id).forUpdate]) (reached.trans after.weaken)
          rwa [List.append_assoc] at whole
        · have whole := found other row next (more ++ [(rowOf id).forUpdate])
            (reached.trans after.weaken) (List.mem_cons_of_mem _ member) read
          rwa [List.append_assoc] at whole

end
end GaonOne
