import GaonOne.Library.Transitions
import Mathlib.Data.List.Basic

/-! Transactions under READ COMMITTED, one statement at a time. A transaction is
the list of statements it issues: each sees what is committed when it runs, and
the transaction's own writes; row locks are held to the end; writes reach the
others when it commits. Statements of different transactions interleave freely.

A discipline says what a transaction may rely on between two of its statements.
Where every transaction, run against that reliance, commits only what the others
may rely on, the invariant holds in every committed state. -/
namespace ReadCommitted
open Transitions

/-- The statements of one transaction, the rest depending on what each returns. -/
inductive Program (δ κ ν ε α : Type) where
  /-- Commit, and answer. -/
  | done (value : α)
  /-- An exception that ends the request: nothing is committed. -/
  | raise (error : ε)
  | select (next : δ → Program δ κ ν ε α)
  /-- Waits while another transaction holds the row against this one. -/
  | lock (row : κ) (next : Program δ κ ν ε α)
  /-- `SKIP LOCKED ... LIMIT 1`: the first of the rows nobody else holds. -/
  | lockFirst (rows : List κ) (next : Option κ → Program δ κ ν ε α)
  | write (change : δ → δ) (next : Program δ κ ν ε α)
  /-- What the session has read, kept for conditions on runs; no effect. -/
  | note (fact : ν) (next : Program δ κ ν ε α)

variable {δ κ ν ε α β ρ : Type}

namespace Program

protected def bind : Program δ κ ν ε α → (α → Program δ κ ν ε β) → Program δ κ ν ε β
  | done value, next => next value
  | raise error, _ => raise error
  | select rest, next => select fun db => (rest db).bind next
  | lock row rest, next => lock row (rest.bind next)
  | lockFirst rows rest, next => lockFirst rows fun row => (rest row).bind next
  | write change rest, next => write change (rest.bind next)
  | note fact rest, next => note fact (rest.bind next)

instance : Monad (Program δ κ ν ε) where
  pure := done
  bind := Program.bind

/-- A check that may raise, between two statements. -/
def ofExcept : Except ε α → Program δ κ ν ε α
  | .ok value => done value
  | .error error => raise error

instance : MonadLift (Except ε) (Program δ κ ν ε) := ⟨ofExcept⟩

/-- One query. -/
def query (read : δ → α) : Program δ κ ν ε α := select fun db => done (read db)

/-- `FOR UPDATE` by primary key. -/
def lockRow (row : κ) : Program δ κ ν ε Unit := lock row (done ())

/-- Row locks taken one after another, as a query's plan meets the rows. -/
def lockRows : List κ → Program δ κ ν ε Unit
  | [] => done ()
  | row :: rows => lock row (lockRows rows)

def lockOne (rows : List κ) : Program δ κ ν ε (Option κ) := lockFirst rows done

def flush (change : δ → δ) : Program δ κ ν ε Unit := write change (done ())

def remember (fact : ν) : Program δ κ ν ε Unit := note fact (done ())

end Program

/-! ## Sessions -/

/-- Where a transaction stands: the locks it holds, what it has read, and what it
has written. -/
structure Footing (δ κ ν : Type) where
  held : List κ := []
  notes : List ν := []
  change : δ → δ := id

/-- A request that is running, has answered, or has failed. -/
inductive Session (δ κ ν ε α : Type) where
  | running (program : Program δ κ ν ε α) (footing : Footing δ κ ν)
  | committed (value : α)
  | failed

/-- The locks a session holds; both ways to end release them. -/
def Session.held : Session δ κ ν ε α → List κ
  | running _ footing => footing.held
  | _ => []

/-- What a running session has noted. -/
def Session.notes : Session δ κ ν ε α → List ν
  | running _ footing => footing.notes
  | _ => []

/-- Where a session stands that has nothing left to do but commit. -/
def Session.committing : Session δ κ ν ε α → Option (Footing δ κ ν)
  | running (.done _) footing => some footing
  | _ => none

structure State (δ κ ν ε α : Type) where
  database : δ
  sessions : List (Session δ κ ν ε α) := []

/-- What can happen next. -/
inductive Action (δ ρ : Type) where
  | start (request : ρ)
  /-- The next statement of one session, if its lock can be had. -/
  | advance (index : Nat)
  /-- A crash, a timeout, or the victim of a deadlock. -/
  | abort (index : Nat)
  /-- A commit of some other part of the program. -/
  | other (database : δ)

/-- The requests a program serves, and what its database enforces. -/
structure Service (δ κ ν ε α ρ : Type) where
  program : ρ → Program δ κ ν ε α
  /-- Two locks that two transactions cannot hold together. -/
  conflicts : κ → κ → Prop
  symmetric : ∀ {left right}, conflicts left right → conflicts right left
  /-- The declared constraints. -/
  valid : δ → Prop
  decideConflicts : DecidableRel conflicts
  decideValid : DecidablePred valid

attribute [instance] Service.decideConflicts Service.decideValid

namespace Service
variable (service : Service δ κ ν ε α ρ)

/-- No other session holds a lock against this one. -/
def Free (state : State δ κ ν ε α) (index : Nat) (row : κ) : Prop :=
  ∀ other < state.sessions.length, other ≠ index →
    ∀ session ∈ state.sessions[other]?, ∀ held ∈ session.held, ¬service.conflicts held row

instance (state : State δ κ ν ε α) (index : Nat) (row : κ) :
    Decidable (service.Free state index row) :=
  inferInstanceAs (Decidable (∀ _ < _, _))

/-- The next statement of a running session. -/
def advance (state : State δ κ ν ε α) (index : Nat) (footing : Footing δ κ ν) :
    Program δ κ ν ε α → State δ κ ν ε α
  | .done value =>
    if service.valid (footing.change state.database) then
      ⟨footing.change state.database, state.sessions.set index (.committed value)⟩
    else { state with sessions := state.sessions.set index .failed }
  | .raise _ => { state with sessions := state.sessions.set index .failed }
  | .select next =>
    { state with
      sessions := state.sessions.set index (.running (next (footing.change state.database)) footing) }
  | .lock row next =>
    if service.Free state index row then
      { state with
        sessions := state.sessions.set index
          (.running next { footing with held := row :: footing.held }) }
    else state
  | .lockFirst rows next =>
    let row := rows.find? fun row => decide (service.Free state index row)
    { state with
      sessions := state.sessions.set index
        (.running (next row) { footing with held := row.toList ++ footing.held }) }
  | .write change next =>
    { state with
      sessions := state.sessions.set index
        (.running next { footing with change := change ∘ footing.change }) }
  | .note fact next =>
    { state with
      sessions := state.sessions.set index
        (.running next { footing with notes := fact :: footing.notes }) }

def step (state : State δ κ ν ε α) : Action δ ρ → State δ κ ν ε α
  | .start request =>
    { state with sessions := state.sessions ++ [.running (service.program request) {}] }
  | .advance index =>
    match state.sessions[index]? with
    | some (.running program footing) => service.advance state index footing program
    | _ => state
  | .abort index => { state with sessions := state.sessions.set index .failed }
  | .other database => { state with database }

theorem step_advance {state : State δ κ ν ε α} {index : Nat} {program : Program δ κ ν ε α}
    {footing : Footing δ κ ν} (standing : state.sessions[index]? = some (.running program footing)) :
    service.step state (.advance index) = service.advance state index footing program := by
  simp only [step, standing]

/-- A lock that nobody holds against the session is taken. -/
theorem step_lock {state : State δ κ ν ε α} {index : Nat} {row : κ} {next : Program δ κ ν ε α}
    (footing : Footing δ κ ν)
    (standing : state.sessions[index]? = some (.running (.lock row next) footing))
    (free : service.Free state index row) :
    service.step state (.advance index) =
      { state with
        sessions := state.sessions.set index
          (.running next { footing with held := row :: footing.held }) } := by
  rw [step_advance service standing, advance, if_pos free]

/-- A statement changes the committed database only as the commit of a transaction. -/
theorem step_advance_database (state : State δ κ ν ε α) (index : Nat) :
    (service.step state (.advance index)).database = state.database ∨
      ∃ value footing, state.sessions[index]? = some (.running (.done value) footing) ∧
        service.valid (footing.change state.database) ∧
        (service.step state (.advance index)).database = footing.change state.database := by
  unfold step
  dsimp only
  split
  · next program footing standing =>
    cases program with
    | done value =>
      simp only [advance]
      split
      · next valid => exact .inr ⟨value, footing, standing, valid, rfl⟩
      · exact .inl rfl
    | lock row next =>
      simp only [advance]
      split <;> exact .inl rfl
    | _ => exact .inl rfl
  · exact .inl rfl

/-- A session moves by its own statements only. -/
theorem advance_other (differ : other ≠ index) (state : State δ κ ν ε α) :
    (service.step state (.advance other)).sessions[index]? = state.sessions[index]? := by
  unfold step
  dsimp only
  split
  · next program footing _ =>
    cases program with
    | done value =>
      simp only [advance]
      split <;> exact List.getElem?_set_ne differ
    | lock row next =>
      simp only [advance]
      split
      · exact List.getElem?_set_ne differ
      · rfl
    | _ => exact List.getElem?_set_ne differ
  · rfl

/-- The service, started on a database. -/
def system (database : δ) : System (State δ κ ν ε α) (Action δ ρ) where
  initial := ⟨database, []⟩
  step := service.step

/-- No two sessions hold conflicting locks. -/
def Exclusive (state : State δ κ ν ε α) : Prop :=
  ∀ (left right : Nat) (first second : Session δ κ ν ε α), left ≠ right →
    state.sessions[left]? = some first → state.sessions[right]? = some second →
    ∀ row ∈ first.held, ∀ other ∈ second.held, ¬service.conflicts row other

end Service

/-! ## Disciplines -/

/-- What is kept in every committed state, what each commit may do, and what a session
may rely on between two of its statements, given the locks it holds and what it has
noted. -/
structure Discipline (δ κ ν : Type) where
  invariant : δ → Prop
  /-- What one commit may do. -/
  guarantee : δ → δ → Prop
  rely : List κ → List ν → δ → δ → Prop
  refl : ∀ held notes db, rely held notes db db
  trans : ∀ {held notes first second third}, rely held notes first second →
    rely held notes second third → rely held notes first third
  /-- One lock more, one thing more to rely on. -/
  weaken : ∀ {row held notes first second}, rely (row :: held) notes first second →
    rely held notes first second
  /-- What the condition on runs says of a session about to commit. -/
  admits : Footing δ κ ν → δ → Prop
  /-- What locks and the condition on runs say of a committing session and another. -/
  apart : Footing δ κ ν → Footing δ κ ν → Prop

namespace Discipline
variable (D : Discipline δ κ ν) {post weaker : α → Footing δ κ ν → δ → Prop}
  {program : Program δ κ ν ε α} {footing : Footing δ κ ν} {db now : δ}

/-- What others may have made of the database by the next statement. -/
def Later (footing : Footing δ κ ν) (db now : δ) : Prop :=
  D.rely footing.held footing.notes db now ∧ D.invariant now

/-- Whatever the others commit meanwhile, the transaction ends as the condition says. -/
def Holds : Program δ κ ν ε α → (α → Footing δ κ ν → δ → Prop) → Footing δ κ ν → δ → Prop
  | .done value, post, footing, db => post value footing db
  | .raise _, _, _, _ => True
  | .select next, post, footing, db =>
    ∀ now, D.Later footing db now → Holds (next (footing.change now)) post footing now
  | .lock row next, post, footing, db =>
    ∀ now, D.Later footing db now → Holds next post { footing with held := row :: footing.held } now
  | .lockFirst rows next, post, footing, db =>
    ∀ now, D.Later footing db now → ∀ row, (∀ found ∈ row, found ∈ rows) →
      Holds (next row) post { footing with held := row.toList ++ footing.held } now
  | .write change next, post, footing, db =>
    Holds next post { footing with change := change ∘ footing.change } db
  | .note fact next, post, footing, db =>
    ∀ now, D.Later footing db now →
      Holds next post { footing with notes := fact :: footing.notes } now

/-- A condition that others cannot undo. -/
def Stable (post : α → Footing δ κ ν → δ → Prop) : Prop :=
  ∀ value footing db now, D.Later footing db now → post value footing db → post value footing now

variable {D}

theorem Later.trans (earlier : D.Later footing db now) (later : D.Later footing now next) :
    D.Later footing db next :=
  ⟨D.trans earlier.1 later.1, later.2⟩

theorem Later.refl (kept : D.invariant db) : D.Later footing db db := ⟨D.refl .., kept⟩

/-- What is relied on with one lock more is relied on without it. -/
theorem Later.weaken (later : D.Later { footing with held := row :: footing.held } db now) :
    D.Later footing db now :=
  ⟨D.weaken later.1, later.2⟩

theorem Later.release (locks : List κ)
    (later : D.Later { footing with held := locks ++ footing.held } db now) :
    D.Later footing db now := by
  induction locks with
  | nil => exact later
  | cons row rows ih => exact ih later.weaken

/-- What a transaction will do does not depend on how far the others have come. -/
theorem Holds.later (stable : D.Stable post) (holds : D.Holds program post footing db)
    (later : D.Later footing db now) : D.Holds program post footing now := by
  induction program generalizing footing db now with
  | done value => exact stable _ _ _ _ later holds
  | raise error => trivial
  | select next => exact fun next after => holds next (later.trans after)
  | lock row next => exact fun next after => holds next (later.trans after)
  | lockFirst rows next => exact fun next after => holds next (later.trans after)
  | write change next ih => exact ih holds later
  | note fact next => exact fun next after => holds next (later.trans after)

theorem Holds.mono (weakens : ∀ value footing db, post value footing db → weaker value footing db)
    (holds : D.Holds program post footing db) : D.Holds program weaker footing db := by
  induction program generalizing footing db with
  | done value => exact weakens _ _ _ holds
  | raise error => trivial
  | select next ih => exact fun now later => ih _ (holds now later)
  | lock row next ih => exact fun now later => ih (holds now later)
  | lockFirst rows next ih => exact fun now later row found => ih _ (holds now later row found)
  | write change next ih => exact ih holds
  | note fact next ih => exact fun now later => ih (holds now later)

theorem Holds.both (first : D.Holds program post footing db) (second : D.Holds program weaker footing db) :
    D.Holds program (fun value footing db => post value footing db ∧ weaker value footing db)
      footing db := by
  induction program generalizing footing db with
  | done value => exact ⟨first, second⟩
  | raise error => trivial
  | select next ih => exact fun now later => ih _ (first now later) (second now later)
  | lock row next ih => exact fun now later => ih (first now later) (second now later)
  | lockFirst rows next ih =>
    exact fun now later row found => ih _ (first now later row found) (second now later row found)
  | write change next ih => exact ih first second
  | note fact next ih => exact fun now later => ih (first now later) (second now later)

/-- A session that may rely on more ends as it did. -/
theorem Holds.under {E : Discipline δ κ ν}
    (reliance : ∀ {footing db now}, E.Later footing db now → D.Later footing db now)
    (holds : D.Holds program post footing db) : E.Holds program post footing db := by
  induction program generalizing footing db with
  | done value => exact holds
  | raise error => trivial
  | select next ih => exact fun now later => ih _ (holds now (reliance later))
  | lock row next ih => exact fun now later => ih (holds now (reliance later))
  | lockFirst rows next ih =>
    exact fun now later row found => ih _ (holds now (reliance later) row found)
  | write change next ih => exact ih holds
  | note fact next ih => exact fun now later => ih (holds now (reliance later))

@[simp]
theorem holds_bind (program : Program δ κ ν ε β) (next : β → Program δ κ ν ε α) :
    D.Holds (program >>= next) post footing db ↔
      D.Holds program (fun value => D.Holds (next value) post) footing db := by
  change D.Holds (program.bind next) post footing db ↔ _
  induction program generalizing footing db with
  | done value => exact Iff.rfl
  | raise error => exact Iff.rfl
  | select rest ih => exact forall₂_congr fun now _ => ih _
  | lock row rest ih => exact forall₂_congr fun now _ => ih
  | lockFirst rows rest ih => exact forall₄_congr fun now _ row _ => ih _
  | write change rest ih => exact ih
  | note fact rest ih => exact forall₂_congr fun now _ => ih

@[simp]
theorem holds_pure (value : α) :
    D.Holds (pure value : Program δ κ ν ε α) post footing db ↔ post value footing db := Iff.rfl

@[simp]
theorem holds_raise (error : ε) : D.Holds (.raise error : Program δ κ ν ε α) post footing db := trivial

@[simp]
theorem holds_query (read : δ → α) :
    D.Holds (Program.query read : Program δ κ ν ε α) post footing db ↔
      ∀ now, D.Later footing db now → post (read (footing.change now)) footing now := Iff.rfl

@[simp]
theorem holds_lockRow (row : κ) {post : Unit → Footing δ κ ν → δ → Prop} :
    D.Holds (Program.lockRow row : Program δ κ ν ε Unit) post footing db ↔
      ∀ now, D.Later footing db now → post () { footing with held := row :: footing.held } now :=
  Iff.rfl

@[simp]
theorem holds_lockOne (rows : List κ) {post : Option κ → Footing δ κ ν → δ → Prop} :
    D.Holds (Program.lockOne rows : Program δ κ ν ε (Option κ)) post footing db ↔
      ∀ now, D.Later footing db now → ∀ row, (∀ found ∈ row, found ∈ rows) →
        post row { footing with held := row.toList ++ footing.held } now := Iff.rfl

@[simp]
theorem holds_flush (change : δ → δ) {post : Unit → Footing δ κ ν → δ → Prop} :
    D.Holds (Program.flush change : Program δ κ ν ε Unit) post footing db ↔
      post () { footing with change := change ∘ footing.change } db := Iff.rfl

@[simp]
theorem holds_remember (fact : ν) {post : Unit → Footing δ κ ν → δ → Prop} :
    D.Holds (Program.remember fact : Program δ κ ν ε Unit) post footing db ↔
      ∀ now, D.Later footing db now → post () { footing with notes := fact :: footing.notes } now :=
  Iff.rfl

/-- A check between two statements that does not raise. -/
@[simp]
theorem holds_ofExcept (check : Except ε α) :
    D.Holds (Program.ofExcept check : Program δ κ ν ε α) post footing db ↔
      ∀ value, check = .ok value → post value footing db := by
  cases check with
  | ok value => simp [Program.ofExcept, Holds]
  | error error => simp [Program.ofExcept]

@[simp]
theorem holds_liftM (check : Except ε α) :
    D.Holds (liftM check : Program δ κ ν ε α) post footing db ↔
      ∀ value, check = .ok value → post value footing db :=
  holds_ofExcept check

/-! One statement, and the rest of the transaction. -/

theorem Holds.query {read : δ → β} {next : β → Program δ κ ν ε α}
    (rest : ∀ now, D.Later footing db now →
      D.Holds (next (read (footing.change now))) post footing now) :
    D.Holds (Program.query read >>= next) post footing db := rest

theorem Holds.lockRow {row : κ} {next : Unit → Program δ κ ν ε α}
    (rest : ∀ now, D.Later footing db now →
      D.Holds (next ()) post { footing with held := row :: footing.held } now) :
    D.Holds (Program.lockRow row >>= next) post footing db := rest

theorem Holds.flush {change : δ → δ} {next : Unit → Program δ κ ν ε α}
    (rest : D.Holds (next ()) post { footing with change := change ∘ footing.change } db) :
    D.Holds (Program.flush change >>= next) post footing db := rest

theorem Holds.remember {fact : ν} {next : Unit → Program δ κ ν ε α}
    (rest : ∀ now, D.Later footing db now →
      D.Holds (next ()) post { footing with notes := fact :: footing.notes } now) :
    D.Holds (Program.remember fact >>= next) post footing db := rest

theorem Holds.check {check : Except ε β} {next : β → Program δ κ ν ε α}
    (rest : ∀ value, check = .ok value → D.Holds (next value) post footing db) :
    D.Holds (liftM check >>= next) post footing db := by
  rw [holds_bind, holds_liftM]
  exact rest

theorem Holds.branch {check : Prop} [Decidable check] {left right : Program δ κ ν ε α}
    (taken : check → D.Holds left post footing db) (other : ¬check → D.Holds right post footing db) :
    D.Holds (if check then left else right) post footing db := by
  split
  · next held => exact taken held
  · next refused => exact other refused

/-- Locks taken one after another are all held at the end. -/
theorem holds_lockRows {rows : List κ} {post : Unit → Footing δ κ ν → δ → Prop}
    (kept : D.invariant db)
    (held : ∀ now, D.Later footing db now →
      post () { footing with held := rows.reverse ++ footing.held } now) :
    D.Holds (Program.lockRows rows : Program δ κ ν ε Unit) post footing db := by
  induction rows generalizing footing db with
  | nil => exact held db (.refl kept)
  | cons row rows ih =>
    intro now later
    refine ih later.2 fun next after => ?_
    have whole := held next (later.trans after.weaken)
    rwa [List.reverse_cons, List.append_assoc] at whole

variable (D)

/-- A commit keeps the invariant, and does to the others only what they rely on. -/
def Commits (valid : δ → Prop) (_ : α) (footing : Footing δ κ ν) (db : δ) : Prop :=
  ∀ now, D.Later footing db now → D.admits footing now → valid (footing.change now) →
    D.invariant (footing.change now) ∧ D.guarantee now (footing.change now) ∧
      ∀ other, D.apart footing other → D.rely other.held other.notes now (footing.change now)

variable {D}

theorem Commits.stable (valid : δ → Prop) : D.Stable (Commits D valid (α := α)) :=
  fun _ _ _ _ later commits next after => commits next (later.trans after)

/-- What a service's requests, the rest of the program, and a condition on runs must
meet for a discipline to be kept. -/
structure Upheld (service : Service δ κ ν ε α ρ) (D : Discipline δ κ ν)
    (ok : State δ κ ν ε α → Action δ ρ → Prop) : Prop where
  starts : ∀ state request, ok state (.start request) → D.invariant state.database →
    D.Holds (service.program request) (D.Commits service.valid) {} state.database
  others : ∀ state after, ok state (.other after) → D.invariant state.database →
    D.invariant after ∧ ∀ held notes, D.rely held notes state.database after
  admitted : ∀ state index value footing, ok state (.advance index) →
    state.sessions[index]? = some (.running (.done value) footing) → D.admits footing state.database
  separated : ∀ state index value footing, ok state (.advance index) →
    state.sessions[index]? = some (.running (.done value) footing) →
    ∀ other program standing, other ≠ index →
      state.sessions[other]? = some (.running program standing) →
      (∀ row ∈ footing.held, ∀ held ∈ standing.held, ¬service.conflicts row held) →
      D.apart footing standing

/-- The invariant holds, no lock is held twice, and every running session will end as
the discipline asks. -/
structure Safe (service : Service δ κ ν ε α ρ) (D : Discipline δ κ ν) (state : State δ κ ν ε α) :
    Prop where
  invariant : D.invariant state.database
  exclusive : service.Exclusive state
  running : ∀ (index : Nat) program footing,
    state.sessions[index]? = some (Session.running program footing) →
    D.Holds program (D.Commits service.valid) footing state.database

variable {service : Service δ κ ν ε α ρ} {ok : State δ κ ν ε α → Action δ ρ → Prop}
  {state : State δ κ ν ε α} {action : Action δ ρ} {index : Nat}

theorem Safe.initially {start : δ} (kept : D.invariant start) : Safe service D ⟨start, []⟩ where
  invariant := kept
  exclusive := fun _ _ _ _ _ held => by simp at held
  running := fun _ _ _ held => by simp at held

/-- A session may move on as long as it takes only free locks. -/
theorem Safe.set (safe : Safe service D state) (standing : state.sessions[index]? = some old)
    (session : Session δ κ ν ε α)
    (locks : ∀ row ∈ session.held, row ∈ old.held ∨ service.Free state index row)
    (holds : ∀ program footing, session = .running program footing →
      D.Holds program (D.Commits service.valid) footing state.database) :
    Safe service D { state with sessions := state.sessions.set index session } where
  invariant := safe.invariant
  exclusive := by
    have apart : ∀ (other : Nat) (second : Session δ κ ν ε α), other ≠ index → state.sessions[other]? = some second →
        ∀ row ∈ session.held, ∀ held ∈ second.held, ¬service.conflicts row held := by
      intro other second differ there row mine held theirs clash
      rcases locks row mine with before | free
      · exact safe.exclusive index other old second differ.symm standing there row before held theirs clash
      · have bound : other < state.sessions.length := (List.getElem?_eq_some_iff.mp there).1
        exact free other bound differ second there held theirs (service.symmetric clash)
    intro left right first second differ here there row mine held theirs clash
    rw [List.getElem?_set] at here there
    by_cases isLeft : index = left
    · subst isLeft
      rw [if_neg differ] at there
      have own : session = first := by
        rw [if_pos rfl] at here
        split at here
        · exact Option.some.inj here
        · cases here
      subst own
      exact apart right second differ.symm there row mine held theirs clash
    · rw [if_neg isLeft] at here
      by_cases isRight : index = right
      · subst isRight
        have own : session = second := by
          rw [if_pos rfl] at there
          split at there
          · exact Option.some.inj there
          · cases there
        subst own
        exact apart left first differ here held theirs row mine (service.symmetric clash)
      · rw [if_neg isRight] at there
        exact safe.exclusive left right first second differ here there row mine held theirs clash
  running := by
    intro other program footing there
    rw [List.getElem?_set] at there
    split at there
    · split at there
      · exact holds program footing (Option.some.inj there)
      · cases there
    · exact safe.running other program footing there

/-- A commit is fine when every running session can rely on it. -/
theorem Safe.database (safe : Safe service D state) (kept : D.invariant after)
    (reliable : ∀ (index : Nat) program footing,
      state.sessions[index]? = some (.running program footing) →
      D.rely footing.held footing.notes state.database after) :
    Safe service D { state with database := after } where
  invariant := kept
  exclusive := safe.exclusive
  running := fun index program footing there =>
    (safe.running index program footing there).later (Commits.stable service.valid)
      ⟨reliable index program footing there, kept⟩

/-- What a commit leaves to anybody it is apart from. -/
theorem Safe.leaves (upheld : Upheld service D ok) (safe : Safe service D state)
    (admitted : ok state (.advance index))
    (standing : state.sessions[index]? = some (.running (.done value) footing))
    (valid : service.valid (footing.change state.database)) (other : Footing δ κ ν)
    (apart : D.apart footing other) :
    D.rely other.held other.notes state.database (footing.change state.database) :=
  (safe.running index _ footing standing state.database (.refl safe.invariant)
    (upheld.admitted state index value footing admitted standing) valid).2.2 other apart

/-- What a commit leaves to the sessions that go on. -/
theorem Safe.commit (upheld : Upheld service D ok) (safe : Safe service D state)
    (admitted : ok state (.advance index))
    (standing : state.sessions[index]? = some (.running (.done value) footing))
    (valid : service.valid (footing.change state.database)) :
    D.invariant (footing.change state.database) ∧
      D.guarantee state.database (footing.change state.database) ∧
      ∀ other program next, other ≠ index → state.sessions[other]? = some (.running program next) →
        D.rely next.held next.notes state.database (footing.change state.database) := by
  have commits := safe.running index _ footing standing
  obtain ⟨kept, done, others⟩ := commits state.database (.refl safe.invariant)
    (upheld.admitted state index value footing admitted standing) valid
  refine ⟨kept, done, fun other program next differ there => others next ?_⟩
  refine upheld.separated state index value footing admitted standing other program next differ there ?_
  exact fun row mine held theirs =>
    safe.exclusive index other _ _ differ.symm standing there row mine held theirs

/-- A discipline that is upheld stays kept. -/
theorem Safe.step (upheld : Upheld service D ok) (safe : Safe service D state)
    (admitted : ok state action) : Safe service D (service.step state action) := by
  cases action with
  | start request =>
    refine ⟨safe.invariant, ?_, ?_⟩
    · intro left right first second differ here there row mine held theirs
      simp only [Service.step, List.getElem?_append] at here there
      split at here <;> split at there
      · exact safe.exclusive left right first second differ here there row mine held theirs
      · next _ past =>
        have fresh := List.mem_singleton.mp (List.mem_of_getElem? there)
        subst fresh
        cases theirs
      · have fresh := List.mem_singleton.mp (List.mem_of_getElem? here)
        subst fresh
        cases mine
      · have fresh := List.mem_singleton.mp (List.mem_of_getElem? there)
        subst fresh
        cases theirs
    · intro index program footing there
      simp only [Service.step, List.getElem?_append] at there
      split at there
      · exact safe.running index program footing there
      · have fresh := List.mem_singleton.mp (List.mem_of_getElem? there)
        obtain ⟨rfl, rfl⟩ := Session.running.inj fresh
        exact upheld.starts state request admitted safe.invariant
  | advance index =>
    unfold Service.step
    dsimp only
    split
    · next program footing standing =>
      have holds := safe.running index program footing standing
      cases program with
      | done value =>
        simp only [Service.advance]
        split
        · next valid =>
          obtain ⟨kept, -, reliable⟩ := safe.commit upheld admitted standing valid
          have closed := safe.set standing (.committed value) (fun _ held => by cases held) nofun
          refine closed.database kept fun other program next there => ?_
          rw [List.getElem?_set] at there
          split at there
          · split at there <;> cases there
          · next differ => exact reliable other program next (Ne.symm differ) there
        · exact safe.set standing .failed (fun _ held => by cases held) nofun
      | raise error => exact safe.set standing .failed (fun _ held => by cases held) nofun
      | select next =>
        refine safe.set standing (.running _ footing) (fun _ held => .inl held) ?_
        rintro _ _ ⟨rfl, rfl⟩
        exact holds state.database (.refl safe.invariant)
      | lock row next =>
        simp only [Service.advance]
        split
        · next free =>
          refine safe.set standing (.running _ { footing with held := row :: footing.held }) ?_ ?_
          · intro other held
            rcases List.mem_cons.mp held with rfl | before
            · exact .inr free
            · exact .inl before
          · rintro _ _ ⟨rfl, rfl⟩
            exact holds state.database (.refl safe.invariant)
        · exact safe
      | lockFirst rows next =>
        refine safe.set standing (.running _ { footing with held := _ ++ footing.held }) ?_ ?_
        · intro other held
          rcases List.mem_append.mp held with taken | before
          · have free := List.find?_some (Option.mem_toList.mp taken)
            exact .inr (of_decide_eq_true free)
          · exact .inl before
        · rintro _ _ ⟨rfl, rfl⟩
          refine holds state.database (.refl safe.invariant) _ fun found taken => ?_
          exact List.mem_of_find?_eq_some taken
      | write change next =>
        refine safe.set standing (.running _ { footing with change := change ∘ footing.change })
          (fun _ held => .inl held) ?_
        rintro _ _ ⟨rfl, rfl⟩
        exact holds
      | note fact next =>
        refine safe.set standing (.running _ { footing with notes := fact :: footing.notes })
          (fun _ held => .inl held) ?_
        rintro _ _ ⟨rfl, rfl⟩
        exact holds state.database (.refl safe.invariant)
    · exact safe
  | abort index =>
    cases standing : state.sessions[index]? with
    | none =>
      have same : state.sessions.set index .failed = state.sessions :=
        List.set_eq_of_length_le (List.getElem?_eq_none_iff.mp standing)
      simpa only [Service.step, same] using safe
    | some old => exact safe.set standing .failed (fun _ held => by cases held) nofun
  | other after =>
    obtain ⟨kept, reliable⟩ := upheld.others state after admitted safe.invariant
    exact safe.database kept fun _ _ footing _ => reliable footing.held footing.notes

/-- A statement commits nothing, or what one commit may do. -/
theorem Safe.advance (upheld : Upheld service D ok) (safe : Safe service D state)
    (admitted : ok state (.advance index)) :
    (service.step state (.advance index)).database = state.database ∨
      D.guarantee state.database (service.step state (.advance index)).database := by
  rcases service.step_advance_database state index with same | ⟨value, footing, standing, valid, same⟩
  · exact .inl same
  · rw [same]
    exact .inr (safe.commit upheld admitted standing valid).2.1

/-- A discipline that is upheld is kept in every state admitted runs reach. -/
theorem Upheld.safe {start : δ} (upheld : Upheld service D ok) (kept : D.invariant start)
    (reached : System.ReachableWhile (service.system start) ok state) : Safe service D state := by
  induction reached with
  | initial => exact .initially kept
  | next _ admitted ih => exact ih.step upheld admitted

end Discipline
end ReadCommitted
