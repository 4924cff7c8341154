import GaonOne.Library.ReadCommitted

/-! Requests that commit more than once, one statement at a time, under READ COMMITTED. A
commit that breaks a constraint is rolled back; the request then goes on, and sees what the
others have committed. Row locks are left out: a lock only makes a statement wait, so every
run with locks is a run without them. -/
namespace Requests
open Transitions

/-- The statements of a request, the rest depending on what each returns. -/
inductive Script (δ ε α : Type) where
  | answer (value : α)
  /-- An exception that ends the request; what it has not committed is lost. -/
  | raise (error : ε)
  | select (next : δ → Script δ ε α)
  | write (change : δ → δ) (next : Script δ ε α)
  /-- A commit, and whether the constraints let it through. -/
  | commit (next : Bool → Script δ ε α)

variable {δ κ ν ε α β ρ : Type}

namespace Script

protected def bind : Script δ ε α → (α → Script δ ε β) → Script δ ε β
  | answer value, next => next value
  | raise error, _ => raise error
  | select rest, next => select fun db => (rest db).bind next
  | write change rest, next => write change (rest.bind next)
  | commit rest, next => commit fun kept => (rest kept).bind next

instance : Monad (Script δ ε) where
  pure := answer
  bind := Script.bind

protected theorem bind_assoc (script : Script δ ε α) (first : α → Script δ ε β) (second : β → Script δ ε ρ) :
    (script.bind first).bind second = script.bind fun value => (first value).bind second := by
  induction script with
  | answer value => rfl
  | raise error => rfl
  | select next ih => exact congrArg select (funext fun db => ih db)
  | write change next ih => exact congrArg (write change) ih
  | commit next ih => exact congrArg commit (funext fun kept => ih kept)

protected theorem bind_answer (script : Script δ ε α) : script.bind answer = script := by
  induction script with
  | answer value => rfl
  | raise error => rfl
  | select next ih => exact congrArg select (funext fun db => ih db)
  | write change next ih => exact congrArg (write change) ih
  | commit next ih => exact congrArg commit (funext fun kept => ih kept)

instance : LawfulMonad (Script δ ε) :=
  LawfulMonad.mk' _ Script.bind_answer (fun _ _ => rfl) Script.bind_assoc

/-- A check that may raise, between two statements. -/
def ofExcept : Except ε α → Script δ ε α
  | .ok value => answer value
  | .error error => raise error

/-- One query. -/
def query (read : δ → α) : Script δ ε α := select fun db => answer (read db)

def flush (change : δ → δ) : Script δ ε Unit := write change (answer ())

/-- `db.commit()`, and `db.rollback()` where it is refused. -/
def tryCommit : Script δ ε Bool := commit answer

/-- The statements of a single transaction that skips no locked rows. -/
def ofProgram : ReadCommitted.Program δ κ ν ε α → Script δ ε α
  | .done value => answer value
  | .raise error => raise error
  | .select next => select fun db => ofProgram (next db)
  | .lock _ next => ofProgram next
  | .lockFirst _ next => ofProgram (next none)
  | .write change next => write change (ofProgram next)
  | .note _ next => ofProgram next

end Script

/-- A request that is running, with what it has not committed yet; one that has answered;
one that has failed. -/
inductive Session (δ ε α : Type) where
  | running (script : Script δ ε α) (change : δ → δ)
  | answered (value : α)
  | failed

/-- What is committed, and the requests with their sessions. -/
structure State (δ ε α ρ : Type) where
  database : δ
  sessions : List (ρ × Session δ ε α) := []

structure Service (δ ε α ρ : Type) where
  script : ρ → Script δ ε α
  /-- The declared constraints. -/
  valid : δ → Prop
  decideValid : DecidablePred valid

attribute [instance] Service.decideValid

namespace Service
variable (service : Service δ ε α ρ)

/-- The next statement of a running request. -/
def turn (db : δ) (change : δ → δ) : Script δ ε α → δ × Session δ ε α
  | .answer value => (db, .answered value)
  | .raise _ => (db, .failed)
  | .select next => (db, .running (next (change db)) change)
  | .write later next => (db, .running next (later ∘ change))
  | .commit next =>
    if service.valid (change db) then (change db, .running (next true) id)
    else (db, .running (next false) id)

def step (state : State δ ε α ρ) : ReadCommitted.Action δ ρ → State δ ε α ρ
  | .start request =>
    { state with sessions := state.sessions ++ [(request, .running (service.script request) id)] }
  | .advance index =>
    match state.sessions[index]? with
    | some (request, .running script change) =>
      { database := (service.turn state.database change script).1
        sessions := state.sessions.set index (request, (service.turn state.database change script).2) }
    | _ => state
  | .abort index =>
    match state.sessions[index]? with
    | some (request, .running _ _) => { state with sessions := state.sessions.set index (request, .failed) }
    | _ => state
  | .other database => { state with database }

/-- The service, started on a database. -/
def system (database : δ) : System (State δ ε α ρ) (ReadCommitted.Action δ ρ) where
  initial := ⟨database, []⟩
  step := service.step

end Service

/-! ## Disciplines -/

/-- What is kept in every committed state, what one commit may do, and what a request may
rely on between two of its statements. -/
structure Discipline (δ : Type) where
  invariant : δ → Prop
  guarantee : δ → δ → Prop
  rely : δ → δ → Prop
  refl : ∀ db, rely db db
  trans : ∀ {first second third}, rely first second → rely second third → rely first third
  /-- A commit does to the others only what they rely on. -/
  relied : ∀ {before after}, guarantee before after → rely before after

namespace Discipline
variable (D : Discipline δ) {service : Service δ ε α ρ} {db now : δ} {change : δ → δ}

/-- What others may have made of the database by the next statement. -/
def Later (db now : δ) : Prop := D.rely db now ∧ D.invariant now

/-- Whatever the others commit meanwhile, each commit of the request keeps the discipline,
and the request answers as the condition says. -/
def Holds (valid : δ → Prop) : Script δ ε α → (α → (δ → δ) → δ → Prop) → (δ → δ) → δ → Prop
  | .answer value, post, change, db => post value change db
  | .raise _, _, _, _ => True
  | .select next, post, change, db => ∀ now, D.Later db now → Holds valid (next (change now)) post change now
  | .write later next, post, change, db => Holds valid next post (later ∘ change) db
  | .commit next, post, change, db =>
    ∀ now, D.Later db now →
      (valid (change now) → D.invariant (change now) ∧ D.guarantee now (change now) ∧
        Holds valid (next true) post id (change now)) ∧
      Holds valid (next false) post id now

variable {D}

theorem Later.trans (earlier : D.Later db now) (later : D.Later now next) : D.Later db next :=
  ⟨D.trans earlier.1 later.1, later.2⟩

theorem Later.refl (kept : D.invariant db) : D.Later db db := ⟨D.refl _, kept⟩

/-- A condition that others cannot undo. -/
def Stable (D : Discipline δ) (post : α → (δ → δ) → δ → Prop) : Prop :=
  ∀ value change db now, D.Later db now → post value change db → post value change now

section
variable {valid : δ → Prop} {post : α → (δ → δ) → δ → Prop} {script : Script δ ε α}

/-- What a request will do does not depend on how far the others have come. -/
theorem Holds.later (stable : D.Stable post) (holds : D.Holds valid script post change db)
    (later : D.Later db now) : D.Holds valid script post change now := by
  induction script generalizing change db now with
  | answer value => exact stable _ _ _ _ later holds
  | raise error => trivial
  | select next => exact fun after since => holds after (later.trans since)
  | write first next ih => exact ih holds later
  | commit next => exact fun after since => holds after (later.trans since)

@[simp]
theorem holds_bind {post : β → (δ → δ) → δ → Prop} (next : α → Script δ ε β) :
    D.Holds valid (script >>= next) post change db ↔
      D.Holds valid script (fun value => D.Holds valid (next value) post) change db := by
  change D.Holds valid (script.bind next) post change db ↔ _
  induction script generalizing change db with
  | answer value => exact Iff.rfl
  | raise error => exact Iff.rfl
  | select rest ih => exact forall₂_congr fun now _ => ih _
  | write first rest ih => exact ih
  | commit rest ih =>
    refine forall₂_congr fun now _ => and_congr (forall_congr' fun _ => ?_) (ih false)
    exact and_congr_right fun _ => and_congr_right fun _ => ih true

/-! One statement, and the rest of the request. -/

theorem Holds.query {post : β → (δ → δ) → δ → Prop} {read : δ → α} {next : α → Script δ ε β}
    (rest : ∀ now, D.Later db now → D.Holds valid (next (read (change now))) post change now) :
    D.Holds valid (Script.query read >>= next) post change db := rest

theorem Holds.flush {later : δ → δ} {next : Unit → Script δ ε α}
    (rest : D.Holds valid (next ()) post (later ∘ change) db) :
    D.Holds valid (Script.flush later >>= next) post change db := rest

theorem Holds.check {post : β → (δ → δ) → δ → Prop} {check : Except ε α} {next : α → Script δ ε β}
    (rest : ∀ value, check = .ok value → D.Holds valid (next value) post change db) :
    D.Holds valid (Script.ofExcept check >>= next) post change db := by
  cases check with
  | ok value => exact rest value rfl
  | error error => trivial

theorem Holds.branch {check : Prop} [Decidable check] {left right : Script δ ε α}
    (taken : check → D.Holds valid left post change db)
    (other : ¬check → D.Holds valid right post change db) :
    D.Holds valid (if check then left else right) post change db := by
  split
  · next held => exact taken held
  · next refused => exact other refused

theorem Holds.tryCommit {next : Bool → Script δ ε α}
    (kept : ∀ now, D.Later db now → valid (change now) →
      D.invariant (change now) ∧ D.guarantee now (change now))
    (committed : ∀ now, D.Later db now → D.Later now (change now) →
      D.Holds valid (next true) post id (change now))
    (refused : ∀ now, D.Later db now → D.Holds valid (next false) post id now) :
    D.Holds valid (Script.tryCommit >>= next) post change db := by
  intro now later
  refine ⟨fun fine => ?_, refused now later⟩
  obtain ⟨sound, done⟩ := kept now later fine
  exact ⟨sound, done, committed now later ⟨D.relied done, sound⟩⟩

end

/-! A single transaction among requests that commit more than once. -/

theorem ofProgram_bind (program : ReadCommitted.Program δ κ ν ε α) (next : α → ReadCommitted.Program δ κ ν ε β) :
    Script.ofProgram (program >>= next) = Script.ofProgram program >>= fun value => Script.ofProgram (next value) := by
  change Script.ofProgram (program.bind next) = (Script.ofProgram program).bind _
  induction program with
  | done value => rfl
  | raise error => rfl
  | select rest ih => exact congrArg Script.select (funext fun db => ih db)
  | lock row rest ih => exact ih
  | lockFirst rows rest ih => exact ih none
  | write change rest ih => exact congrArg (Script.write change) ih
  | note fact rest ih => exact ih

theorem ofProgram_pure (value : α) :
    Script.ofProgram (pure value : ReadCommitted.Program δ κ ν ε α) = pure value := rfl

theorem ofProgram_query (read : δ → α) :
    Script.ofProgram (ReadCommitted.Program.query read : ReadCommitted.Program δ κ ν ε α) = Script.query read :=
  rfl

theorem ofProgram_flush (change : δ → δ) :
    Script.ofProgram (ReadCommitted.Program.flush change : ReadCommitted.Program δ κ ν ε Unit) =
      Script.flush change := rfl

theorem ofProgram_ofExcept (check : Except ε α) :
    Script.ofProgram (ReadCommitted.Program.ofExcept check : ReadCommitted.Program δ κ ν ε α) =
      Script.ofExcept check := by
  cases check <;> rfl

/-! ## Runs -/

variable (D) in
/-- What the requests and the rest of the program must meet for a discipline to be kept. -/
structure Upheld (service : Service δ ε α ρ) (answers : ρ → α → δ → Prop)
    (ok : State δ ε α ρ → ReadCommitted.Action δ ρ → Prop) : Prop where
  starts : ∀ request db, D.invariant db →
    D.Holds service.valid (service.script request) (fun value _ => answers request value) id db
  others : ∀ state after, ok state (.other after) → D.invariant state.database →
    D.Later state.database after
  lasting : ∀ request value db now, D.Later db now → answers request value db → answers request value now

variable (D) in
/-- Where a request stands: it will end as it should, or it has. -/
def Stands (service : Service δ ε α ρ) (answers : ρ → α → δ → Prop) (db : δ) : ρ × Session δ ε α → Prop
  | (request, .running script change) =>
    D.Holds service.valid script (fun value _ => answers request value) change db
  | (request, .answered value) => answers request value db
  | (_, .failed) => True

variable (D) in
/-- The invariant holds, and every request stands as it should. -/
structure Safe (service : Service δ ε α ρ) (answers : ρ → α → δ → Prop) (state : State δ ε α ρ) : Prop where
  invariant : D.invariant state.database
  stands : ∀ session ∈ state.sessions, D.Stands service answers state.database session

variable {answers : ρ → α → δ → Prop} {ok : State δ ε α ρ → ReadCommitted.Action δ ρ → Prop}
  {state : State δ ε α ρ} {action : ReadCommitted.Action δ ρ} {index : Nat}

theorem Stands.later (upheld : D.Upheld service answers ok) {session : ρ × Session δ ε α}
    (stands : D.Stands service answers db session) (later : D.Later db now) :
    D.Stands service answers now session := by
  obtain ⟨request, session⟩ := session
  cases session with
  | running script change =>
    exact Holds.later (fun value _ db now => upheld.lasting request value db now) stands later
  | answered value => exact upheld.lasting request value db now later stands
  | failed => trivial

/-- One statement leaves its request standing, and commits nothing or what a commit may. -/
theorem Stands.turn {request : ρ} {script : Script δ ε α} (kept : D.invariant db)
    (stands : D.Stands service answers db (request, .running script change)) :
    let after := service.turn db change script
    D.Stands service answers after.1 (request, after.2) ∧ D.invariant after.1 ∧
      (after.1 = db ∨ D.guarantee db after.1) := by
  cases script with
  | answer value => exact ⟨stands, kept, .inl rfl⟩
  | raise error => exact ⟨trivial, kept, .inl rfl⟩
  | select next => exact ⟨stands db (.refl kept), kept, .inl rfl⟩
  | write later next => exact ⟨stands, kept, .inl rfl⟩
  | commit next =>
    obtain ⟨committed, refused⟩ := stands db (.refl kept)
    by_cases fine : service.valid (change db)
    · obtain ⟨sound, done, rest⟩ := committed fine
      simp only [Service.turn, if_pos fine]
      exact ⟨rest, sound, .inr done⟩
    · simp only [Service.turn, if_neg fine]
      exact ⟨refused, kept, .inl trivial⟩

theorem Safe.database (upheld : D.Upheld service answers ok) (safe : D.Safe service answers state)
    (later : D.Later state.database after) : D.Safe service answers { state with database := after } :=
  ⟨later.2, fun session listed => (safe.stands session listed).later upheld later⟩

theorem Safe.set (safe : D.Safe service answers state) {session : ρ × Session δ ε α}
    (stands : D.Stands service answers state.database session) :
    D.Safe service answers { state with sessions := state.sessions.set index session } := by
  refine ⟨safe.invariant, fun other listed => ?_⟩
  rcases List.mem_or_eq_of_mem_set listed with before | rfl
  · exact safe.stands other before
  · exact stands

theorem Safe.step (upheld : D.Upheld service answers ok) (safe : D.Safe service answers state)
    (admitted : ok state action) : D.Safe service answers (service.step state action) := by
  cases action with
  | start request =>
    refine ⟨safe.invariant, fun session listed => ?_⟩
    rcases List.mem_append.mp listed with before | new
    · exact safe.stands session before
    · rw [List.mem_singleton.mp new]
      exact upheld.starts request _ safe.invariant
  | advance index =>
    unfold Service.step
    dsimp only
    split
    · next request script change standing =>
      obtain ⟨stands, kept, done⟩ := Stands.turn safe.invariant (safe.stands _ (List.mem_of_getElem? standing))
      refine Safe.set (Safe.database upheld safe ⟨?_, kept⟩) stands
      rcases done with same | done
      · rw [same]
        exact D.refl _
      · exact D.relied done
    · exact safe
  | abort index =>
    unfold Service.step
    dsimp only
    split
    · exact safe.set trivial
    · exact safe
  | other after => exact safe.database upheld (upheld.others state after admitted safe.invariant)

/-- A statement commits nothing, or what one commit may do. -/
theorem Safe.advance (safe : D.Safe service answers state) (index : Nat) :
    (service.step state (.advance index)).database = state.database ∨
      D.guarantee state.database (service.step state (.advance index)).database := by
  unfold Service.step
  dsimp only
  split
  · next request script change standing =>
    exact (Stands.turn safe.invariant (safe.stands _ (List.mem_of_getElem? standing))).2.2
  · exact .inl rfl

/-- A discipline that is upheld is kept in every state admitted runs reach. -/
theorem Upheld.safe {start : δ} (upheld : D.Upheld service answers ok) (kept : D.invariant start)
    (reached : System.ReachableWhile (service.system start) ok state) : D.Safe service answers state := by
  refine reached.invariant ⟨kept, fun _ listed => by cases listed⟩ ?_
  exact fun state action safe admitted => safe.step upheld admitted

end Discipline
end Requests
