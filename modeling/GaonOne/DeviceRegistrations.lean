import GaonOne.Access
import GaonOne.Library.ReadCommitted
import GaonOne.NotificationDelivery

/-! Device registrations, statement by statement. Registering a token locks the token's
row before it looks at the owner; unregistering looks at the owner first, and locks the
row only to write it. -/
namespace GaonOne
open Relational UnitOfWork ReadCommitted Transitions

/-- The token of a request, of the length the schema admits. -/
structure DeviceRegistrationCreate where
  token : String
  sized : 20 ≤ token.length ∧ token.length ≤ 512
  deriving DecidableEq

inductive DeviceRequest where
  /-- `rowId` is the key a new row would get. -/
  | registerDevice (subject : UUID) (payload : DeviceRegistrationCreate) (rowId : UUID)
  | unregisterDevice (subject deviceId : UUID)
  deriving DecidableEq

/-- The account a request acts for. -/
def DeviceRequest.subject : DeviceRequest → UUID
  | registerDevice subject _ _ | unregisterDevice subject _ => subject

/-- The tables these requests read and write. -/
structure DeviceBook where
  marketplace : Tables := {}
  registrations : List DeviceRegistration := []
  /-- The requests that committed, in order; no table records them. -/
  served : List DeviceRequest := []

namespace DeviceBook

@[mk_iff]
structure Constraints (book : DeviceBook) : Prop where
  ids : Unique DeviceRegistration.id book.registrations
  /-- `uq_device_registration_token`. -/
  tokens : Unique DeviceRegistration.token book.registrations

instance (book : DeviceBook) : Decidable book.Constraints := decidable_of_iff _ (constraints_iff book).symm

def registration? (book : DeviceBook) (id : UUID) : Option DeviceRegistration :=
  lookup DeviceRegistration.id id book.registrations

def ofToken (book : DeviceBook) (token : String) : Option DeviceRegistration :=
  lookup DeviceRegistration.token token book.registrations

def add (row : DeviceRegistration) (book : DeviceBook) : DeviceBook :=
  { book with registrations := book.registrations ++ [row] }

def put (row : DeviceRegistration) (book : DeviceBook) : DeviceBook :=
  { book with registrations := Relational.put DeviceRegistration.id row book.registrations }

/-- `UPDATE device_registrations SET is_active = false WHERE id = ...`. -/
def deactivate (deviceId : UUID) (book : DeviceBook) : DeviceBook :=
  { book with
    registrations := book.registrations.map fun row =>
      if row.id = deviceId then { row with isActive := false } else row }

def serve (request : DeviceRequest) (book : DeviceBook) : DeviceBook :=
  { book with served := book.served ++ [request] }

end DeviceBook

/-- What transactions lock: a row, and the entry of a token in the unique index. -/
inductive DeviceLock where
  | registration (id : UUID)
  | token (token : String)
  deriving DecidableEq, Repr

/-- What an unregistration has read. -/
inductive DeviceNote where
  /-- The registration is active and belongs to the account. -/
  | owned (userId deviceId : UUID)
  deriving DecidableEq

abbrev DeviceProgram := Program DeviceBook DeviceLock DeviceNote HTTPException

namespace DeviceProgram

def require (check : Prop) [Decidable check] (error : HTTPException) : DeviceProgram Unit :=
  Program.ofExcept (UnitOfWork.require check error)

def found (value : Option α) (error : HTTPException) : DeviceProgram α :=
  Program.ofExcept (UnitOfWork.found value error)

/-- The user a valid token names. -/
def currentUser (subject : UUID) : DeviceProgram User := do
  let db ← Program.query DeviceBook.marketplace
  Program.ofExcept (getCurrentUser db subject)

/-- The row of a token, `FOR UPDATE`: it is read again once its lock is had. -/
def lockedRegistration (token : String) : DeviceProgram (Option DeviceRegistration) := do
  let seen ← Program.query (DeviceBook.ofToken · token)
  match seen with
  | none => pure none
  | some row => do
    Program.lockRow (.registration row.id)
    Program.query (DeviceBook.ofToken · token)

/-- A first registration waits for another one of its token. -/
def insertRegistration (row : DeviceRegistration) : DeviceProgram Unit := do
  Program.lockRow (.token row.token)
  let clash ← Program.query (DeviceBook.ofToken · row.token)
  require (clash.isNone = true) ⟨409, "Device token registration conflict"⟩
  Program.flush (DeviceBook.add row)

/-- Inactive tokens can be reclaimed after logout; active ones only by their owner. -/
def claimRegistration (row : DeviceRegistration) (user : User) : DeviceProgram Unit := do
  require (¬(row.isActive = true ∧ row.userId ≠ user.id))
    ⟨409, "Device token is already active for another account"⟩
  Program.flush (DeviceBook.put { row with userId := user.id, isActive := true })

/-- `POST /notifications/devices`. -/
def registerDevice (subject : UUID) (payload : DeviceRegistrationCreate) (rowId : UUID) :
    DeviceProgram Unit := do
  let user ← currentUser subject
  let registration ← lockedRegistration payload.token
  match registration with
  | none => insertRegistration { id := rowId, userId := user.id, token := payload.token, isActive := true }
  | some row => claimRegistration row user
  Program.flush (DeviceBook.serve (.registerDevice subject payload rowId))

/-- `DELETE /notifications/devices/{device_id}`. A registration that was read as inactive
is not written. -/
def unregisterDevice (subject deviceId : UUID) : DeviceProgram Unit := do
  let user ← currentUser subject
  let seen ← Program.query (DeviceBook.registration? · deviceId)
  let registration ← found (seen.filter (·.userId = user.id)) ⟨404, "Device registration not found"⟩
  if registration.isActive then do
    Program.remember (.owned user.id deviceId)
    Program.lockRow (.registration deviceId)
    Program.flush (DeviceBook.deactivate deviceId)
    Program.flush (DeviceBook.serve (.unregisterDevice subject deviceId))
  else Program.flush (DeviceBook.serve (.unregisterDevice subject deviceId))

end DeviceProgram

def DeviceRequest.program : DeviceRequest → DeviceProgram Unit
  | registerDevice subject payload rowId => DeviceProgram.registerDevice subject payload rowId
  | unregisterDevice subject deviceId => DeviceProgram.unregisterDevice subject deviceId

def deviceService : Service DeviceBook DeviceLock DeviceNote HTTPException Unit DeviceRequest where
  program := DeviceRequest.program
  conflicts left right := left = right
  symmetric := Eq.symm
  valid := DeviceBook.Constraints
  decideConflicts := inferInstance
  decideValid _ := inferInstance

/-! ## What a commit does -/

/-- What one request does to the book, and under which locks. -/
inductive DeviceCommit (held : List DeviceLock) (before : DeviceBook) : DeviceRequest → DeviceBook → Prop where
  | inserts (locked : .token payload.token ∈ held) (fresh : before.ofToken payload.token = none)
      (own : row.id = rowId ∧ row.userId = subject ∧ row.token = payload.token) :
      DeviceCommit held before (.registerDevice subject payload rowId)
        ((before.add row).serve (.registerDevice subject payload rowId))
  | claims (listed : row ∈ before.registrations) (locked : .registration row.id ∈ held)
      (own : row.token = payload.token) (free : row.isActive = true → row.userId = subject) :
      DeviceCommit held before (.registerDevice subject payload rowId)
        ((before.put { row with userId := subject, isActive := true }).serve
          (.registerDevice subject payload rowId))
  | deactivates (locked : .registration deviceId ∈ held)
      (own : ∀ row ∈ before.registrations, row.id = deviceId → row.isActive = true → row.userId = subject) :
      DeviceCommit held before (.unregisterDevice subject deviceId)
        ((before.deactivate deviceId).serve (.unregisterDevice subject deviceId))
  | idle : DeviceCommit held before (.unregisterDevice subject deviceId)
      (before.serve (.unregisterDevice subject deviceId))

/-- What a request may rely on between two of its statements, given what it has locked. -/
structure DeviceRely (held : List DeviceLock) (before after : DeviceBook) : Prop where
  rows : ∀ row ∈ before.registrations, ∃ now ∈ after.registrations, now.id = row.id ∧ now.token = row.token
  lockedRows : ∀ row ∈ before.registrations, .registration row.id ∈ held → row ∈ after.registrations
  lockedTokens : ∀ token, .token token ∈ held → before.ofToken token = none → after.ofToken token = none

theorem DeviceRely.refl (held : List DeviceLock) (book : DeviceBook) : DeviceRely held book book where
  rows := fun row listed => ⟨row, listed, rfl, rfl⟩
  lockedRows := fun _ listed _ => listed
  lockedTokens := fun _ _ free => free

theorem DeviceRely.trans (first : DeviceRely held before middle) (second : DeviceRely held middle after) :
    DeviceRely held before after where
  rows row listed := by
    obtain ⟨between, there, key, token⟩ := first.rows row listed
    obtain ⟨now, here, same, agree⟩ := second.rows between there
    exact ⟨now, here, same.trans key, agree.trans token⟩
  lockedRows row listed locked := second.lockedRows row (first.lockedRows row listed locked) locked
  lockedTokens token locked free := second.lockedTokens token locked (first.lockedTokens token locked free)

theorem DeviceRely.weaken (rely : DeviceRely (lock :: held) before after) : DeviceRely held before after where
  rows := rely.rows
  lockedRows := fun row listed locked => rely.lockedRows row listed (List.mem_cons_of_mem _ locked)
  lockedTokens := fun token locked => rely.lockedTokens token (List.mem_cons_of_mem _ locked)

/-- The registrations that a transaction has read as its account's are not active for
another account. -/
def NotTakenOver (footing : Footing DeviceBook DeviceLock DeviceNote) (book : DeviceBook) : Prop :=
  ∀ note ∈ footing.notes, match note with
    | .owned userId deviceId => ∀ row ∈ book.registrations, row.id = deviceId → row.isActive = true →
        row.userId = userId

instance (footing : Footing DeviceBook DeviceLock DeviceNote) (book : DeviceBook) :
    Decidable (NotTakenOver footing book) :=
  List.decidableBAll _ _

def deviceDiscipline : Discipline DeviceBook DeviceLock DeviceNote where
  invariant := DeviceBook.Constraints
  guarantee before after := ∃ held request, DeviceCommit held before request after
  rely held _ := DeviceRely held
  refl held _ := DeviceRely.refl held
  trans := DeviceRely.trans
  weaken := DeviceRely.weaken
  admits := NotTakenOver
  apart mine theirs := ∀ lock ∈ mine.held, lock ∉ theirs.held

section
variable {held other : List DeviceLock} {before after book : DeviceBook} {request : DeviceRequest}
  {footing : Footing DeviceBook DeviceLock DeviceNote}

theorem DeviceBook.ofToken_none : book.ofToken token = none ↔ ∀ row ∈ book.registrations, row.token ≠ token :=
  lookup_eq_none_iff

theorem DeviceBook.mem_deactivate (deviceId : UUID) (listed : row ∈ book.registrations) :
    (if row.id = deviceId then { row with isActive := false } else row) ∈
      (book.deactivate deviceId).registrations :=
  List.mem_map_of_mem listed

/-- A commit leaves alone what others have locked. -/
theorem DeviceCommit.relies (commit : DeviceCommit held before request after) (sound : before.Constraints)
    (apart : ∀ lock ∈ held, lock ∉ other) : DeviceRely other before after := by
  cases commit with
  | @inserts payload row rowId subject locked fresh own =>
    constructor
    · exact fun old listed => ⟨old, List.mem_append_left _ listed, rfl, rfl⟩
    · exact fun old listed _ => List.mem_append_left _ listed
    · intro token theirs free
      rw [DeviceBook.ofToken_none] at free ⊢
      intro now listed
      rcases List.mem_append.mp listed with old | new
      · exact free now old
      · cases List.mem_singleton.mp new
        intro same
        rw [← same, own.2.2] at theirs
        exact apart _ locked theirs
  | @claims row subject payload rowId listed locked own free =>
    constructor
    · intro old inside
      by_cases same : old.id = row.id
      · refine ⟨{ row with userId := subject, isActive := true }, ?_, same.symm, ?_⟩
        · exact mem_put.mpr (.inl ⟨rfl, old, inside, same⟩)
        · rw [unique_eq sound.ids inside listed same]
      · exact ⟨old, mem_put.mpr (.inr ⟨inside, same⟩), rfl, rfl⟩
    · intro old inside theirs
      have differ : old.id ≠ row.id := by
        intro same
        rw [same] at theirs
        exact apart _ locked theirs
      exact mem_put.mpr (.inr ⟨inside, differ⟩)
    · intro token _ absent
      rw [DeviceBook.ofToken_none] at absent ⊢
      intro now inside
      rcases mem_put.mp inside with ⟨rfl, -⟩ | ⟨old, -⟩
      · exact absent row listed
      · exact absent now old
  | @deactivates deviceId subject locked own =>
    constructor
    · intro old inside
      refine ⟨_, DeviceBook.mem_deactivate deviceId inside, ?_, ?_⟩ <;> split <;> rfl
    · intro old inside theirs
      have differ : old.id ≠ deviceId := by
        intro same
        rw [same] at theirs
        exact apart _ locked theirs
      have kept := DeviceBook.mem_deactivate deviceId inside
      rwa [if_neg differ] at kept
    · intro token _ absent
      rw [DeviceBook.ofToken_none] at absent ⊢
      intro now inside
      obtain ⟨old, listed, rfl⟩ := List.mem_map.mp inside
      split <;> exact absent old listed
  | idle => exact ⟨fun row listed => ⟨row, listed, rfl, rfl⟩, fun _ listed _ => listed, fun _ _ free => free⟩

/-- Registrations that are active stay so, their owner the same, until the owner
unregisters. -/
def OwnersKept (before after : DeviceBook) : Prop :=
  ∀ row ∈ before.registrations, row.isActive = true →
    row ∈ after.registrations ∨
      { row with isActive := false } ∈ after.registrations ∧
        after.served = before.served ++ [.unregisterDevice row.userId row.id]

theorem DeviceCommit.ownersKept (commit : DeviceCommit held before request after)
    (sound : before.Constraints) : OwnersKept before after := by
  intro row listed active
  cases commit with
  | inserts => exact .inl (List.mem_append_left _ listed)
  | @claims claimed subject payload rowId inside locked own free =>
    left
    by_cases same : row.id = claimed.id
    · have one := unique_eq sound.ids listed inside same
      subst one
      have mine : row = { row with userId := subject, isActive := true } := by
        rw [← free active, ← active]
      rw [mine]
      exact mem_put.mpr (.inl ⟨rfl, row, listed, rfl⟩)
    · exact mem_put.mpr (.inr ⟨listed, same⟩)
  | @deactivates deviceId subject locked own =>
    have written := DeviceBook.mem_deactivate deviceId listed
    by_cases same : row.id = deviceId
    · rw [if_pos same] at written
      refine .inr ⟨written, ?_⟩
      rw [own row listed same active, same]
      rfl
    · rw [if_neg same] at written
      exact .inl written
  | idle => exact .inl listed

theorem DeviceCommit.served (commit : DeviceCommit held before request after) :
    after.served = before.served ++ [request] := by
  cases commit <;> rfl

/-! ## What a request commits -/

/-- A transaction whose change is the commit of its request, as long as its locks hold. -/
theorem commits_of_commit (request : DeviceRequest)
    (commit : ∀ now, deviceDiscipline.Later footing book now → NotTakenOver footing now →
      DeviceCommit footing.held now request (footing.change now)) :
    deviceDiscipline.Commits deviceService.valid () footing book := by
  intro now later admitted valid
  have done := commit now later admitted
  exact ⟨valid, ⟨_, _, done⟩, fun other apart => done.relies later.2 apart⟩

theorem holds_currentUser {next : User → DeviceProgram Unit}
    {post : Unit → Footing DeviceBook DeviceLock DeviceNote → DeviceBook → Prop}
    (rest : ∀ now user, deviceDiscipline.Later {} book now → user.id = subject →
      deviceDiscipline.Holds (next user) post {} now) :
    deviceDiscipline.Holds (DeviceProgram.currentUser subject >>= next) post {} book := by
  rw [Discipline.holds_bind]
  refine Discipline.Holds.query fun now later => ?_
  rw [Discipline.holds_ofExcept]
  intro user current
  simp only [getCurrentUser, found_ok, Option.filter_eq_some_iff] at current
  exact rest now user later (lookup_col current.1)

/-- The row of a token is the one that is locked. -/
theorem holds_lockedRegistration {next : Option DeviceRegistration → DeviceProgram Unit}
    {post : Unit → Footing DeviceBook DeviceLock DeviceNote → DeviceBook → Prop}
    (absent : ∀ now, deviceDiscipline.Later {} book now → deviceDiscipline.Holds (next none) post {} now)
    (present : ∀ now row, deviceDiscipline.Later {} book now → row ∈ now.registrations → row.token = token →
      deviceDiscipline.Holds (next (some row)) post { held := [.registration row.id] } now) :
    deviceDiscipline.Holds (DeviceProgram.lockedRegistration token >>= next) post {} book := by
  rw [Discipline.holds_bind]
  refine Discipline.Holds.query fun first earlier => ?_
  dsimp only [id]
  cases seen : first.ofToken token with
  | none => exact absent first earlier
  | some row =>
    refine Discipline.Holds.lockRow fun middle between => ?_
    rw [Discipline.holds_query]
    intro now later
    -- the row that was seen is there still, and no other has its token
    obtain ⟨next, there, key, same⟩ := (between.trans later.weaken).1.rows row (lookup_mem seen)
    have current : now.ofToken token = some next :=
      (lookup_eq_some_iff later.2.tokens).mpr ⟨there, same.trans (lookup_col seen)⟩
    dsimp only [id]
    rw [current, ← key]
    exact present now next (earlier.trans (between.trans later.weaken)) there (same.trans (lookup_col seen))

theorem holds_registerDevice (subject : UUID) (payload : DeviceRegistrationCreate) (rowId : UUID)
    (book : DeviceBook) :
    deviceDiscipline.Holds (DeviceProgram.registerDevice subject payload rowId)
      (deviceDiscipline.Commits deviceService.valid) {} book := by
  unfold DeviceProgram.registerDevice
  refine holds_currentUser fun now user _ named => ?_
  refine holds_lockedRegistration (fun now _ => ?_) fun now row _ listed own => ?_
  · dsimp only
    unfold DeviceProgram.insertRegistration
    rw [Discipline.holds_bind]
    refine Discipline.Holds.lockRow fun now _ => ?_
    refine Discipline.Holds.query fun now _ => ?_
    refine Discipline.Holds.check fun _ clear => ?_
    have fresh : now.ofToken payload.token = none := Option.isNone_iff_eq_none.mp ((require_ok ..).mp clear)
    refine commits_of_commit (.registerDevice subject payload rowId) fun after later _ => ?_
    exact .inserts (List.mem_singleton_self _)
      (later.1.lockedTokens _ (List.mem_singleton_self _) fresh) ⟨rfl, named, rfl⟩
  · dsimp only
    unfold DeviceProgram.claimRegistration
    rw [Discipline.holds_bind]
    refine Discipline.Holds.check fun _ checked => ?_
    have free : row.isActive = true → row.userId = subject := by
      intro active
      by_contra differs
      exact (require_ok ..).mp checked ⟨active, fun same => differs (same.trans named)⟩
    refine commits_of_commit (.registerDevice subject payload rowId) fun after later _ => ?_
    subst named
    exact .claims (later.1.lockedRows row listed (List.mem_singleton_self _)) (List.mem_singleton_self _) own free

theorem holds_unregisterDevice (subject deviceId : UUID) (book : DeviceBook) :
    deviceDiscipline.Holds (DeviceProgram.unregisterDevice subject deviceId)
      (deviceDiscipline.Commits deviceService.valid) {} book := by
  unfold DeviceProgram.unregisterDevice
  refine holds_currentUser fun now user _ named => ?_
  refine Discipline.Holds.query fun now _ => ?_
  refine Discipline.Holds.check fun registration _ => ?_
  refine Discipline.Holds.branch (fun _ => ?_) fun _ => ?_
  · refine Discipline.Holds.remember fun now _ => ?_
    refine Discipline.Holds.lockRow fun now _ => ?_
    refine commits_of_commit (.unregisterDevice subject deviceId) fun after later admitted => ?_
    subst named
    exact .deactivates (List.mem_singleton_self _) (admitted _ (List.mem_singleton_self _))
  · exact commits_of_commit _ fun after later _ => .idle

end

/-! ## Runs -/

abbrev DeviceState := State DeviceBook DeviceLock DeviceNote HTTPException Unit

/-- The rest of the program leaves registrations alone, and no unregistration commits after
another account has taken over, and holds active, the registration that was read as the
requester's. -/
def DevicesUndisturbed (state : DeviceState) : ReadCommitted.Action DeviceBook DeviceRequest → Prop
  | .advance index =>
    ∀ session ∈ state.sessions[index]?, ∀ footing ∈ session.committing, NotTakenOver footing state.database
  | .other after =>
    after.registrations = state.database.registrations ∧ after.served = state.database.served
  | _ => True

instance (state : DeviceState) (action : ReadCommitted.Action DeviceBook DeviceRequest) :
    Decidable (DevicesUndisturbed state action) :=
  match action with
  | .start _ | .abort _ => .isTrue trivial
  | .advance index =>
    inferInstanceAs (Decidable (∀ session ∈ state.sessions[index]?, ∀ footing ∈ session.committing,
      NotTakenOver footing state.database))
  | .other _ => inferInstanceAs (Decidable (_ ∧ _))

theorem device_upheld : Discipline.Upheld deviceService deviceDiscipline DevicesUndisturbed where
  starts state request _ _ := by
    cases request with
    | registerDevice subject payload rowId => exact holds_registerDevice subject payload rowId _
    | unregisterDevice subject deviceId => exact holds_unregisterDevice subject deviceId _
  others state after leaves sound := by
    refine ⟨⟨leaves.1 ▸ sound.ids, leaves.1 ▸ sound.tokens⟩, fun held _ => ⟨?_, ?_, ?_⟩⟩
    · exact fun row listed => ⟨row, leaves.1 ▸ listed, rfl, rfl⟩
    · exact fun row listed _ => leaves.1 ▸ listed
    · intro token _ free
      unfold DeviceBook.ofToken at free ⊢
      rw [leaves.1]
      exact free
  admitted _ _ _ footing allowed standing := allowed _ (Option.mem_def.mpr standing) footing rfl
  separated _ _ _ _ _ _ _ _ _ _ _ apart := fun lock mine theirs => apart lock mine lock theirs rfl

section
variable {start : DeviceBook} {state : DeviceState} {action : ReadCommitted.Action DeviceBook DeviceRequest}

theorem devices_sound (sound : start.Constraints)
    (reached : System.ReachableWhile (deviceService.system start) DevicesUndisturbed state) :
    state.database.Constraints :=
  (device_upheld.safe sound reached).invariant

/-- What a step of a run may do to the book. -/
theorem device_step (sound : start.Constraints)
    (reached : System.ReachableWhile (deviceService.system start) DevicesUndisturbed state)
    (admitted : DevicesUndisturbed state action) :
    ((deviceService.step state action).database.registrations = state.database.registrations ∧
        (deviceService.step state action).database.served = state.database.served) ∨
      ∃ held request, DeviceCommit held state.database request (deviceService.step state action).database := by
  cases action with
  | start request => exact .inl ⟨rfl, rfl⟩
  | abort index => exact .inl ⟨rfl, rfl⟩
  | other after => exact .inl admitted
  | advance index =>
    have safe := device_upheld.safe sound reached
    rcases safe.advance device_upheld admitted with same | commit
    · rw [same]
      exact .inl ⟨rfl, rfl⟩
    · exact .inr commit

theorem step_ownersKept (sound : start.Constraints)
    (reached : System.ReachableWhile (deviceService.system start) DevicesUndisturbed state)
    (admitted : DevicesUndisturbed state action) :
    OwnersKept state.database (deviceService.step state action).database := by
  rcases device_step sound reached admitted with ⟨same, -⟩ | ⟨held, request, commit⟩
  · intro row listed _
    rw [same]
    exact .inl listed
  · exact commit.ownersKept (devices_sound sound reached)

/-- Along a run, the owner's own unregistration ends an active registration. -/
def UnregisteredByOwner (start : DeviceBook) (state : DeviceState)
    (actions : List (ReadCommitted.Action DeviceBook DeviceRequest)) (row : DeviceRegistration) : Prop :=
  ∃ first action rest, actions = first ++ action :: rest ∧
    let before := (deviceService.system start).run state first
    let after := deviceService.step before action
    row ∈ before.database.registrations ∧ { row with isActive := false } ∈ after.database.registrations ∧
      after.database.served = before.database.served ++ [.unregisterDevice row.userId row.id]

/-- A registration stays active for its account until the account unregisters it. -/
theorem run_owner (sound : start.Constraints)
    (reached : System.ReachableWhile (deviceService.system start) DevicesUndisturbed state)
    (listed : row ∈ state.database.registrations) (active : row.isActive = true)
    (actions : List (ReadCommitted.Action DeviceBook DeviceRequest))
    (admitted : System.RunWhile (deviceService.system start) DevicesUndisturbed state actions) :
    row ∈ ((deviceService.system start).run state actions).database.registrations ∨
      UnregisteredByOwner start state actions row := by
  induction actions generalizing state with
  | nil => exact .inl listed
  | cons action rest ih =>
    obtain ⟨allowed, later⟩ := admitted
    rcases step_ownersKept sound reached allowed row listed active with stays | ⟨gone, asked⟩
    · rcases ih (reached.next allowed) stays later with kept | ⟨first, last, tail, same, ended⟩
      · exact .inl kept
      · exact .inr ⟨action :: first, last, tail, congrArg (action :: ·) same, ended⟩
    · exact .inr ⟨[], action, rest, rfl, listed, gone, asked⟩

end

/-- A device registration is controlled by its owner only, in every run none of whose
unregistrations commits over a registration that has been taken over. A token has one row;
a registration that is active for an account comes to be another's only after the account
itself has unregistered it; and no commit of a request changes a registration that is then
active for another account. -/
theorem registrations_controlled (sound : start.Constraints)
    (reached : System.ReachableWhile (deviceService.system start) DevicesUndisturbed state) :
    Unique DeviceRegistration.token state.database.registrations ∧
      (∀ actions, System.RunWhile (deviceService.system start) DevicesUndisturbed state actions →
        ∀ row ∈ state.database.registrations, row.isActive = true →
          ∀ now ∈ ((deviceService.system start).run state actions).database.registrations,
            now.id = row.id → now.userId ≠ row.userId → UnregisteredByOwner start state actions row) ∧
      ∀ action, DevicesUndisturbed state action → ∀ request,
        (deviceService.step state action).database.served = state.database.served ++ [request] →
          ∀ row ∈ state.database.registrations, row.isActive = true → row.userId ≠ request.subject →
            row ∈ (deviceService.step state action).database.registrations := by
  refine ⟨(devices_sound sound reached).tokens, ?_, ?_⟩
  · intro actions admitted row listed active now there key differs
    rcases run_owner sound reached listed active actions admitted with kept | unregistered
    · have same := unique_eq (devices_sound sound (reached.run actions admitted)).ids there kept key
      exact absurd (congrArg DeviceRegistration.userId same) differs
    · exact unregistered
  · intro action allowed request answered row listed active other
    rcases step_ownersKept sound reached allowed row listed active with kept | ⟨-, asked⟩
    · exact kept
    · have one : request = .unregisterDevice row.userId row.id := by
        have both := answered.symm.trans asked
        simpa using both
      rw [one] at other
      exact absurd rfl other

/-! ### A phone of two villagers -/

def phoneOwner : User :=
  { id := 1#128, role := .customer, isSuperAdmin := false, isActive := true, isVerified := true }

def borrower : User := { phoneOwner with id := 2#128 }

def sharedToken : DeviceRegistrationCreate := ⟨"one-phone-of-two-villagers", by decide⟩

/-- The one registration is active, and belongs to the phone's owner. -/
def sharedPhone : DeviceBook where
  marketplace := { catalogue := { users := [phoneOwner, borrower] } }
  registrations := [⟨30#128, phoneOwner.id, sharedToken.token, true⟩]

theorem sharedPhone_sound : sharedPhone.Constraints := by decide

/-- The owner asks twice to unregister. The first request passes the check of the owner,
the second one commits, and the borrower registers the phone. -/
def phoneHandedOver : List (ReadCommitted.Action DeviceBook DeviceRequest) :=
  .start (.unregisterDevice phoneOwner.id 30#128) :: List.replicate 3 (.advance 0) ++
    .start (.unregisterDevice phoneOwner.id 30#128) :: List.replicate 7 (.advance 1) ++
    .start (.registerDevice borrower.id sharedToken 31#128) :: List.replicate 7 (.advance 2)

theorem registrations_controlled_handedOver :
    UnregisteredByOwner sharedPhone ⟨sharedPhone, []⟩ phoneHandedOver
      ⟨30#128, phoneOwner.id, sharedToken.token, true⟩ := by
  have admitted : System.RunWhile (deviceService.system sharedPhone) DevicesUndisturbed ⟨sharedPhone, []⟩
      phoneHandedOver := by decide +kernel
  have taken : ((deviceService.system sharedPhone).run ⟨sharedPhone, []⟩ phoneHandedOver).database.registrations =
      [⟨30#128, borrower.id, sharedToken.token, true⟩] := by decide +kernel
  refine (registrations_controlled sharedPhone_sound .initial).2.1 phoneHandedOver admitted _
    (List.mem_singleton_self _) rfl ⟨30#128, borrower.id, sharedToken.token, true⟩ ?_ rfl (by decide)
  change _ ∈ ((deviceService.system sharedPhone).run ⟨sharedPhone, []⟩ phoneHandedOver).database.registrations
  rw [taken]
  exact List.mem_singleton_self _

/-- The first request then goes on, and is about to commit. -/
def staleUnregistration : List (ReadCommitted.Action DeviceBook DeviceRequest) :=
  phoneHandedOver ++ List.replicate 3 (.advance 0)

/-- The phone is the borrower's, and active; a request of its owner before deactivates it. -/
theorem stale_unregistration_deactivates :
    let before := (deviceService.system sharedPhone).run ⟨sharedPhone, []⟩ staleUnregistration
    let after := deviceService.step before (.advance 0)
    before.database.registrations = [⟨30#128, borrower.id, sharedToken.token, true⟩] ∧
      after.database.registrations = [⟨30#128, borrower.id, sharedToken.token, false⟩] ∧
      after.database.served = before.database.served ++ [.unregisterDevice phoneOwner.id 30#128] := by
  decide +kernel

end GaonOne
