import GaonOne.RiderLoad

/-! Who is handed a delivery. Manual and automatic assignment look at a rider's role and
flags once they hold the rider's row, and an administrator's update of access waits for
that row. A claim looks at the user that authentication loaded, and commits what that
user allowed. -/
namespace GaonOne
open Relational UnitOfWork ReadCommitted Transitions

/-- An active, verified delivery partner. -/
def EligibleRider (db : Tables) (riderId : UUID) : Prop :=
  ((db.user? riderId).any fun user => user.role = .delivery ∧ user.isActive ∧ user.isVerified) = true

instance (db : Tables) (riderId : UUID) : Decidable (EligibleRider db riderId) :=
  inferInstanceAs (Decidable (_ = true))

/-! ## Updates of access -/

namespace Tables

/-- `UPDATE users SET ... WHERE id = ...`. -/
def updateUser (id : UUID) (set : User → User) (db : Tables) : Tables :=
  { db with
    catalogue := { db.catalogue with
      users := db.catalogue.users.map fun user => if user.id = id then set user else user } }

end Tables

/-- The columns of a role update that differ from the loaded row. -/
def User.accessWritten (loaded : User) (role : UserRole) (isActive : Bool) (user : User) : User :=
  { user with
    role := if role ≠ loaded.role then role else user.role
    isActive := if isActive ≠ loaded.isActive then isActive else user.isActive }

namespace Statement

/-- The `UPDATE` of an object that differs from what was loaded. -/
def updateAccess (loaded : User) (role : UserRole) (isActive : Bool) : Statements Unit :=
  if role ≠ loaded.role ∨ isActive ≠ loaded.isActive then do
    Program.lockRow ⟨.user loaded.id, .noKeyUpdate⟩
    flushTables (Tables.updateUser loaded.id (loaded.accessWritten role isActive))
  else pure ()

/-- `PATCH /admin/users/{user_id}/role`, on the users that dispatch reads. -/
def adminUpdateUser (subject userId : UUID) (role : UserRole) (isActive : Bool) :
    Statements (Option Order) := do
  let admin ← statement (requireCapability · subject .adminManage)
  let loaded ← Program.query fun market : Market => market.tables.user? userId
  let user ← found (if userId = admin.id then some admin else loaded) ⟨404, "User not found"⟩
  if user.isSuperAdmin then do
    Program.ofExcept (ensureCapability admin .adminManage)
    require (¬(user.id ≠ admin.id ∨ role ≠ .admin ∨ isActive = false))
      ⟨403, "Super Admin account is protected"⟩
    pure none
  else do
    Program.ofExcept (if role ≠ user.role ∨ user.role = .admin then
      ensureCapability admin .adminManage else pure ())
    require (¬(user.id = admin.id ∧ (role ≠ .admin ∨ isActive = false)))
      ⟨400, "You cannot remove or deactivate your own admin access"⟩
    updateAccess user role isActive
    pure none

end Statement

/-- The requests of dispatch, and updates of access. -/
inductive RosterRequest where
  | dispatch (request : DispatchRequest)
  | adminUpdateUser (subject userId : UUID) (role : UserRole) (isActive : Bool)

def RosterRequest.program (env : Environment) : RosterRequest → Statements (Option Order)
  | dispatch request => request.program env
  | adminUpdateUser subject userId role isActive =>
    Statement.adminUpdateUser subject userId role isActive

def rosterService (env : Environment) :
    Service Market RowLock Note HTTPException (Option Order) RosterRequest where
  program := RosterRequest.program env
  conflicts := RowLock.conflicts
  symmetric := RowLock.conflicts_symm
  valid market := market.tables.Constraints
  decideConflicts := inferInstance
  decideValid _ := inferInstance

/-! ## Conditions on runs -/

/-- What the rest of the program does to users and deliveries: it adds users, and
checkouts add open deliveries. -/
def LeavesRiders (before after : Tables) : Prop :=
  LeavesDeliveries before after ∧ before.catalogue.users <+: after.catalogue.users

instance (before after : Tables) : Decidable (LeavesRiders before after) :=
  inferInstanceAs (Decidable (_ ∧ _))

/-- The rider a claim is for, as loaded. -/
def Note.claimant : Note → Option User
  | .claims loaded => some loaded
  | _ => none

def claiming (notes : List Note) : List User := notes.filterMap Note.claimant

/-- The stored row still has the role and the flags of the loaded user. -/
def SameAccess (db : Tables) (loaded : User) : Prop :=
  ((db.user? loaded.id).any fun user => user.role = loaded.role ∧ user.isActive = loaded.isActive ∧
    user.isVerified = loaded.isVerified) = true

instance (db : Tables) (loaded : User) : Decidable (SameAccess db loaded) :=
  inferInstanceAs (Decidable (_ = true))

/-- No claim commits whose rider was given another role or flag since the claim's
authentication loaded them. -/
def NoClaimOvertaken (state : State Market RowLock Note HTTPException (Option Order)) :
    ReadCommitted.Action Market RosterRequest → Prop
  | .other after => LeavesRiders state.database.tables after.tables
  | .advance index =>
    (state.sessions[index]?.all fun session => session.committing.all fun footing =>
      (claiming footing.notes).all fun loaded =>
        decide (SameAccess state.database.tables loaded)) = true
  | _ => True

instance (state : State Market RowLock Note HTTPException (Option Order)) :
    DecidablePred (NoClaimOvertaken state)
  | .other _ => inferInstanceAs (Decidable (LeavesRiders _ _))
  | .advance _ => inferInstanceAs (Decidable (_ = true))
  | .start _ => .isTrue trivial
  | .abort _ => .isTrue trivial

/-! ## What a session may rely on -/

/-- Nothing newly hands the rider a delivery. -/
def HandsNothing (riderId : UUID) (before after : Tables) : Prop :=
  ∀ delivery ∈ after.deliveries, CarriedBy riderId delivery →
    ∃ earlier ∈ before.deliveries, earlier.id = delivery.id ∧ CarriedBy riderId earlier

/-- A locked user stays as they are, and even the check of a foreign key keeps deliveries
from being handed to the user. -/
structure RosterRely (held : List RowLock) (before after : Tables) : Prop
    extends DispatchRely held before after where
  users : ∀ id, (Row.user id).forUpdate ∈ held → ∀ user,
    before.user? id = some user → after.user? id = some user
  carries : ∀ id, ⟨.user id, .keyShare⟩ ∈ held → HandsNothing id before after

theorem HandsNothing.trans (earlier : HandsNothing riderId first second)
    (later : HandsNothing riderId second third) : HandsNothing riderId first third := by
  intro delivery inside carried
  obtain ⟨next, there, same, still⟩ := later delivery inside carried
  obtain ⟨start, origin, agree, began⟩ := earlier next there still
  exact ⟨start, origin, agree.trans same, began⟩

theorem HandsNothing.refl : HandsNothing riderId db db :=
  fun delivery inside carried => ⟨delivery, inside, rfl, carried⟩

/-- Whoever newly carries a delivery was eligible when it was committed. -/
def AssignsEligible (before after : Tables) : Prop :=
  ∀ riderId, ∀ delivery ∈ after.deliveries, CarriedBy riderId delivery →
    (∃ earlier ∈ before.deliveries, earlier.id = delivery.id ∧ CarriedBy riderId earlier) ∨
      EligibleRider before riderId

def rosterDiscipline : Discipline Market RowLock Note where
  invariant market := OneEach market.tables
  guarantee before after := AssignsEligible before.tables after.tables
  rely held _ before after := RosterRely held before.tables after.tables
  refl _ _ _ := ⟨dispatchDiscipline.refl _ [] _, fun _ _ _ => id, fun _ _ => .refl⟩
  trans := by
    intro held notes first second third earlier later
    refine ⟨@dispatchDiscipline.trans held notes _ _ _ earlier.toDispatchRely later.toDispatchRely, ?_, ?_⟩
    · exact fun id locked user current => later.users id locked user (earlier.users id locked user current)
    · exact fun id locked => (earlier.carries id locked).trans (later.carries id locked)
  weaken {row held notes _ _} rely := ⟨@dispatchDiscipline.weaken row held notes _ _ rely.toDispatchRely,
    fun id locked => rely.users id (List.mem_cons_of_mem _ locked),
    fun id locked => rely.carries id (List.mem_cons_of_mem _ locked)⟩
  admits footing market := ∀ loaded ∈ claiming footing.notes, SameAccess market.tables loaded
  apart := dispatchDiscipline.apart

variable {footing : Standing} {db now : Market}

theorem roster_reliance (later : rosterDiscipline.Later footing db now) :
    dispatchDiscipline.Later footing db now :=
  ⟨later.1.toDispatchRely, later.2⟩

theorem eligible_of_users (riderId : UUID) (same : after.catalogue.users = before.catalogue.users) :
    EligibleRider after riderId ↔ EligibleRider before riderId := by
  simp only [EligibleRider, Tables.user?, same]

/-- A locked rider stays eligible. -/
theorem eligible_locked (later : rosterDiscipline.Later footing db now)
    (held : (Row.user riderId).forUpdate ∈ footing.held) (eligible : EligibleRider db.tables riderId) :
    EligibleRider now.tables riderId := by
  unfold EligibleRider at eligible ⊢
  cases stored : db.tables.user? riderId with
  | none =>
    rw [stored] at eligible
    cases eligible
  | some user => rwa [later.1.users riderId held user stored, ← stored]

/-- A stored row that says what an eligible loaded user says is eligible. -/
theorem eligible_loaded {loaded : User} (same : SameAccess tables loaded)
    (eligible : loaded.role = .delivery ∧ loaded.isActive ∧ loaded.isVerified) :
    EligibleRider tables loaded.id := by
  unfold SameAccess at same
  unfold EligibleRider
  cases stored : tables.user? loaded.id with
  | none =>
    rw [stored] at same
    cases same
  | some user =>
    rw [stored, Option.any_some, decide_eq_true_eq] at same
    rw [Option.any_some, decide_eq_true_eq, same.1, same.2.1, same.2.2]
    exact eligible

/-- A session that holds no rider and writes no user. -/
structure Unmanned (footing : Standing) : Prop where
  riders : ∀ lock ∈ footing.held, ∀ id, lock.row ≠ .user id
  users : ∀ market, (footing.change market).tables.catalogue.users = market.tables.catalogue.users

/-- Without a rider's lock nobody newly carries anything. -/
theorem commits_unmanned (valid : Market → Prop) (value : Option Order)
    (commits : dispatchDiscipline.Commits valid value footing db) (unmanned : Unmanned footing) :
    rosterDiscipline.Commits valid value footing db := by
  intro now later _ sound
  obtain ⟨kept, -, others⟩ := commits now (roster_reliance later) trivial sound
  have idle (riderId : UUID) : HandsNothing riderId now.tables (footing.change now).tables := by
    refine (others { held := [(Row.user riderId).forUpdate] } ?_).riders riderId
      (List.mem_singleton_self _)
    intro lock mine held theirs clash
    cases List.mem_singleton.mp theirs
    exact unmanned.riders lock mine riderId clash.1
  refine ⟨kept, fun riderId delivery inside carried => .inl (idle riderId delivery inside carried),
    fun other apart => ⟨others other apart, fun id _ user current => ?_, fun id _ => idle id⟩⟩
  rwa [Tables.user?, unmanned.users now]

/-- A session that hands deliveries to one rider, who is locked, and eligible in the
stored row or as the claim loaded them. -/
def Assigns (footing : Standing) (db : Market) : Prop :=
  ∃ riderId, (Row.user riderId).forUpdate ∈ footing.held ∧
    (EligibleRider db.tables riderId ∨ ∃ loaded ∈ claiming footing.notes, loaded.id = riderId ∧
      loaded.role = .delivery ∧ loaded.isActive ∧ loaded.isVerified) ∧
    ∀ market, (footing.change market).tables.catalogue.users = market.tables.catalogue.users ∧
      ∀ delivery ∈ (footing.change market).tables.deliveries,
        delivery ∈ market.tables.deliveries ∨ delivery.deliveryPartnerId = some riderId

theorem commits_assigns (valid : Market → Prop) (value : Option Order)
    (commits : dispatchDiscipline.Commits valid value footing db) (assigns : Assigns footing db) :
    rosterDiscipline.Commits valid value footing db := by
  intro now later admitted sound
  obtain ⟨kept, -, others⟩ := commits now (roster_reliance later) trivial sound
  obtain ⟨riderId, held, eligible, writes⟩ := assigns
  refine ⟨kept, fun id delivery inside carried => ?_, fun other apart => ?_⟩
  · rcases (writes now).2 delivery inside with before | assigned
    · exact .inl ⟨delivery, before, rfl, carried⟩
    · cases assigned.symm.trans carried.1
      rcases eligible with eligible | ⟨loaded, claims, rfl, eligible⟩
      · exact .inr (eligible_locked later held eligible)
      · exact .inr (eligible_loaded (admitted loaded claims) eligible)
  · refine ⟨others other apart, fun id _ user current => ?_, fun id shared delivery inside carried => ?_⟩
    · rwa [Tables.user?, (writes now).1]
    · rcases (writes now).2 delivery inside with before | assigned
      · exact ⟨delivery, before, rfl, carried⟩
      · cases assigned.symm.trans carried.1
        exact absurd (RowLock.update_conflicts (.user riderId) .keyShare) (apart _ held _ shared)

/-! ## Requests that hand nobody a delivery -/

@[simp]
theorem putListings_users (listings : List StoreProduct) (db : Tables) :
    (db.putListings listings).catalogue.users = db.catalogue.users := by
  rw [Tables.putListings_eq]

@[simp]
theorem recordRefund_users (order : Order) (reason : String) (draws : Draws) (db : Tables) :
    (Statement.recordRefund order reason draws db).catalogue.users = db.catalogue.users := by
  rcases recordRefund_cases order reason draws db with same | ⟨refund, paymentStatus, same⟩ <;>
    rw [same]
  rfl

@[simp]
theorem takeBackSettlement_users (order : Order) (reason : String) (draws : Draws) (db : Tables) :
    (Statement.takeBackSettlement order reason draws db).catalogue.users = db.catalogue.users := by
  obtain ⟨_, _, same⟩ := takeBackSettlement_eq order reason draws db
  rw [same]

@[simp]
theorem recordSettlement_users (order : Order) (draws : Draws) (db : Tables) :
    (recordSettlement order draws db).catalogue.users = db.catalogue.users := by
  unfold recordSettlement
  split
  · next result entry ran =>
    unfold ensureSettlementEntry at ran
    split at ran
    · cases ran
      rfl
    · split at ran
      · simp only [found_bind_ok, flushRows_bind_ok, pure_ok, Prod.mk.injEq] at ran
        obtain ⟨store, -, -, rfl, -⟩ := ran
        rfl
      · cases ran
        rfl
  · rfl

/-- The requests whose sessions lock no rider. -/
def EndsUnmanned (program : Statements (Option Order)) : Prop :=
  ∀ db, rosterDiscipline.Holds program (fun _ footing _ => Unmanned footing) {} db

theorem updateDeliveryStatus_unmanned :
    EndsUnmanned (Statement.updateDeliveryStatus subject deliveryId status draws) := by
  intro db
  unfold Statement.updateDeliveryStatus
  refine Holds.statement fun _ _ _ _ => Discipline.Holds.check fun _ _ => Holds.require fun _ => ?_
  refine Holds.locked rfl fun _ _ _ _ _ _ => Discipline.Holds.check fun _ _ => ?_
  refine Holds.require fun _ => Holds.locked rfl fun _ _ _ _ _ _ => ?_
  refine Discipline.Holds.check fun _ _ => Discipline.Holds.check fun _ _ => ?_
  exact ⟨by simp, fun market => by simp [Tables.putDelivery, Tables.putOrder]⟩

theorem adminUnassignDelivery_unmanned :
    EndsUnmanned (Statement.adminUnassignDelivery subject deliveryId draws) := by
  intro db
  unfold Statement.adminUnassignDelivery
  refine Holds.statement fun _ _ _ _ => Holds.locked rfl fun _ _ _ _ _ _ => ?_
  refine Holds.require fun _ => Holds.locked rfl fun _ _ _ _ _ _ => Holds.require fun _ => ?_
  refine Discipline.Holds.check fun _ _ => ?_
  exact ⟨by simp, fun market => by simp [Tables.putDelivery]⟩

theorem failDelivery_unmanned :
    EndsUnmanned (Statement.failDelivery subject deliveryId payload draws) := by
  intro db
  unfold Statement.failDelivery
  refine Holds.statement fun _ _ _ _ => Discipline.Holds.check fun _ _ => Holds.require fun _ => ?_
  refine Holds.locked rfl fun _ _ _ _ _ _ => Holds.locked rfl fun _ _ _ _ _ _ => ?_
  refine Discipline.Holds.check fun _ _ => Holds.require fun _ => Discipline.Holds.check fun _ _ => ?_
  exact ⟨by simp, fun market => by simp [Tables.putDelivery]⟩

theorem recoverFailedDelivery_unmanned :
    EndsUnmanned (Statement.recoverFailedDelivery subject deliveryId draws) := by
  intro db
  unfold Statement.recoverFailedDelivery
  refine Holds.statement fun _ _ _ _ => Holds.locked rfl fun _ _ _ _ _ _ => ?_
  refine Holds.locked rfl fun _ _ _ _ _ _ => Holds.require fun _ => Holds.require fun _ => ?_
  refine Discipline.Holds.check fun _ _ => ?_
  exact ⟨by simp, fun market => by simp [Tables.putDelivery]⟩

theorem resolveFailedDelivery_unmanned :
    EndsUnmanned (Statement.resolveFailedDelivery subject deliveryId resolution notes draws) := by
  intro db
  unfold Statement.resolveFailedDelivery
  refine Holds.statement fun _ _ _ _ => Holds.require fun _ => ?_
  refine Holds.locked rfl fun _ _ _ _ _ _ => Holds.locked rfl fun _ _ _ _ _ _ => ?_
  refine Holds.require fun _ => ?_
  cases resolution with
  | reassign =>
    refine Holds.require fun _ => Holds.require fun _ => Discipline.Holds.check fun _ _ => ?_
    exact ⟨by simp, fun market => by simp [Tables.putDelivery]⟩
  | returnToStore =>
    refine Discipline.Holds.check fun _ _ => Discipline.Holds.check fun _ _ => Holds.require fun _ => ?_
    refine Discipline.Holds.query fun _ _ => Holds.require fun _ => ?_
    rw [Discipline.holds_bind]
    refine holds_restoreOrderStockOnce (fun _ => ?_) fun _ _ _ _ _ _ _ _ _ _ _ _ _ => ?_
    · exact Discipline.Holds.check fun _ _ => ⟨by simp, fun market => by simp [Tables.putOrder]⟩
    · refine Discipline.Holds.check fun _ _ => ⟨?_, fun market => by simp [Tables.putOrder]⟩
      simp [or_imp, forall_and]

theorem completeDeliveryWithFinancials_unmanned :
    EndsUnmanned (Statement.completeDeliveryWithFinancials subject deliveryId draws) := by
  intro db
  unfold Statement.completeDeliveryWithFinancials
  refine Holds.statement fun _ _ _ _ => Discipline.Holds.check fun _ _ => ?_
  refine Holds.locked rfl fun _ _ _ _ _ _ => Holds.locked rfl fun _ _ _ _ _ _ => ?_
  refine Discipline.Holds.check fun _ _ => Holds.require fun _ => Holds.require fun _ => ?_
  refine Holds.require fun _ => Discipline.Holds.query fun _ _ => Holds.found fun _ _ => ?_
  refine Holds.statement fun _ _ _ _ => Discipline.Holds.check fun _ _ => ?_
  refine Discipline.Holds.check fun _ _ => ?_
  refine Discipline.Holds.flush (Discipline.Holds.branch (fun _ => ?_) fun _ => ?_)
  · refine Holds.statement fun _ _ _ _ => ?_
    exact ⟨by simp, fun market => by simp [Tables.putDelivery, Tables.putOrder]⟩
  · exact ⟨by simp, fun market => by simp [Tables.putDelivery, Tables.putOrder]⟩

/-! ## Assignments -/

theorem holds_assigns {draws : Draws} (unchanged : footing.change = id)
    (held : (Row.user riderId).forUpdate ∈ footing.held)
    (eligible : EligibleRider db.tables riderId ∨ ∃ loaded ∈ claiming footing.notes,
      loaded.id = riderId ∧ loaded.role = .delivery ∧ loaded.isActive ∧ loaded.isVerified)
    (assigned : assignedDelivery delivery riderId draws.now = .ok new) :
    rosterDiscipline.Holds (flushTables (·.putDelivery new) >>= fun _ => pure none)
      (fun (_ : Option Order) => Assigns) footing db := by
  obtain ⟨-, rfl⟩ := assignedDelivery_ok.mp assigned
  change Assigns { footing with change := Market.change (·.putDelivery _) ∘ footing.change } db
  refine ⟨riderId, held, eligible, fun market => ⟨by simp [unchanged, Tables.putDelivery], ?_⟩⟩
  intro row inside
  simp only [unchanged, Function.comp_id, Market.change_tables, Tables.putDelivery] at inside
  rcases mem_put.mp inside with ⟨rfl, -⟩ | ⟨before, -⟩
  · exact .inr rfl
  · exact .inl before

theorem claimDelivery_assigns :
    rosterDiscipline.Holds (Statement.claimDelivery subject deliveryId draws) (fun _ => Assigns) {}
      db := by
  unfold Statement.claimDelivery
  refine Holds.statement fun _ _ user _ => Discipline.Holds.remember fun _ _ => ?_
  refine Discipline.Holds.check fun _ role => Holds.locked rfl fun delivery _ _ _ _ _ => ?_
  refine Holds.locked rfl fun order _ _ _ _ _ => Holds.require fun _ => ?_
  refine Holds.locked rfl fun row _ _ asked rider same => ?_
  have rowId : row.id = user.id := lookup_col asked
  obtain ⟨own, flags⟩ := Option.filter_eq_some_iff.mp same
  -- the object that authentication loaded, not the row just locked
  cases own
  simp only [requireRoles, require_ok, List.mem_singleton] at role
  refine Discipline.Holds.query fun _ _ => Holds.require fun _ => ?_
  refine Discipline.Holds.check fun new assigned => holds_assigns rfl (by simp [rowId]) (.inr ?_) assigned
  exact ⟨user, by simp [claiming, Note.claimant], rfl, role, Bool.and_eq_true_iff.mp flags⟩

theorem adminAssignDelivery_assigns :
    rosterDiscipline.Holds (Statement.adminAssignDelivery subject deliveryId riderId draws)
      (fun _ => Assigns) {} db := by
  unfold Statement.adminAssignDelivery
  refine Holds.statement fun _ _ admin capable => ?_
  refine Holds.locked rfl fun delivery _ _ _ _ _ => ?_
  refine Holds.locked rfl fun order _ _ _ _ _ => Holds.require fun _ => ?_
  refine Holds.locked rfl fun row third riding asked rider same => ?_
  obtain ⟨loaded, flags⟩ := Option.filter_eq_some_iff.mp same
  have rowId : row.id = riderId := lookup_col asked
  have partnerOf := of_decide_eq_true flags
  have fresh : rider = row := by
    have held : (if row.id = admin.id then admin else row) = rider := Option.some.inj loaded
    -- the administrator's own object says administrator
    split at held
    · subst held
      have capability := ((requireCapability_ok ..).mp capable).2.2
      cases (hasCapability_admin capability).symm.trans partnerOf.1
    · exact held.symm
  subst fresh
  have eligible : EligibleRider third.tables rider.id := by
    rw [rowId]
    simp [EligibleRider, show third.tables.user? riderId = some rider from asked, partnerOf]
  refine Discipline.Holds.query fun fourth looking => Holds.require fun _ => ?_
  refine Discipline.Holds.check fun new assigned => ?_
  exact holds_assigns rfl (by simp) (.inl (eligible_locked looking (by simp) eligible)) assigned

/-- Whoever dispatch picks is eligible, and held. -/
theorem nearestEligibleRider_eligible {next : UUID → Statements (Option Order)}
    {post : Option Order → Standing → Market → Prop} (unchanged : footing.change = id)
    (rest : ∀ riderId now held, EligibleRider now.tables riderId →
      rosterDiscipline.Holds (next riderId) post
        { footing with held := (Row.user riderId).forUpdate :: (held ++ footing.held) } now) :
    rosterDiscipline.Holds
      (Statement.nearestEligibleRider env store maxRadiusKm moment >>= fun riderId =>
        Statement.found riderId error >>= next) post footing db := by
  rw [Discipline.holds_bind]
  refine Discipline.Holds.query fun ranked ranking => ?_
  rw [Discipline.holds_bind]
  refine holds_selectSkipLocked ranking.2 (fun now held later => ?_)
    fun riderId rider now held later _ read => ?_
  · exact Holds.found fun _ absent => by cases absent
  refine Holds.found fun found same => ?_
  cases same
  rw [unchanged] at read
  obtain ⟨stored, flags⟩ := Option.filter_eq_some_iff.mp read
  have own : rider.id = riderId := lookup_col stored
  subst own
  refine rest rider.id now held ?_
  rw [EligibleRider, show now.tables.user? rider.id = some rider from stored]
  exact flags

theorem autoAssignDelivery_assigns :
    rosterDiscipline.Holds (Statement.autoAssignDelivery env subject deliveryId maxRadiusKm draws)
      (fun _ => Assigns) {} db := by
  unfold Statement.autoAssignDelivery
  refine Holds.statement fun _ _ _ _ => Holds.require fun _ => ?_
  refine Holds.locked rfl fun delivery _ _ _ _ _ => ?_
  refine Holds.locked rfl fun order _ _ _ _ _ => Holds.require fun _ => ?_
  refine Discipline.Holds.query fun _ _ => Holds.found fun store _ => ?_
  refine nearestEligibleRider_eligible rfl fun riderId ranked locks eligible => ?_
  refine Holds.locked rfl fun rider riding later asked _ same => ?_
  cases same
  have own : rider.id = riderId := lookup_col asked
  subst own
  have ridden := eligible_locked later (by simp) eligible
  refine Discipline.Holds.query fun _ looking => Holds.require fun _ => ?_
  refine Discipline.Holds.check fun new assigned => ?_
  exact holds_assigns rfl (by simp) (.inl (eligible_locked looking (by simp) ridden)) assigned

theorem dispatchReadyDelivery_assigns :
    rosterDiscipline.Holds (Statement.dispatchReadyDelivery env radiusKm seen draws)
      (fun _ => Assigns) {} db := by
  unfold Statement.dispatchReadyDelivery
  refine Discipline.Holds.query fun first waiting => ?_
  rw [Discipline.holds_bind]
  refine holds_selectSkipLocked waiting.2 (fun _ _ _ => Holds.missing) fun id delivery _ _ _ _ _ => ?_
  refine Holds.found fun _ _ => Holds.locked rfl fun order _ _ _ _ _ => Holds.require fun _ => ?_
  refine Discipline.Holds.query fun _ _ => Holds.found fun store _ => ?_
  refine nearestEligibleRider_eligible rfl fun riderId ranked locks eligible => ?_
  refine Discipline.Holds.query fun _ asking => Holds.found fun _ _ => ?_
  have asked := eligible_locked asking (by simp) eligible
  refine Discipline.Holds.query fun _ looking => Holds.require fun _ => ?_
  refine Discipline.Holds.check fun new assigned => ?_
  exact holds_assigns rfl (by simp) (.inl (eligible_locked looking (by simp) asked)) assigned

/-! ## Updates of access -/

theorem Tables.user?_updateUser {set : User → User} (keeps : ∀ user, (set user).id = user.id)
    (id other : UUID) (db : Tables) :
    (db.updateUser id set).user? other =
      (db.user? other).map fun user => if user.id = id then set user else user :=
  lookup_update keeps id other db.catalogue.users

/-- An update of access, committed: locked riders are not it. -/
theorem commits_access (loaded : User) (role : UserRole) (isActive : Bool) (valid : Market → Prop)
    (value : Option Order) :
    rosterDiscipline.Commits valid value
      { held := [⟨.user loaded.id, .noKeyUpdate⟩]
        change := Market.change (Tables.updateUser loaded.id (loaded.accessWritten role isActive)) }
      db := by
  intro now later _ _
  refine ⟨⟨later.2.ids, later.2.free, later.2.sole⟩,
    fun riderId delivery inside carried => .inl ⟨delivery, inside, rfl, carried⟩, ?_⟩
  intro other locks
  refine ⟨⟨fun _ _ _ current => current, fun _ _ delivery inside carried =>
    ⟨delivery, inside, rfl, carried⟩⟩, fun id held user current => ?_, fun _ _ => .refl⟩
  have differ : id ≠ loaded.id := by
    rintro rfl
    exact locks _ (List.mem_singleton_self _) _ held ⟨rfl, rfl⟩
  have own : user.id = id := lookup_col current
  have written := @Tables.user?_updateUser (loaded.accessWritten role isActive) (fun _ => rfl)
    loaded.id id now.tables
  rw [Market.change_tables, written, current, Option.map_some, own, if_neg differ]

theorem commits_nothing (valid : Market → Prop) (value : Option Order) :
    rosterDiscipline.Commits valid value {} db :=
  commits_unmanned valid value (commits_elsewhere (fun _ => rfl) valid value)
    ⟨by simp, fun _ => rfl⟩

theorem accessUpdate_upholds (valid : Market → Prop) :
    rosterDiscipline.Holds (Statement.adminUpdateUser subject userId role isActive)
      (rosterDiscipline.Commits valid) {} db := by
  unfold Statement.adminUpdateUser
  refine Holds.statement fun _ _ admin _ => Discipline.Holds.query fun _ _ => ?_
  refine Holds.found fun user _ => Discipline.Holds.branch (fun _ => ?_) fun _ => ?_
  · exact Discipline.Holds.check fun _ _ => Holds.require fun _ => commits_nothing valid none
  · refine Discipline.Holds.check fun _ _ => Holds.require fun _ => ?_
    unfold Statement.updateAccess
    rw [Discipline.holds_bind]
    refine Discipline.Holds.branch (fun _ => ?_) fun _ => ?_
    · refine Discipline.Holds.lockRow fun _ _ => Discipline.Holds.flush ?_
      exact commits_access user role isActive valid none
    · exact commits_nothing valid none

/-! ## Runs -/

theorem DispatchRequest.upholds_roster (env : Environment) (request : DispatchRequest)
    (valid : Market → Prop) :
    rosterDiscipline.Holds (RosterRequest.program env (.dispatch request))
      (rosterDiscipline.Commits valid) {} db := by
  have unmanned {program : Statements (Option Order)} (ends : EndsUnmanned program)
      (upholds : ∀ db, dispatchDiscipline.Holds program (dispatchDiscipline.Commits valid) {} db) :
      rosterDiscipline.Holds program (rosterDiscipline.Commits valid) {} db :=
    (((upholds db).under roster_reliance).both (ends db)).mono fun value footing db ended =>
      commits_unmanned valid value ended.1 ended.2
  have assigns {program : Statements (Option Order)}
      (ends : rosterDiscipline.Holds program (fun _ => Assigns) {} db)
      (upholds : dispatchDiscipline.Holds program (dispatchDiscipline.Commits valid) {} db) :
      rosterDiscipline.Holds program (rosterDiscipline.Commits valid) {} db :=
    ((upholds.under roster_reliance).both ends).mono fun value footing db ended =>
      commits_assigns valid value ended.1 ended.2
  cases request with
  | claimDelivery => exact assigns claimDelivery_assigns (claimDelivery_upholds valid)
  | assignDelivery => exact assigns adminAssignDelivery_assigns (adminAssignDelivery_upholds valid)
  | autoAssignDelivery => exact assigns autoAssignDelivery_assigns (autoAssignDelivery_upholds valid)
  | dispatchReadyDelivery =>
    exact assigns dispatchReadyDelivery_assigns (dispatchReadyDelivery_upholds valid)
  | updateDeliveryStatus =>
    exact unmanned updateDeliveryStatus_unmanned fun _ => updateDeliveryStatus_upholds valid
  | unassignDelivery =>
    exact unmanned adminUnassignDelivery_unmanned fun _ => adminUnassignDelivery_upholds valid
  | failDelivery => exact unmanned failDelivery_unmanned fun _ => failDelivery_upholds valid
  | recoverFailedDelivery =>
    exact unmanned recoverFailedDelivery_unmanned fun _ => recoverFailedDelivery_upholds valid
  | resolveFailedDelivery =>
    exact unmanned resolveFailedDelivery_unmanned fun _ => resolveFailedDelivery_upholds valid
  | completeDelivery =>
    exact unmanned completeDeliveryWithFinancials_unmanned fun _ =>
      completeDeliveryWithFinancials_upholds valid

theorem roster_upheld (env : Environment) :
    Discipline.Upheld (rosterService env) rosterDiscipline NoClaimOvertaken where
  starts := by
    intro state request _ _
    cases request with
    | dispatch request => exact request.upholds_roster env _
    | adminUpdateUser => exact accessUpdate_upholds _
  others := by
    rintro state after ⟨leaves, fresh, grown⟩ kept
    have dispatching := (dispatch_upheld env).others ⟨state.database, []⟩ after leaves kept
    have stays : ∀ id user, state.database.tables.user? id = some user →
        after.tables.user? id = some user := by
      intro id user current
      rw [Tables.user?, lookup, ← grown, List.find?_append]
      rw [Tables.user?, lookup] at current
      rw [current]
      rfl
    exact ⟨dispatching.1, fun held notes => ⟨dispatching.2 held notes, fun id _ => stays id, fun id _ =>
      (dispatching.2 [(Row.user id).forUpdate] notes).riders id (List.mem_singleton_self _)⟩⟩
  admitted := by
    intro state index value footing admitted standing loaded claims
    simp only [NoClaimOvertaken, standing, Session.committing, Option.all_some, List.all_eq_true,
      decide_eq_true_eq] at admitted
    exact admitted loaded claims
  separated := fun _ _ _ _ _ _ _ _ _ _ _ apart => apart

/-- Whoever newly carries a delivery is, as the step commits it, eligible, and the session
that commits holds their row. -/
def RidersVetted (env : Environment) (state : State Market RowLock Note HTTPException (Option Order))
    (action : ReadCommitted.Action Market RosterRequest) : Prop :=
  ∀ riderId, ∀ delivery ∈ ((rosterService env).step state action).database.tables.deliveries,
    CarriedBy riderId delivery →
      (∃ earlier ∈ state.database.tables.deliveries,
        earlier.id = delivery.id ∧ CarriedBy riderId earlier) ∨
      (EligibleRider state.database.tables riderId ∧ ∃ index footing, action = .advance index ∧
        state.sessions[index]?.bind Session.committing = some footing ∧
        (Row.user riderId).forUpdate ∈ footing.held)

/-- While one session holds a rider's row, no other changes it. -/
def LockedRidersStay (env : Environment)
    (state : State Market RowLock Note HTTPException (Option Order))
    (action : ReadCommitted.Action Market RosterRequest) : Prop :=
  ∀ holder program footing, action ≠ .advance holder →
    state.sessions[holder]? = some (.running program footing) →
    ∀ riderId, (Row.user riderId).forUpdate ∈ footing.held → ∀ user,
      state.database.tables.user? riderId = some user →
      ((rosterService env).step state action).database.tables.user? riderId = some user

/-- However updates of access, claims, manual and automatic assignments and the rest of
dispatch interleave: as long as no claim commits past a change of its rider's role or
flags, whoever is handed a delivery was an active, verified delivery partner, in a row
that stood still while the session that assigned held it. -/
theorem assigned_riders_eligible (env : Environment) {start : Market}
    (distinct : OneEach start.tables)
    (reached : System.ReachableWhile ((rosterService env).system start) NoClaimOvertaken state)
    (admitted : NoClaimOvertaken state action) :
    RidersVetted env state action ∧ LockedRidersStay env state action := by
  have safe := (roster_upheld env).safe distinct reached
  have carried (same : ((rosterService env).step state action).database = state.database) :
      RidersVetted env state action ∧ LockedRidersStay env state action := by
    refine ⟨fun riderId delivery inside loaded => .inl ⟨delivery, ?_, rfl, loaded⟩, ?_⟩
    · rwa [same] at inside
    · intro holder program footing _ _ riderId _ user current
      rwa [same]
  cases action with
  | start request => exact carried rfl
  | abort index => exact carried rfl
  | other after =>
    obtain ⟨-, reliable⟩ := (roster_upheld env).others state after admitted safe.invariant
    refine ⟨fun riderId delivery inside loaded => .inl ?_, ?_⟩
    · exact (reliable [(Row.user riderId).forUpdate] []).riders riderId (List.mem_singleton_self _)
        delivery inside loaded
    · intro holder program footing _ _ riderId held user current
      exact (reliable footing.held footing.notes).users riderId held user current
  | advance index =>
    rcases (rosterService env).step_advance_database state index with
      same | ⟨value, footing, standing, valid, same⟩
    · exact carried same
    · obtain ⟨-, eligible, stays⟩ := safe.commit (roster_upheld env) admitted standing valid
      refine ⟨fun riderId delivery inside loaded => ?_, ?_⟩
      · rw [same] at inside
        by_cases locked : (Row.user riderId).forUpdate ∈ footing.held
        · rcases eligible riderId delivery inside loaded with before | eligible
          · exact .inl before
          · refine .inr ⟨eligible, index, footing, rfl, ?_, locked⟩
            rw [standing, Option.bind_some, Session.committing]
        · refine .inl ((safe.leaves (roster_upheld env) admitted standing valid
            { held := [⟨.user riderId, .keyShare⟩] } ?_).carries riderId
            (List.mem_singleton_self _) delivery inside loaded)
          intro lock mine held theirs clash
          cases List.mem_singleton.mp theirs
          exact locked (RowLock.forUpdate_of_conflicts clash ▸ mine)
      · intro holder program other differ there riderId held user current
        rw [same]
        have apart : holder ≠ index := fun same => differ (by rw [same])
        exact (stays holder program other apart there).users riderId held user current

/-! ## One rider, deactivated -/

abbrev RosterAction := ReadCommitted.Action Market RosterRequest

def rosterState (actions : List RosterAction) :
    State Market RowLock Note HTTPException (Option Order) :=
  ((rosterService sampleEnvironment).system {}).run ⟨{}, []⟩ actions

/-- A claim authenticates, an administrator deactivates the rider, and the claim goes on to
its last statement. -/
def overtakenClaim : List RosterAction :=
  [.other twoReady, .start (.dispatch (.claimDelivery 4 1 (sampleDraws 3))),
    .start (.adminUpdateUser 3 4 .delivery false)] ++
    List.replicate 2 (.advance 0) ++ List.replicate 6 (.advance 1) ++ List.replicate 11 (.advance 0)

/-- The claim hands the delivery to a rider who is inactive by then. -/
theorem overtaken_claim_unvetted :
    ¬RidersVetted sampleEnvironment (rosterState overtakenClaim) (.advance 0) := by
  have handed : (∃ delivery ∈ ((rosterService sampleEnvironment).step (rosterState overtakenClaim)
        (.advance 0)).database.tables.deliveries,
        delivery.deliveryPartnerId = some 4 ∧ delivery.status = .assigned) ∧
      (∀ delivery ∈ (rosterState overtakenClaim).database.tables.deliveries,
        delivery.deliveryPartnerId = none) ∧
      ¬EligibleRider (rosterState overtakenClaim).database.tables 4 := by
    decide +kernel
  obtain ⟨⟨delivery, inside, rider, assigned⟩, idle, inactive⟩ := handed
  intro vetted
  rcases vetted 4 delivery inside ⟨rider, .inl assigned⟩ with ⟨earlier, there, -, carried⟩ | eligible
  · cases (idle earlier there).symm.trans carried.1
  · exact inactive eligible.1

/-- An administrator hands the delivery to the rider while another deactivates them, and
waits for the rider's row. -/
def waitingUpdate : List RosterAction :=
  [.other twoReady, .start (.dispatch (.assignDelivery 3 1 4 (sampleDraws 3))),
    .start (.adminUpdateUser 3 4 .delivery false)] ++
    List.replicate 10 (.advance 0) ++ List.replicate 4 (.advance 1) ++ List.replicate 2 (.advance 0)

theorem assigned_riders_eligible_waiting :
    (∃ delivery ∈ ((rosterService sampleEnvironment).step (rosterState waitingUpdate)
        (.advance 0)).database.tables.deliveries, delivery.deliveryPartnerId = some 4) ∧
      RidersVetted sampleEnvironment (rosterState waitingUpdate) (.advance 0) ∧
      LockedRidersStay sampleEnvironment (rosterState waitingUpdate) (.advance 0) := by
  have distinct : OneEach ({} : Market).tables := ⟨List.nodup_nil, by simp, by simp⟩
  have admitted : System.RunWhile ((rosterService sampleEnvironment).system {}) NoClaimOvertaken
      ⟨{}, []⟩ waitingUpdate := by
    decide +kernel
  have last : NoClaimOvertaken (rosterState waitingUpdate) (.advance 0) := by decide +kernel
  exact ⟨by decide +kernel,
    assigned_riders_eligible sampleEnvironment distinct (.run .initial waitingUpdate admitted) last⟩

end GaonOne
