import GaonOne.DispatchStatements
import GaonOne.PaymentProgress

/-! One active delivery per rider. An assignment holds the delivery's row, and looks for
the rider's other deliveries in a statement of its own once it holds the rider's row;
so between that look and its commit nobody else can hand the rider a delivery, however
the statements of the other requests fall. -/
namespace GaonOne
open Relational UnitOfWork ReadCommitted Transitions

/-- Assigned or picked up, by this rider. -/
def CarriedBy (riderId : UUID) (delivery : Delivery) : Prop :=
  delivery.deliveryPartnerId = some riderId ∧
    (delivery.status = .assigned ∨ delivery.status = .pickedUp)

/-- Deliveries are told apart by their key, open ones have no rider, and no two are
carried by one rider. -/
structure OneEach (db : Tables) : Prop where
  ids : Relational.Unique Delivery.id db.deliveries
  free : ∀ delivery ∈ db.deliveries, delivery.status = .unassigned → delivery.deliveryPartnerId = none
  sole : ∀ riderId, ∀ first ∈ db.deliveries, ∀ second ∈ db.deliveries,
    CarriedBy riderId first → CarriedBy riderId second → first = second

/-- A delivery keeps its rider, or it is given back. -/
def RidersKept (before after : Tables) : Prop :=
  ∀ riderId, ∀ delivery ∈ before.deliveries, delivery.deliveryPartnerId = some riderId →
    ∃ next ∈ after.deliveries, next.id = delivery.id ∧
      (next.deliveryPartnerId = some riderId ∨
        (next.deliveryPartnerId = none ∧ next.status = .unassigned))

/-- Nobody else changes a delivery that is locked, or loads a rider who is. -/
structure DispatchRely (held : List RowLock) (before after : Tables) : Prop where
  deliveries : ∀ id, (Row.delivery id).forUpdate ∈ held → ∀ delivery,
    before.delivery? id = some delivery → after.delivery? id = some delivery
  riders : ∀ id, (Row.user id).forUpdate ∈ held → ∀ delivery ∈ after.deliveries,
    CarriedBy id delivery → ∃ earlier ∈ before.deliveries, earlier.id = delivery.id ∧ CarriedBy id earlier

/-- The requests of dispatch, on the constraints of the database. -/
def dispatchService (env : Environment) :
    Service Market RowLock Note HTTPException (Option Order) DispatchRequest where
  program := DispatchRequest.program env
  conflicts := RowLock.conflicts
  symmetric := RowLock.conflicts_symm
  valid market := market.tables.Constraints
  decideConflicts := inferInstance
  decideValid _ := inferInstance

/-- What the rest of the program does to deliveries: a checkout adds open ones. -/
def LeavesDeliveries (before after : Tables) : Prop :=
  after.Constraints ∧ before.deliveries <+: after.deliveries ∧
    ∀ delivery ∈ after.deliveries.drop before.deliveries.length,
      delivery.status = .unassigned ∧ delivery.deliveryPartnerId = none

instance (before after : Tables) : Decidable (LeavesDeliveries before after) :=
  inferInstanceAs (Decidable (_ ∧ _ ∧ _))

/-- Any interleaving of dispatch requests with whatever else leaves deliveries alone. -/
def Dispatching (state : State Market RowLock Note HTTPException (Option Order)) :
    ReadCommitted.Action Market DispatchRequest → Prop
  | .other after => LeavesDeliveries state.database.tables after.tables
  | _ => True

instance (state : State Market RowLock Note HTTPException (Option Order))
    (action : ReadCommitted.Action Market DispatchRequest) : Decidable (Dispatching state action) :=
  match action with
  | .other after => inferInstanceAs (Decidable (LeavesDeliveries _ after.tables))
  | .start _ => .isTrue trivial
  | .advance _ => .isTrue trivial
  | .abort _ => .isTrue trivial

def dispatchDiscipline : Discipline Market RowLock Note where
  invariant market := OneEach market.tables
  guarantee before after := RidersKept before.tables after.tables
  rely held _ before after := DispatchRely held before.tables after.tables
  refl _ _ _ := ⟨fun _ _ _ => id, fun _ _ delivery inside carried => ⟨delivery, inside, rfl, carried⟩⟩
  trans := by
    intro held _ first second third earlier later
    refine ⟨fun id locked delivery current => later.deliveries id locked delivery
      (earlier.deliveries id locked delivery current), ?_⟩
    intro id locked delivery inside carried
    obtain ⟨next, there, same, still⟩ := later.riders id locked delivery inside carried
    obtain ⟨start, origin, agree, began⟩ := earlier.riders id locked next there still
    exact ⟨start, origin, agree.trans same, began⟩
  weaken rely := ⟨fun id locked => rely.deliveries id (List.mem_cons_of_mem _ locked),
    fun id locked => rely.riders id (List.mem_cons_of_mem _ locked)⟩
  admits _ _ := True
  apart first second := ∀ row ∈ first.held, ∀ held ∈ second.held, ¬RowLock.conflicts row held

variable {footing : Standing} {db now : Market} {delivery new : Delivery}

/-- Two sessions do not hold the same row for update. -/
theorem apart_forUpdate {first second : Standing}
    (apart : dispatchDiscipline.apart first second) (row : Row) (mine : row.forUpdate ∈ first.held) :
    row.forUpdate ∉ second.held :=
  fun theirs => apart _ mine _ theirs (RowLock.update_conflicts row .update)

/-- Committing one delivery's row, held since it was read: its rider is the one it
had, or one who is locked and carries nothing. -/
theorem commits_delivery (new : Delivery) (held : (Row.delivery delivery.id).forUpdate ∈ footing.held)
    (current : db.tables.delivery? delivery.id = some delivery) (same : new.id = delivery.id)
    (writes : ∀ market, (footing.change market).tables.deliveries =
      put Delivery.id new market.tables.deliveries)
    (free : new.status = .unassigned → new.deliveryPartnerId = none)
    (keeps : ∀ riderId, delivery.deliveryPartnerId = some riderId → new.deliveryPartnerId = some riderId ∨
      (new.deliveryPartnerId = none ∧ new.status = .unassigned))
    (takes : ∀ riderId, CarriedBy riderId new → CarriedBy riderId delivery ∨
      ((Row.user riderId).forUpdate ∈ footing.held ∧
        ∀ other ∈ db.tables.deliveries, ¬CarriedBy riderId other)) (valid : Market → Prop) (value : Option Order) :
    dispatchDiscipline.Commits valid value footing db := by
  rintro now ⟨rely, kept⟩ - -
  have here : delivery ∈ now.tables.deliveries ∧ delivery.id = delivery.id :=
    (lookup_eq_some_iff kept.ids).mp (rely.deliveries _ held delivery current)
  have idle : ∀ riderId, CarriedBy riderId new → CarriedBy riderId delivery ∨
      ((Row.user riderId).forUpdate ∈ footing.held ∧
        ∀ other ∈ now.tables.deliveries, ¬CarriedBy riderId other) := by
    intro riderId carried
    rcases takes riderId carried with before | ⟨locked, free⟩
    · exact .inl before
    · refine .inr ⟨locked, fun other inside loaded => ?_⟩
      obtain ⟨earlier, origin, -, began⟩ := rely.riders riderId locked other inside loaded
      exact free earlier origin began
  refine ⟨⟨?_, ?_, ?_⟩, ?_, ?_⟩
  · rw [writes]
    exact unique_put (fun _ _ agree => agree) kept.ids
  · rw [writes]
    intro other inside
    rcases mem_put.mp inside with ⟨rfl, -⟩ | ⟨there, -⟩
    · exact free
    · exact kept.free other there
  · rw [writes]
    -- the row written, against itself and against the others
    have alone : ∀ riderId, CarriedBy riderId new → ∀ other ∈ now.tables.deliveries,
        other.id ≠ new.id → ¬CarriedBy riderId other := by
      intro riderId carried other inside differ loaded
      rcases idle riderId carried with before | ⟨-, free⟩
      · exact differ ((congrArg Delivery.id
          (kept.sole riderId other inside delivery here.1 loaded before)).trans same.symm)
      · exact free other inside loaded
    intro riderId first left second right mine theirs
    rcases mem_put.mp left with ⟨rfl, -⟩ | ⟨before, differ⟩ <;>
      rcases mem_put.mp right with ⟨rfl, -⟩ | ⟨there, apart⟩
    · rfl
    · exact absurd theirs (alone riderId mine second there apart)
    · exact absurd mine (alone riderId theirs first before differ)
    · exact kept.sole riderId first before second there mine theirs
  · intro riderId other inside carried
    rw [writes]
    by_cases own : other.id = delivery.id
    · have sole := unique_eq kept.ids inside here.1 own
      subst sole
      exact ⟨new, mem_put.mpr (.inl ⟨rfl, _, inside, same.symm⟩), same, keeps riderId carried⟩
    · exact ⟨other, mem_put.mpr (.inr ⟨inside, fun agree => own (agree.trans same)⟩), rfl,
        .inl carried⟩
  · intro other apart
    refine ⟨fun id theirs standing current => ?_, fun id theirs next inside carried => ?_⟩
    · have elsewhere : new.id ≠ id := by
        rintro rfl
        rw [same] at theirs
        exact apart_forUpdate apart _ held theirs
      rw [Tables.delivery?, writes, lookup_put id here.1 same.symm same.symm kept.ids kept.ids,
        if_neg elsewhere]
      exact current
    · rw [writes] at inside
      rcases mem_put.mp inside with ⟨rfl, -⟩ | ⟨there, -⟩
      · rcases idle id carried with before | ⟨locked, -⟩
        · exact ⟨delivery, here.1, same.symm, before⟩
        · exact absurd theirs (apart_forUpdate apart _ locked)
      · exact ⟨next, there, rfl, carried⟩

/-- A commit that writes no delivery. -/
theorem commits_elsewhere
    (writes : ∀ market, (footing.change market).tables.deliveries = market.tables.deliveries)
    (valid : Market → Prop) (value : Option Order) : dispatchDiscipline.Commits valid value footing db := by
  rintro now ⟨-, kept⟩ - -
  refine ⟨⟨?_, ?_, ?_⟩, ?_, fun other _ => ⟨fun id _ _ current => ?_, fun id _ next inside carried => ?_⟩⟩
  · rw [writes]
    exact kept.ids
  · rw [writes]
    exact kept.free
  · rw [writes]
    exact kept.sole
  · intro riderId other inside carried
    rw [writes]
    exact ⟨other, inside, rfl, .inl carried⟩
  · rw [Tables.delivery?, writes]
    exact current
  · rw [writes] at inside
    exact ⟨next, inside, rfl, carried⟩

/-! ## The requests -/

/-- A locked delivery stays as it was read. -/
theorem delivery_locked (later : dispatchDiscipline.Later footing db now)
    (held : (Row.delivery delivery.id).forUpdate ∈ footing.held)
    (current : db.tables.delivery? delivery.id = some delivery) :
    now.tables.delivery? delivery.id = some delivery :=
  later.1.deliveries _ held delivery current

/-- The look for other deliveries of a rider who is locked: none is carried. -/
theorem carries_nothing {aside : Option UUID} (free : ¬riderIsBusy db.tables riderId aside)
    (ids : Relational.Unique Delivery.id db.tables.deliveries)
    (current : db.tables.delivery? delivery.id = some delivery) (open_ : delivery.status = .unassigned)
    (own : ∀ id, aside = some id → id = delivery.id) :
    ∀ other ∈ db.tables.deliveries, ¬CarriedBy riderId other := by
  rintro other inside ⟨carried, active⟩
  by_cases set : aside = some other.id
  · have sole := unique_eq ids inside (lookup_mem current) (own _ set)
    subst sole
    rw [open_] at active
    rcases active with active | active <;> cases active
  · refine free ⟨other, inside, carried, ?_, set⟩
    simpa using active

/-- Handing an open delivery, held since it was read, to a rider who is held and idle. -/
theorem commits_assignment {draws : Draws} (held : (Row.delivery delivery.id).forUpdate ∈ footing.held)
    (current : db.tables.delivery? delivery.id = some delivery)
    (unchanged : footing.change = id) (kept : OneEach db.tables)
    (rider : (Row.user riderId).forUpdate ∈ footing.held)
    (idle : ∀ other ∈ db.tables.deliveries, ¬CarriedBy riderId other)
    (assigned : assignedDelivery delivery riderId draws.now = .ok new) (valid : Market → Prop) :
    dispatchDiscipline.Holds (flushTables (·.putDelivery new) >>= fun _ => pure none)
      (dispatchDiscipline.Commits valid (α := Option Order)) footing db := by
  obtain ⟨free, rfl⟩ := assignedDelivery_ok.mp assigned
  have open_ := canTransitionDelivery_assigned.mp free
  change dispatchDiscipline.Commits valid (none : Option Order)
    { footing with change := Market.change (·.putDelivery _) ∘ footing.change } db
  refine commits_delivery { delivery with
      deliveryPartnerId := some riderId, status := .assigned, assignedAt := some draws.now
      updatedAt := draws.now } (by exact held) current rfl (fun market => ?_) nofun ?_ ?_ valid none
  · simp [unchanged, Tables.putDelivery]
  · intro other carried
    cases (kept.free delivery (lookup_mem current) open_).symm.trans carried
  · rintro other ⟨carried, -⟩
    cases carried
    exact .inr ⟨rider, idle⟩

theorem claimDelivery_upholds (valid : Market → Prop) :
    dispatchDiscipline.Holds (Statement.claimDelivery subject deliveryId draws)
      (dispatchDiscipline.Commits valid) {} db := by
  unfold Statement.claimDelivery
  refine Holds.statement fun _ _ user _ => Discipline.Holds.remember fun _ _ => ?_
  refine Discipline.Holds.check fun _ _ => ?_
  refine Holds.locked rfl fun delivery first _ read _ same => ?_
  cases same
  have own : delivery.id = deliveryId := lookup_col read
  subst own
  refine Holds.locked rfl fun order second ordering _ _ _ => Holds.require fun available => ?_
  have ordered := delivery_locked ordering (by simp) read
  refine Holds.locked rfl fun row third riding asked rider same => ?_
  have ridden := delivery_locked riding (by simp) ordered
  have rowId : row.id = user.id := lookup_col asked
  cases (Option.filter_eq_some_iff.mp same).1
  refine Discipline.Holds.query fun fourth looking => Holds.require fun idle => ?_
  have looked := delivery_locked looking (by simp) ridden
  have open_ := canTransitionDelivery_assigned.mp available.2.2
  refine Discipline.Holds.check fun new assigned =>
    commits_assignment (by simp) looked rfl looking.2 ?_ ?_ assigned valid
  · simp [rowId]
  · exact carries_nothing (of_decide_eq_false idle) looking.2.ids looked open_ (by simp)

theorem adminAssignDelivery_upholds (valid : Market → Prop) :
    dispatchDiscipline.Holds (Statement.adminAssignDelivery subject deliveryId riderId draws)
      (dispatchDiscipline.Commits valid) {} db := by
  unfold Statement.adminAssignDelivery
  refine Holds.statement fun _ _ admin _ => ?_
  refine Holds.locked rfl fun delivery first _ read _ same => ?_
  cases same
  have own : delivery.id = deliveryId := lookup_col read
  subst own
  refine Holds.locked rfl fun order second ordering _ _ _ => Holds.require fun available => ?_
  have ordered := delivery_locked ordering (by simp) read
  refine Holds.locked rfl fun row third riding asked rider same => ?_
  have ridden := delivery_locked riding (by simp) ordered
  have rowId : rider.id = row.id := by
    have loaded : (if row.id = admin.id then admin else row) = rider :=
      Option.some.inj (Option.filter_eq_some_iff.mp same).1
    subst loaded
    split
    · next own => exact own.symm
    · rfl
  refine Discipline.Holds.query fun fourth looking => Holds.require fun idle => ?_
  have looked := delivery_locked looking (by simp) ridden
  refine Discipline.Holds.check fun new assigned =>
    commits_assignment (by simp) looked rfl looking.2 ?_ ?_ assigned valid
  · simp [rowId]
  · exact carries_nothing (of_decide_eq_false idle) looking.2.ids looked available.1 (by simp)

/-- Giving a delivery back that is held since it was read. -/
theorem commits_release {draws : Draws} (held : (Row.delivery delivery.id).forUpdate ∈ footing.held)
    (current : db.tables.delivery? delivery.id = some delivery) (unchanged : footing.change = id)
    (released : releasedDelivery delivery draws.now = .ok new) (valid : Market → Prop) :
    dispatchDiscipline.Holds (flushTables (·.putDelivery new) >>= fun _ => pure none)
      (dispatchDiscipline.Commits valid (α := Option Order)) footing db := by
  obtain ⟨-, rfl⟩ := releasedDelivery_ok.mp released
  change dispatchDiscipline.Commits valid (none : Option Order)
    { footing with change := Market.change (·.putDelivery _) ∘ footing.change } db
  refine commits_delivery { delivery with
      deliveryPartnerId := none, status := .unassigned, assignedAt := none, updatedAt := draws.now }
    (by exact held) current rfl (fun market => ?_) (fun _ => rfl) (fun _ _ => .inr ⟨rfl, rfl⟩)
    (fun _ carried => by cases carried.1) valid none
  simp [unchanged, Tables.putDelivery]

theorem adminUnassignDelivery_upholds (valid : Market → Prop) :
    dispatchDiscipline.Holds (Statement.adminUnassignDelivery subject deliveryId draws)
      (dispatchDiscipline.Commits valid) {} db := by
  unfold Statement.adminUnassignDelivery
  refine Holds.statement fun _ _ _ _ => ?_
  refine Holds.locked rfl fun delivery first _ read _ same => ?_
  cases same
  have own : delivery.id = deliveryId := lookup_col read
  subst own
  refine Holds.require fun _ => ?_
  refine Holds.locked rfl fun order second ordering _ _ _ => Holds.require fun _ => ?_
  have ordered := delivery_locked ordering (by simp) read
  exact Discipline.Holds.check fun new released => commits_release (by simp) ordered rfl released valid

theorem recoverFailedDelivery_upholds (valid : Market → Prop) :
    dispatchDiscipline.Holds (Statement.recoverFailedDelivery subject deliveryId draws)
      (dispatchDiscipline.Commits valid) {} db := by
  unfold Statement.recoverFailedDelivery
  refine Holds.statement fun _ _ _ _ => ?_
  refine Holds.locked rfl fun delivery first _ read _ same => ?_
  cases same
  have own : delivery.id = deliveryId := lookup_col read
  subst own
  refine Holds.locked rfl fun order second ordering _ _ _ => ?_
  have ordered := delivery_locked ordering (by simp) read
  refine Holds.require fun _ => Holds.require fun _ => ?_
  exact Discipline.Holds.check fun new released => commits_release (by simp) ordered rfl released valid

theorem failDelivery_upholds (valid : Market → Prop) :
    dispatchDiscipline.Holds (Statement.failDelivery subject deliveryId payload draws)
      (dispatchDiscipline.Commits valid) {} db := by
  unfold Statement.failDelivery
  refine Holds.statement fun _ _ _ _ => Discipline.Holds.check fun _ _ => Holds.require fun _ => ?_
  refine Holds.locked rfl fun delivery first _ read _ same => ?_
  cases same
  have own : delivery.id = deliveryId := lookup_col read
  subst own
  refine Holds.locked rfl fun order second ordering _ _ _ => ?_
  have ordered := delivery_locked ordering (by simp) read
  refine Discipline.Holds.check fun _ _ => Holds.require fun active => ?_
  refine Discipline.Holds.check fun new failed => ?_
  obtain ⟨-, rfl⟩ := transitionDelivery_ok.mp failed
  refine commits_delivery { delivery with
      status := .failed, failedAt := some draws.now, failureReason := some payload.reason
      failureNotes := payload.notes, failureEvidenceUrl := payload.evidenceUrl, updatedAt := draws.now }
    (by simp) ordered rfl (fun market => rfl) nofun
    (fun _ carried => .inl carried) (fun _ carried => ?_) valid none
  rcases carried.2 with active | active <;> cases active

theorem updateDeliveryStatus_upholds (valid : Market → Prop) :
    dispatchDiscipline.Holds (Statement.updateDeliveryStatus subject deliveryId status draws)
      (dispatchDiscipline.Commits valid) {} db := by
  unfold Statement.updateDeliveryStatus
  refine Holds.statement fun _ _ _ _ => Discipline.Holds.check fun _ _ => Holds.require fun screened => ?_
  refine Holds.locked rfl fun delivery first reading read _ same => ?_
  cases same
  have own : delivery.id = deliveryId := lookup_col read
  subst own
  refine Discipline.Holds.check fun _ _ => Holds.require fun allowed => ?_
  refine Holds.locked rfl fun order second ordering _ _ _ => ?_
  have ordered := delivery_locked ordering (by simp) read
  refine Discipline.Holds.check fun (changed, next) effects => ?_
  refine Discipline.Holds.check fun new moved => ?_
  obtain ⟨-, rfl⟩ := transitionDelivery_ok.mp moved
  cases status with
  | delivered => exact absurd rfl screened.1
  | failed => exact absurd rfl screened.2
  | pickedUp =>
    simp only [deliveryStatusEffects, require_bind_ok, transitionOrder_bind_ok, pure_ok,
      Prod.mk.injEq] at effects
    obtain ⟨-, -, -, rfl, -⟩ := effects
    have assigned := canTransitionDelivery_pickedUp.mp allowed
    exact commits_delivery { delivery with
        status := .pickedUp, pickedUpAt := some draws.now, updatedAt := draws.now }
      (by simp) ordered rfl (fun market => rfl) (by simp) (fun _ carried => .inl carried)
      (fun _ carried => .inl ⟨carried.1, .inl assigned⟩) valid none
  | unassigned =>
    simp only [deliveryStatusEffects, require_bind_ok, pure_ok, Prod.mk.injEq] at effects
    obtain ⟨-, rfl, -⟩ := effects
    exact commits_delivery { delivery with
        deliveryPartnerId := none, status := .unassigned, assignedAt := none, updatedAt := draws.now }
      (by simp) ordered rfl (fun market => rfl) (fun _ => rfl) (fun _ _ => .inr ⟨rfl, rfl⟩)
      (fun _ carried => by cases carried.1) valid none
  | assigned =>
    simp only [deliveryStatusEffects, pure_ok, Prod.mk.injEq] at effects
    obtain ⟨rfl, -⟩ := effects
    -- an open delivery has no rider, so the status screen loads nobody
    have free := ordering.2.free delivery (lookup_mem ordered) (canTransitionDelivery_assigned.mp allowed)
    exact commits_delivery { delivery with status := .assigned, updatedAt := draws.now }
      (by simp) ordered rfl (fun market => rfl) (by simp) (fun _ carried => .inl carried)
      (fun _ carried => by cases free.symm.trans carried.1) valid none

/-- The rider that dispatch picks is held from then on. -/
theorem nearestEligibleRider_found {next : UUID → Statements (Option Order)}
    {post : Option Order → Standing → Market → Prop}
    (rest : ∀ riderId now held, dispatchDiscipline.Later footing db now →
      dispatchDiscipline.Holds (next riderId) post
        { footing with held := (Row.user riderId).forUpdate :: (held ++ footing.held) } now) :
    dispatchDiscipline.Holds
      (Statement.nearestEligibleRider env store maxRadiusKm moment >>= fun riderId =>
        Statement.found riderId error >>= next) post footing db := by
  rw [Discipline.holds_bind]
  refine Discipline.Holds.query fun ranked ranking => ?_
  rw [Discipline.holds_bind]
  refine holds_selectSkipLocked ranking.2 (fun now held later => ?_)
    fun riderId rider now held later _ read => ?_
  · exact Holds.found fun _ absent => by cases absent
  · refine Holds.found fun found same => ?_
    cases same
    have own : rider.id = riderId := lookup_col (Option.filter_eq_some_iff.mp read).1
    subst own
    exact rest rider.id now held (ranking.trans later)

theorem autoAssignDelivery_upholds (valid : Market → Prop) :
    dispatchDiscipline.Holds (Statement.autoAssignDelivery env subject deliveryId maxRadiusKm draws)
      (dispatchDiscipline.Commits valid) {} db := by
  unfold Statement.autoAssignDelivery
  refine Holds.statement fun _ _ _ _ => Holds.require fun _ => ?_
  refine Holds.locked rfl fun delivery first _ read _ same => ?_
  cases same
  have own : delivery.id = deliveryId := lookup_col read
  subst own
  refine Holds.locked rfl fun order second ordering _ _ _ => Holds.require fun available => ?_
  have ordered := delivery_locked ordering (by simp) read
  refine Discipline.Holds.query fun third placing => Holds.found fun store _ => ?_
  have placed := delivery_locked placing (by simp) ordered
  refine nearestEligibleRider_found fun riderId fourth locks ranking => ?_
  have ranked := delivery_locked ranking (by simp) placed
  refine Holds.locked rfl fun rider fifth riding _ _ same => ?_
  cases same
  have ridden := delivery_locked riding (by simp) ranked
  refine Discipline.Holds.query fun sixth looking => Holds.require fun idle => ?_
  have looked := delivery_locked looking (by simp) ridden
  refine Discipline.Holds.check fun new assigned =>
    commits_assignment (by simp) looked rfl looking.2 (by simp) ?_ assigned valid
  exact carries_nothing (of_decide_eq_false idle) looking.2.ids looked available.1 (by simp)

theorem dispatchReadyDelivery_upholds (valid : Market → Prop) :
    dispatchDiscipline.Holds (Statement.dispatchReadyDelivery env radiusKm seen draws)
      (dispatchDiscipline.Commits valid) {} db := by
  unfold Statement.dispatchReadyDelivery
  refine Discipline.Holds.query fun first waiting => ?_
  rw [Discipline.holds_bind]
  refine holds_selectSkipLocked waiting.2 (fun _ _ _ => Holds.missing) ?_
  intro id delivery second tried picking _ read
  refine Holds.found fun found same => ?_
  cases same
  obtain ⟨picked, open_⟩ := Option.filter_eq_some_iff.mp read
  have own : delivery.id = id := lookup_col picked
  subst own
  refine Holds.locked rfl fun order third ordering _ _ _ => Holds.require fun available => ?_
  have ordered := delivery_locked ordering (by simp) picked
  refine Discipline.Holds.query fun fourth placing => Holds.found fun store _ => ?_
  have placed := delivery_locked placing (by simp) ordered
  refine nearestEligibleRider_found fun riderId fifth locks ranking => ?_
  have ranked := delivery_locked ranking (by simp) placed
  refine Discipline.Holds.query fun sixth asking => Holds.found fun _ _ => ?_
  have asked := delivery_locked asking (by simp) ranked
  refine Discipline.Holds.query fun seventh looking => Holds.require fun idle => ?_
  have looked := delivery_locked looking (by simp) asked
  refine Discipline.Holds.check fun new assigned =>
    commits_assignment (by simp) looked rfl looking.2 (by simp) ?_ assigned valid
  exact carries_nothing (of_decide_eq_false idle) looking.2.ids looked (of_decide_eq_true open_) (by simp)

/-! ## Bookkeeping writes no delivery -/

@[simp]
theorem putListings_deliveries (listings : List StoreProduct) (db : Tables) :
    (db.putListings listings).deliveries = db.deliveries := by
  rw [Tables.putListings_eq]

@[simp]
theorem recordRefund_deliveries (order : Order) (reason : String) (draws : Draws) (db : Tables) :
    (Statement.recordRefund order reason draws db).deliveries = db.deliveries := by
  rcases recordRefund_cases order reason draws db with same | ⟨refund, paymentStatus, same⟩ <;>
    rw [same]
  rfl

@[simp]
theorem takeBackSettlement_deliveries (order : Order) (reason : String) (draws : Draws) (db : Tables) :
    (Statement.takeBackSettlement order reason draws db).deliveries = db.deliveries := by
  obtain ⟨_, _, same⟩ := takeBackSettlement_eq order reason draws db
  rw [same]

@[simp]
theorem recordSettlement_deliveries (order : Order) (draws : Draws) (db : Tables) :
    (recordSettlement order draws db).deliveries = db.deliveries := by
  unfold recordSettlement
  split
  · next result entry ran =>
    unfold ensureSettlementEntry at ran
    split at ran
    · cases ran
      rfl
    · split at ran
      · simp only [found_bind_ok, flushRows_bind_ok, pure_ok, Prod.mk.injEq] at ran
        obtain ⟨store, -, -, rfl, -⟩ := ran
        rfl
      · cases ran
        rfl
  · rfl

theorem resolveFailedDelivery_upholds (valid : Market → Prop) :
    dispatchDiscipline.Holds
      (Statement.resolveFailedDelivery subject deliveryId resolution notes draws)
      (dispatchDiscipline.Commits valid) {} db := by
  unfold Statement.resolveFailedDelivery
  refine Holds.statement fun _ _ _ _ => Holds.require fun _ => ?_
  refine Holds.locked rfl fun delivery first _ read _ same => ?_
  cases same
  have own : delivery.id = deliveryId := lookup_col read
  subst own
  refine Holds.locked rfl fun order second ordering _ _ _ => Holds.require fun _ => ?_
  have ordered := delivery_locked ordering (by simp) read
  cases resolution with
  | reassign =>
    refine Holds.require fun _ => Holds.require fun _ => ?_
    exact Discipline.Holds.check fun new released => commits_release (by simp) ordered rfl released valid
  | returnToStore =>
    refine Discipline.Holds.check fun _ _ => Discipline.Holds.check fun _ _ => Holds.require fun _ => ?_
    refine Discipline.Holds.query fun third _ => Holds.require fun _ => ?_
    rw [Discipline.holds_bind]
    refine holds_restoreOrderStockOnce (fun _ => ?_) fun _ _ _ _ _ _ _ _ _ _ _ _ _ => ?_
    · exact Discipline.Holds.check fun _ _ => commits_elsewhere (fun market => by simp [Tables.putOrder]) valid none
    · exact Discipline.Holds.check fun _ _ => commits_elsewhere (fun market => by simp [Tables.putOrder]) valid none

theorem completeDeliveryWithFinancials_upholds (valid : Market → Prop) :
    dispatchDiscipline.Holds (Statement.completeDeliveryWithFinancials subject deliveryId draws)
      (dispatchDiscipline.Commits valid) {} db := by
  unfold Statement.completeDeliveryWithFinancials
  refine Holds.statement fun _ _ _ _ => Discipline.Holds.check fun _ _ => ?_
  refine Holds.locked rfl fun delivery first _ read _ same => ?_
  cases same
  have own : delivery.id = deliveryId := lookup_col read
  subst own
  refine Holds.locked rfl fun order second ordering _ _ _ => ?_
  have ordered := delivery_locked ordering (by simp) read
  refine Discipline.Holds.check fun _ _ => Holds.require fun _ => Holds.require fun _ => ?_
  refine Holds.require fun _ => Discipline.Holds.query fun third proving => Holds.found fun _ _ => ?_
  have proved := delivery_locked proving (by simp) ordered
  refine Holds.statement fun fourth collecting _ _ => ?_
  have collected := delivery_locked collecting (by simp) proved
  refine Discipline.Holds.check fun new moved => Discipline.Holds.check fun _ _ => ?_
  obtain ⟨-, rfl⟩ := transitionDelivery_ok.mp moved
  have idle : ∀ riderId, ¬CarriedBy riderId { delivery with
      status := .delivered, deliveredAt := some draws.now, updatedAt := draws.now } := by
    rintro riderId ⟨-, active | active⟩ <;> cases active
  refine Discipline.Holds.flush (Discipline.Holds.branch (fun _ => ?_) fun _ => ?_)
  · refine Holds.statement fun fifth settling _ _ => ?_
    have settled := delivery_locked settling (by simp) collected
    refine commits_delivery { delivery with
        status := .delivered, deliveredAt := some draws.now, updatedAt := draws.now }
      (by simp) settled rfl (fun market => by simp [Tables.putDelivery, Tables.putOrder]) nofun
      (fun _ carried => .inl carried) (fun riderId carried => absurd carried (idle riderId)) valid none
  · rw [Discipline.holds_pure]
    refine commits_delivery { delivery with
        status := .delivered, deliveredAt := some draws.now, updatedAt := draws.now }
      (by simp) collected rfl (fun market => by simp [Tables.putDelivery, Tables.putOrder]) nofun
      (fun _ carried => .inl carried) (fun riderId carried => absurd carried (idle riderId)) valid none

/-! ## Runs -/

theorem dispatch_upheld (env : Environment) :
    Discipline.Upheld (dispatchService env) dispatchDiscipline Dispatching where
  starts := by
    intro state request _ kept
    cases request with
    | claimDelivery => exact claimDelivery_upholds _
    | updateDeliveryStatus => exact updateDeliveryStatus_upholds _
    | assignDelivery => exact adminAssignDelivery_upholds _
    | unassignDelivery => exact adminUnassignDelivery_upholds _
    | autoAssignDelivery => exact autoAssignDelivery_upholds _
    | dispatchReadyDelivery => exact dispatchReadyDelivery_upholds _
    | failDelivery => exact failDelivery_upholds _
    | recoverFailedDelivery => exact recoverFailedDelivery_upholds _
    | resolveFailedDelivery => exact resolveFailedDelivery_upholds _
    | completeDelivery => exact completeDeliveryWithFinancials_upholds _
  others := by
    rintro state after ⟨constraints, ⟨fresh, grown⟩, idle⟩ kept
    rw [← grown, List.drop_left] at idle
    have before : ∀ riderId, ∀ delivery ∈ after.tables.deliveries, CarriedBy riderId delivery →
        delivery ∈ state.database.tables.deliveries := by
      intro riderId delivery inside carried
      rw [← grown] at inside
      rcases List.mem_append.mp inside with there | added
      · exact there
      · cases (idle delivery added).2.symm.trans carried.1
    refine ⟨⟨constraints.deliveryIds, ?_, ?_⟩, fun held notes => ⟨?_, ?_⟩⟩
    · intro delivery inside free
      rw [← grown] at inside
      rcases List.mem_append.mp inside with there | added
      · exact kept.free delivery there free
      · exact (idle delivery added).2
    · intro riderId first left second right mine theirs
      exact kept.sole riderId first (before riderId first left mine) second
        (before riderId second right theirs) mine theirs
    · intro id _ delivery current
      obtain ⟨inside, own⟩ := (lookup_eq_some_iff kept.ids).mp current
      refine (lookup_eq_some_iff constraints.deliveryIds).mpr ⟨?_, own⟩
      rw [← grown]
      exact List.mem_append_left _ inside
    · intro id _ delivery inside carried
      exact ⟨delivery, before id delivery inside carried, rfl, carried⟩
  admitted := fun _ _ _ _ _ _ => trivial
  separated := fun _ _ _ _ _ _ _ _ _ _ _ apart => apart

/-- However claims, manual and automatic assignments, dispatcher ticks, status patches,
releases, failures, recoveries and completions interleave, no rider ever carries two
deliveries, and no step gives a delivery that has a rider to another. -/
theorem riders_carry_one_delivery (env : Environment)
    (reached : System.ReachableWhile ((dispatchService env).system {}) Dispatching state) :
    (∀ riderId, ∀ first ∈ state.database.tables.deliveries,
      ∀ second ∈ state.database.tables.deliveries,
        CarriedBy riderId first → CarriedBy riderId second → first = second) ∧
    ∀ action, Dispatching state action → RidersKept state.database.tables
      ((dispatchService env).step state action).database.tables := by
  have start : dispatchDiscipline.invariant ({} : Market) :=
    ⟨List.nodup_nil, by simp, by simp⟩
  have safe := (dispatch_upheld env).safe start reached
  have still : RidersKept state.database.tables state.database.tables :=
    fun riderId delivery inside carried => ⟨delivery, inside, rfl, .inl carried⟩
  refine ⟨safe.invariant.sole, fun action admitted => ?_⟩
  cases action with
  | start request => exact still
  | abort index => exact still
  | advance index =>
    rcases safe.advance (dispatch_upheld env) admitted with same | done
    · rw [same]
      exact still
    · exact done
  | other after =>
    obtain ⟨-, kept, -⟩ := admitted
    intro riderId delivery inside carried
    exact ⟨delivery, kept.subset inside, rfl, .inl carried⟩

/-! Two orders are ready, and one rider claims both deliveries at once. -/

def readyOrder (number : UUID) : Order where
  id := number
  orderNumber := uuidText number
  userId := 1
  storeId := 1
  addressId := 1
  idempotencyKey := none
  stockRestoredAt := none
  status := .ready
  paymentMethod := .cod
  paymentStatus := .pending
  subtotal := 10000
  deliveryFee := 2000
  total := 12000

def twoReady : Market where
  tables :=
    { catalogue := sampleCatalogue, orders := [readyOrder 1, readyOrder 2]
      deliveries := [newDelivery 1 (sampleDraws 1), newDelivery 2 (sampleDraws 2)] }

/-- Both claims, statement by statement in turn. -/
def contendedClaims : List (ReadCommitted.Action Market DispatchRequest) :=
  [.other twoReady, .start (.claimDelivery 4 1 (sampleDraws 3)),
    .start (.claimDelivery 4 2 (sampleDraws 4))] ++
    (List.replicate 16 [.advance 0, .advance 1]).flatten

def contendedState : State Market RowLock Note HTTPException (Option Order) :=
  ((dispatchService sampleEnvironment).system {}).run ⟨{}, []⟩ contendedClaims

/-- The first claim wins its delivery, the second one ends without. -/
theorem riders_carry_one_delivery_contended :
    (∃ delivery ∈ contendedState.database.tables.deliveries, delivery.status = .assigned ∧
      delivery.deliveryPartnerId = some 4) ∧
    ∀ riderId, ∀ first ∈ contendedState.database.tables.deliveries,
      ∀ second ∈ contendedState.database.tables.deliveries,
        CarriedBy riderId first → CarriedBy riderId second → first = second := by
  have admitted : System.RunWhile ((dispatchService sampleEnvironment).system {}) Dispatching
      ⟨{}, []⟩ contendedClaims := by
    decide +kernel
  exact ⟨by decide +kernel,
    (riders_carry_one_delivery sampleEnvironment (.run .initial contendedClaims admitted)).1⟩

end GaonOne
