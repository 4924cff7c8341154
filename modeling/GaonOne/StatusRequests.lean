import GaonOne.StatusChanges

/-! What the status history says of each request: the rows it moved while it held them, each
once and as the transition tables allow, and the remark it leaves on the event of one of
them. -/
namespace GaonOne
open Relational UnitOfWork ReadCommitted

/-! ## Statements and their writes -/

theorem quiet_statement (read : Tables → Handler α) : (statement read).Quiet :=
  Program.Quiet.bind (fun _ => trivial) fun tables => Program.quiet_ofExcept (read tables)

theorem quiet_selectForUpdate (rowOf : ρ → Row) (find : Tables → Option ρ) :
    (selectForUpdate rowOf find : Statements (Option ρ)).Quiet := by
  unfold selectForUpdate
  refine Program.Quiet.bind (fun _ => trivial) fun seen => ?_
  cases seen with
  | none => trivial
  | some seen => exact fun _ => trivial

theorem quiet_selectSkipLocked (rowOf : UUID → Row) (find : UUID → Tables → Option ρ) (ids : List UUID) :
    (selectSkipLocked rowOf find ids : Statements (Option ρ)).Quiet := by
  induction ids with
  | nil => trivial
  | cons id ids ih =>
    refine Program.Quiet.bind (fun _ => trivial) fun lock => ?_
    cases lock with
    | none => exact ih
    | some lock =>
      refine Program.Quiet.bind (fun _ => trivial) fun row => ?_
      cases row with
      | none => exact ih
      | some row => trivial

theorem quiet_nearestEligibleRider (env : Environment) (store : Point) (maxRadiusKm : ℚ)
    (moment : Instant) : (Statement.nearestEligibleRider env store maxRadiusKm moment).Quiet :=
  Program.Quiet.bind (fun _ => trivial) fun candidates =>
    Program.Quiet.bind (quiet_selectSkipLocked _ _ candidates) fun _ => trivial

theorem quiet_lockListings (select : Tables → List StoreProduct) : (Statement.lockListings select).Quiet :=
  Program.Quiet.bind (fun _ => trivial) fun _ =>
    Program.Quiet.bind (Program.quiet_lockRows _) fun _ => fun _ => trivial

theorem quiet_require (check : Prop) [Decidable check] (error : HTTPException) :
    (Statement.require check error).Quiet := Program.quiet_ofExcept _

theorem quiet_found (value : Option α) (error : HTTPException) : (Statement.found value error).Quiet :=
  Program.quiet_ofExcept _

namespace Traced

variable {D : Discipline Market RowLock Note} {footing : Standing} {db : Market}
  {made : List (Market → Market)} {post : α × List (Market → Market) → Standing → Market → Prop}

theorem query {read : Market → β} {next : β → Statements α}
    (rest : ∀ now, D.Later footing db now →
      D.Holds ((next (read (footing.change now))).traced made) post footing now) :
    D.Holds ((Program.query read >>= next).traced made) post footing db := rest

theorem remember {fact : Note} {next : Unit → Statements α}
    (rest : ∀ now, D.Later footing db now → D.Holds ((next ()).traced made) post
      { footing with notes := fact :: footing.notes } now) :
    D.Holds ((Program.remember fact >>= next).traced made) post footing db := rest

theorem flush {write : Tables → Tables} {next : Unit → Statements α}
    (rest : D.Holds ((next ()).traced (made ++ [Market.change write])) post
      { footing with change := Market.change write ∘ footing.change } db) :
    D.Holds ((flushTables write >>= next).traced made) post footing db := rest

theorem check {check : Handler β} {next : β → Statements α}
    (rest : ∀ value, check = .ok value → D.Holds ((next value).traced made) post footing db) :
    D.Holds ((liftM check >>= next).traced made) post footing db := by
  rw [Program.traced_check]
  exact Discipline.Holds.check rest

theorem require {check : Prop} [Decidable check] {error : HTTPException} {next : Unit → Statements α}
    (rest : check → D.Holds ((next ()).traced made) post footing db) :
    D.Holds ((Statement.require check error >>= next).traced made) post footing db := by
  rw [Program.traced_bind (quiet_require check error)]
  exact Holds.require rest

theorem found {value : Option β} {error : HTTPException} {next : β → Statements α}
    (rest : ∀ held, value = some held → D.Holds ((next held).traced made) post footing db) :
    D.Holds ((Statement.found value error >>= next).traced made) post footing db := by
  rw [Program.traced_bind (quiet_found value error)]
  exact Holds.found rest

theorem branch {check : Prop} [Decidable check] {left right : Statements α}
    (taken : check → D.Holds (left.traced made) post footing db)
    (other : ¬check → D.Holds (right.traced made) post footing db) :
    D.Holds ((if check then left else right).traced made) post footing db := by
  rw [Program.traced_ite]
  exact Discipline.Holds.branch taken other

theorem statement {read : Tables → Handler β} {next : β → Statements α}
    (rest : ∀ now, D.Later footing db now → ∀ value, read (footing.change now).tables = .ok value →
      D.Holds ((next value).traced made) post footing now) :
    D.Holds ((GaonOne.statement read >>= next).traced made) post footing db := by
  rw [Program.traced_bind (quiet_statement read)]
  exact Holds.statement rest

/-- A row that must be there, read under its lock. -/
theorem locked {rowOf : ρ → Row} {find : Tables → Option ρ} {check : Option ρ → Option β}
    {error : HTTPException} {next : β → Statements α} (absent : check none = none)
    (rest : ∀ row now, D.Later footing db now → find (footing.change now).tables = some row →
      ∀ value, check (some row) = some value → D.Holds ((next value).traced made) post
        { footing with held := (rowOf row).forUpdate :: footing.held } now) :
    D.Holds ((selectForUpdate rowOf find >>= fun row =>
      Statement.found (check row) error >>= next).traced made) post footing db := by
  rw [Program.traced_bind (quiet_selectForUpdate rowOf find), Discipline.holds_bind]
  refine holds_selectForUpdate (fun now held _ => ?_) fun row now later read => ?_
  · rw [absent]
    exact found fun _ none => by cases none
  · exact found fun value some => rest row now later read value some

/-- A row that `SKIP LOCKED` must find. -/
theorem skipLocked {rowOf : UUID → Row} {find : UUID → Tables → Option ρ} {ids : List UUID}
    {error : HTTPException} {next : ρ → Statements α} (kept : D.invariant db)
    (rest : ∀ id row now held, D.Later footing db now → find id (footing.change now).tables = some row →
      D.Holds ((next row).traced made) post
        { footing with held := (rowOf id).forUpdate :: (held ++ footing.held) } now) :
    D.Holds ((selectSkipLocked rowOf find ids >>= fun row =>
      Statement.found row error >>= next).traced made) post footing db := by
  rw [Program.traced_bind (quiet_selectSkipLocked rowOf find ids), Discipline.holds_bind]
  refine holds_selectSkipLocked kept (fun _ _ _ => ?_) fun id row now held later _ read => ?_
  · exact found fun _ none => by cases none
  · refine found fun value some => ?_
    cases some
    exact rest id row now held later read

/-- The rider that dispatch picks. -/
theorem rider {next : UUID → Statements α}
    (rest : ∀ riderId now held, D.Later footing db now →
      D.Holds ((next riderId).traced made) post { footing with held := held ++ footing.held } now) :
    D.Holds ((Statement.nearestEligibleRider env store maxRadiusKm moment >>= fun riderId =>
      Statement.found riderId error >>= next).traced made) post footing db := by
  rw [Program.traced_bind (quiet_nearestEligibleRider env store maxRadiusKm moment),
    Discipline.holds_bind]
  refine Discipline.Holds.query fun ranked ranking => ?_
  rw [Discipline.holds_bind]
  refine holds_selectSkipLocked ranking.2 (fun _ _ _ => ?_) fun id row now held later _ _ => ?_
  · exact found fun _ none => by cases none
  · refine found fun value _ => ?_
    exact rest value now ((Row.user id).forUpdate :: held) (ranking.trans later)

/-- Restoring stock: nothing, or one write that touches the shelves. -/
theorem restored {order : Order} {moment : Instant} {next : Order → Statements α}
    (already : D.Holds ((next order).traced made) post footing db)
    (credited : ∀ listings now held, D.Later footing db now →
      D.Holds ((next { order with stockRestoredAt := some moment }).traced (made ++ [fun market =>
          { market with
            tables := market.tables.putListings listings
            restored := market.restored ++ [order.id] }]))
        post
        { footing with
          held := held ++ footing.held
          change := (fun market =>
            { market with
              tables := market.tables.putListings listings
              restored := market.restored ++ [order.id] }) ∘ footing.change } now) :
    D.Holds ((Statement.restoreOrderStockOnce order moment >>= next).traced made) post footing db := by
  unfold Statement.restoreOrderStockOnce
  by_cases set : order.stockRestoredAt.isSome
  · rw [if_pos set]
    exact already
  · rw [if_neg set]
    simp only [Program.bind_assoc]
    refine query fun first reading => ?_
    rw [Program.traced_bind (quiet_lockListings _), Discipline.holds_bind]
    refine holds_lockListings fun second seen selecting _ held locking now later => ?_
    refine check fun listings _ => ?_
    exact credited listings now _ (reading.trans (selecting.trans (locking.trans (later.release _))))

end Traced

/-! ## What a request relies on -/

/-- An order keeps its customer and its status, and a delivery its order and its status,
while they are locked. -/
structure StatusRely (held : List RowLock) (before after : Tables) : Prop where
  orders : ∀ id, (Row.order id).forUpdate ∈ held → ∀ order, before.order? id = some order →
    ∃ next, after.order? id = some next ∧ next.userId = order.userId ∧ next.status = order.status
  deliveries : ∀ id, (Row.delivery id).forUpdate ∈ held → ∀ delivery,
    before.delivery? id = some delivery → ∃ next, after.delivery? id = some next ∧
      next.orderId = delivery.orderId ∧ next.status = delivery.status

theorem StatusRely.refl (held : List RowLock) (db : Tables) : StatusRely held db db :=
  ⟨fun _ _ order current => ⟨order, current, rfl, rfl⟩,
    fun _ _ delivery current => ⟨delivery, current, rfl, rfl⟩⟩

theorem StatusRely.trans (earlier : StatusRely held first second) (later : StatusRely held second third) :
    StatusRely held first third where
  orders id locked order current := by
    obtain ⟨next, there, owner, status⟩ := earlier.orders id locked order current
    obtain ⟨last, found, owned, stays⟩ := later.orders id locked next there
    exact ⟨last, found, owned.trans owner, stays.trans status⟩
  deliveries id locked delivery current := by
    obtain ⟨next, there, parent, status⟩ := earlier.deliveries id locked delivery current
    obtain ⟨last, found, parented, stays⟩ := later.deliveries id locked next there
    exact ⟨last, found, parented.trans parent, stays.trans status⟩

theorem StatusRely.weaken (rely : StatusRely (row :: held) before after) : StatusRely held before after :=
  ⟨fun id locked => rely.orders id (List.mem_cons_of_mem _ locked),
    fun id locked => rely.deliveries id (List.mem_cons_of_mem _ locked)⟩

def statusDiscipline : Discipline Market RowLock Note where
  invariant market := Keyed market.tables
  guarantee _ _ := True
  rely held _ before after := StatusRely held before.tables after.tables
  refl held _ db := .refl held db.tables
  trans := .trans
  weaken := .weaken
  admits _ _ := True
  apart first second := ∀ row ∈ first.held, ∀ held ∈ second.held, ¬RowLock.conflicts row held

/-- Who is named for an order's change of status, and why: it is who asked for it. -/
def NamesActor (asked : StatusRequest → Prop) (note : Annotation) (new : Order) : Prop :=
  (new.status = .cancelled ∧ note.reason = some "customer_cancelled" ∧
    note.actorUserId = some new.userId ∧ ∃ draws, asked (.cancelOrder new.userId new.id draws)) ∨
  (new.status ∈ merchantAssignableStatuses ∧ note.reason = some "merchant_status_update" ∧
    ∃ subject draws, note.actorUserId = some subject ∧
      asked (.updateOrderStatus subject new.id new.status draws)) ∨
  (new.status = .returned ∧ note.reason = some "delivery_failed_after_pickup" ∧
    ∃ subject deliveryId notes draws, note.actorUserId = some subject ∧
      asked (.dispatch (.resolveFailedDelivery subject deliveryId .returnToStore notes draws)))

/-- A reason that a delivery may fail for. -/
def FailsFor (reason : Option String) : Prop := ∃ listed ∈ deliveryFailureReasons, reason = some listed

/-- A request that takes an order to a status says who did it and why, pickup and delivery
apart; one that fails a delivery says why. -/
def Remarked (asked : StatusRequest → Prop) (step : StatusStep) : Option (Entity × String × Annotation) → Prop
  | none => ∀ before new, step.order = some (before, new) →
      new.status = .outForDelivery ∨ new.status = .delivered
  | some (entity, toStatus, note) =>
    (∃ before new, step.order = some (before, new) ∧ step.delivery = none ∧
      entity = .order new.id ∧ toStatus = new.status.value ∧ NamesActor asked note new) ∨
    (∃ before new, step.delivery = some (before, new) ∧ step.order = none ∧
      entity = .delivery new.id ∧ toStatus = new.status.value ∧
      (new.status = .failed → FailsFor note.reason))

/-- Where a request ends: whatever the others commit meanwhile, its writes are one step of
the rows it holds, and its remark is about that step. -/
def Told (asked : StatusRequest → Prop) (stamp : Stamp)
    (remark : α → Tables → Option (Entity × String × Annotation))
    (answer : α × List (Market → Market)) (footing : Standing) (db : Market) : Prop :=
  ∃ step : StatusStep, step.Locked footing.held ∧
    (∀ before new, step.delivery = some (before, new) → new.status = .failed →
      FailsFor new.failureReason) ∧
    ∀ now, statusDiscipline.Later footing db now →
      Performs stamp answer.2 step now ∧ step.Fits now.tables ∧
        Remarked asked step (remark answer.1 (applied answer.2 now).tables)

section
variable {footing : Standing} {db now : Market} {delivery moved : Delivery} {order next : Order}
  {stamp : Stamp} {remark : α → Tables → Option (Entity × String × Annotation)} {value : α}

/-- An order held since it was read: what it is known by has stayed. -/
structure Holding (held : List RowLock) (db : Market) (order : Order) : Prop where
  locked : (Row.order order.id).forUpdate ∈ held
  current : ∃ found, db.tables.order? order.id = some found ∧ found.userId = order.userId ∧
    found.status = order.status

/-- A delivery held since it was read. -/
structure Carrying (held : List RowLock) (db : Market) (delivery : Delivery) : Prop where
  locked : (Row.delivery delivery.id).forUpdate ∈ held
  current : ∃ found, db.tables.delivery? delivery.id = some found ∧
    found.orderId = delivery.orderId ∧ found.status = delivery.status

theorem Holding.read (found : db.tables.order? orderId = some order)
    (locked : (Row.order order.id).forUpdate ∈ held) : Holding held db order := by
  have own : order.id = orderId := lookup_col found
  exact ⟨locked, order, own ▸ found, rfl, rfl⟩

theorem Carrying.read (found : db.tables.delivery? deliveryId = some delivery)
    (locked : (Row.delivery delivery.id).forUpdate ∈ held) : Carrying held db delivery := by
  have own : delivery.id = deliveryId := lookup_col found
  exact ⟨locked, delivery, own ▸ found, rfl, rfl⟩

theorem Holding.later (holding : Holding footing.held db order)
    (later : statusDiscipline.Later footing db now) (more : footing.held ⊆ held) : Holding held now order := by
  obtain ⟨found, there, owner, status⟩ := holding.current
  obtain ⟨next, here, owned, stays⟩ := later.1.orders _ holding.locked found there
  exact ⟨more holding.locked, next, here, owned.trans owner, stays.trans status⟩

theorem Carrying.later (carrying : Carrying footing.held db delivery)
    (later : statusDiscipline.Later footing db now) (more : footing.held ⊆ held) :
    Carrying held now delivery := by
  obtain ⟨found, there, parent, status⟩ := carrying.current
  obtain ⟨next, here, parented, stays⟩ := later.1.deliveries _ carrying.locked found there
  exact ⟨more carrying.locked, next, here, parented.trans parent, stays.trans status⟩

/-! ## Where requests end -/

/-- An order that a step has moved is found as it left it. -/
theorem Performs.shows {step : StatusStep} (performs : Performs stamp made step db)
    (keyed : Keyed db.tables) (fits : step.Fits db.tables) (moves : step.order = some (earlier, next)) :
    ∃ found, (applied made db).tables.order? next.id = some found ∧ orderFace found = orderFace next := by
  obtain ⟨-, old, current, -⟩ := fits.order earlier next moves
  have put_ : next ∈ step.orders db.tables.orders := by
    unfold StatusStep.orders
    rw [moves]
    exact mem_put.mpr (.inl ⟨rfl, old, lookup_mem current, lookup_col current⟩)
  have shown : orderFace next ∈ (applied made db).tables.orders.map orderFace :=
    performs.orders ▸ List.mem_map_of_mem put_
  obtain ⟨found, there, same⟩ := List.mem_map.mp shown
  have lookedUp := (lookup_eq_some_iff (performs.keyed keyed).orders).mpr
    ⟨there, orderFace_key found next same⟩
  exact ⟨found, lookedUp, same⟩

/-- An order written back as it is known. -/
theorem writtenBack {orders : List Order} (keyed : Relational.Unique Order.id orders)
    (current : ∃ found, lookup Order.id order.id orders = some found ∧ orderFace found = orderFace order) :
    (put Order.id order orders).map orderFace = orders.map orderFace := by
  obtain ⟨found, there, agree⟩ := current
  refine map_put fun old inside key => ?_
  have sole := unique_eq keyed inside (lookup_mem there) (key.trans (lookup_col there).symm)
  rw [sole]
  exact agree

/-- Recording a refund leaves the order's status alone. -/
theorem recordRefund_still {db : Tables} (keyed : Keyed db)
    (current : ∃ found, db.order? order.id = some found ∧ orderFace found = orderFace order) :
    Still db (Statement.recordRefund order reason draws db) := by
  rcases recordRefund_cases order reason draws db with same | ⟨refund, paymentStatus, same⟩
  · rw [same]
    exact .refl db
  · rw [same]
    exact ⟨writtenBack keyed.orders current, rfl⟩

theorem takeBackSettlement_still (order : Order) (reason : String) (draws : Draws) (db : Tables) :
    Still db (Statement.takeBackSettlement order reason draws db) := by
  obtain ⟨_, _, same⟩ := takeBackSettlement_eq order reason draws db
  rw [same]
  exact ⟨rfl, rfl⟩

/-- Writes that end in the refund of the order they moved. -/
theorem Performs.refunded {step : StatusStep} (performs : Performs stamp made step db)
    (keyed : Keyed db.tables) (fits : step.Fits db.tables) (moves : step.order = some (earlier, next)) :
    Performs stamp (made ++ [Market.change (Statement.recordRefund next reason draws)]) step db :=
  performs.after keyed (recordRefund_still (performs.keyed keyed) (performs.shows keyed fits moves))

/-- Stock was put back first. -/
theorem Performs.credited {step : StatusStep} {listings : List StoreProduct} {orderId : UUID}
    (keyed : Keyed db.tables)
    (performs : ∀ now : Market, now.tables.orders = db.tables.orders →
      now.tables.deliveries = db.tables.deliveries → Performs stamp made step now) :
    Performs stamp ((fun market =>
      { market with
        tables := market.tables.putListings listings
        restored := market.restored ++ [orderId] }) :: made) step db := by
  have orders : (db.tables.putListings listings).orders = db.tables.orders := by
    rw [Tables.putListings_eq]
  have deliveries : (db.tables.putListings listings).deliveries = db.tables.deliveries := by
    rw [Tables.putListings_eq]
  exact .before keyed (.of_eq orders deliveries) (performs _ orders deliveries)

/-- A request that moves the order it holds, and nothing else. -/
theorem told_order (next : Order) (holding : Holding footing.held db order) (same : next.id = order.id)
    (owner : next.userId = order.userId) (allowed : canTransitionOrder order.status next.status)
    (performs : ∀ now : Market, Keyed now.tables →
      StatusStep.Fits { order := some (order.status, next) } now.tables →
      Performs stamp made { order := some (order.status, next) } now)
    (remarked : ∀ now, statusDiscipline.Later footing db now →
      Remarked asked { order := some (order.status, next) } (remark value (applied made now).tables)) :
    Told asked stamp remark (value, made) footing db := by
  refine ⟨{ order := some (order.status, next) }, ⟨?_, fun _ _ absent => by cases absent⟩,
    fun _ _ absent => (by cases absent), fun now later => ?_⟩
  · rintro _ _ ⟨⟩
    rw [same]
    exact holding.locked
  · obtain ⟨found, there, owned, status⟩ := (holding.later later (List.Subset.refl _)).current
    have fits : StatusStep.Fits { order := some (order.status, next) } now.tables := by
      refine ⟨?_, fun _ _ absent => by cases absent⟩
      rintro _ _ ⟨⟩
      exact ⟨allowed, found, same ▸ there, owned.trans owner.symm, status⟩
    exact ⟨performs now later.2 fits, fits, remarked now later⟩

/-- A request that moves the delivery it holds, and nothing else. -/
theorem told_delivery (moved : Delivery) (carrying : Carrying footing.held db delivery)
    (same : moved.id = delivery.id) (parent : moved.orderId = delivery.orderId)
    (allowed : canTransitionDelivery delivery.status moved.status)
    (fails : moved.status = .failed → FailsFor moved.failureReason)
    (remarked : ∀ db, Remarked asked { delivery := some (delivery.status, moved) } (remark value db)) :
    Told asked stamp remark (value, [Market.change (·.putDelivery moved)]) footing db := by
  refine ⟨{ delivery := some (delivery.status, moved) }, ⟨fun _ _ absent => (by cases absent), ?_⟩, ?_,
    fun now later => ?_⟩
  · rintro _ _ ⟨⟩
    rw [same]
    exact carrying.locked
  · rintro _ _ ⟨⟩
    exact fails
  · obtain ⟨found, there, parented, status⟩ := (carrying.later later (List.Subset.refl _)).current
    have fits : StatusStep.Fits { delivery := some (delivery.status, moved) } now.tables := by
      refine ⟨fun _ _ absent => (by cases absent), ?_⟩
      rintro _ _ ⟨⟩
      exact ⟨allowed, found, same ▸ there, parented.trans parent.symm, status⟩
    exact ⟨performs_write later.2 fits (.inl rfl) rfl, fits, remarked _⟩

end

/-- A request that moves the order and the delivery it holds. -/
theorem told_both (next : Order) (moved : Delivery) (holding : Holding footing.held db order)
    (carrying : Carrying footing.held db delivery) (same : next.id = order.id)
    (owner : next.userId = order.userId) (allowed : canTransitionOrder order.status next.status)
    (own : moved.id = delivery.id) (parent : moved.orderId = delivery.orderId)
    (goes : canTransitionDelivery delivery.status moved.status) (carried : moved.status ≠ .failed)
    (performs : ∀ now : Market, Keyed now.tables →
      StatusStep.Fits ⟨some (order.status, next), some (delivery.status, moved)⟩ now.tables →
      Performs stamp made ⟨some (order.status, next), some (delivery.status, moved)⟩ now)
    (remarked : ∀ db, Remarked asked ⟨some (order.status, next), some (delivery.status, moved)⟩
      (remark value db)) :
    Told asked stamp remark (value, made) footing db := by
  refine ⟨⟨some (order.status, next), some (delivery.status, moved)⟩, ⟨?_, ?_⟩, ?_, fun now later => ?_⟩
  · rintro _ _ ⟨⟩
    rw [same]
    exact holding.locked
  · rintro _ _ ⟨⟩
    rw [own]
    exact carrying.locked
  · rintro _ _ ⟨⟩ fails
    exact absurd fails carried
  · obtain ⟨found, there, owned, status⟩ := (holding.later later (List.Subset.refl _)).current
    obtain ⟨carries, here, parented, stands⟩ := (carrying.later later (List.Subset.refl _)).current
    have fits : StatusStep.Fits ⟨some (order.status, next), some (delivery.status, moved)⟩ now.tables := by
      refine ⟨?_, ?_⟩
      · rintro _ _ ⟨⟩
        exact ⟨allowed, found, same ▸ there, owned.trans owner.symm, status⟩
      · rintro _ _ ⟨⟩
        exact ⟨goes, carries, own ▸ here, parented.trans parent.symm, stands⟩
    exact ⟨performs now later.2 fits, fits, remarked _⟩

/-! ## The requests -/

section
variable {db : Market} {stamp : Stamp}

theorem currentUser_subject (gained : getCurrentUser db.tables subject = .ok user) : user.id = subject := by
  simp only [getCurrentUser, found_ok] at gained
  exact lookup_col (Option.filter_eq_some_iff.mp gained).1

/-- Moving the order it holds, then what its refund owes. -/
theorem performs_refunded {order next : Order} (keyed : Keyed db.tables)
    (fits : StatusStep.Fits { order := some (order.status, next) } db.tables) :
    Performs stamp [Market.change (·.putOrder next), Market.change (Statement.recordRefund next reason draws)]
      { order := some (order.status, next) } db :=
  Performs.refunded (performs_write keyed fits (.inl rfl) rfl) keyed fits rfl

theorem transitionOrder_keeps {order next : Order} (moved : transitionOrder order target = .ok next) :
    next.id = order.id ∧ next.userId = order.userId ∧ next.status = target := by
  obtain ⟨-, rfl⟩ := transitionOrder_ok.mp moved
  exact ⟨rfl, rfl, rfl⟩

theorem cancelMyOrderSafely_told (stamp : Stamp) (subject orderId : UUID) (draws : Draws) (db : Market)
    (asks : asked (.cancelOrder subject orderId draws)) :
    statusDiscipline.Holds ((Statement.cancelMyOrderSafely subject orderId draws).traced [])
      (Told asked stamp fun _ _ => some (.order orderId, OrderStatus.cancelled.value,
        { actorUserId := some subject, reason := some "customer_cancelled" })) {} db := by
  unfold Statement.cancelMyOrderSafely
  refine Traced.statement fun _ _ user gained => Traced.locked rfl fun order second _ read found same => ?_
  obtain ⟨own, owned⟩ := Option.filter_eq_some_iff.mp same
  cases own
  have customer : order.userId = subject :=
    (of_decide_eq_true owned).trans (currentUser_subject gained)
  have holding : Holding [(Row.order order.id).forUpdate] second order :=
    .read read (List.mem_cons_self ..)
  have named : ∀ next : Order, next.id = order.id → next.userId = order.userId →
      next.status = .cancelled → Remarked asked { order := some (order.status, next) }
        (some (.order orderId, OrderStatus.cancelled.value,
          { actorUserId := some subject, reason := some "customer_cancelled" })) := by
    intro next same owner arrived
    have entity : Entity.order orderId = .order next.id :=
      congrArg Entity.order ((lookup_col read).symm.trans same.symm)
    refine .inl ⟨_, _, rfl, rfl, entity, arrived ▸ rfl, .inl ⟨arrived, rfl, ?_, draws, ?_⟩⟩
    · exact congrArg some (owner.trans customer).symm
    · rw [owner.trans customer, ← Entity.order.inj entity]
      exact asks
  refine Traced.require fun allowed => Traced.restored ?_ fun listings third held restoring => ?_
  · refine Traced.check fun next moved => Traced.flush (Traced.flush ?_)
    obtain ⟨same, owner, arrived⟩ := transitionOrder_keeps moved
    exact told_order next holding same owner (arrived ▸ allowed) (fun _ => performs_refunded)
      fun _ _ => named next same owner arrived
  · have kept : Holding (held ++ [(Row.order order.id).forUpdate]) third order :=
      holding.later restoring (List.subset_append_right _ _)
    refine Traced.check fun next moved => Traced.flush (Traced.flush ?_)
    obtain ⟨same, owner, arrived⟩ := transitionOrder_keeps moved
    refine told_order next kept same owner (arrived ▸ allowed) ?_
      fun _ _ => named next same owner arrived
    exact fun now keyed fits => .credited keyed fun after orders deliveries =>
      performs_refunded (keyed.of_eq orders deliveries) (fits.of_eq orders deliveries)

/-- What the refund owes, then moving the order it holds. -/
theorem performs_obliged (order : Order) (keyed : Keyed db.tables) (same : next.id = order.id)
    (owner : next.userId = order.userId)
    (fits : StatusStep.Fits { order := some (order.status, next) } db.tables) :
    Performs stamp [Market.change (Statement.recordRefund order reason draws), Market.change (·.putOrder next)]
      { order := some (order.status, next) } db := by
  obtain ⟨-, found, current, owned, status⟩ := fits.order _ _ rfl
  have still : Still db.tables (Statement.recordRefund order reason draws db.tables) := by
    apply recordRefund_still keyed
    refine ⟨found, same ▸ current, ?_⟩
    rw [orderFace, orderFace, owned, owner, status, lookup_col current, same]
  exact .before keyed still (performs_write (still.keyed keyed) (fits.still keyed still) (.inl rfl) rfl)

theorem updateOrderStatusSafely_told (stamp : Stamp) (subject orderId : UUID) (status : OrderStatus)
    (draws : Draws) (db : Market) (asks : asked (.updateOrderStatus subject orderId status draws)) :
    statusDiscipline.Holds ((Statement.updateOrderStatusSafely subject orderId status draws).traced [])
      (Told asked stamp fun _ _ => some (.order orderId, status.value,
        { actorUserId := some subject, reason := some "merchant_status_update" })) {} db := by
  unfold Statement.updateOrderStatusSafely
  refine Traced.statement fun _ _ user _ => Traced.check fun _ _ => ?_
  refine Traced.locked rfl fun order second _ read found same => ?_
  cases same
  refine Traced.statement fun third permitting _ _ => Traced.require fun assignable => ?_
  have holding : Holding [(Row.order order.id).forUpdate] third order :=
    (Holding.read read (List.mem_cons_self ..)).later permitting (List.Subset.refl _)
  have named : ∀ next : Order, next.id = order.id → next.status = status → Remarked asked
      { order := some (order.status, next) } (some (.order orderId, status.value,
        { actorUserId := some subject, reason := some "merchant_status_update" })) := by
    rintro next same rfl
    have own : orderId = next.id := (lookup_col read).symm.trans same.symm
    refine .inl ⟨_, _, rfl, rfl, congrArg Entity.order own, rfl, .inr (.inl ⟨assignable, rfl, ?_⟩)⟩
    exact ⟨subject, draws, rfl, own ▸ asks⟩
  refine Traced.require fun allowed => Traced.require fun _ => Traced.branch (fun cancels => ?_) fun _ => ?_
  · subst cancels
    refine Traced.check fun _ _ => Traced.restored ?_ fun listings fourth held restoring => ?_
    · refine Traced.query fun fifth owing => Traced.flush (Traced.check fun next moved => Traced.flush ?_)
      obtain ⟨same, owner, arrived⟩ := transitionOrder_keeps moved
      have kept : Holding [(Row.order order.id).forUpdate] fifth order :=
        holding.later owing (List.Subset.refl _)
      exact told_order next kept same owner (arrived ▸ allowed)
        (fun _ keyed => performs_obliged order keyed same owner) fun _ _ => named next same arrived
    · have kept : Holding (held ++ [(Row.order order.id).forUpdate]) fourth order :=
        holding.later restoring (List.subset_append_right _ _)
      refine Traced.query fun fifth owing => Traced.flush (Traced.check fun next moved => Traced.flush ?_)
      obtain ⟨same, owner, arrived⟩ := transitionOrder_keeps moved
      have still : Holding (held ++ [(Row.order order.id).forUpdate]) fifth order :=
        kept.later owing (List.Subset.refl _)
      refine told_order next still same owner (arrived ▸ allowed) ?_ fun _ _ => named next same arrived
      exact fun now keyed fits => .credited keyed fun after orders deliveries =>
        performs_obliged { order with stockRestoredAt := some draws.now } (keyed.of_eq orders deliveries)
          same owner (fits.of_eq orders deliveries)
  · refine Traced.check fun next moved => Traced.flush ?_
    obtain ⟨same, owner, arrived⟩ := transitionOrder_keeps moved
    exact told_order next holding same owner (arrived ▸ allowed)
      (fun _ keyed fits => performs_write keyed fits (.inl rfl) rfl) fun _ _ => named next same arrived

theorem assignedDelivery_keeps (assigned : assignedDelivery delivery riderId moment = .ok moved) :
    moved.id = delivery.id ∧ moved.orderId = delivery.orderId ∧ moved.status = .assigned ∧
      canTransitionDelivery delivery.status moved.status := by
  obtain ⟨allowed, rfl⟩ := assignedDelivery_ok.mp assigned
  exact ⟨rfl, rfl, rfl, allowed⟩

theorem releasedDelivery_keeps (released : releasedDelivery delivery moment = .ok moved) :
    moved.id = delivery.id ∧ moved.orderId = delivery.orderId ∧ moved.status = .unassigned ∧
      canTransitionDelivery delivery.status moved.status := by
  obtain ⟨allowed, rfl⟩ := releasedDelivery_ok.mp released
  exact ⟨rfl, rfl, rfl, allowed⟩

/-- A request that hands out a delivery and says nothing of it. -/
theorem told_assigned (carrying : Carrying footing.held db delivery)
    (assigned : assignedDelivery delivery riderId moment = .ok moved) :
    Told asked stamp (fun _ _ => none) (value, [Market.change (·.putDelivery moved)]) footing db := by
  obtain ⟨same, parent, status, allowed⟩ := assignedDelivery_keeps assigned
  refine told_delivery moved carrying same parent allowed (fun fails => ?_) fun _ _ _ absent => ?_
  · cases fails.symm.trans status
  · cases absent

theorem claimDelivery_told (stamp : Stamp) (subject deliveryId : UUID) (draws : Draws) (db : Market) :
    statusDiscipline.Holds ((Statement.claimDelivery subject deliveryId draws).traced [])
      (Told asked stamp fun _ _ => none) {} db := by
  unfold Statement.claimDelivery
  refine Traced.statement fun _ _ user _ => Traced.remember fun _ _ => Traced.check fun _ _ => ?_
  refine Traced.locked rfl fun delivery first _ read _ same => ?_
  cases same
  have carrying : Carrying [(Row.delivery delivery.id).forUpdate] first delivery :=
    .read read (List.mem_cons_self ..)
  refine Traced.locked rfl fun order second ordering _ _ _ => Traced.require fun _ => ?_
  refine Traced.locked rfl fun row third riding _ _ _ => Traced.query fun fourth looking => ?_
  refine Traced.require fun _ => Traced.check fun moved assigned => Traced.flush ?_
  have ordered := carrying.later ordering (List.subset_cons_self (Row.order order.id).forUpdate _)
  have ridden := ordered.later riding (List.subset_cons_self (Row.user row.id).forUpdate _)
  exact told_assigned (ridden.later looking (List.Subset.refl _)) assigned

theorem adminAssignDelivery_told (stamp : Stamp) (subject deliveryId riderId : UUID) (draws : Draws)
    (db : Market) :
    statusDiscipline.Holds ((Statement.adminAssignDelivery subject deliveryId riderId draws).traced [])
      (Told asked stamp fun _ _ => none) {} db := by
  unfold Statement.adminAssignDelivery
  refine Traced.statement fun _ _ _ _ => Traced.locked rfl fun delivery first _ read _ same => ?_
  cases same
  have carrying : Carrying [(Row.delivery delivery.id).forUpdate] first delivery :=
    .read read (List.mem_cons_self ..)
  refine Traced.locked rfl fun order second ordering _ _ _ => Traced.require fun _ => ?_
  refine Traced.locked rfl fun row third riding _ _ _ => Traced.query fun fourth looking => ?_
  refine Traced.require fun _ => Traced.check fun moved assigned => Traced.flush ?_
  have ordered := carrying.later ordering (List.subset_cons_self (Row.order order.id).forUpdate _)
  have ridden := ordered.later riding (List.subset_cons_self (Row.user row.id).forUpdate _)
  exact told_assigned (ridden.later looking (List.Subset.refl _)) assigned

theorem autoAssignDelivery_told (env : Environment) (stamp : Stamp) (subject deliveryId : UUID)
    (maxRadiusKm : ℚ) (draws : Draws) (db : Market) :
    statusDiscipline.Holds
      ((Statement.autoAssignDelivery env subject deliveryId maxRadiusKm draws).traced [])
      (Told asked stamp fun _ _ => none) {} db := by
  unfold Statement.autoAssignDelivery
  refine Traced.statement fun _ _ _ _ => Traced.require fun _ => ?_
  refine Traced.locked rfl fun delivery first _ read _ same => ?_
  cases same
  have carrying : Carrying [(Row.delivery delivery.id).forUpdate] first delivery :=
    .read read (List.mem_cons_self ..)
  refine Traced.locked rfl fun order second ordering _ _ _ => Traced.require fun _ => ?_
  have ordered := carrying.later ordering (List.subset_cons_self (Row.order order.id).forUpdate _)
  refine Traced.query fun third placing => Traced.found fun store _ => ?_
  have placed := ordered.later placing (List.Subset.refl _)
  refine Traced.rider fun riderId fourth held ranking => ?_
  have ranked := placed.later ranking (List.subset_append_right held _)
  refine Traced.locked rfl fun row fifth riding _ _ _ => Traced.query fun sixth looking => ?_
  have ridden := ranked.later riding (List.subset_cons_self (Row.user row.id).forUpdate _)
  refine Traced.require fun _ => Traced.check fun moved assigned => Traced.flush ?_
  exact told_assigned (ridden.later looking (List.Subset.refl _)) assigned

theorem dispatchReadyTask_told (env : Environment) (stamp : Stamp) (radiusKm : ℚ) (seen : List UUID)
    (draws : Draws) (db : Market) :
    statusDiscipline.Holds ((Statement.dispatchReadyTask env radiusKm seen draws).traced [])
      (Told asked stamp fun handed _ => some (.delivery handed.1, DeliveryStatus.assigned.value,
        { reason := some "background_auto_dispatch"
          metadata := [("rider_id", .str (uuidText handed.2)),
            ("selection", .str "nearest_eligible_online_rider")] })) {} db := by
  unfold Statement.dispatchReadyTask
  refine Traced.query fun first waiting => ?_
  refine Traced.skipLocked waiting.2 fun id delivery second tried picking read => ?_
  have picked := (Option.filter_eq_some_iff.mp read).1
  have own : delivery.id = id := lookup_col picked
  subst own
  have carrying : Carrying ((Row.delivery delivery.id).forUpdate :: (tried ++ [])) second delivery :=
    .read picked (List.mem_cons_self ..)
  refine Traced.locked rfl fun order third ordering _ _ _ => Traced.require fun _ => ?_
  have ordered := carrying.later ordering (List.subset_cons_self (Row.order order.id).forUpdate _)
  refine Traced.query fun fourth placing => Traced.found fun store _ => ?_
  have placed := ordered.later placing (List.Subset.refl _)
  refine Traced.rider fun riderId fifth held ranking => ?_
  have ranked := placed.later ranking (List.subset_append_right held _)
  refine Traced.query fun sixth asking => Traced.found fun _ _ => Traced.query fun seventh looking => ?_
  have asked := ranked.later asking (List.Subset.refl _)
  refine Traced.require fun _ => Traced.check fun moved assigned => Traced.flush ?_
  obtain ⟨same, parent, status, allowed⟩ := assignedDelivery_keeps assigned
  refine told_delivery moved (asked.later looking (List.Subset.refl _)) same parent allowed
    (fun fails => ?_) fun _ => ?_
  · cases fails.symm.trans status
  · refine .inr ⟨_, _, rfl, rfl, congrArg Entity.delivery same.symm, status ▸ rfl, fun fails => ?_⟩
    cases fails.symm.trans status

/-- A request that gives a delivery back, and what it says of it. -/
theorem told_released (carrying : Carrying footing.held db delivery)
    (released : releasedDelivery delivery moment = .ok moved)
    (remarked : ∀ db, remark value db = none ∨ ∃ note : Annotation,
      remark value db = some (.delivery delivery.id, DeliveryStatus.unassigned.value, note)) :
    Told asked stamp remark (value, [Market.change (·.putDelivery moved)]) footing db := by
  obtain ⟨same, parent, status, allowed⟩ := releasedDelivery_keeps released
  refine told_delivery moved carrying same parent allowed (fun fails => ?_) fun db => ?_
  · cases fails.symm.trans status
  · rcases remarked db with silent | ⟨note, remarks⟩
    · rw [silent]
      exact fun _ _ absent => by cases absent
    · rw [remarks]
      refine .inr ⟨_, _, rfl, rfl, congrArg Entity.delivery same.symm, status ▸ rfl, fun fails => ?_⟩
      cases fails.symm.trans status

theorem adminUnassignDelivery_told (stamp : Stamp) (subject deliveryId : UUID) (draws : Draws)
    (db : Market) :
    statusDiscipline.Holds ((Statement.adminUnassignDelivery subject deliveryId draws).traced [])
      (Told asked stamp fun _ _ => none) {} db := by
  unfold Statement.adminUnassignDelivery
  refine Traced.statement fun _ _ _ _ => Traced.locked rfl fun delivery first _ read _ same => ?_
  cases same
  have carrying : Carrying [(Row.delivery delivery.id).forUpdate] first delivery :=
    .read read (List.mem_cons_self ..)
  refine Traced.require fun _ => Traced.locked rfl fun order second ordering _ _ _ => ?_
  have ordered := carrying.later ordering (List.subset_cons_self (Row.order order.id).forUpdate _)
  refine Traced.require fun _ => Traced.check fun moved released => Traced.flush ?_
  exact told_released ordered released fun _ => .inl rfl

theorem recoverFailedDelivery_told (stamp : Stamp) (subject deliveryId : UUID) (draws : Draws)
    (db : Market) :
    statusDiscipline.Holds ((Statement.recoverFailedDelivery subject deliveryId draws).traced [])
      (Told asked stamp fun _ _ => some (.delivery deliveryId, DeliveryStatus.unassigned.value,
        { actorUserId := some subject, reason := some "admin_recovered_before_pickup" })) {} db := by
  unfold Statement.recoverFailedDelivery
  refine Traced.statement fun _ _ _ _ => Traced.locked rfl fun delivery first _ read _ same => ?_
  cases same
  have own : delivery.id = deliveryId := lookup_col read
  subst own
  have carrying : Carrying [(Row.delivery delivery.id).forUpdate] first delivery :=
    .read read (List.mem_cons_self ..)
  refine Traced.locked rfl fun order second ordering _ _ _ => ?_
  have ordered := carrying.later ordering (List.subset_cons_self (Row.order order.id).forUpdate _)
  refine Traced.require fun _ => Traced.require fun _ => ?_
  refine Traced.check fun moved released => Traced.flush ?_
  exact told_released ordered released fun _ => .inr ⟨_, rfl⟩

theorem failDelivery_told (stamp : Stamp) (subject deliveryId : UUID) (payload : DeliveryFailureRequest)
    (draws : Draws) (db : Market) :
    statusDiscipline.Holds ((Statement.failDelivery subject deliveryId payload draws).traced [])
      (Told asked stamp fun _ db => (db.delivery? deliveryId).map fun delivery =>
        (.delivery deliveryId, DeliveryStatus.failed.value,
          { actorUserId := some subject, reason := some payload.reason
            metadata := [("after_pickup", .bool delivery.pickedUpAt.isSome)] })) {} db := by
  unfold Statement.failDelivery
  refine Traced.statement fun _ _ _ _ => Traced.check fun _ _ => Traced.require fun listed => ?_
  refine Traced.locked rfl fun delivery first _ read _ same => ?_
  cases same
  have own : delivery.id = deliveryId := lookup_col read
  subst own
  have carrying : Carrying [(Row.delivery delivery.id).forUpdate] first delivery :=
    .read read (List.mem_cons_self ..)
  refine Traced.locked rfl fun order second ordering _ _ _ => Traced.check fun _ _ => ?_
  have ordered := carrying.later ordering (List.subset_cons_self (Row.order order.id).forUpdate _)
  refine Traced.require fun _ => Traced.check fun next failed => Traced.flush ?_
  obtain ⟨allowed, rfl⟩ := transitionDelivery_ok.mp failed
  have reason : FailsFor (some payload.reason) := ⟨payload.reason, listed.1, rfl⟩
  refine told_delivery { delivery with
      status := .failed, failedAt := some draws.now, failureReason := some payload.reason
      failureNotes := payload.notes, failureEvidenceUrl := payload.evidenceUrl, updatedAt := draws.now }
    ordered rfl rfl allowed (fun _ => reason) fun db => ?_
  cases db.delivery? delivery.id with
  | none => exact fun _ _ absent => by cases absent
  | some found => exact .inr ⟨_, _, rfl, rfl, rfl, rfl, fun _ => reason⟩

theorem updateDeliveryStatus_told (stamp : Stamp) (subject deliveryId : UUID) (status : DeliveryStatus)
    (draws : Draws) (db : Market) :
    statusDiscipline.Holds ((Statement.updateDeliveryStatus subject deliveryId status draws).traced [])
      (Told asked stamp fun _ _ => none) {} db := by
  unfold Statement.updateDeliveryStatus
  refine Traced.statement fun _ _ _ _ => Traced.check fun _ _ => Traced.require fun screened => ?_
  refine Traced.locked rfl fun delivery first _ read _ same => ?_
  cases same
  have carrying : Carrying [(Row.delivery delivery.id).forUpdate] first delivery :=
    .read read (List.mem_cons_self ..)
  refine Traced.check fun _ _ => Traced.require fun allowed => ?_
  refine Traced.locked rfl fun order second ordering found _ same => ?_
  cases same
  have holding : Holding [(Row.order order.id).forUpdate, (Row.delivery delivery.id).forUpdate] second order :=
    .read found (List.mem_cons_self ..)
  have ordered := carrying.later ordering (List.subset_cons_self (Row.order order.id).forUpdate _)
  refine Traced.check fun (changed, next) effects => Traced.check fun moved goes => Traced.flush ?_
  obtain ⟨-, rfl⟩ := transitionDelivery_ok.mp goes
  by_cases pickup : status = .pickedUp
  · subst pickup
    simp only [deliveryStatusEffects, require_bind_ok, transitionOrder_bind_ok, pure_ok,
      Prod.mk.injEq] at effects
    obtain ⟨-, leaves, -, rfl, rfl⟩ := effects
    refine told_both { order with status := .outForDelivery } { delivery with
        status := .pickedUp, pickedUpAt := some draws.now, updatedAt := draws.now } holding ordered
      rfl rfl leaves rfl rfl allowed (fun fails => by cases fails) (fun now keyed fits => ?_) fun _ => ?_
    · exact performs_write keyed fits (.inl rfl) rfl
    · rintro _ _ ⟨⟩
      exact .inl rfl
  · have kept : next = order ∧ changed.id = delivery.id ∧ changed.orderId = delivery.orderId := by
      cases status with
      | pickedUp => exact absurd rfl pickup
      | unassigned =>
        simp only [deliveryStatusEffects, require_bind_ok, pure_ok, Prod.mk.injEq] at effects
        obtain ⟨-, rfl, rfl⟩ := effects
        exact ⟨rfl, rfl, rfl⟩
      | _ =>
        simp only [deliveryStatusEffects, pure_ok, Prod.mk.injEq] at effects
        obtain ⟨rfl, rfl⟩ := effects
        exact ⟨rfl, rfl, rfl⟩
    obtain ⟨rfl, own, parent⟩ := kept
    -- the order is written back as it was read, and is not moved
    refine ⟨{ delivery := some (delivery.status, { changed with status, updatedAt := draws.now }) },
      ⟨fun _ _ absent => (by cases absent), ?_⟩, ?_, fun now later => ?_⟩
    · rintro _ _ ⟨⟩
      exact own ▸ ordered.locked
    · rintro _ _ ⟨⟩ fails
      exact absurd fails screened.2
    · obtain ⟨held, there, parented, stands⟩ := (ordered.later later (List.Subset.refl _)).current
      obtain ⟨current, here, owned, stays⟩ := (holding.later later (List.Subset.refl _)).current
      have fits : StatusStep.Fits
          { delivery := some (delivery.status, { changed with status, updatedAt := draws.now }) }
          now.tables := by
        refine ⟨fun _ _ absent => (by cases absent), ?_⟩
        rintro _ _ ⟨⟩
        exact ⟨allowed, held, own ▸ there, parented.trans parent.symm, stands⟩
      have face : orderFace current = orderFace next := by
        rw [orderFace, orderFace, owned, stays, lookup_col here]
      refine ⟨performs_write later.2 fits (.inr ⟨rfl, ?_⟩) rfl, fits, fun _ _ absent => by cases absent⟩
      exact writtenBack later.2.orders ⟨current, here, face⟩

theorem recordSettlement_still (order : Order) (draws : Draws) (db : Tables) :
    Still db (recordSettlement order draws db) := by
  refine .of_eq ?_ (recordSettlement_deliveries order draws db)
  unfold recordSettlement
  split
  · next result entry ran =>
    unfold ensureSettlementEntry at ran
    split at ran
    · cases ran
      rfl
    · split at ran
      · simp only [found_bind_ok, flushRows_bind_ok, pure_ok, Prod.mk.injEq] at ran
        obtain ⟨store, -, -, rfl, -⟩ := ran
        rfl
      · cases ran
        rfl
  · rfl

theorem performs_both (next : Order) (moved : Delivery) (keyed : Keyed db.tables)
    (fits : StatusStep.Fits ⟨some (before, next), some (earlier, moved)⟩ db.tables) :
    Performs stamp [Market.change fun db => (db.putDelivery moved).putOrder next]
      ⟨some (before, next), some (earlier, moved)⟩ db :=
  performs_write keyed fits (.inl rfl) rfl

theorem completeDeliveryWithFinancials_told (stamp : Stamp) (subject deliveryId : UUID) (draws : Draws)
    (db : Market) :
    statusDiscipline.Holds
      ((Statement.completeDeliveryWithFinancials subject deliveryId draws).traced [])
      (Told asked stamp fun _ _ => none) {} db := by
  unfold Statement.completeDeliveryWithFinancials
  refine Traced.statement fun _ _ _ _ => Traced.check fun _ _ => ?_
  refine Traced.locked rfl fun delivery first _ read _ same => ?_
  cases same
  have carrying : Carrying [(Row.delivery delivery.id).forUpdate] first delivery :=
    .read read (List.mem_cons_self ..)
  refine Traced.locked rfl fun order second ordering found _ same => ?_
  cases same
  have holding : Holding [(Row.order order.id).forUpdate, (Row.delivery delivery.id).forUpdate] second order :=
    .read found (List.mem_cons_self ..)
  have ordered := carrying.later ordering (List.subset_cons_self (Row.order order.id).forUpdate _)
  refine Traced.check fun _ _ => Traced.require fun goes => Traced.require fun allowed => ?_
  refine Traced.require fun _ => Traced.query fun third proving => Traced.found fun _ _ => ?_
  refine Traced.statement fun fourth collecting _ _ => ?_
  refine Traced.check fun moved delivered => Traced.check fun next arrives => Traced.flush ?_
  obtain ⟨-, rfl⟩ := transitionDelivery_ok.mp delivered
  obtain ⟨same, owner, arrived⟩ := transitionOrder_keeps arrives
  have held := (holding.later proving (List.Subset.refl _)).later collecting (List.Subset.refl _)
  have carried := (ordered.later proving (List.Subset.refl _)).later collecting (List.Subset.refl _)
  have settled : ∀ paymentStatus, Remarked asked ⟨some (order.status, { next with paymentStatus }),
      some (delivery.status, { delivery with
        status := .delivered, deliveredAt := some draws.now, updatedAt := draws.now })⟩ none := by
    rintro paymentStatus _ _ ⟨⟩
    exact .inr arrived
  refine Traced.branch (fun paid => ?_) fun unpaid => ?_
  · refine Traced.statement fun fifth settling _ _ => Traced.flush ?_
    refine told_both { next with
        paymentStatus := if next.paymentMethod = .cod then .paid else next.paymentStatus }
      { delivery with status := .delivered, deliveredAt := some draws.now, updatedAt := draws.now }
      (held.later settling (List.Subset.refl _)) (carried.later settling (List.Subset.refl _)) same
      owner (arrived ▸ allowed) rfl rfl goes nofun (fun now keyed fits => ?_) fun _ => settled _
    exact (performs_both _ _ keyed fits).after keyed (recordSettlement_still _ draws _)
  · refine told_both { next with
        paymentStatus := if next.paymentMethod = .cod then .paid else next.paymentStatus }
      { delivery with status := .delivered, deliveredAt := some draws.now, updatedAt := draws.now }
      held carried same owner (arrived ▸ allowed) rfl rfl goes nofun (fun now keyed fits => ?_)
      fun _ => settled _
    exact performs_both _ _ keyed fits

/-- Moving the order it holds, then the merchant's entitlement and what the refund owes. -/
theorem performs_returned {order next : Order} (keyed : Keyed db.tables)
    (fits : StatusStep.Fits { order := some (order.status, next) } db.tables) :
    Performs stamp [Market.change (·.putOrder next),
        Market.change (Statement.takeBackSettlement next voidReasonReturned draws),
        Market.change (Statement.recordRefund next refundReasonReturned draws)]
      { order := some (order.status, next) } db := by
  have moved : Performs stamp [Market.change (·.putOrder next)] { order := some (order.status, next) } db :=
    performs_write keyed fits (.inl rfl) rfl
  have taken : Performs stamp [Market.change (·.putOrder next),
      Market.change (Statement.takeBackSettlement next voidReasonReturned draws)]
      { order := some (order.status, next) } db :=
    moved.after keyed (takeBackSettlement_still next _ draws _)
  exact taken.refunded keyed fits rfl

theorem resolveFailedDelivery_told (stamp : Stamp) (subject deliveryId : UUID) (resolution : Resolution)
    (notes : Option String) (draws : Draws) (db : Market) :
    asked (.dispatch (.resolveFailedDelivery subject deliveryId resolution notes draws)) →
    statusDiscipline.Holds
      ((Statement.resolveFailedDelivery subject deliveryId resolution notes draws).traced [])
      (Told asked stamp fun _ db =>
        match resolution with
        | .reassign =>
          some (.delivery deliveryId, DeliveryStatus.unassigned.value,
            { actorUserId := some subject, reason := some "admin_reassign"
              metadata := notesField notes })
        | .returnToStore =>
          (db.delivery? deliveryId).map fun delivery =>
            (.order delivery.orderId, OrderStatus.returned.value,
              { actorUserId := some subject, reason := some "delivery_failed_after_pickup"
                metadata := ("delivery_id", .str (uuidText delivery.id)) :: notesField notes })) {} db := by
  intro asks
  unfold Statement.resolveFailedDelivery
  refine Traced.statement fun _ _ _ _ => Traced.require fun _ => ?_
  refine Traced.locked rfl fun delivery first _ read _ same => ?_
  cases same
  have own : delivery.id = deliveryId := lookup_col read
  subst own
  have carrying : Carrying [(Row.delivery delivery.id).forUpdate] first delivery :=
    .read read (List.mem_cons_self ..)
  refine Traced.locked rfl fun order second ordering found _ same => ?_
  cases same
  have parent : order.id = delivery.orderId := lookup_col found
  have holding : Holding [(Row.order order.id).forUpdate, (Row.delivery delivery.id).forUpdate] second order :=
    .read found (List.mem_cons_self ..)
  have ordered := carrying.later ordering (List.subset_cons_self (Row.order order.id).forUpdate _)
  refine Traced.require fun _ => ?_
  cases resolution with
  | reassign =>
    refine Traced.require fun _ => Traced.require fun _ => ?_
    refine Traced.check fun moved released => Traced.flush ?_
    exact told_released ordered released fun _ => .inr ⟨_, rfl⟩
  | returnToStore =>
    refine Traced.check fun _ _ => Traced.check fun _ _ => Traced.require fun allowed => ?_
    refine Traced.query fun third collecting => Traced.require fun _ => ?_
    have held := holding.later collecting (List.Subset.refl _)
    have carried := ordered.later collecting (List.Subset.refl _)
    have named : ∀ (next : Order) (made : List (Market → Market)) (now : Market),
        (applied made now).tables.deliveries = now.tables.deliveries →
        (∃ found, now.tables.delivery? delivery.id = some found ∧ found.orderId = delivery.orderId ∧
          found.status = delivery.status) → next.id = order.id → next.status = .returned →
        Remarked asked { order := some (order.status, next) }
          (((applied made now).tables.delivery? delivery.id).map fun found =>
            (.order found.orderId, OrderStatus.returned.value,
              { actorUserId := some subject, reason := some "delivery_failed_after_pickup"
                metadata := ("delivery_id", .str (uuidText found.id)) :: notesField notes })) := by
      rintro next made now deliveries ⟨found, there, parented, -⟩ same arrived
      rw [Tables.delivery?, deliveries, ← Tables.delivery?, there]
      refine .inl ⟨_, _, rfl, rfl, congrArg Entity.order ?_, arrived ▸ rfl, .inr (.inr ⟨arrived, rfl, ?_⟩)⟩
      · exact parented.trans (parent.symm.trans same.symm)
      · exact ⟨subject, delivery.id, notes, draws, rfl, asks⟩
    refine Traced.restored ?_ fun listings fourth locks restoring => ?_
    · refine Traced.check fun next moved => Traced.flush (Traced.flush (Traced.flush ?_))
      obtain ⟨same, owner, arrived⟩ := transitionOrder_keeps moved
      refine told_order next held same owner (arrived ▸ allowed) (fun _ => performs_returned) ?_
      intro now later
      refine named next _ now ?_ (carried.later later (List.Subset.refl _)).current same arrived
      simp [applied, Tables.putOrder]
    · refine Traced.check fun next moved => Traced.flush (Traced.flush (Traced.flush ?_))
      obtain ⟨same, owner, arrived⟩ := transitionOrder_keeps moved
      have kept := held.later restoring (List.subset_append_right locks _)
      have still := carried.later restoring (List.subset_append_right locks _)
      refine told_order next kept same owner (arrived ▸ allowed) ?_ ?_
      · exact fun now keyed fits => .credited keyed fun after orders deliveries =>
          performs_returned (keyed.of_eq orders deliveries) (fits.of_eq orders deliveries)
      · intro now later
        refine named next _ now ?_ (still.later later (List.Subset.refl _)).current same arrived
        simp [applied, Tables.putOrder]

end

end GaonOne
