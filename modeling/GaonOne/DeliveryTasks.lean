import GaonOne.Deliveries
import GaonOne.Library.Decimal
import GaonOne.Library.Queries
import GaonOne.PaymentProgress
import Mathlib.Order.OrderDual

/-! The riders' task board. What it offers an idle rider is what the rider can claim, the longest
waiting first, and a claim takes one delivery off the board and puts it before its rider. -/
namespace GaonOne
open Relational UnitOfWork

/-- An unassigned task: where to collect, and roughly how far the drop is. -/
structure DeliveryTaskOffer where
  id : UUID
  orderId : UUID
  orderNumber : String
  status : DeliveryStatus
  paymentMethod : PaymentMethod
  paymentStatus : PaymentStatus
  total : Paise
  itemCount : Nat
  storeName : String
  storeLandmark : Option String
  storeLatitude : Option ℚ
  storeLongitude : Option ℚ
  dropoffArea : Option String
  dropoffDistanceKm : Option ℚ
  deriving DecidableEq, Repr

/-- Full delivery detail, for the rider who carries it. -/
structure DeliveryTask where
  id : UUID
  orderId : UUID
  orderNumber : String
  status : DeliveryStatus
  paymentMethod : PaymentMethod
  paymentStatus : PaymentStatus
  total : Paise
  storeName : String
  storePhone : Option String
  storeLandmark : Option String
  storeLatitude : Option ℚ
  storeLongitude : Option ℚ
  recipientName : Option String
  recipientPhone : Option String
  houseDetails : Option String
  customerLandmark : String
  customerDirections : Option String
  customerLatitude : Option ℚ
  customerLongitude : Option ℚ
  deriving DecidableEq, Repr

def Tables.address? (db : Tables) (id : UUID) : Option Address :=
  lookup Address.id id db.catalogue.addresses

/-- `round(value)`: half to even. -/
def roundToInt (value : ℚ) : Int := Decimal.quantizeCents (value / 100)

/-- The distance of two points, where both are known, to the nearest half kilometre. `distanceKm`
stands for `_distance_km`, a computation in floating point of which nothing is assumed. -/
def roughDistance (distanceKm : Point → Point → ℚ) (store : Store) (address : Address) :
    Option ℚ := do
  let storeLatitude ← store.latitude
  let storeLongitude ← store.longitude
  let latitude ← address.latitude
  let longitude ← address.longitude
  some (roundToInt (distanceKm ⟨storeLatitude, storeLongitude⟩ ⟨latitude, longitude⟩ * 2) / 2)

/-- The three rows a task is put together from; without one of them there is no task. -/
def taskRows (db : Tables) (delivery : Delivery) : Option (Order × Store × Address) := do
  let order ← db.order? delivery.orderId
  let store ← db.store? order.storeId
  let address ← db.address? order.addressId
  some (order, store, address)

/-- `_offer`. -/
def taskOffer (distanceKm : Point → Point → ℚ) (db : Tables) (delivery : Delivery) :
    Option DeliveryTaskOffer :=
  (taskRows db delivery).map fun (order, store, address) =>
    { id := delivery.id
      orderId := order.id
      orderNumber := order.orderNumber
      status := delivery.status
      paymentMethod := order.paymentMethod
      paymentStatus := order.paymentStatus
      total := order.total
      itemCount := (belonging OrderItem.orderId order.id db.orderItems).length
      storeName := store.name
      storeLandmark := store.landmark
      storeLatitude := store.latitude
      storeLongitude := store.longitude
      dropoffArea := (lookup Village.id address.villageId db.catalogue.villages).map (·.name)
      dropoffDistanceKm := roughDistance distanceKm store address }

/-- `_task`. -/
def deliveryTask (db : Tables) (delivery : Delivery) : Option DeliveryTask :=
  (taskRows db delivery).map fun (order, store, address) =>
    { id := delivery.id
      orderId := order.id
      orderNumber := order.orderNumber
      status := delivery.status
      paymentMethod := order.paymentMethod
      paymentStatus := order.paymentStatus
      total := order.total
      storeName := store.name
      storePhone := store.phone
      storeLandmark := store.landmark
      storeLatitude := store.latitude
      storeLongitude := store.longitude
      recipientName := address.recipientName
      recipientPhone := address.phone
      houseDetails := address.houseDetails
      customerLandmark := address.landmark
      customerDirections := address.directions
      customerLatitude := address.latitude
      customerLongitude := address.longitude }

/-- The delivery waits for a rider, and its order may leave the store. -/
def isOpen (db : Tables) (delivery : Delivery) : Prop :=
  delivery.status = .unassigned ∧ ∃ order ∈ db.order? delivery.orderId,
    order.status = .ready ∧ (order.paymentMethod = .cod ∨ order.paymentStatus = .paid)

instance (db : Tables) (delivery : Delivery) : Decidable (isOpen db delivery) :=
  inferInstanceAs (Decidable (_ ∧ ∃ _ ∈ _, _))

/-- The open deliveries, the longest waiting first. -/
def openDeliveries (db : Tables) : List Delivery :=
  ordered Delivery.updatedAt (db.deliveries.filter (isOpen db ·))

def limitOk (limit : Nat) : Prop := 1 ≤ limit ∧ limit ≤ 200

instance (limit : Nat) : Decidable (limitOk limit) := inferInstanceAs (Decidable (_ ∧ _))

/-- `GET /delivery/tasks/available`. -/
def availableTasks (distanceKm : Point → Point → ℚ) (db : Tables) (subject : UUID) (limit : Nat) :
    Handler (List DeliveryTaskOffer) := do
  let user ← getCurrentUser db subject
  requireRoles user [.delivery, .admin]
  require (limitOk limit) ⟨422, "limit"⟩
  ensureAdminCapability user .riderRead
  if user.role = .delivery ∧ riderIsBusy db user.id none then pure []
  else pure (((openDeliveries db).take limit).filterMap (taskOffer distanceKm db))

/-- A rider's deliveries, the last touched first. -/
def carriedBy (db : Tables) (riderId : UUID) : List Delivery :=
  ordered (OrderDual.toDual ·.updatedAt) (db.deliveries.filter (·.deliveryPartnerId = some riderId))

/-- `GET /delivery/tasks/me`. -/
def myTasks (db : Tables) (subject : UUID) (limit : Nat) : Handler (List DeliveryTask) := do
  let user ← getCurrentUser db subject
  requireRoles user [.delivery]
  require (limitOk limit) ⟨422, "limit"⟩
  pure (((carriedBy db user.id).take limit).filterMap (deliveryTask db))

/-! ## What can be claimed -/

/-- A rider who may carry deliveries. -/
structure Rides (db : Tables) (subject : UUID) (rider : User) : Prop where
  asking : db.user? subject = some rider
  active : rider.isActive = true
  verified : rider.isVerified = true
  role : rider.role = .delivery

/-- Every order is for a store and an address that exist. -/
def Tables.Housed (db : Tables) : Prop :=
  ∀ order ∈ db.orders, (db.store? order.storeId).isSome ∧ (db.address? order.addressId).isSome

instance (db : Tables) : Decidable db.Housed := inferInstanceAs (Decidable (∀ _ ∈ _, _))

section
variable {distanceKm : Point → Point → ℚ} {db : Tables} {subject deliveryId : UUID} {rider : User}
  {draws : Draws} {limit : Nat} {delivery : Delivery}

theorem Rides.putDelivery (rides : Rides db subject rider) (new : Delivery) :
    Rides (db.putDelivery new) subject rider :=
  ⟨rides.asking, rides.active, rides.verified, rides.role⟩

/-- Setting aside a delivery nobody carries sets nothing aside. -/
theorem riderIsBusy_aside (ids : Relational.Unique Delivery.id db.deliveries)
    (held : delivery ∈ db.deliveries) (free : delivery.status = .unassigned) (riderId : UUID) :
    riderIsBusy db riderId (some delivery.id) ↔ riderIsBusy db riderId none := by
  constructor
  · rintro ⟨other, inside, carries, active, -⟩
    exact ⟨other, inside, carries, active, by simp⟩
  · rintro ⟨other, inside, carries, active, -⟩
    refine ⟨other, inside, carries, active, fun same => ?_⟩
    have equal := unique_eq ids inside held (Option.some.inj same).symm
    subst equal
    simp [free] at active

/-- An idle rider can claim exactly the open deliveries. -/
theorem claimDelivery_isOk (constraints : db.Constraints) (rides : Rides db subject rider) :
    (∃ result, claimDelivery (Session.start db) subject deliveryId draws = .ok result) ↔
      ¬riderIsBusy db rider.id none ∧
        ∃ delivery ∈ db.deliveries, delivery.id = deliveryId ∧ isOpen db delivery := by
  have own : rider.id = subject := lookup_col rides.asking
  simp only [claimDelivery, getCurrentUser_bind_ok, requireRoles_bind_ok, found_bind_ok,
    require_bind_ok, assignedDelivery_bind_ok, pure_ok, Session.start]
  constructor
  · rintro ⟨result, user, ⟨asking, -⟩, -, delivery, carried, order, placed,
      ⟨ready, gate, leaves⟩, again, eligible, idle, -⟩
    cases rides.asking.symm.trans asking
    have free := canTransitionDelivery_assigned.mp leaves
    have held := lookup_mem carried
    obtain ⟨same, -⟩ := Option.filter_eq_some_iff.mp eligible
    cases rides.asking.symm.trans (own ▸ same)
    rw [riderIsBusy_aside constraints.deliveryIds held free] at idle
    exact ⟨idle, delivery, held, lookup_col carried, free, order, placed, ready, gate⟩
  · rintro ⟨idle, delivery, held, rfl, free, order, placed, ready, gate⟩
    have carried : db.delivery? delivery.id = some delivery :=
      (lookup_eq_some_iff constraints.deliveryIds).mpr ⟨held, rfl⟩
    have leaves := canTransitionDelivery_assigned.mpr free
    refine ⟨_, rider, ⟨rides.asking, rides.active⟩, by simp [rides.role], delivery, carried, order,
      placed, ⟨ready, gate, leaves⟩, rider, ?_, ?_, leaves, rfl⟩
    · rw [own, rides.asking]
      simp [rides.active, rides.verified]
    · rwa [riderIsBusy_aside constraints.deliveryIds held free]

theorem taskRows_isSome (constraints : db.Constraints) (housed : db.Housed)
    (held : delivery ∈ db.deliveries) : ∃ order store address,
      taskRows db delivery = some (order, store, address) := by
  obtain ⟨order, placed, own⟩ := constraints.deliveryParents delivery held
  obtain ⟨store, address⟩ := housed order placed
  obtain ⟨store, stored⟩ := Option.isSome_iff_exists.mp store
  obtain ⟨address, addressed⟩ := Option.isSome_iff_exists.mp address
  have found : db.order? delivery.orderId = some order :=
    (lookup_eq_some_iff constraints.orderIds).mpr ⟨placed, own⟩
  exact ⟨order, store, address, by simp [taskRows, found, stored, addressed]⟩

/-- Every open delivery has its offer. -/
theorem taskOffer_isSome (distanceKm : Point → Point → ℚ) (constraints : db.Constraints)
    (housed : db.Housed) (held : delivery ∈ db.deliveries) :
    ∃ offer, taskOffer distanceKm db delivery = some offer := by
  obtain ⟨order, store, address, rows⟩ := taskRows_isSome constraints housed held
  exact ⟨_, by rw [taskOffer, rows, Option.map_some]⟩

theorem taskOffer_id {offer : DeliveryTaskOffer} (made : taskOffer distanceKm db delivery = some offer) :
    offer.id = delivery.id := by
  obtain ⟨rows, -, rfl⟩ := Option.map_eq_some_iff.mp made
  rfl

theorem deliveryTask_of_rows {rows : Order × Store × Address}
    (found : taskRows db delivery = some rows) :
    ∃ task, deliveryTask db delivery = some task ∧ task.id = delivery.id ∧
      task.status = delivery.status :=
  ⟨_, by rw [deliveryTask, found, Option.map_some], rfl, rfl⟩

theorem mem_openDeliveries :
    delivery ∈ openDeliveries db ↔ delivery ∈ db.deliveries ∧ isOpen db delivery := by
  simp [openDeliveries]

/-- The board answers a rider who is busy with nothing, an idle one with the oldest open
deliveries. -/
theorem availableTasks_rider (rides : Rides db subject rider) (bounded : limitOk limit) :
    availableTasks distanceKm db subject limit = .ok (if riderIsBusy db rider.id none then []
      else ((openDeliveries db).take limit).filterMap (taskOffer distanceKm db)) := by
  simp only [availableTasks, getCurrentUser_bind_ok, requireRoles_bind_ok, require_bind_ok,
    ensureAdminCapability_bind_ok]
  refine ⟨rider, ⟨rides.asking, rides.active⟩, by simp [rides.role], bounded,
    by simp [rides.role], ?_⟩
  by_cases busy : riderIsBusy db rider.id none
  · rw [if_pos ⟨rides.role, busy⟩, if_pos busy]
    rfl
  · rw [if_neg fun both => busy both.2, if_neg busy]
    rfl

/-- What the board offers an idle rider can be claimed, and what can be claimed is on the board, or
the limit is used up by deliveries that have waited as long. -/
theorem offers_are_claims (constraints : db.Constraints) (housed : db.Housed)
    (rides : Rides db subject rider) (idle : ¬riderIsBusy db rider.id none)
    (answered : availableTasks distanceKm db subject limit = .ok offers) :
    (∀ offer ∈ offers,
        ∃ result, claimDelivery (Session.start db) subject offer.id draws = .ok result) ∧
      ∀ delivery ∈ db.deliveries,
        (∃ result, claimDelivery (Session.start db) subject delivery.id draws = .ok result) →
          (∃ offer ∈ offers, offer.id = delivery.id) ∨
            (offers.length = limit ∧ ∀ offer ∈ offers, ∃ earlier ∈ db.deliveries,
              earlier.id = offer.id ∧ earlier.updatedAt ≤ delivery.updatedAt) := by
  have bounded : limitOk limit := by
    simp only [availableTasks, getCurrentUser_bind_ok, requireRoles_bind_ok, require_bind_ok] at answered
    obtain ⟨-, -, -, bounded, -⟩ := answered
    exact bounded
  rw [availableTasks_rider rides bounded, if_neg idle] at answered
  cases answered
  constructor
  · intro offer inside
    obtain ⟨delivery, taken, made⟩ := List.mem_filterMap.mp inside
    obtain ⟨held, open_⟩ := mem_openDeliveries.mp (List.mem_of_mem_take taken)
    exact (claimDelivery_isOk constraints rides).mpr
      ⟨idle, delivery, held, (taskOffer_id made).symm, open_⟩
  · intro delivery held claimed
    obtain ⟨-, other, inside, same, open_⟩ := (claimDelivery_isOk constraints rides).mp claimed
    cases unique_eq constraints.deliveryIds inside held same
    by_cases taken : delivery ∈ (openDeliveries db).take limit
    · obtain ⟨offer, made⟩ := taskOffer_isSome distanceKm constraints housed held
      exact .inl ⟨offer, List.mem_filterMap.mpr ⟨delivery, taken, made⟩, taskOffer_id made⟩
    · obtain ⟨full, earlier⟩ := cut_off (List.mem_filter.mpr ⟨held, by simpa using open_⟩) taken
      refine .inr ⟨?_, fun offer offered => ?_⟩
      · refine (List.filterMap_length_eq_length.mpr fun waiting taken => ?_).trans full
        obtain ⟨offer, made⟩ := taskOffer_isSome distanceKm constraints housed
          (mem_openDeliveries.mp (List.mem_of_mem_take taken)).1
        rw [made]
        rfl
      · obtain ⟨first, before, made⟩ := List.mem_filterMap.mp offered
        exact ⟨first, (mem_openDeliveries.mp (List.mem_of_mem_take before)).1,
          (taskOffer_id made).symm, earlier first before⟩

/-- A cash order that waits for a rider. -/
def readyTables : Tables := (sampleWorld (placement .cod ++ preparation 2)).tables

theorem readyTables_constraints : readyTables.Constraints :=
  (sampleWorld (placement .cod ++ preparation 2)).database.constraints

theorem readyTables_rides : Rides readyTables 4 ⟨4, .delivery, false, true, true⟩ :=
  ⟨by decide +kernel, rfl, rfl, rfl⟩

def readyOffer : DeliveryTaskOffer :=
  ⟨1, 1, "GO-1", .unassigned, .cod, .pending, 12000, 1, "Kirana", some "Bus stand", none, none,
    some "Rampur", none⟩

theorem offers_are_claims_ready :
    availableTasks (fun _ _ => 0) readyTables 4 50 = .ok [readyOffer] ∧
      ∃ result, claimDelivery (Session.start readyTables) 4 readyOffer.id (sampleDraws 9) =
        .ok result := by
  have answered : availableTasks (fun _ _ => 0) readyTables 4 50 = .ok [readyOffer] := by
    decide +kernel
  exact ⟨answered, (offers_are_claims readyTables_constraints (by decide +kernel) readyTables_rides
    (by decide +kernel) answered).1 _ (List.mem_singleton.mpr rfl)⟩

/-- What a claim writes: the delivery, assigned to its rider. -/
theorem claimDelivery_writes
    (claimed : claimDelivery (Session.start db) subject deliveryId draws = .ok result) :
    ∃ delivery ∈ db.deliveries, delivery.id = deliveryId ∧ delivery.status = .unassigned ∧
      result.pending = db.putDelivery { delivery with
        deliveryPartnerId := some subject, status := .assigned, assignedAt := some draws.now
        updatedAt := draws.now } := by
  simp only [claimDelivery, getCurrentUser_bind_ok, requireRoles_bind_ok, found_bind_ok,
    require_bind_ok, assignedDelivery_bind_ok, pure_ok] at claimed
  obtain ⟨user, ⟨asking, -⟩, -, delivery, carried, -, -, -, -, -, -, leaves, rfl⟩ := claimed
  refine ⟨delivery, lookup_mem carried, lookup_col carried,
    canTransitionDelivery_assigned.mp leaves, ?_⟩
  rw [← (lookup_col asking : user.id = subject)]
  rfl

/-- A delivery that is assigned is no longer open; the others are as open as before. -/
theorem openDeliveries_putDelivery {new : Delivery} (assigned : new.status = .assigned) :
    openDeliveries (db.putDelivery new) = (openDeliveries db).filter (·.id ≠ new.id) := by
  unfold openDeliveries
  rw [filter_ordered]
  congr 1
  change (put Delivery.id new db.deliveries).filter (isOpen db ·) = _
  have closed : ¬isOpen db new := fun waits => by cases assigned.symm.trans waits.1
  unfold put
  induction db.deliveries with
  | nil => rfl
  | cons first rest ih =>
    rw [List.map_cons, List.filter_cons, List.filter_cons, ih]
    by_cases own : first.id = new.id
    · by_cases waiting : isOpen db first <;> simp [own, waiting, closed]
    · by_cases waiting : isOpen db first <;> simp [own, waiting]

/-- Whether another rider is busy does not change. -/
theorem riderIsBusy_putDelivery {new : Delivery} {riderId : UUID} (held : delivery ∈ db.deliveries)
    (same : delivery.id = new.id) (free : delivery.status = .unassigned)
    (ids : Relational.Unique Delivery.id db.deliveries)
    (another : new.deliveryPartnerId ≠ some riderId) :
    riderIsBusy (db.putDelivery new) riderId none ↔ riderIsBusy db riderId none := by
  constructor
  · rintro ⟨row, inside, carries, active, aside⟩
    rcases mem_put.mp inside with ⟨rfl, -⟩ | ⟨before, -⟩
    · exact absurd carries another
    · exact ⟨row, before, carries, active, aside⟩
  · rintro ⟨row, before, carries, active, aside⟩
    refine ⟨row, mem_put.mpr (.inr ⟨before, fun own => ?_⟩), carries, active, aside⟩
    cases unique_eq ids before held (own.trans same.symm)
    simp [free] at active

/-- Of existing deliveries each has its task. -/
theorem deliveryTasks_length {rows : List Delivery}
    (whole : ∀ row ∈ rows, ∃ task, deliveryTask db row = some task ∧ task.id = row.id ∧ task.status = row.status) :
    (rows.filterMap (deliveryTask db)).length = rows.length :=
  List.filterMap_length_eq_length.mpr fun row inside => by
    obtain ⟨task, made, -⟩ := whole row inside
    rw [made]
    rfl

/-- A claim takes its delivery off the board for everybody, and nothing else; its rider is offered
nothing more, and finds the delivery among their own tasks unless the limit is used up by tasks
touched no earlier, at their head wherever the others were last touched before the claim. -/
theorem claims_move_tasks (distanceKm : Point → Point → ℚ) (constraints : db.Constraints)
    (housed : db.Housed) (rides : Rides db subject rider) (bounded : limitOk limit)
    (claimed : claimDelivery (Session.start db) subject deliveryId draws = .ok result) :
    (∀ other peer, Rides db other peer → other ≠ subject →
        availableTasks distanceKm result.pending other limit =
          .ok (if riderIsBusy db peer.id none then []
            else (((openDeliveries db).filter (·.id ≠ deliveryId)).take limit).filterMap
              (taskOffer distanceKm db))) ∧
      availableTasks distanceKm result.pending subject limit = .ok [] ∧
      ∃ tasks, myTasks result.pending subject limit = .ok tasks ∧
        ((∃ task ∈ tasks, task.id = deliveryId ∧ task.status = .assigned) ∨
          (tasks.length = limit ∧ ∀ task ∈ tasks, ∃ row ∈ db.deliveries, row.id = task.id ∧
            draws.now ≤ row.updatedAt)) ∧
        ((∀ row ∈ db.deliveries, row.deliveryPartnerId = some subject → row.updatedAt < draws.now) →
          tasks.head?.map (fun task => (task.id, task.status)) = some (deliveryId, .assigned)) := by
  obtain ⟨delivery, held, rfl, free, written⟩ := claimDelivery_writes claimed
  rw [written]
  generalize made : { delivery with
      deliveryPartnerId := some subject, status := .assigned, assignedAt := some draws.now
      updatedAt := draws.now } = new
  have same : delivery.id = new.id := by rw [← made]
  have taken : new.deliveryPartnerId = some subject := by rw [← made]
  have assigned : new.status = .assigned := by rw [← made]
  have touched : new.updatedAt = draws.now := by rw [← made]
  have own : rider.id = subject := lookup_col rides.asking
  have stored : new ∈ (db.putDelivery new).deliveries :=
    mem_put.mpr (.inl ⟨rfl, delivery, held, same⟩)
  have busy : riderIsBusy (db.putDelivery new) rider.id none :=
    ⟨new, stored, by rw [taken, own], by simp [assigned], by simp⟩
  refine ⟨fun other peer riding apart => ?_, ?_, ?_⟩
  · have another : new.deliveryPartnerId ≠ some peer.id := by
      rw [taken, lookup_col riding.asking]
      simpa using apart.symm
    have still := riderIsBusy_putDelivery held same free constraints.deliveryIds another
    rw [availableTasks_rider (riding.putDelivery new) bounded, openDeliveries_putDelivery assigned, same]
    simp only [still]
    rfl
  · rw [availableTasks_rider (rides.putDelivery new) bounded, if_pos busy]
  · have mine :
        new ∈ (db.putDelivery new).deliveries.filter (·.deliveryPartnerId = some subject) := by
      rw [List.mem_filter, taken]
      exact ⟨stored, by simp⟩
    have detailed : ∀ row ∈ (db.putDelivery new).deliveries, ∃ task,
        deliveryTask (db.putDelivery new) row = some task ∧ task.id = row.id ∧ task.status = row.status := by
      intro row inside
      obtain ⟨old, before, sameRows⟩ : ∃ old ∈ db.deliveries,
          taskRows (db.putDelivery new) row = taskRows db old := by
        rcases mem_put.mp inside with ⟨rfl, -⟩ | ⟨before, -⟩
        · exact ⟨delivery, held, by rw [← made]; rfl⟩
        · exact ⟨row, before, rfl⟩
      obtain ⟨order, store, address, rows⟩ := taskRows_isSome constraints housed before
      exact deliveryTask_of_rows (sameRows.trans rows)
    have carried : ∀ row ∈ (carriedBy (db.putDelivery new) subject).take limit,
        row ∈ (db.putDelivery new).deliveries :=
      fun row inside => (List.mem_filter.mp (mem_ordered.mp (List.mem_of_mem_take inside))).1
    refine ⟨((carriedBy (db.putDelivery new) subject).take limit).filterMap
      (deliveryTask (db.putDelivery new)), ?_, ?_, fun clock => ?_⟩
    · simp only [myTasks, getCurrentUser_bind_ok, requireRoles_bind_ok, require_bind_ok, pure_ok]
      exact ⟨rider, ⟨rides.asking, rides.active⟩, by simp [rides.role], bounded, by rw [own]⟩
    · by_cases shown : new ∈ (carriedBy (db.putDelivery new) subject).take limit
      · obtain ⟨task, made, id, status⟩ := detailed new stored
        exact .inl ⟨task, List.mem_filterMap.mpr ⟨new, shown, made⟩, id.trans same.symm,
          status.trans assigned⟩
      · obtain ⟨full, earlier⟩ := cut_off mine shown
        refine .inr ⟨?_, fun task inside => ?_⟩
        · exact (deliveryTasks_length fun row inside => detailed row (carried row inside)).trans full
        · obtain ⟨row, before, made⟩ := List.mem_filterMap.mp inside
          obtain ⟨other, told, id, -⟩ := detailed row (carried row before)
          cases told.symm.trans made
          rcases mem_put.mp (carried row before) with ⟨rfl, -⟩ | ⟨kept, -⟩
          · exact absurd before shown
          · exact ⟨row, kept, id.symm, touched ▸ OrderDual.toDual_le_toDual.mp (earlier row before)⟩
    · obtain ⟨rest, headed⟩ : ∃ rest, carriedBy (db.putDelivery new) subject = new :: rest := by
        refine ordered_head mine fun row inside => ?_
        obtain ⟨there, carries⟩ := List.mem_filter.mp inside
        rcases mem_put.mp there with ⟨rfl, -⟩ | ⟨before, -⟩
        · exact .inl rfl
        · right
          rw [OrderDual.toDual_lt_toDual, touched]
          exact clock row before (by simpa using carries)
      obtain ⟨count, rfl⟩ := Nat.exists_eq_add_of_le' bounded.1
      obtain ⟨task, made, id, status⟩ := detailed new stored
      rw [headed, List.take_succ_cons, List.filterMap_cons, made]
      simp [id, status, same, assigned]

end

theorem claims_move_tasks_ready : ∃ result,
    claimDelivery (Session.start readyTables) 4 1 (sampleDraws 9) = .ok result ∧
      availableTasks (fun _ _ => 0) result.pending 4 50 = .ok [] ∧
      ∃ tasks, myTasks result.pending 4 50 = .ok tasks ∧
        tasks.head?.map (fun task => (task.id, task.status)) = some (1, .assigned) := by
  obtain ⟨result, claimed⟩ : ∃ result,
      claimDelivery (Session.start readyTables) 4 1 (sampleDraws 9) = .ok result :=
    (claimDelivery_isOk readyTables_constraints readyTables_rides).mpr (by decide +kernel)
  have bounded : limitOk 50 := by decide
  have moved := claims_move_tasks (fun _ _ => 0) readyTables_constraints (by decide +kernel)
    readyTables_rides bounded claimed
  obtain ⟨-, nothing, tasks, mine, -, first⟩ := moved
  exact ⟨result, claimed, nothing, tasks, mine, first (by decide +kernel)⟩

end GaonOne
