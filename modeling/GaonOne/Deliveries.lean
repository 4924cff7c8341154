import GaonOne.OrderTransitions
import GaonOne.Payments
import Mathlib.Data.List.MinMax
import Mathlib.Data.Prod.Lex

/-! Who carries an order: claims, manual and automatic assignment, release, and
the rider's own status screen. -/
namespace GaonOne
open Relational UnitOfWork

/-- A rider with a delivery assigned or picked up, one delivery aside. -/
def riderIsBusy (db : Tables) (riderId : UUID) (aside : Option UUID) : Prop :=
  ∃ delivery ∈ db.deliveries, delivery.deliveryPartnerId = some riderId ∧
    delivery.status ∈ [DeliveryStatus.assigned, .pickedUp] ∧ aside ≠ some delivery.id

instance (db : Tables) (riderId : UUID) (aside : Option UUID) :
    Decidable (riderIsBusy db riderId aside) :=
  inferInstanceAs (Decidable (∃ _ ∈ _, _))

/-- A delivery handed to a rider. -/
def assignedDelivery (delivery : Delivery) (riderId : UUID) (now : Instant) : Handler Delivery := do
  let delivery ← transitionDelivery { delivery with deliveryPartnerId := some riderId } .assigned
  pure { delivery with assignedAt := some now, updatedAt := now }

/-- A delivery given back to the open pool. -/
def releasedDelivery (delivery : Delivery) (now : Instant) : Handler Delivery := do
  let delivery ← transitionDelivery { delivery with deliveryPartnerId := none } .unassigned
  pure { delivery with assignedAt := none, updatedAt := now }

theorem assignedDelivery_ok {delivery result : Delivery} :
    assignedDelivery delivery riderId now = .ok result ↔
      canTransitionDelivery delivery.status .assigned ∧
        { delivery with
          deliveryPartnerId := some riderId, status := .assigned, assignedAt := some now
          updatedAt := now } = result := by
  simp only [assignedDelivery, transitionDelivery_bind_ok, pure_ok]

theorem releasedDelivery_ok {delivery result : Delivery} :
    releasedDelivery delivery now = .ok result ↔
      canTransitionDelivery delivery.status .unassigned ∧
        { delivery with
          deliveryPartnerId := none, status := .unassigned, assignedAt := none
          updatedAt := now } = result := by
  simp only [releasedDelivery, transitionDelivery_bind_ok, pure_ok]

@[simp]
theorem assignedDelivery_bind_ok (delivery : Delivery) (riderId : UUID) (now : Instant)
    (next : Delivery → Handler β) (result : β) :
    (assignedDelivery delivery riderId now >>= next) = .ok result ↔
      canTransitionDelivery delivery.status .assigned ∧
        next { delivery with
          deliveryPartnerId := some riderId, status := .assigned, assignedAt := some now
          updatedAt := now } = .ok result := by
  simp only [assignedDelivery, bind_assoc, transitionDelivery_bind_ok, pure_bind]

@[simp]
theorem releasedDelivery_bind_ok (delivery : Delivery) (now : Instant)
    (next : Delivery → Handler β) (result : β) :
    (releasedDelivery delivery now >>= next) = .ok result ↔
      canTransitionDelivery delivery.status .unassigned ∧
        next { delivery with
          deliveryPartnerId := none, status := .unassigned, assignedAt := none
          updatedAt := now } = .ok result := by
  simp only [releasedDelivery, bind_assoc, transitionDelivery_bind_ok, pure_bind]

/-- `POST /delivery/{delivery_id}/claim`. -/
def claimDelivery (db : DbSession) (subject deliveryId : UUID) (draws : Draws) :
    Handler DbSession := do
  let user ← getCurrentUser db.flushed subject
  requireRoles user [.delivery]
  let delivery ← found (db.flushed.delivery? deliveryId) ⟨404, "Delivery not found"⟩
  let order ← found (db.flushed.order? delivery.orderId) ⟨409, "Delivery is not available"⟩
  require (order.status = .ready ∧ paymentAllowsFulfillment order ∧
      canTransitionDelivery delivery.status .assigned) ⟨409, "Delivery is not available"⟩
  let rider ← found ((db.flushed.user? user.id).filter fun rider => rider.isActive && rider.isVerified)
    ⟨403, "Delivery partner is not eligible"⟩
  require (¬riderIsBusy db.flushed rider.id (some delivery.id))
    ⟨409, "Finish your current delivery before claiming another"⟩
  let delivery ← assignedDelivery delivery user.id draws.now
  pure (db.write (·.putDelivery delivery))

/-- The rider of the delivery, or an administrator with the capability. -/
def requireAssignedRider (delivery : Delivery) (user : User) (adminCapability : Capability) :
    Handler Unit :=
  if user.role = .admin then ensureCapability user adminCapability
  else require (delivery.deliveryPartnerId = some user.id)
    ⟨403, "Delivery is not assigned to you"⟩

/-- What the status screen does to delivery and order before the delivery's own
transition. Any status but pickup and release passes through. -/
def deliveryStatusEffects (delivery : Delivery) (order : Order) (status : DeliveryStatus)
    (now : Instant) : Handler (Delivery × Order) :=
  match status with
  | .pickedUp => do
    require (paymentAllowsFulfillment order)
      ⟨409, "Online payment must be confirmed before pickup"⟩
    require (canTransitionOrder order.status .outForDelivery)
      ⟨409, "Order cannot be picked up from " ++ order.status.value⟩
    let order ← transitionOrder order .outForDelivery
    pure ({ delivery with pickedUpAt := some now }, order)
  | .unassigned => do
    require (order.status = .ready)
      ⟨409, "A delivery can only be released while the order is still ready for pickup"⟩
    pure ({ delivery with deliveryPartnerId := none, assignedAt := none }, order)
  | _ => pure (delivery, order)

/-- `PATCH /delivery/{delivery_id}/status`. The schema rejects the two terminal
statuses. -/
def updateDeliveryStatus (db : DbSession) (subject deliveryId : UUID) (status : DeliveryStatus)
    (draws : Draws) : Handler DbSession := do
  let user ← getCurrentUser db.flushed subject
  requireRoles user [.delivery, .admin]
  require (status ≠ .delivered ∧ status ≠ .failed)
    ⟨422, "Use the controlled delivery completion or failure endpoint"⟩
  let delivery ← found (db.flushed.delivery? deliveryId) ⟨404, "Delivery not found"⟩
  requireAssignedRider delivery user .riderOperations
  require (canTransitionDelivery delivery.status status)
    ⟨409, "Invalid delivery transition from " ++ delivery.status.value ++ " to " ++ status.value⟩
  let order ← found (db.flushed.order? delivery.orderId) ⟨409, "Delivery order is missing"⟩
  let (delivery, order) ← deliveryStatusEffects delivery order status draws.now
  let delivery ← transitionDelivery delivery status
  pure ((db.write (·.putOrder order)).write
    (·.putDelivery { delivery with updatedAt := draws.now }))

/-! ## Assignment by operations -/

/-- `POST /admin/deliveries/{delivery_id}/assign`. -/
def adminAssignDelivery (db : DbSession) (subject deliveryId riderId : UUID) (draws : Draws) :
    Handler DbSession := do
  let _ ← requireCapability db.flushed subject .riderOperations
  let delivery ← found (db.flushed.delivery? deliveryId) ⟨404, "Delivery not found"⟩
  let order ← found (db.flushed.order? delivery.orderId)
    ⟨409, "Delivery is no longer available for assignment"⟩
  require (delivery.status = .unassigned ∧ order.status = .ready ∧ paymentAllowsFulfillment order)
    ⟨409, "Delivery is no longer available for assignment"⟩
  let rider ← found ((db.flushed.user? riderId).filter fun rider =>
      rider.role = .delivery ∧ rider.isActive ∧ rider.isVerified)
    ⟨422, "Select an active verified delivery partner"⟩
  require (¬riderIsBusy db.flushed rider.id (some delivery.id))
    ⟨409, "Rider already has an active delivery"⟩
  let delivery ← assignedDelivery delivery rider.id draws.now
  pure (db.write (·.putDelivery delivery))

/-- `POST /admin/deliveries/{delivery_id}/unassign`. -/
def adminUnassignDelivery (db : DbSession) (subject deliveryId : UUID) (draws : Draws) :
    Handler DbSession := do
  let _ ← requireCapability db.flushed subject .riderOperations
  let delivery ← found (db.flushed.delivery? deliveryId) ⟨404, "Delivery not found"⟩
  require (delivery.status = .assigned)
    ⟨409, "Only a delivery awaiting pickup can be unassigned"⟩
  let order ← found (db.flushed.order? delivery.orderId) ⟨409, "Delivery order is missing"⟩
  require (order.status = .ready)
    ⟨409, "Only a ready order can be reassigned before pickup"⟩
  let delivery ← releasedDelivery delivery draws.now
  pure (db.write (·.putDelivery delivery))

/-! ## Automatic dispatch -/

/-- A verified, active, online and idle rider with a recent fix within the radius. -/
def eligibleRider (env : Environment) (db : Tables) (store : Point) (maxRadiusKm : ℚ)
    (now : Instant) (presence : RiderPresence) : Prop :=
  presence.isOnline ∧ now ≤ presence.lastSeenAt + 300000000 ∧
    env.within ⟨presence.latitude, presence.longitude⟩ store (maxRadiusKm * 1000) ∧
    (∃ rider ∈ db.catalogue.users, rider.id = presence.riderId ∧ rider.role = .delivery ∧
      rider.isActive ∧ rider.isVerified) ∧
    ¬riderIsBusy db presence.riderId none

instance (env : Environment) (db : Tables) (store : Point) (maxRadiusKm : ℚ) (now : Instant)
    (presence : RiderPresence) : Decidable (eligibleRider env db store maxRadiusKm now presence) :=
  inferInstanceAs (Decidable (_ ∧ _ ∧ _ ∧ (∃ _ ∈ _, _) ∧ _))

/-- The nearest eligible rider whose row no other transaction holds. -/
def nearestEligibleRider (env : Environment) (db : Tables) (store : Point) (maxRadiusKm : ℚ)
    (locked : List UUID) (now : Instant) : Option UUID :=
  ((db.catalogue.riderPresences.filter fun presence =>
      eligibleRider env db store maxRadiusKm now presence ∧ presence.riderId ∉ locked).argmin
    fun presence => env.distance ⟨presence.latitude, presence.longitude⟩ store).map (·.riderId)

/-- `POST /admin/deliveries/{delivery_id}/auto-assign`. -/
def autoAssignDelivery (env : Environment) (db : DbSession) (subject deliveryId : UUID)
    (maxRadiusKm : ℚ) (locked : List UUID) (draws : Draws) : Handler DbSession := do
  let _ ← requireCapability db.flushed subject .riderOperations
  require (0 < maxRadiusKm ∧ maxRadiusKm ≤ 100) ⟨422, "max_radius_km"⟩
  let delivery ← found (db.flushed.delivery? deliveryId) ⟨404, "Delivery not found"⟩
  let order ← found (db.flushed.order? delivery.orderId) ⟨409, "Delivery order is missing"⟩
  require (delivery.status = .unassigned ∧ order.status = .ready ∧ paymentAllowsFulfillment order)
    ⟨409, "Delivery is no longer available for dispatch"⟩
  let store ← found ((db.flushed.store? order.storeId).bind fun store =>
      store.latitude.bind fun latitude => store.longitude.map (Point.mk latitude))
    ⟨409, "Store location is required for automatic dispatch"⟩
  let riderId ← found (nearestEligibleRider env db.flushed store maxRadiusKm locked draws.now)
    ⟨409, "No eligible delivery partner is currently available"⟩
  let rider ← found (db.flushed.user? riderId)
    ⟨409, "Selected delivery partner is no longer available"⟩
  require (¬riderIsBusy db.flushed rider.id none)
    ⟨409, "Selected delivery partner is no longer available"⟩
  let delivery ← assignedDelivery delivery rider.id draws.now
  pure (db.write (·.putDelivery delivery))

/-- The unassigned delivery of a ready order that has waited longest, neither
tried in this pass nor locked by another transaction. -/
def readyDelivery (db : Tables) (seen locked : List UUID) : Option Delivery :=
  (db.deliveries.filter fun delivery =>
      delivery.status = .unassigned ∧ delivery.id ∉ seen ∧ delivery.id ∉ locked ∧
        ((db.order? delivery.orderId).any fun order => decide (order.status = .ready))).argmin
    fun delivery => toLex (delivery.updatedAt, delivery.id.toNat)

/-- One iteration of `dispatch_ready_deliveries`; none is a skip that rolls back. -/
def dispatchReadyDelivery (env : Environment) (db : DbSession) (radiusKm : ℚ)
    (seen lockedDeliveries lockedRiders : List UUID) (draws : Draws) : Handler DbSession := do
  let delivery ← found (readyDelivery db.flushed seen lockedDeliveries) ⟨200, "break"⟩
  let order ← found (db.flushed.order? delivery.orderId) ⟨200, "skipped"⟩
  require (order.status = .ready ∧ paymentAllowsFulfillment order) ⟨200, "skipped"⟩
  let store ← found ((db.flushed.store? order.storeId).bind fun store =>
      store.latitude.bind fun latitude => store.longitude.map (Point.mk latitude))
    ⟨200, "skipped"⟩
  let riderId ← found (nearestEligibleRider env db.flushed store radiusKm lockedRiders draws.now)
    ⟨200, "skipped"⟩
  let rider ← found (db.flushed.user? riderId) ⟨200, "skipped"⟩
  require (¬riderIsBusy db.flushed riderId none) ⟨200, "skipped"⟩
  let delivery ← assignedDelivery delivery rider.id draws.now
  flushRows (db.write (·.putDelivery delivery))

end GaonOne
