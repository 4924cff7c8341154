import GaonOne.Checkout
import GaonOne.StockStatements

/-! The requests that assign, release and close deliveries, statement by statement.
Every one locks the delivery first and its order next; an assignment then locks its
rider before it looks whether the rider is free. -/
namespace GaonOne
open Relational UnitOfWork ReadCommitted

/-- The unassigned deliveries of ready orders, longest waiting first, but for those
tried in this pass. -/
def readyDeliveries (db : Tables) (seen : List UUID) : List UUID :=
  ((db.deliveries.filter fun delivery =>
      delivery.status = .unassigned ∧ delivery.id ∉ seen ∧
        ((db.order? delivery.orderId).any fun order => decide (order.status = .ready))).insertionSort
    fun left right => toLex (left.updatedAt, left.id.toNat) ≤ toLex (right.updatedAt, right.id.toNat)).map
    (·.id)

/-- The riders eligible in one snapshot, nearest first. -/
def eligibleRiders (env : Environment) (db : Tables) (store : Point) (maxRadiusKm : ℚ)
    (now : Instant) : List UUID :=
  ((db.catalogue.riderPresences.filter fun presence =>
      eligibleRider env db store maxRadiusKm now presence).insertionSort fun left right =>
    env.distance ⟨left.latitude, left.longitude⟩ store ≤
      env.distance ⟨right.latitude, right.longitude⟩ store).map (·.riderId)

/-- Where a store is, if it says so. -/
def storePoint (db : Tables) (storeId : UUID) : Option Point :=
  (db.store? storeId).bind fun store => point store.latitude store.longitude

/-- The settlement entry of a completed order, if it has none yet. -/
def recordSettlement (order : Order) (draws : Draws) (db : Tables) : Tables :=
  match ensureSettlementEntry (Session.start db) order draws with
  | .ok (result, _) => result.pending
  | .error _ => db

namespace Statement

def lockedUser (userId : UUID) : Statements (Option User) :=
  selectForUpdate (fun user => .user user.id) (·.user? userId)

/-- `POST /delivery/{delivery_id}/claim`. The session holds the user already, so the
lock does not change what it says of them. -/
def claimDelivery (subject deliveryId : UUID) (draws : Draws) : Statements (Option Order) := do
  let user ← statement (getCurrentUser · subject)
  Program.remember (.claims user)
  requireRoles user [.delivery]
  let delivery ← found (← lockedDelivery deliveryId) ⟨404, "Delivery not found"⟩
  let order ← found (← lockedOrder delivery.orderId) ⟨409, "Delivery is not available"⟩
  require (order.status = .ready ∧ paymentAllowsFulfillment order ∧
      canTransitionDelivery delivery.status .assigned) ⟨409, "Delivery is not available"⟩
  let rider ← found (((← lockedUser user.id).map fun _ => user).filter fun rider =>
    rider.isActive && rider.isVerified) ⟨403, "Delivery partner is not eligible"⟩
  let busy ← Program.query fun market : Market =>
    decide (riderIsBusy market.tables rider.id (some delivery.id))
  require (busy = false) ⟨409, "Finish your current delivery before claiming another"⟩
  let delivery ← assignedDelivery delivery user.id draws.now
  flushTables (·.putDelivery delivery)
  pure none

/-- `PATCH /delivery/{delivery_id}/status`. -/
def updateDeliveryStatus (subject deliveryId : UUID) (status : DeliveryStatus) (draws : Draws) :
    Statements (Option Order) := do
  let user ← statement (getCurrentUser · subject)
  requireRoles user [.delivery, .admin]
  require (status ≠ .delivered ∧ status ≠ .failed)
    ⟨422, "Use the controlled delivery completion or failure endpoint"⟩
  let delivery ← found (← lockedDelivery deliveryId) ⟨404, "Delivery not found"⟩
  requireAssignedRider delivery user .riderOperations
  require (canTransitionDelivery delivery.status status)
    ⟨409, "Invalid delivery transition from " ++ delivery.status.value ++ " to " ++ status.value⟩
  let order ← found (← lockedOrder delivery.orderId) ⟨409, "Delivery order is missing"⟩
  let (delivery, order) ← deliveryStatusEffects delivery order status draws.now
  let delivery ← transitionDelivery delivery status
  flushTables fun db =>
    (db.putOrder order).putDelivery { delivery with updatedAt := draws.now }
  pure none

/-- `POST /admin/deliveries/{delivery_id}/assign`. -/
def adminAssignDelivery (subject deliveryId riderId : UUID) (draws : Draws) :
    Statements (Option Order) := do
  let admin ← statement (requireCapability · subject .riderOperations)
  let delivery ← found (← lockedDelivery deliveryId) ⟨404, "Delivery not found"⟩
  let order ← found (← lockedOrder delivery.orderId)
    ⟨409, "Delivery is no longer available for assignment"⟩
  require (delivery.status = .unassigned ∧ order.status = .ready ∧ paymentAllowsFulfillment order)
    ⟨409, "Delivery is no longer available for assignment"⟩
  -- the session holds the administrator already
  let rider ← found (((← lockedUser riderId).map fun row =>
      if row.id = admin.id then admin else row).filter fun rider =>
      rider.role = .delivery ∧ rider.isActive ∧ rider.isVerified)
    ⟨422, "Select an active verified delivery partner"⟩
  let busy ← Program.query fun market : Market =>
    decide (riderIsBusy market.tables rider.id (some delivery.id))
  require (busy = false) ⟨409, "Rider already has an active delivery"⟩
  let delivery ← assignedDelivery delivery rider.id draws.now
  flushTables (·.putDelivery delivery)
  pure none

/-- `POST /admin/deliveries/{delivery_id}/unassign`. -/
def adminUnassignDelivery (subject deliveryId : UUID) (draws : Draws) :
    Statements (Option Order) := do
  let _ ← statement (requireCapability · subject .riderOperations)
  let delivery ← found (← lockedDelivery deliveryId) ⟨404, "Delivery not found"⟩
  require (delivery.status = .assigned)
    ⟨409, "Only a delivery awaiting pickup can be unassigned"⟩
  let order ← found (← lockedOrder delivery.orderId) ⟨409, "Delivery order is missing"⟩
  require (order.status = .ready)
    ⟨409, "Only a ready order can be reassigned before pickup"⟩
  let delivery ← releasedDelivery delivery draws.now
  flushTables (·.putDelivery delivery)
  pure none

/-! ## Automatic dispatch -/

/-- `nearest_eligible_rider`: one statement, whose `NOT EXISTS` reads its snapshot and
whose lock re-reads the rider. -/
def nearestEligibleRider (env : Environment) (store : Point) (maxRadiusKm : ℚ) (now : Instant) :
    Statements (Option UUID) := do
  let candidates ← Program.query fun market : Market =>
    eligibleRiders env market.tables store maxRadiusKm now
  let rider ← selectSkipLocked Row.user (fun id db => (db.user? id).filter fun rider =>
    rider.role = .delivery ∧ rider.isActive ∧ rider.isVerified) candidates
  pure (rider.map (·.id))

/-- `POST /admin/deliveries/{delivery_id}/auto-assign`. -/
def autoAssignDelivery (env : Environment) (subject deliveryId : UUID) (maxRadiusKm : ℚ)
    (draws : Draws) : Statements (Option Order) := do
  let _ ← statement (requireCapability · subject .riderOperations)
  require (0 < maxRadiusKm ∧ maxRadiusKm ≤ 100) ⟨422, "max_radius_km"⟩
  let delivery ← found (← lockedDelivery deliveryId) ⟨404, "Delivery not found"⟩
  let order ← found (← lockedOrder delivery.orderId) ⟨409, "Delivery order is missing"⟩
  require (delivery.status = .unassigned ∧ order.status = .ready ∧ paymentAllowsFulfillment order)
    ⟨409, "Delivery is no longer available for dispatch"⟩
  let place ← Program.query fun market : Market => storePoint market.tables order.storeId
  let store ← found place ⟨409, "Store location is required for automatic dispatch"⟩
  let riderId ← found (← nearestEligibleRider env store maxRadiusKm draws.now)
    ⟨409, "No eligible delivery partner is currently available"⟩
  let rider ← found (← lockedUser riderId)
    ⟨409, "Selected delivery partner is no longer available"⟩
  let busy ← Program.query fun market : Market =>
    decide (riderIsBusy market.tables rider.id none)
  require (busy = false) ⟨409, "Selected delivery partner is no longer available"⟩
  let delivery ← assignedDelivery delivery rider.id draws.now
  flushTables (·.putDelivery delivery)
  pure none

/-- One iteration of `dispatch_ready_deliveries`; what raises is a skip that rolls back. -/
def dispatchReadyDelivery (env : Environment) (radiusKm : ℚ) (seen : List UUID) (draws : Draws) :
    Statements (Option Order) := do
  let waiting ← Program.query fun market : Market => readyDeliveries market.tables seen
  let picked ← selectSkipLocked Row.delivery (fun id db =>
    (db.delivery? id).filter fun delivery => delivery.status = .unassigned) waiting
  let delivery ← found picked ⟨200, "break"⟩
  let order ← found (← lockedOrder delivery.orderId) ⟨200, "skipped"⟩
  require (order.status = .ready ∧ paymentAllowsFulfillment order) ⟨200, "skipped"⟩
  let place ← Program.query fun market : Market => storePoint market.tables order.storeId
  let store ← found place ⟨200, "skipped"⟩
  let riderId ← found (← nearestEligibleRider env store radiusKm draws.now) ⟨200, "skipped"⟩
  let user ← Program.query fun market : Market => market.tables.user? riderId
  let _ ← found user ⟨200, "skipped"⟩
  let busy ← Program.query fun market : Market => decide (riderIsBusy market.tables riderId none)
  require (busy = false) ⟨200, "skipped"⟩
  let delivery ← assignedDelivery delivery riderId draws.now
  flushTables (·.putDelivery delivery)
  pure none

/-! ## Failure and completion -/

/-- `POST /delivery/{delivery_id}/fail`. -/
def failDelivery (subject deliveryId : UUID) (payload : DeliveryFailureRequest) (draws : Draws) :
    Statements (Option Order) := do
  let user ← statement (getCurrentUser · subject)
  requireRoles user [.delivery, .admin]
  require (payload.reason ∈ deliveryFailureReasons ∧ atMost 500 payload.notes ∧
      atMost 500 payload.evidenceUrl) ⟨422, "DeliveryFailureRequest"⟩
  let delivery ← found (← lockedDelivery deliveryId) ⟨404, "Delivery not found"⟩
  let _ ← found (← lockedOrder delivery.orderId) ⟨409, "Delivery order is missing"⟩
  requireAssignedRider delivery user .riderOperations
  require (delivery.status ∈ [DeliveryStatus.assigned, .pickedUp])
    ⟨409, "Only an active delivery can be failed"⟩
  let delivery ← transitionDelivery delivery .failed
  flushTables (·.putDelivery { delivery with
    failedAt := some draws.now, failureReason := some payload.reason, failureNotes := payload.notes
    failureEvidenceUrl := payload.evidenceUrl, updatedAt := draws.now })
  pure none

/-- `POST /admin/deliveries/{delivery_id}/recover`. -/
def recoverFailedDelivery (subject deliveryId : UUID) (draws : Draws) :
    Statements (Option Order) := do
  let _ ← statement (requireCapability · subject .riderOperations)
  let delivery ← found (← lockedDelivery deliveryId) ⟨404, "Delivery not found"⟩
  let order ← found (← lockedOrder delivery.orderId) ⟨409, "Delivery order is missing"⟩
  require (delivery.status = .failed) ⟨409, "Only a failed delivery can be recovered"⟩
  require (order.status = .ready ∧ delivery.pickedUpAt = none)
    ⟨409, "A delivery can only be reassigned after failure if custody never left the merchant"⟩
  let delivery ← releasedDelivery delivery draws.now
  flushTables (·.putDelivery delivery)
  pure none

/-- `POST /delivery/{delivery_id}/complete`. -/
def completeDeliveryWithFinancials (subject deliveryId : UUID) (draws : Draws) :
    Statements (Option Order) := do
  let user ← statement (getCurrentUser · subject)
  requireRoles user [.delivery, .admin]
  let delivery ← found (← lockedDelivery deliveryId) ⟨404, "Delivery not found"⟩
  let order ← found (← lockedOrder delivery.orderId) ⟨409, "Delivery order is missing"⟩
  requireAssignedRider delivery user .deliveryFinancialWrite
  require (canTransitionDelivery delivery.status .delivered)
    ⟨409, "Delivery cannot be completed from " ++ delivery.status.value⟩
  require (canTransitionOrder order.status .delivered)
    ⟨409, "Order cannot be delivered from " ++ order.status.value⟩
  require (paymentAllowsFulfillment order)
    ⟨409, "Online payment must be confirmed before delivery completion"⟩
  let proof ← Program.query fun market : Market =>
    lookup DeliveryProof.deliveryId delivery.id market.tables.deliveryProofs
  let _ ← found (proof.filter (·.verifiedAt.isSome)) ⟨409, "Verified proof of delivery is required"⟩
  statement (requireCollection · delivery order)
  let delivery ← transitionDelivery delivery .delivered
  let order ← transitionOrder order .delivered
  let order := { order with
    paymentStatus := if order.paymentMethod = .cod then .paid else order.paymentStatus }
  flushTables fun db =>
    (db.putDelivery { delivery with deliveredAt := some draws.now, updatedAt := draws.now }).putOrder
      order
  if order.paymentStatus = .paid then do
    let _ ← statement fun db => ensureSettlementEntry (Session.start db) order draws
    flushTables (recordSettlement order draws)
    pure none
  else pure none

end Statement

/-- The requests that touch a delivery's rider or status. -/
inductive DispatchRequest where
  | claimDelivery (subject deliveryId : UUID) (draws : Draws)
  | updateDeliveryStatus (subject deliveryId : UUID) (status : DeliveryStatus) (draws : Draws)
  | assignDelivery (subject deliveryId riderId : UUID) (draws : Draws)
  | unassignDelivery (subject deliveryId : UUID) (draws : Draws)
  | autoAssignDelivery (subject deliveryId : UUID) (maxRadiusKm : ℚ) (draws : Draws)
  | dispatchReadyDelivery (radiusKm : ℚ) (seen : List UUID) (draws : Draws)
  | failDelivery (subject deliveryId : UUID) (payload : DeliveryFailureRequest) (draws : Draws)
  | recoverFailedDelivery (subject deliveryId : UUID) (draws : Draws)
  | resolveFailedDelivery (subject deliveryId : UUID) (resolution : Resolution)
      (notes : Option String) (draws : Draws)
  | completeDelivery (subject deliveryId : UUID) (draws : Draws)

def DispatchRequest.program (env : Environment) : DispatchRequest → Statements (Option Order)
  | claimDelivery subject deliveryId draws => Statement.claimDelivery subject deliveryId draws
  | updateDeliveryStatus subject deliveryId status draws =>
    Statement.updateDeliveryStatus subject deliveryId status draws
  | assignDelivery subject deliveryId riderId draws =>
    Statement.adminAssignDelivery subject deliveryId riderId draws
  | unassignDelivery subject deliveryId draws =>
    Statement.adminUnassignDelivery subject deliveryId draws
  | autoAssignDelivery subject deliveryId maxRadiusKm draws =>
    Statement.autoAssignDelivery env subject deliveryId maxRadiusKm draws
  | dispatchReadyDelivery radiusKm seen draws =>
    Statement.dispatchReadyDelivery env radiusKm seen draws
  | failDelivery subject deliveryId payload draws =>
    Statement.failDelivery subject deliveryId payload draws
  | recoverFailedDelivery subject deliveryId draws =>
    Statement.recoverFailedDelivery subject deliveryId draws
  | resolveFailedDelivery subject deliveryId resolution notes draws =>
    Statement.resolveFailedDelivery subject deliveryId resolution notes draws
  | completeDelivery subject deliveryId draws =>
    Statement.completeDeliveryWithFinancials subject deliveryId draws

end GaonOne
