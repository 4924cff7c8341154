import GaonOne.DispatchStatements
import GaonOne.Library.Json
import GaonOne.Library.Triggers

/-! The status history. Database triggers record every change of an order's or a delivery's
status, so that no request can leave one out; the request that made the change then says on
the row who made it and why. -/
namespace GaonOne
open Relational UnitOfWork ReadCommitted

/-- What has a status whose changes are recorded. -/
inductive Entity where
  | order (id : UUID)
  | delivery (id : UUID)
  deriving DecidableEq, Repr

/-- `ENTITY_ORDER` and `ENTITY_DELIVERY`. -/
def Entity.type : Entity → String
  | order _ => "order"
  | delivery _ => "delivery"

def Entity.id : Entity → UUID
  | order id => id
  | delivery id => id

structure StatusTransitionEvent where
  id : UUID
  entityType : String
  entityId : UUID
  orderId : Option UUID
  deliveryId : Option UUID
  actorUserId : Option UUID
  fromStatus : String
  toStatus : String
  reason : Option String
  eventMetadata : List (String × Json)
  createdAt : Instant

/-- The event is about this order or delivery. -/
def StatusTransitionEvent.About (event : StatusTransitionEvent) (entity : Entity) : Prop :=
  event.entityType = entity.type ∧ event.entityId = entity.id

instance (event : StatusTransitionEvent) (entity : Entity) : Decidable (event.About entity) :=
  inferInstanceAs (Decidable (_ ∧ _))

/-- What a transaction's events have from outside: the moment it began, which `now()` answers
with throughout, and the identifier drawn for each of them. -/
structure Stamp where
  begun : Instant
  eventId : Entity → UUID

/-! ## The triggers -/

section
variable {ρ κ σ : Type} [DecidableEq κ] [DecidableEq σ]

/-- The rows an update gave another status, before and after it. -/
def movedRows (key : ρ → κ) (status : ρ → σ) (before after : List ρ) : List (ρ × ρ) :=
  after.filterMap fun new =>
    ((lookup key (key new) before).filter fun old => status old ≠ status new).map (·, new)

end

/-- `gaonone_audit_order_status`. -/
def auditOrderStatus (stamp : Stamp) (old new : Order) : StatusTransitionEvent where
  id := stamp.eventId (.order new.id)
  entityType := "order"
  entityId := new.id
  orderId := some new.id
  deliveryId := none
  actorUserId := none
  fromStatus := old.status.value
  toStatus := new.status.value
  reason := none
  eventMetadata := []
  createdAt := stamp.begun

/-- `gaonone_audit_delivery_status`. -/
def auditDeliveryStatus (stamp : Stamp) (old new : Delivery) : StatusTransitionEvent where
  id := stamp.eventId (.delivery new.id)
  entityType := "delivery"
  entityId := new.id
  orderId := some new.orderId
  deliveryId := some new.id
  actorUserId := none
  fromStatus := old.status.value
  toStatus := new.status.value
  reason := if new.status.value = "failed" then new.failureReason else none
  eventMetadata := []
  createdAt := stamp.begun

/-- The events of one flush: `trg_audit_order_status`, then `trg_audit_delivery_status`, each
for every row that an `UPDATE OF status` gave another one. -/
def auditedChanges (stamp : Stamp) (before after : Tables) : List StatusTransitionEvent :=
  (movedRows Order.id Order.status before.orders after.orders).map
      (fun moved => auditOrderStatus stamp moved.1 moved.2) ++
    (movedRows Delivery.id Delivery.status before.deliveries after.deliveries).map
      fun moved => auditDeliveryStatus stamp moved.1 moved.2

/-- The triggers append to the table of events. -/
def statusTriggers (stamp : Stamp) (before after : Market) (events : List StatusTransitionEvent) :
    List StatusTransitionEvent :=
  events ++ auditedChanges stamp before.tables after.tables

/-! ## Annotations -/

/-- What a request adds to an event: the actor, the reason, and further data. -/
structure Annotation where
  actorUserId : Option UUID := none
  reason : Option String := none
  metadata : List (String × Json) := []

/-- `merged.update(metadata)`. -/
def updatedFields (fields : List (String × Json)) : List (String × Json) → List (String × Json)
  | [] => fields
  | (key, value) :: more =>
    updatedFields
      (if fields.any (·.1 = key) then fields.map fun field => if field.1 = key then (key, value) else field
      else fields ++ [(key, value)]) more

/-- `event.actor_user_id`, `event.reason` and `event.event_metadata`, where they are given. -/
def Annotation.attach (note : Annotation) (event : StatusTransitionEvent) : StatusTransitionEvent :=
  { event with
    actorUserId := note.actorUserId.or event.actorUserId
    reason := ((note.reason.filter (· ≠ "")).map fun reason => String.ofList (reason.toList.take 160)).or
      event.reason
    eventMetadata := if note.metadata = [] then event.eventMetadata
      else updatedFields event.eventMetadata note.metadata }

/-- The latest event that took the entity to the status, by time and then by key. -/
def latestTransition (events : List StatusTransitionEvent) (entity : Entity) (toStatus : String) :
    Option StatusTransitionEvent :=
  ((events.filter fun event => event.About entity ∧ event.toStatus = toStatus).insertionSort
    fun left right => toLex (right.createdAt, right.id.toNat) ≤ toLex (left.createdAt, left.id.toNat)).head?

/-- The committed tables with their status history. -/
abbrev Chronicle := Market × List StatusTransitionEvent

/-- The statements of a request, where triggers record what they do. -/
abbrev AuditedStatements := Program Chronicle RowLock Note HTTPException

/-- `annotate_transition`: the event is looked up, then updated by its key. -/
def annotateTransition (entity : Entity) (toStatus : String) (note : Annotation) : AuditedStatements Unit := do
  match ← Program.query fun chronicle : Chronicle => latestTransition chronicle.2 entity toStatus with
  | none => pure ()
  | some event =>
    Program.flush fun chronicle =>
      (chronicle.1, chronicle.2.map fun row => if row.id = event.id then note.attach row else row)

/-! ## The requests -/

namespace Statement

/-- `dispatch_ready_deliveries` up to its assignment, which also says what it handed to whom. -/
def dispatchReadyTask (env : Environment) (radiusKm : ℚ) (seen : List UUID) (draws : Draws) :
    Statements (UUID × UUID) := do
  let waiting ← Program.query fun market : Market => readyDeliveries market.tables seen
  let picked ← selectSkipLocked Row.delivery (fun id db =>
    (db.delivery? id).filter fun delivery => delivery.status = .unassigned) waiting
  let delivery ← found picked ⟨200, "break"⟩
  let order ← found (← lockedOrder delivery.orderId) ⟨200, "skipped"⟩
  require (order.status = .ready ∧ paymentAllowsFulfillment order) ⟨200, "skipped"⟩
  let place ← Program.query fun market : Market => storePoint market.tables order.storeId
  let store ← found place ⟨200, "skipped"⟩
  let riderId ← found (← nearestEligibleRider env store radiusKm draws.now) ⟨200, "skipped"⟩
  let user ← Program.query fun market : Market => market.tables.user? riderId
  let _ ← found user ⟨200, "skipped"⟩
  let busy ← Program.query fun market : Market => decide (riderIsBusy market.tables riderId none)
  require (busy = false) ⟨200, "skipped"⟩
  let assigned ← assignedDelivery delivery riderId draws.now
  flushTables (·.putDelivery assigned)
  pure (delivery.id, riderId)

/-- Its answer aside, it is the dispatcher's pass. -/
theorem dispatchReadyDelivery_eq (env : Environment) (radiusKm : ℚ) (seen : List UUID) (draws : Draws) :
    dispatchReadyDelivery env radiusKm seen draws =
      dispatchReadyTask env radiusKm seen draws >>= fun _ => pure none := by
  unfold dispatchReadyDelivery dispatchReadyTask
  simp only [Program.bind_assoc]
  rfl

end Statement

/-- The requests that change a status, with what their events are stamped with. -/
inductive StatusRequest where
  | cancelOrder (subject orderId : UUID) (draws : Draws)
  | updateOrderStatus (subject orderId : UUID) (status : OrderStatus) (draws : Draws)
  | dispatch (request : DispatchRequest)

/-- The body of an annotation's `notes`. -/
def notesField (notes : Option String) : List (String × Json) :=
  ((notes.filter (· ≠ "")).map fun notes => ("notes", Json.str notes)).toList

/-- A request on the database with triggers, and what it then says of an event, from its
answer and the rows it holds. What follows an annotation in the source neither reads nor
writes events, so here the annotation comes last. -/
def annotated (stamp : Stamp) (request : Statements α)
    (remark : α → Tables → Option (Entity × String × Annotation)) : AuditedStatements Unit := do
  let answer ← request.triggered (statusTriggers stamp)
  match ← Program.query fun chronicle : Chronicle => remark answer chronicle.1.tables with
  | none => pure ()
  | some (entity, toStatus, note) => annotateTransition entity toStatus note

/-- The user a request acts for is its token's. Claims, hand-overs and the status screen of
the rider say nothing of the events they cause. -/
def StatusRequest.program (env : Environment) (stamp : Stamp) : StatusRequest → AuditedStatements Unit
  | .cancelOrder subject orderId draws =>
    annotated stamp (Statement.cancelMyOrderSafely subject orderId draws) fun _ _ =>
      some (.order orderId, OrderStatus.cancelled.value,
        { actorUserId := some subject, reason := some "customer_cancelled" })
  | .updateOrderStatus subject orderId status draws =>
    annotated stamp (Statement.updateOrderStatusSafely subject orderId status draws) fun _ _ =>
      some (.order orderId, status.value,
        { actorUserId := some subject, reason := some "merchant_status_update" })
  | .dispatch (.failDelivery subject deliveryId payload draws) =>
    annotated stamp (Statement.failDelivery subject deliveryId payload draws) fun _ db =>
      (db.delivery? deliveryId).map fun delivery =>
        (.delivery deliveryId, DeliveryStatus.failed.value,
          { actorUserId := some subject, reason := some payload.reason
            metadata := [("after_pickup", .bool delivery.pickedUpAt.isSome)] })
  | .dispatch (.recoverFailedDelivery subject deliveryId draws) =>
    annotated stamp (Statement.recoverFailedDelivery subject deliveryId draws) fun _ _ =>
      some (.delivery deliveryId, DeliveryStatus.unassigned.value,
        { actorUserId := some subject, reason := some "admin_recovered_before_pickup" })
  | .dispatch (.resolveFailedDelivery subject deliveryId resolution notes draws) =>
    annotated stamp (Statement.resolveFailedDelivery subject deliveryId resolution notes draws)
      fun _ db =>
        match resolution with
        | .reassign =>
          some (.delivery deliveryId, DeliveryStatus.unassigned.value,
            { actorUserId := some subject, reason := some "admin_reassign"
              metadata := notesField notes })
        | .returnToStore =>
          (db.delivery? deliveryId).map fun delivery =>
            (.order delivery.orderId, OrderStatus.returned.value,
              { actorUserId := some subject, reason := some "delivery_failed_after_pickup"
                metadata := ("delivery_id", .str (uuidText delivery.id)) :: notesField notes })
  | .dispatch (.dispatchReadyDelivery radiusKm seen draws) =>
    annotated stamp (Statement.dispatchReadyTask env radiusKm seen draws) fun handed _ =>
      some (.delivery handed.1, DeliveryStatus.assigned.value,
        { reason := some "background_auto_dispatch"
          metadata := [("rider_id", .str (uuidText handed.2)),
            ("selection", .str "nearest_eligible_online_rider")] })
  | .dispatch request => annotated stamp (request.program env) fun _ _ => none

/-! ## Reading the history -/

/-- `_can_view_order`. -/
def canViewOrder (db : Tables) (order : Order) (user : User) : Bool :=
  if user.role = .admin ∨ order.userId = user.id then true
  else match user.role with
    | .merchant =>
      (lookup Merchant.ownerUserId user.id db.catalogue.merchants).any fun merchant =>
        (db.store? order.storeId).any fun store => store.merchantId = merchant.id
    | .delivery =>
      (lookup Delivery.orderId order.id db.deliveries).any fun delivery =>
        delivery.deliveryPartnerId = some user.id
    | _ => false

/-- The events of an order and its delivery, by time and then by key. -/
def orderEvents (events : List StatusTransitionEvent) (orderId : UUID) : List StatusTransitionEvent :=
  (events.filter fun event => event.orderId = some orderId).insertionSort
    fun left right => toLex (left.createdAt, left.id.toNat) ≤ toLex (right.createdAt, right.id.toNat)

/-- `GET /orders/{order_id}/events`. -/
def orderTransitionEvents (chronicle : Chronicle) (subject orderId : UUID) :
    Handler (List StatusTransitionEvent) := do
  let db := chronicle.1.tables
  let user ← getCurrentUser db subject
  let order ← found (db.order? orderId) ⟨404, "Order not found"⟩
  require (canViewOrder db order user) ⟨403, "You cannot view this order history"⟩
  pure (orderEvents chronicle.2 order.id)

end GaonOne
