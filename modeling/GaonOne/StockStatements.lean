import GaonOne.DeliveryOperations
import GaonOne.OrderMutations
import GaonOne.Statements

/-! The requests that put stock back, statement by statement: cancellations and the
return of a failed delivery. Each holds the order's row from its first statement on,
and the rows of the listings from the moment it reads them. -/
namespace GaonOne
open Relational UnitOfWork ReadCommitted

/-- Several listing rows are updated. -/
def Tables.putListings (listings : List StoreProduct) (db : Tables) : Tables :=
  listings.foldl (fun db listing => db.putListing listing) db

/-- The listings that an order's items came from, in the order the query locks them. -/
def restoreLocks (db : Tables) (order : Order) (items : List OrderItem) : List StoreProduct :=
  (db.catalogue.storeProducts.filter fun listing =>
      listing.storeId = order.storeId ∧ listing.productId ∈ items.map (·.productId)).insertionSort
    fun left right => left.productId.toNat ≤ right.productId.toNat

/-- The loop over items, on the listings the query returned. -/
def creditListings : List OrderItem → List StoreProduct → Handler (List StoreProduct)
  | [], listings => pure listings
  | item :: items, listings => do
    let listing ← found (lookup StoreProduct.productId item.productId listings)
      ⟨409, "Order inventory reference is missing"⟩
    creditListings items (put StoreProduct.id (creditListing listing item.quantity) listings)

namespace Statement

def lockedOrder (orderId : UUID) : Statements (Option Order) :=
  selectForUpdate (fun order => .order order.id) (·.order? orderId)

def lockedDelivery (deliveryId : UUID) : Statements (Option Delivery) :=
  selectForUpdate (fun delivery => .delivery delivery.id) (·.delivery? deliveryId)

/-- The rows of a locking query, as they are once all of them are locked. -/
def lockListings (select : Tables → List StoreProduct) : Statements (List StoreProduct) := do
  let seen ← Program.query fun market : Market => select market.tables
  Program.lockRows (seen.map fun listing => (Row.listing listing.id).forUpdate)
  Program.query fun market : Market =>
    (select market.tables).filter fun listing => listing.id ∈ seen.map (·.id)

/-- `restore_order_stock_once`. -/
def restoreOrderStockOnce (order : Order) (now : Instant) : Statements Order :=
  if order.stockRestoredAt.isSome then pure order
  else do
    let items ← Program.query fun market : Market => orderedItems market.tables order
    let listings ← lockListings (restoreLocks · order items)
    let credited ← creditListings items listings
    Program.flush fun market =>
      { market with
        tables := market.tables.putListings credited
        restored := market.restored ++ [order.id] }
    pure { order with stockRestoredAt := some now }

/-- The refund obligation that giving up an order may owe. -/
def recordRefund (order : Order) (reason : String) (draws : Draws) (db : Tables) : Tables :=
  (ensureRefundRequest (Session.start db) order reason draws).1.pending

/-- The merchant's entitlement that returning an order takes back. -/
def takeBackSettlement (order : Order) (reason : String) (draws : Draws) (db : Tables) : Tables :=
  (voidSettlementForRefund (Session.start db) order reason draws).pending

/-- `POST /orders/{order_id}/cancel`. -/
def cancelMyOrderSafely (subject orderId : UUID) (draws : Draws) : Statements (Option Order) := do
  let user ← statement (getCurrentUser · subject)
  let order ← found ((← lockedOrder orderId).filter (·.userId = user.id)) ⟨404, "Order not found"⟩
  require (canTransitionOrder order.status .cancelled)
    ⟨409, "Only newly placed orders can be cancelled"⟩
  let order ← restoreOrderStockOnce order draws.now
  let order ← transitionOrder order .cancelled
  flushTables (·.putOrder order)
  flushTables (recordRefund order refundReasonCancelled draws)
  pure none

/-- `PATCH /merchant/orders/{order_id}/status`. -/
def updateOrderStatusSafely (subject orderId : UUID) (status : OrderStatus) (draws : Draws) :
    Statements (Option Order) := do
  let user ← statement (getCurrentUser · subject)
  requireRoles user [.merchant, .admin]
  let order ← found (← lockedOrder orderId) ⟨404, "Order not found"⟩
  statement (ensureMayUpdateOrder · user order)
  require (status ∈ merchantAssignableStatuses)
    ⟨403, status.value ++ " is not a merchant-assignable order status"⟩
  require (canTransitionOrder order.status status)
    ⟨409, "Invalid transition from " ++ order.status.value ++ " to " ++ status.value⟩
  require (status = .ready → paymentAllowsFulfillment order)
    ⟨409, "Online payment must be confirmed before an order can be ready for delivery"⟩
  if status = .cancelled then do
    ensureAdminCapability user .refundWrite
    let order ← restoreOrderStockOnce order draws.now
    let owed ← Program.query fun market : Market =>
      (ensureRefundRequest (Session.start market.tables) order refundReasonCancelled draws).2.1
    flushTables (recordRefund order refundReasonCancelled draws)
    let order ← transitionOrder { order with paymentStatus := owed.paymentStatus } .cancelled
    flushTables (·.putOrder order)
    pure none
  else do
    let order ← transitionOrder order status
    flushTables (·.putOrder order)
    pure none

/-- `POST /admin/deliveries/{delivery_id}/resolve-failure`. -/
def resolveFailedDelivery (subject deliveryId : UUID) (resolution : Resolution)
    (notes : Option String) (draws : Draws) : Statements (Option Order) := do
  let admin ← statement (requireCapability · subject .riderOperations)
  require (atMost 500 notes) ⟨422, "DeliveryFailureResolution"⟩
  let delivery ← found (← lockedDelivery deliveryId) ⟨404, "Delivery not found"⟩
  let order ← found (← lockedOrder delivery.orderId) ⟨409, "Delivery order is missing"⟩
  require (delivery.status = .failed) ⟨409, "Only a failed delivery can be resolved"⟩
  match resolution with
  | .reassign => do
    require (delivery.pickedUpAt = none)
      ⟨409, "A delivery can only be reassigned if custody never left the merchant"⟩
    require (order.status = .ready) ⟨409, "Only a ready order can be reassigned"⟩
    let delivery ← releasedDelivery delivery draws.now
    flushTables (·.putDelivery delivery)
    pure none
  | .returnToStore => do
    ensureCapability admin .refundWrite
    ensureCapability admin .settlementWrite
    require (canTransitionOrder order.status .returned)
      ⟨409, "Order cannot be returned from " ++ order.status.value⟩
    let collection ← Program.query fun market : Market =>
      lookup CodCollection.deliveryId delivery.id market.tables.codCollections
    require (order.paymentMethod = .cod → collection = none)
      ⟨409, "A cash collection is recorded for this delivery. " ++
        "Reconcile the cash before resolving the failure."⟩
    let order ← restoreOrderStockOnce order draws.now
    let order ← transitionOrder order .returned
    flushTables (·.putOrder order)
    flushTables (takeBackSettlement order voidReasonReturned draws)
    flushTables (recordRefund order refundReasonReturned draws)
    pure none

end Statement

/-! ## What these statements leave alone -/

/-- Updating listings touches nothing but the shelves. -/
theorem Tables.putListings_eq (listings : List StoreProduct) (db : Tables) :
    db.putListings listings =
      { db with
        catalogue.storeProducts := listings.foldl (fun rows listing => put StoreProduct.id listing rows)
          db.catalogue.storeProducts } := by
  unfold Tables.putListings
  induction listings generalizing db with
  | nil => rfl
  | cons listing listings ih => exact ih (db.putListing listing)

theorem flushOrRollback_cases (db : DbSession) :
    flushOrRollback db = (db.flush, true) ∨ flushOrRollback db = (db.rollback, false) := by
  unfold flushOrRollback
  split
  · exact .inl rfl
  · exact .inr rfl

/-- A refund obligation is a new row and the order's payment status, or nothing new. -/
theorem recordRefund_cases (order : Order) (reason : String) (draws : Draws) (db : Tables) :
    Statement.recordRefund order reason draws db = db ∨
      ∃ refund paymentStatus, Statement.recordRefund order reason draws db =
        (db.addRefund refund).putOrder { order with paymentStatus } := by
  unfold Statement.recordRefund ensureRefundRequest
  split
  · split
    · exact .inl rfl
    · next missing =>
      dsimp only
      rcases flushOrRollback_cases ((Session.start db).write (·.addRefund
          (refundRequest order (latestCapturedAttempt (Session.start db) order.id) reason draws))) with
        kept | refused
      · rw [kept]
        exact .inr ⟨_, _, rfl⟩
      · rw [refused]
        exact .inl rfl
  · exact .inl rfl

/-- Taking a settlement back touches nothing but the ledger. -/
theorem takeBackSettlement_eq (order : Order) (reason : String) (draws : Draws) (db : Tables) :
    ∃ settlementEntries settlementAdjustments,
      Statement.takeBackSettlement order reason draws db =
        { db with settlementEntries, settlementAdjustments } := by
  unfold Statement.takeBackSettlement voidSettlementForRefund
  split
  · exact ⟨_, _, rfl⟩
  · dsimp only
    split
    · exact ⟨_, _, rfl⟩
    · exact ⟨_, _, rfl⟩
    · split
      · exact ⟨_, _, rfl⟩
      · rcases flushOrRollback_cases ((Session.start db).write (·.addAdjustment _)) with kept | refused
        · rw [kept]
          exact ⟨_, _, rfl⟩
        · rw [refused]
          exact ⟨_, _, rfl⟩

section
variable {D : Discipline Market RowLock Note} {footing : Standing} {db : Market}

/-- A locking query of several listings holds every row it returns, as it then is. -/
theorem holds_lockListings {select : Tables → List StoreProduct}
    {post : List StoreProduct → Standing → Market → Prop}
    (locked : ∀ first seen, D.Later footing db first → seen = select (footing.change first).tables →
      ∀ held, D.Later footing first held → ∀ now, D.Later { footing with
          held := (seen.map fun listing => (Row.listing listing.id).forUpdate).reverse ++
            footing.held } held now →
        post ((select (footing.change now).tables).filter fun listing => listing.id ∈ seen.map (·.id))
          { footing with
            held := (seen.map fun listing => (Row.listing listing.id).forUpdate).reverse ++
              footing.held } now) :
    D.Holds (Statement.lockListings select) post footing db := by
  refine Discipline.Holds.query fun first reading => ?_
  rw [Discipline.holds_bind]
  exact Discipline.holds_lockRows reading.2 fun held locking now later =>
    locked first _ reading rfl held locking now later

/-- Restoring stock: nothing if the guard is set; else it credits the listings that it
read and holds, and sets the guard. -/
theorem holds_restoreOrderStockOnce {post : Order → Standing → Market → Prop}
    (already : order.stockRestoredAt.isSome → post order footing db)
    (credit : order.stockRestoredAt = none →
      ∀ first, D.Later footing db first → ∀ second seen, D.Later footing first second →
      seen = restoreLocks (footing.change second).tables order
        (orderedItems (footing.change first).tables order) →
      ∀ held, D.Later footing second held → ∀ now, D.Later { footing with
          held := (seen.map fun listing => (Row.listing listing.id).forUpdate).reverse ++
            footing.held } held now →
      ∀ credited, creditListings (orderedItems (footing.change first).tables order)
        ((restoreLocks (footing.change now).tables order
          (orderedItems (footing.change first).tables order)).filter fun listing =>
            listing.id ∈ seen.map (·.id)) = .ok credited →
      post { order with stockRestoredAt := some moment }
        { footing with
          held := (seen.map fun listing => (Row.listing listing.id).forUpdate).reverse ++ footing.held
          change := (fun market : Market =>
            { market with
              tables := market.tables.putListings credited
              restored := market.restored ++ [order.id] }) ∘ footing.change } now) :
    D.Holds (Statement.restoreOrderStockOnce order moment) post footing db := by
  unfold Statement.restoreOrderStockOnce
  split
  · next set => exact already set
  · next unset =>
    refine Discipline.Holds.query fun first reading => ?_
    rw [Discipline.holds_bind]
    refine holds_lockListings fun second seen selecting same held locking now later => ?_
    refine Discipline.Holds.check fun credited credits => ?_
    exact credit (by simpa using unset) first reading second seen selecting same held locking now later
      credited credits

end
end GaonOne
