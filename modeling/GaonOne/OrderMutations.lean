import GaonOne.OrderTransitions
import GaonOne.Refunds
import GaonOne.Stock

/-! The requests that advance or cancel an order: the customer's cancellation and
the status screen of merchants and administrators. -/
namespace GaonOne
open Relational UnitOfWork

/-- `POST /orders/{order_id}/cancel`. The obligation comes back so that the
request can try to send it after the commit. -/
def cancelMyOrderSafely (db : DbSession) (subject orderId : UUID) (draws : Draws) :
    Handler (DbSession × Option PaymentRefund) := do
  let user ← getCurrentUser db.flushed subject
  let order ← found ((db.flushed.order? orderId).filter (·.userId = user.id))
    ⟨404, "Order not found"⟩
  require (canTransitionOrder order.status .cancelled)
    ⟨409, "Only newly placed orders can be cancelled"⟩
  let (db, order) ← restoreOrderStockOnce db order draws.now
  let order ← transitionOrder order .cancelled
  -- annotating the transition flushes it first
  let db ← flushRows (db.write (·.putOrder order))
  let (db, _, refund) := ensureRefundRequest db order refundReasonCancelled draws
  pure (db, refund)

/-- A merchant acts on the orders of their own store while approved; an
administrator needs order operations. -/
def ensureMayUpdateOrder (db : Tables) (user : User) (order : Order) : Handler Unit :=
  if user.role = .admin then ensureCapability user .orderOperations
  else do
    let merchant ← found (lookup Merchant.ownerUserId user.id db.catalogue.merchants)
      ⟨403, "Order does not belong to your store"⟩
    let store ← found (db.store? order.storeId) ⟨403, "Order does not belong to your store"⟩
    require (store.merchantId = merchant.id) ⟨403, "Order does not belong to your store"⟩
    require (merchant.status = .approved) ⟨403, "Merchant is not active"⟩

/-- The cancelling branch of the status screen: here the obligation is recorded
before the status changes. -/
def cancelOrderForStore (db : DbSession) (user : User) (order : Order) (draws : Draws) :
    Handler (DbSession × Option PaymentRefund) := do
  ensureAdminCapability user .refundWrite
  let (db, order) ← restoreOrderStockOnce db order draws.now
  let (db, order, refund) := ensureRefundRequest db order refundReasonCancelled draws
  let order ← transitionOrder order .cancelled
  let db ← flushRows (db.write (·.putOrder order))
  pure (db, refund)

/-- `PATCH /merchant/orders/{order_id}/status`. -/
def updateOrderStatusSafely (db : DbSession) (subject orderId : UUID) (status : OrderStatus)
    (draws : Draws) : Handler (DbSession × Option PaymentRefund) := do
  let user ← getCurrentUser db.flushed subject
  requireRoles user [.merchant, .admin]
  let order ← found (db.flushed.order? orderId) ⟨404, "Order not found"⟩
  ensureMayUpdateOrder db.flushed user order
  require (status ∈ merchantAssignableStatuses)
    ⟨403, status.value ++ " is not a merchant-assignable order status"⟩
  require (canTransitionOrder order.status status)
    ⟨409, "Invalid transition from " ++ order.status.value ++ " to " ++ status.value⟩
  require (status = .ready → paymentAllowsFulfillment order)
    ⟨409, "Online payment must be confirmed before an order can be ready for delivery"⟩
  if status = .cancelled then cancelOrderForStore db user order draws
  else do
    let order ← transitionOrder order status
    let db ← flushRows (db.write (·.putOrder order))
    pure (db, none)

end GaonOne
