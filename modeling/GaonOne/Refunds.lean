import Mathlib.Data.List.MinMax
import Mathlib.Data.List.Sort
import GaonOne.Payments
import GaonOne.Settlements

/-! Refund obligations and their provider execution. An obligation is recorded
in the transaction that owes it; execution claims the row and commits before any
network call, and records what the provider answered in a transaction of its own. -/
namespace GaonOne
open Relational UnitOfWork

/-- `DISPATCHABLE_REFUND_STATUSES`. -/
def dispatchableRefundStatuses : List RefundStatus := [.requested, .failed]

def maxRefundAttempts : Nat := 8

def refundReasonCancelled : String := "order_cancelled"
def refundReasonReturned : String := "delivery_returned"
def refundReasonOrphanedCapture : String := "capture_after_cancellation"

/-- One full-order refund obligation per order. -/
def refundIdempotencyKey (orderId : UUID) : String := "order-refund:" ++ uuidText orderId

/-- The row with the latest value, the first of several. -/
def latest (col : ρ → Instant) (rows : List ρ) : Option ρ := rows.argmax col

theorem latest_mem (found : latest col rows = some row) : row ∈ rows := List.argmax_mem found

/-- The query sees flushed rows; what it returns is the session's object. -/
def latestCapturedAttempt (db : DbSession) (orderId : UUID) : Option PaymentAttempt :=
  (latest PaymentAttempt.updatedAt (db.flushed.paymentAttempts.filter fun attempt =>
    attempt.orderId = orderId ∧ attempt.status = .paid ∧ attempt.providerPaymentId.isSome)).map
    (tracked PaymentAttempt.id · db.pending.paymentAttempts)

/-- The obligation of an order, from the captured payment that is on record. -/
def refundRequest (order : Order) (attempt : Option PaymentAttempt) (reason : String)
    (draws : Draws) : PaymentRefund where
  id := draws.refundId
  orderId := order.id
  paymentAttemptId := attempt.map (·.id)
  providerPaymentId := attempt.bind (·.providerPaymentId)
  providerRefundId := none
  amount := order.total
  currency := (attempt.map (·.currency)).getD "INR"
  status := .requested
  reason := reason
  idempotencyKey := refundIdempotencyKey order.id
  providerStatus := none
  failureReason := none
  attemptCount := 0
  requestedAt := draws.now
  processedAt := none
  failedAt := none

/-- Whether an order's money was captured, so that giving it up owes a refund. -/
def owesRefund (order : Order) : Prop :=
  order.paymentMethod = .upi ∧ order.paymentStatus ∈ [PaymentStatus.paid, .refundPending]

instance (order : Order) : Decidable (owesRefund order) := inferInstanceAs (Decidable (_ ∧ _))

def refundOwedStatus : PaymentStatus → PaymentStatus
  | .paid => .refundPending
  | other => other

/-- Record that the order owes the customer money, once. Returns the session, the
order object and the obligation. A flush that fails takes the whole transaction
back, and the obligation that is on record counts. -/
def ensureRefundRequest (db : DbSession) (order : Order) (reason : String) (draws : Draws) :
    DbSession × Order × Option PaymentRefund :=
  if owesRefund order then
    match lookup PaymentRefund.idempotencyKey (refundIdempotencyKey order.id)
        db.flushed.paymentRefunds with
    | some existing => (db, order, some (tracked PaymentRefund.id existing db.pending.paymentRefunds))
    | none =>
      let refund := refundRequest order (latestCapturedAttempt db order.id) reason draws
      match flushOrRollback (db.write (·.addRefund refund)) with
      | (db, false) =>
        (db, tracked Order.id order db.pending.orders,
          lookup PaymentRefund.idempotencyKey (refundIdempotencyKey order.id)
            db.flushed.paymentRefunds)
      | (db, true) =>
        let order := { order with paymentStatus := refundOwedStatus order.paymentStatus }
        (db.write (·.putOrder order), order, some refund)
  else (db, order, none)

/-! ## Folding in what the provider reports -/

/-- Downstream consequences of a provider-confirmed refund. -/
def settleRefundedOrder (db : DbSession) (order : Order) (draws : Draws) : DbSession :=
  voidSettlementForRefund db order voidReasonRefunded draws

/-- The row of a refund the provider confirmed. -/
def succeededRefund (refund : PaymentRefund) (providerStatus : Option String) (now : Instant) :
    PaymentRefund :=
  { refund with
    status := .succeeded, providerStatus := providerStatus, failureReason := none
    processedAt := some now }

def markSucceeded (db : DbSession) (refund : PaymentRefund) (providerStatus : Option String)
    (draws : Draws) : DbSession :=
  let db := db.write (·.putRefund (succeededRefund refund providerStatus draws.now))
  match (db.flushed.order? refund.orderId).map (tracked Order.id · db.pending.orders) with
  | none => db
  | some order =>
    if order.paymentStatus = .refunded then db
    else
      let order := { order with paymentStatus := .refunded }
      settleRefundedOrder (db.write (·.putOrder order)) order draws

/-- The failed row; a message is cut to the column's width. -/
def failedRefund (refund : PaymentRefund) (message : String) (now : Instant) : PaymentRefund :=
  { refund with
    status := .failed, failureReason := some (message.take 300).toString, failedAt := some now }

def markFailed (db : DbSession) (refund : PaymentRefund) (message : String) (now : Instant) :
    DbSession :=
  db.write (·.putRefund (failedRefund refund message now))

/-- The row with the provider's identifier and status; an identifier already
stored is kept. -/
def reportedRefund (refund : PaymentRefund) (providerRefundId providerStatus : Option String) :
    PaymentRefund :=
  { refund with
    providerRefundId := match configured refund.providerRefundId with
      | some _ => refund.providerRefundId
      | none => providerRefundId.or refund.providerRefundId
    providerStatus := providerStatus }

/-- Fold a provider refund object, an answer or a webhook's, into our state. -/
def applyProviderRefundResult (env : Environment) (db : DbSession) (refund : PaymentRefund)
    (payload : List (String × Json)) (draws : Draws) : DbSession :=
  let providerRefundId := (Json.get payload "id").text env.print
  let providerStatus := (Json.get payload "status").text env.print
  let refund := reportedRefund refund providerRefundId providerStatus
  let db := db.write (·.putRefund refund)
  if providerStatus = some "processed" then markSucceeded db refund providerStatus draws
  else if providerStatus = some "failed" then
    markFailed db refund "Razorpay reported the refund as failed" draws.now
  else db.write (·.putRefund { refund with status := .processing })

/-! ## Dispatch: claim, call, record -/

/-- What a dispatcher holds between its claim and its recording. -/
structure RefundClaim where
  refundId : UUID
  providerPaymentId : String
  amount : Paise
  idempotencyKey : String
  orderNote : String
  deriving DecidableEq, Repr

/-- The first transaction of `dispatch_refund`: the session it leaves, and the
claim if the provider is to be called. -/
def claimRefund (settings : Settings) (db : DbSession) (refundId : UUID) (now : Instant) :
    DbSession × Option RefundClaim :=
  match db.flushed.refund? refundId with
  | none => (db, none)
  | some refund =>
    if refund.status ∉ dispatchableRefundStatuses then (db, none)
    else if maxRefundAttempts ≤ refund.attemptCount then (db, none)
    else
      match configured refund.providerPaymentId with
      | none =>
        let failed := failedRefund refund
          ("No captured provider payment id is recorded for this order; " ++
            "manual reconciliation required") now
        (db.write (·.putRefund { failed with attemptCount := maxRefundAttempts }), none)
      | some providerPaymentId =>
        if razorpayEnabled settings then
          (db.write (·.putRefund
              { refund with status := .processing, attemptCount := refund.attemptCount + 1 }),
            some ⟨refundId, providerPaymentId, refund.amount, refund.idempotencyKey,
              uuidText refund.orderId⟩)
        else (markFailed db refund "Razorpay credentials are not configured" now, none)

/-- The provider call a claim makes. -/
def RefundClaim.call (settings : Settings) (claim : RefundClaim) : Option RefundCall :=
  refundCall settings claim.providerPaymentId (Decimal.ofCents claim.amount) claim.idempotencyKey
    claim.orderNote

/-- The last transaction of `dispatch_refund`: the answer or the error is recorded. -/
def recordRefund (env : Environment) (db : DbSession) (claim : RefundClaim)
    (result : ProviderResult) (draws : Draws) : DbSession :=
  match db.flushed.refund? claim.refundId, result with
  | none, _ => db
  | some refund, .error message => markFailed db refund message draws.now
  | some refund, .ok payload => applyProviderRefundResult env db refund payload draws

/-- The refunds a worker tick or an immediate dispatch considers, oldest first. -/
def dueRefundIds (db : Tables) (limit : Nat) (orderId : Option UUID) : List UUID :=
  let due := db.paymentRefunds.filter fun refund =>
    refund.status ∈ dispatchableRefundStatuses ∧ refund.attemptCount < maxRefundAttempts ∧
      (orderId.all fun order => decide (refund.orderId = order))
  ((due.insertionSort fun left right => left.requestedAt ≤ right.requestedAt).take limit).map (·.id)

end GaonOne
