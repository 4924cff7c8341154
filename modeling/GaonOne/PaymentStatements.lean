import GaonOne.PaymentEvents
import GaonOne.StockStatements

/-! The requests that move money, statement by statement: what each locks, what it keeps
unflushed, and what a flush that breaks a unique constraint does. The helpers that record
a refund or take back a settlement answer a violation by rolling the session back and
returning normally; elsewhere it ends the request. Nobody sees a row before the commit, but
whoever brings a value that a flushed row carries waits for its transaction. -/
namespace GaonOne
open Relational UnitOfWork ReadCommitted

/-- The rows that carry a value. -/
def UniqueValue.carriers (db : Tables) : UniqueValue → List UUID
  | .eventKey key => (belonging PaymentWebhookEvent.eventKey key db.paymentWebhookEvents).map (·.id)
  | .refundKey orderId =>
    (belonging PaymentRefund.idempotencyKey (refundIdempotencyKey orderId) db.paymentRefunds).map (·.id)
  | .reversalKey entryId =>
    (belonging SettlementAdjustment.idempotencyKey (settlementReversalKey entryId)
      db.settlementAdjustments).map (·.id)
  | .paymentId text =>
    (belonging PaymentAttempt.providerPaymentId (some text) db.paymentAttempts).map (·.id)
  | .refundId text =>
    (belonging PaymentRefund.providerRefundId (some text) db.paymentRefunds).map (·.id)

/-- Another row than this one carries the value. -/
def UniqueValue.Taken (db : Tables) (value : UniqueValue) (rowId : UUID) : Prop :=
  ∃ id ∈ value.carriers db, id ≠ rowId

instance (db : Tables) (value : UniqueValue) (rowId : UUID) : Decidable (value.Taken db rowId) :=
  decidable_of_iff ((value.carriers db).any (· ≠ rowId) = true) (by simp [UniqueValue.Taken])

/-- What a session's objects say and its commit will write, with the values that the next
flush brings, each for its row, and those it gives up. -/
structure Pending where
  change : Market → Market := id
  values : List (UniqueValue × UUID) := []
  given : List UniqueValue := []

namespace Pending

def write (pending : Pending) (change : Tables → Tables) : Pending :=
  { pending with change := Market.change change ∘ pending.change }

/-- A row changes the value it carries; an unchanged column is not written. -/
def assign (pending : Pending) (value : String → UniqueValue) (rowId : UUID) (old new : Option String) :
    Pending :=
  if new = old then pending
  else
    { pending with
      values := pending.values ++ new.toList.map (value ·, rowId)
      given := pending.given ++ old.toList.map value }

/-- A new row carries a value. -/
def bring (pending : Pending) (value : UniqueValue) (rowId : UUID) : Pending :=
  { pending with values := pending.values ++ [(value, rowId)] }

/-- The effects of an event are part of the commit. -/
def applying (pending : Pending) (key : String) : Pending :=
  { pending with
    change := fun market =>
      let market := pending.change market
      { market with applied := market.applied ++ [key] } }

/-- What is left to flush after a flush. -/
def flushed (pending : Pending) : Pending := { change := pending.change }

/-- A flush waits for every transaction that flushed one of the values. -/
def locks (pending : Pending) : List RowLock :=
  (pending.given ++ pending.values.map (·.1)).map fun value => (Row.value value).forUpdate

/-- The unique constraint a flush breaks. A primary key is drawn at random and taken to
be new. -/
def violation (pending : Pending) (db : Tables) : Option UniqueValue :=
  (pending.values.find? fun (value, rowId) => decide (value.Taken db rowId)).map (·.1)

/-- `db.flush()`, with `except IntegrityError: db.rollback()`: whether it went through. -/
def flushOrRollback (pending : Pending) : Statements Bool := do
  Program.lockRows pending.locks
  Program.remember (.flushing pending.values)
  match ← Program.query fun market : Market => pending.violation market.tables with
  | none => pure true
  | some value => do
    Program.flush fun market => { market with rolledBack := market.rolledBack ++ [value] }
    pure false

/-- `db.flush()` of any other caller. -/
def flush (pending : Pending) : Statements Unit := do
  Program.lockRows pending.locks
  let violation ← Program.query fun market : Market => pending.violation market.tables
  Statement.require (violation = none) ⟨500, "IntegrityError"⟩

/-- `db.commit()`; only a webhook acknowledges an event. -/
def commit (pending : Pending) : Statements (Option String) := do
  pending.flush
  Program.flush pending.change
  pure none

end Pending

namespace Flushed

/-! ## The financial helpers -/

/-- `ensure_refund_request`: what is pending after it and the order object, or nothing
where it rolled the session back. -/
def ensureRefundRequest (pending : Pending) (order : Order) (reason : String) (draws : Draws) :
    Statements (Option (Pending × Order)) :=
  if owesRefund order then do
    let existing ← selectForUpdate (fun refund => .refund refund.id) fun db : Tables =>
      lookup PaymentRefund.idempotencyKey (refundIdempotencyKey order.id) db.paymentRefunds
    if existing.isSome then pure (some (pending, order))
    else do
      let attempt ← Program.query fun market : Market =>
        latestCapturedAttempt ⟨market.tables, market.tables, (pending.change market).tables⟩ order.id
      let refund := refundRequest order attempt reason draws
      let pending := (pending.write (·.addRefund refund)).bring (.refundKey order.id) refund.id
      if ← pending.flushOrRollback then
        let order := { order with paymentStatus := refundOwedStatus order.paymentStatus }
        pure (some (pending.flushed.write (·.putOrder order), order))
      else pure none
  else pure (some (pending, order))

def lockedSettlement (orderId : UUID) : Statements (Option SettlementEntry) :=
  selectForUpdate (fun entry => .settlement entry.id) fun db : Tables =>
    lookup SettlementEntry.orderId orderId db.settlementEntries

/-- `void_settlement_for_refund`, or nothing where it rolled the session back. -/
def voidSettlementForRefund (pending : Pending) (order : Order) (reason : String) (draws : Draws) :
    Statements (Option Pending) := do
  match ← lockedSettlement order.id with
  | none => pure (some pending)
  | some entry =>
    match entry.status with
    | .voided => pure (some pending)
    | .pending => pure (some (pending.write (·.putSettlement
        { entry with status := .voided, voidedAt := some draws.now, voidReason := some reason })))
    | .settled => do
      let existing ← Program.query fun market : Market =>
        lookup SettlementAdjustment.idempotencyKey (settlementReversalKey entry.id)
          market.tables.settlementAdjustments
      if existing.isSome then pure (some pending)
      else do
        let reversal := settlementReversal entry order reason draws
        let pending :=
          (pending.write (·.addAdjustment reversal)).bring (.reversalKey entry.id) reversal.id
        if ← pending.flushOrRollback then pure (some pending.flushed) else pure none

/-- `ensure_settlement_entry`. -/
def ensureSettlementEntry (pending : Pending) (order : Order) (draws : Draws) : Statements Pending := do
  let existing ← lockedSettlement order.id
  if existing.isSome then pure pending
  else do
    let eligible ← Program.query fun market : Market =>
      decide (settlementIsEligible (Session.start market.tables) order)
    if eligible then do
      let store ← Statement.found (← Program.query fun market : Market => market.tables.store? order.storeId)
        ⟨500, "Settlement entry requires a valid store"⟩
      pending.flush
      pure (pending.flushed.write (·.addSettlement (settlementEntry order store draws)))
    else pure pending

/-! ## Decisions on orders -/

/-- `restore_order_stock_once`, with the order object; the rows of its listings are locked
too, which only waits. -/
def restoreOrderStockOnce (pending : Pending) (order : Order) (now : Instant) :
    Statements (Pending × Order) := do
  let restored ← statement fun db =>
    (GaonOne.restoreOrderStockOnce (Session.start db) order now).map (·.2)
  let credit (db : Tables) : Tables :=
    match GaonOne.restoreOrderStockOnce (Session.start db) order now with
    | .ok (session, _) => session.pending
    | .error _ => db
  pure (pending.write credit, restored)

/-- `POST /orders/{order_id}/cancel`; notifications are left out. -/
def cancelMyOrderSafely (subject orderId : UUID) (draws : Draws) : Statements (Option String) := do
  let user ← statement (getCurrentUser · subject)
  let locked ← Statement.lockedOrder orderId
  let order ← Statement.found (locked.filter (·.userId = user.id)) ⟨404, "Order not found"⟩
  Statement.require (canTransitionOrder order.status .cancelled)
    ⟨409, "Only newly placed orders can be cancelled"⟩
  let (pending, order) ← restoreOrderStockOnce {} order draws.now
  let order ← Program.ofExcept (transitionOrder order .cancelled)
  match ← ensureRefundRequest (pending.write (·.putOrder order)) order refundReasonCancelled draws with
  | none => pure none
  | some (pending, _) => pending.commit

/-- `PATCH /merchant/orders/{order_id}/status`. After a rollback the status is still
changed, on the order as it is reloaded. -/
def updateOrderStatusSafely (subject orderId : UUID) (status : OrderStatus) (draws : Draws) :
    Statements (Option String) := do
  let user ← statement (getCurrentUser · subject)
  Program.ofExcept (requireRoles user [.merchant, .admin])
  let locked ← Statement.lockedOrder orderId
  let order ← Statement.found locked ⟨404, "Order not found"⟩
  statement (ensureMayUpdateOrder · user order)
  Statement.require (status ∈ merchantAssignableStatuses)
    ⟨403, status.value ++ " is not a merchant-assignable order status"⟩
  Statement.require (canTransitionOrder order.status status)
    ⟨409, "Invalid transition from " ++ order.status.value ++ " to " ++ status.value⟩
  Statement.require (status = .ready → paymentAllowsFulfillment order)
    ⟨409, "Online payment must be confirmed before an order can be ready for delivery"⟩
  if status = .cancelled then do
    Program.ofExcept (ensureAdminCapability user .refundWrite)
    let (pending, order) ← restoreOrderStockOnce {} order draws.now
    match ← ensureRefundRequest pending order refundReasonCancelled draws with
    | none => do
      let order ← Statement.found (← Program.query fun market : Market => market.tables.order? orderId)
        ⟨500, "ObjectDeletedError"⟩
      let order ← Program.ofExcept (transitionOrder order .cancelled)
      (Pending.write {} (·.putOrder order)).commit
    | some (pending, order) => do
      let order ← Program.ofExcept (transitionOrder order .cancelled)
      (pending.write (·.putOrder order)).commit
  else do
    let order ← Program.ofExcept (transitionOrder order status)
    (Pending.write {} (·.putOrder order)).commit

/-- The branch of `resolve_failed_delivery` that takes the goods back. After a rollback the
obligation is still recorded, on the order as it is reloaded. -/
def returnToStore (admin : User) (delivery : Delivery) (order : Order) (draws : Draws) :
    Statements (Option String) := do
  Program.ofExcept (ensureCapability admin .refundWrite)
  Program.ofExcept (ensureCapability admin .settlementWrite)
  Statement.require (canTransitionOrder order.status .returned)
    ⟨409, "Order cannot be returned from " ++ order.status.value⟩
  let collection ← Program.query fun market : Market =>
    lookup CodCollection.deliveryId delivery.id market.tables.codCollections
  Statement.require (order.paymentMethod = .cod → collection = none)
    ⟨409, "A cash collection is recorded for this delivery. " ++
      "Reconcile the cash before resolving the failure."⟩
  let (pending, order) ← restoreOrderStockOnce {} order draws.now
  let order ← Program.ofExcept (transitionOrder order .returned)
  match ← voidSettlementForRefund (pending.write (·.putOrder order)) order voidReasonReturned draws with
  | none => do
    let order ← Statement.found (← Program.query fun market : Market => market.tables.order? order.id)
      ⟨500, "ObjectDeletedError"⟩
    match ← ensureRefundRequest {} order refundReasonReturned draws with
    | none => pure none
    | some (pending, _) => pending.commit
  | some pending =>
    match ← ensureRefundRequest pending order refundReasonReturned draws with
    | none => pure none
    | some (pending, _) => pending.commit

/-- `POST /admin/deliveries/{delivery_id}/resolve-failure`. -/
def resolveFailedDelivery (subject deliveryId : UUID) (resolution : Resolution)
    (notes : Option String) (draws : Draws) : Statements (Option String) := do
  let admin ← statement (requireCapability · subject .riderOperations)
  Statement.require (atMost 500 notes) ⟨422, "DeliveryFailureResolution"⟩
  let found ← Statement.lockedDelivery deliveryId
  let delivery ← Statement.found found ⟨404, "Delivery not found"⟩
  let locked ← Statement.lockedOrder delivery.orderId
  let order ← Statement.found locked ⟨409, "Delivery order is missing"⟩
  Statement.require (delivery.status = .failed) ⟨409, "Only a failed delivery can be resolved"⟩
  match resolution with
  | .reassign => do
    Statement.require (delivery.pickedUpAt = none)
      ⟨409, "A delivery can only be reassigned if custody never left the merchant"⟩
    Statement.require (order.status = .ready) ⟨409, "Only a ready order can be reassigned"⟩
    let delivery ← Program.ofExcept (releasedDelivery delivery draws.now)
    (Pending.write {} (·.putDelivery delivery)).commit
  | .returnToStore => returnToStore admin delivery order draws

/-! ## Captures -/

/-- `_lock_payment_context`: the order of a payment attempt, then the attempt. The flag
tells whether the attempt exists. -/
def lockPaymentContext (identity : Tables → Option PaymentAttempt) (userId : Option UUID) :
    Statements (Option (PaymentAttempt × Order) × Bool) := do
  match ← Program.query fun market : Market => identity market.tables with
  | none => pure (none, false)
  | some known => do
    let locked ← selectForUpdate (fun order => .order order.id) fun db : Tables =>
      (db.order? known.orderId).filter fun order => userId.all fun user => decide (order.userId = user)
    match locked with
    | none => pure (none, true)
    | some order => do
      let attempt ← selectForUpdate (fun attempt => .attempt attempt.id) fun db : Tables =>
        (db.attempt? known.id).filter (·.orderId = order.id)
      pure (attempt.map (·, order), true)

/-- `_apply_paid`, or nothing where a helper rolled the session back. -/
def applyPaid (attempt : PaymentAttempt) (order : Order) (providerPaymentId : Option String)
    (draws : Draws) : Statements (Option Pending) := do
  let unused ← Program.query fun market : Market =>
    decide (paymentIdUnused market.tables attempt providerPaymentId)
  Statement.require (unused = true) ⟨409, "Payment ID has already been used"⟩
  let captured := capturedAttempt attempt providerPaymentId draws.now
  let pending := (Pending.write {} (·.putAttempt captured)).assign .paymentId attempt.id
    attempt.providerPaymentId captured.providerPaymentId
  if captureIsLate order then
    if order.status = .cancelled ∧ order.paymentStatus ∉ [PaymentStatus.refunded, .refundPending] then do
      let order := { order with paymentStatus := .paid }
      let recorded ← ensureRefundRequest (pending.write (·.putOrder order)) order
        refundReasonOrphanedCapture draws
      pure (recorded.map (·.1))
    else pure (some pending)
  else do
    let order := { order with paymentStatus := .paid }
    let pending ← ensureSettlementEntry (pending.write (·.putOrder order)) order draws
    pure (some pending)

/-- `_apply_failed`. -/
def applyFailed (attempt : PaymentAttempt) (order : Order) (draws : Draws) : Pending :=
  Pending.write {} fun db => (GaonOne.applyFailed (Session.start db) attempt order draws).pending

/-- What a request commits; nothing after a rollback. -/
def commitPending : Option Pending → Statements (Option String)
  | none => pure none
  | some pending => pending.commit

/-- `POST /payments/verify`; an invalid signature commits the failure and then raises. -/
def hardenedVerifyPayment (env : Environment) (settings : Settings) (subject : UUID)
    (payload : PaymentVerifyRequest) (draws : Draws) : Statements (Option String) := do
  let user ← statement (getCurrentUser · subject)
  Statement.require (5 ≤ payload.razorpayPaymentId.length ∧ payload.razorpayPaymentId.length ≤ 120 ∧
      32 ≤ payload.razorpaySignature.length ∧ payload.razorpaySignature.length ≤ 256)
    ⟨422, "PaymentVerifyRequest"⟩
  let (context, attemptExists) ← lockPaymentContext (·.attempt? payload.paymentAttemptId) (some user.id)
  Statement.require (attemptExists = true) ⟨404, "Payment attempt not found"⟩
  let (attempt, order) ← Statement.found context ⟨404, "Order not found"⟩
  let providerOrderId ← Statement.found (configured attempt.providerOrderId)
    ⟨409, "Payment attempt has no provider order"⟩
  if alreadyVerified attempt payload then
    if captureIsLate order then pure none
    else do
      let pending ← ensureSettlementEntry {} order draws
      pending.commit
  else do
    let valid ← Program.ofExcept (verifyRazorpaySignature env settings providerOrderId
      payload.razorpayPaymentId payload.razorpaySignature)
    if valid then do
      let outcome ← applyPaid attempt order (some payload.razorpayPaymentId) draws
      commitPending outcome
    else (applyFailed attempt order draws).commit

/-! ## Refund results -/

/-- `apply_provider_refund_result` with `_mark_succeeded` and `_mark_failed`, on the row
as it was locked; nothing where a helper rolled the session back. -/
def applyProviderRefundResult (env : Environment) (refund : PaymentRefund)
    (payload : List (String × Json)) (draws : Draws) : Statements (Option Pending) := do
  let providerRefundId := (Json.get payload "id").text env.print
  let providerStatus := (Json.get payload "status").text env.print
  let reported := reportedRefund refund providerRefundId providerStatus
  let pending := Pending.assign {} .refundId refund.id refund.providerRefundId reported.providerRefundId
  if providerStatus = some "processed" then do
    let pending := pending.write (·.putRefund (succeededRefund reported providerStatus draws.now))
    match ← Statement.lockedOrder refund.orderId with
    | none => pure (some pending)
    | some order =>
      if order.paymentStatus = .refunded then pure (some pending)
      else do
        let order := { order with paymentStatus := .refunded }
        voidSettlementForRefund (pending.write (·.putOrder order)) order voidReasonRefunded draws
  else if providerStatus = some "failed" then
    pure (some (pending.write (·.putRefund
      (failedRefund reported "Razorpay reported the refund as failed" draws.now))))
  else pure (some (pending.write (·.putRefund { reported with status := .processing })))

def lockedRefund (refundId : UUID) : Statements (Option PaymentRefund) :=
  selectForUpdate (fun refund => .refund refund.id) (·.refund? refundId)

/-- The first transaction of `dispatch_refund`. -/
def claimRefund (settings : Settings) (refundId : UUID) (now : Instant) : Statements (Option String) := do
  match ← lockedRefund refundId with
  | none => pure none
  | some _ => (Pending.write {} fun db =>
      (GaonOne.claimRefund settings (Session.start db) refundId now).1.pending).commit

/-- The last transaction of `dispatch_refund`. -/
def recordRefund (env : Environment) (refundId : UUID) (result : ProviderResult) (draws : Draws) :
    Statements (Option String) := do
  match ← lockedRefund refundId, result with
  | none, _ => pure none
  | some refund, .error message =>
    (Pending.write {} (·.putRefund (failedRefund refund message draws.now))).commit
  | some refund, .ok payload => do
    let outcome ← applyProviderRefundResult env refund payload draws
    commitPending outcome

/-! ## Webhooks -/

/-- The refund row that carries the provider's refund id. -/
def refundNamed : Option String → Statements (Option PaymentRefund)
  | none => pure none
  | some text => selectForUpdate (fun refund => .refund refund.id) fun db : Tables =>
      lookup PaymentRefund.providerRefundId (some text) db.paymentRefunds

/-- The refund rows of a payment, the newest first. -/
def refundsPaidBy (text : String) (db : Tables) : List PaymentRefund :=
  (belonging PaymentRefund.providerPaymentId (some text) db.paymentRefunds).insertionSort
    fun left right => right.requestedAt ≤ left.requestedAt

/-- The newest refund row of a payment; all of them are locked. -/
def newestRefundPaidBy : Option String → Statements (Option PaymentRefund)
  | none => pure none
  | some text => do
    let seen ← Program.query fun market : Market => refundsPaidBy text market.tables
    Program.lockRows (seen.map fun refund => (Row.refund refund.id).forUpdate)
    Program.query fun market : Market =>
      seen.findSome? fun refund => (refundsPaidBy text market.tables).find? (·.id = refund.id)

/-- The refund row a provider event is matched to: by the provider's refund id, else by
the payment. -/
def matchedRefund (providerRefundId refundPaymentId : Option String) :
    Statements (Option PaymentRefund) := do
  match ← refundNamed providerRefundId with
  | some refund => pure (some refund)
  | none => newestRefundPaidBy refundPaymentId

/-- `_process_refund_event`. -/
def processRefundEvent (env : Environment) (payload : List (String × Json)) (draws : Draws) :
    Statements (Option Pending) := do
  let entity ← Program.ofExcept (eventEntity payload "refund")
  match ← matchedRefund ((Json.get entity "id").text env.print)
    ((Json.get entity "payment_id").text env.print) with
  | none => pure (some {})
  | some refund => applyProviderRefundResult env refund entity draws

/-- A payment event, matched by provider order. -/
def processPaymentEvent (env : Environment) (event : String) (payload : List (String × Json))
    (draws : Draws) : Statements (Option Pending) := do
  let payment ← Program.ofExcept (eventEntity payload "payment")
  let order ← Program.ofExcept (eventEntity payload "order")
  let reference := if (Json.get payment "order_id").truthy then Json.get payment "order_id"
    else Json.get order "id"
  match reference.text env.print with
  | none => pure (some {})
  | some providerOrderId => do
    let (context, _) ← lockPaymentContext (fun db =>
      lookup PaymentAttempt.providerOrderId (some providerOrderId) db.paymentAttempts) none
    match context with
    | none => pure (some {})
    | some (attempt, order) =>
      if event ∈ capturedEvents then
        applyPaid attempt order ((Json.get payment "id").text env.print) draws
      else if event = "payment.failed" then pure (some (applyFailed attempt order draws))
      else pure (some {})

/-- `_process_event`. -/
def processEvent (env : Environment) (payload : List (String × Json)) (draws : Draws) :
    Statements (Option Pending) :=
  if isRefundEvent (eventName env payload) then processRefundEvent env payload draws
  else processPaymentEvent env (eventName env payload) payload draws

/-- `POST /payments/webhook`, which answers with the key it acknowledges. The event row is
flushed before the event is processed. -/
def hardenedRazorpayWebhook (env : Environment) (settings : Settings) (request : WebhookRequest)
    (draws : Draws) : Statements (Option String) := do
  let payload ← Program.ofExcept (readWebhook env settings request)
  let key := webhookEventKey env request
  let existing ← Program.query fun market : Market =>
    lookup PaymentWebhookEvent.eventKey key market.tables.paymentWebhookEvents
  if existing.isSome then pure (some key)
  else do
    let event := webhookEvent env request payload draws
    let recorded : Pending := { values := [(.eventKey key, event.id)] }
    Program.lockRows recorded.locks
    let violation ← Program.query fun market : Market => recorded.violation market.tables
    if violation.isSome then pure (some key)
    else
      match ← processEvent env payload draws with
      | none => pure (some key)
      | some pending => do
        let event := { event with processedAt := some draws.now }
        let _ ← ((pending.write (·.addWebhookEvent event)).applying key).commit
        pure (some key)

end Flushed

/-! ## The service -/

inductive PaymentRequest where
  | cancelMyOrder (subject orderId : UUID) (draws : Draws)
  | updateOrderStatus (subject orderId : UUID) (status : OrderStatus) (draws : Draws)
  | resolveFailedDelivery (subject deliveryId : UUID) (resolution : Resolution)
      (notes : Option String) (draws : Draws)
  | verifyPayment (settings : Settings) (subject : UUID) (payload : PaymentVerifyRequest)
      (draws : Draws)
  | webhook (settings : Settings) (request : WebhookRequest) (draws : Draws)
  | claimRefund (settings : Settings) (refundId : UUID) (now : Instant)
  | recordRefund (refundId : UUID) (result : ProviderResult) (draws : Draws)

def PaymentRequest.program (env : Environment) : PaymentRequest → Statements (Option String)
  | cancelMyOrder subject orderId draws => Flushed.cancelMyOrderSafely subject orderId draws
  | updateOrderStatus subject orderId status draws =>
    Flushed.updateOrderStatusSafely subject orderId status draws
  | resolveFailedDelivery subject deliveryId resolution notes draws =>
    Flushed.resolveFailedDelivery subject deliveryId resolution notes draws
  | verifyPayment settings subject payload draws =>
    Flushed.hardenedVerifyPayment env settings subject payload draws
  | webhook settings request draws => Flushed.hardenedRazorpayWebhook env settings request draws
  | claimRefund settings refundId now => Flushed.claimRefund settings refundId now
  | recordRefund refundId result draws => Flushed.recordRefund env refundId result draws

/-- The requests that move money, under the database's constraints. -/
def paymentService (env : Environment) :
    Service Market RowLock Note HTTPException (Option String) PaymentRequest where
  program := PaymentRequest.program env
  conflicts := RowLock.conflicts
  symmetric := RowLock.conflicts_symm
  valid market := market.tables.Constraints
  decideConflicts := inferInstance
  decideValid := fun _ => inferInstanceAs (Decidable (Tables.Constraints _))

end GaonOne
