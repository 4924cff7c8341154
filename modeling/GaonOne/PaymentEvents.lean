import GaonOne.Refunds

/-! The payment side of an order: intents, client verification, and the
provider's signed events for payments and refunds. -/
namespace GaonOne
open Relational UnitOfWork

/-! ## Intents -/

/-- A new attempt for the provider order that was created. -/
def paymentAttempt (order : Order) (providerOrderId : Option String) (draws : Draws) :
    PaymentAttempt where
  id := draws.attemptId
  orderId := order.id
  providerOrderId := providerOrderId
  providerPaymentId := none
  status := .attempted
  amount := order.total
  currency := "INR"
  createdAt := draws.now
  updatedAt := draws.now

/-- A changed attempt row carries the time of the change; an unchanged one is not
written. -/
def savedAttempt (old new : PaymentAttempt) (now : Instant) : PaymentAttempt :=
  if new = old then old else { new with updatedAt := now }

/-- Writing an attempt changes the time at most. -/
theorem savedAttempt_eq (old new : PaymentAttempt) (now : Instant) :
    ∃ time, savedAttempt old new now = { new with updatedAt := time } := by
  unfold savedAttempt
  split
  · next same => exact ⟨old.updatedAt, by rw [same]⟩
  · exact ⟨now, rfl⟩

/-- The live provider order of a commercial order, the newest of several. -/
def liveAttempt (db : Tables) (orderId : UUID) : Option PaymentAttempt :=
  latest PaymentAttempt.createdAt (db.paymentAttempts.filter fun attempt =>
    attempt.orderId = orderId ∧ attempt.status ∈ [AttemptStatus.created, .attempted] ∧
      attempt.providerOrderId.isSome)

/-- `POST /payments/orders/{order_id}/intent`, with what the provider answers if it
is asked. -/
def createPaymentIntent (env : Environment) (settings : Settings) (db : DbSession)
    (subject orderId : UUID) (response : HttpResponse) (draws : Draws) : Handler DbSession := do
  let user ← getCurrentUser db.flushed subject
  let order ← found ((db.flushed.order? orderId).filter (·.userId = user.id))
    ⟨404, "Order not found"⟩
  require (order.paymentMethod = .upi)
    ⟨409, "This order is not configured for online payment"⟩
  require (order.paymentStatus ≠ .paid) ⟨409, "Order is already paid"⟩
  require (order.status ≠ .cancelled) ⟨409, "Cancelled orders cannot be paid"⟩
  match (liveAttempt db.flushed order.id).filter fun attempt =>
      (configured attempt.providerOrderId).isSome with
  | some existing => do
    require ((configured settings.razorpayKeyId).isSome)
      ⟨503, "Payment provider is not configured"⟩
    pure (db.write (·.putAttempt
      (savedAttempt existing { existing with status := .attempted } draws.now)))
  | none =>
    match createRazorpayOrder env settings response with
    | .error message => .error ⟨if razorpayEnabled settings then 502 else 503, message⟩
    | .ok data =>
      pure (db.write (·.addAttempt
        (paymentAttempt order ((Json.get data "id").text env.print) draws)))

/-! ## Applying a payment outcome -/

/-- Lock the order of a payment attempt, then the attempt. The flag tells whether
the attempt exists. -/
def lockPaymentContext (db : Tables) (identity : Option PaymentAttempt) (userId : Option UUID) :
    Option (PaymentAttempt × Order) × Bool :=
  match identity with
  | none => (none, false)
  | some attempt =>
    ((((db.order? attempt.orderId).filter fun order =>
        userId.all fun user => decide (order.userId = user)).map fun order => (attempt, order)), true)

/-- Whether an order is past the point where a capture may make it paid. -/
def captureIsLate (order : Order) : Prop :=
  order.status = .cancelled ∨ order.paymentStatus ∈ [PaymentStatus.refunded, .refundPending]

instance (order : Order) : Decidable (captureIsLate order) := inferInstanceAs (Decidable (_ ∨ _))

/-- A capture is a financial fact, but it must not reopen a cancelled order: a late
one records the debt instead. -/
def captureOrder (db : DbSession) (order : Order) (draws : Draws) : Handler DbSession :=
  if captureIsLate order then
    if order.status = .cancelled ∧ order.paymentStatus ∉ [PaymentStatus.refunded, .refundPending] then
      let order := { order with paymentStatus := .paid }
      pure (ensureRefundRequest (db.write (·.putOrder order)) order refundReasonOrphanedCapture draws).1
    else pure db
  else do
    let order := { order with paymentStatus := .paid }
    let (db, _) ← ensureSettlementEntry (db.write (·.putOrder order)) order draws
    pure db

/-- The attempt as a capture leaves it. -/
def capturedAttempt (attempt : PaymentAttempt) (providerPaymentId : Option String)
    (now : Instant) : PaymentAttempt :=
  savedAttempt attempt
    { attempt with
      providerPaymentId := (configured providerPaymentId).or attempt.providerPaymentId
      status := .paid } now

theorem capturedAttempt_eq (attempt : PaymentAttempt) (providerPaymentId : Option String)
    (now : Instant) : ∃ time, capturedAttempt attempt providerPaymentId now =
      { attempt with
        providerPaymentId := (configured providerPaymentId).or attempt.providerPaymentId
        status := .paid, updatedAt := time } :=
  savedAttempt_eq attempt _ now

/-- A payment id belongs to one attempt only. -/
def paymentIdUnused (db : Tables) (attempt : PaymentAttempt) (providerPaymentId : Option String) :
    Prop :=
  ∀ paymentId ∈ configured providerPaymentId, ∀ other ∈ db.paymentAttempts,
    other.providerPaymentId = some paymentId → other.id = attempt.id

instance (db : Tables) (attempt : PaymentAttempt) (providerPaymentId : Option String) :
    Decidable (paymentIdUnused db attempt providerPaymentId) :=
  inferInstanceAs (Decidable (∀ _ ∈ configured providerPaymentId, _))

/-- `_apply_paid`. -/
def applyPaid (db : DbSession) (attempt : PaymentAttempt) (order : Order)
    (providerPaymentId : Option String) (draws : Draws) : Handler DbSession := do
  require (paymentIdUnused db.flushed attempt providerPaymentId)
    ⟨409, "Payment ID has already been used"⟩
  captureOrder (db.write (·.putAttempt (capturedAttempt attempt providerPaymentId draws.now)))
    order draws

/-- `_apply_failed`: a late failure never overwrites a cancelled, paid or refunded
order. -/
def applyFailed (db : DbSession) (attempt : PaymentAttempt) (order : Order) (draws : Draws) :
    DbSession :=
  if order.status = .cancelled ∨
      order.paymentStatus ∈ [PaymentStatus.paid, .refunded, .refundPending] then db
  else
    (db.write (·.putAttempt (savedAttempt attempt { attempt with status := .failed } draws.now))).write
      (·.putOrder { order with paymentStatus := .failed })

/-! ## Client verification -/

/-- `PaymentVerifyRequest`. -/
structure PaymentVerifyRequest where
  paymentAttemptId : UUID
  razorpayPaymentId : String
  razorpaySignature : String

/-- What verification reads before it decides: the attempt, its order and the
provider order that was signed. -/
def readVerification (db : Tables) (subject : UUID) (payload : PaymentVerifyRequest) :
    Handler (PaymentAttempt × Order × String) := do
  let user ← getCurrentUser db subject
  require (5 ≤ payload.razorpayPaymentId.length ∧ payload.razorpayPaymentId.length ≤ 120 ∧
      32 ≤ payload.razorpaySignature.length ∧ payload.razorpaySignature.length ≤ 256)
    ⟨422, "PaymentVerifyRequest"⟩
  let (context, attemptExists) := lockPaymentContext db (db.attempt? payload.paymentAttemptId)
    (some user.id)
  require attemptExists ⟨404, "Payment attempt not found"⟩
  let (attempt, order) ← found context ⟨404, "Order not found"⟩
  let providerOrderId ← found (configured attempt.providerOrderId)
    ⟨409, "Payment attempt has no provider order"⟩
  pure (attempt, order, providerOrderId)

/-- The verification repeats one that was applied. -/
def alreadyVerified (attempt : PaymentAttempt) (payload : PaymentVerifyRequest) : Prop :=
  attempt.status = .paid ∧ attempt.providerPaymentId = some payload.razorpayPaymentId

instance (attempt : PaymentAttempt) (payload : PaymentVerifyRequest) :
    Decidable (alreadyVerified attempt payload) := inferInstanceAs (Decidable (_ ∧ _))

/-- `POST /payments/verify`. An invalid signature commits the failure before the
error is raised. -/
def hardenedVerifyPayment (env : Environment) (settings : Settings) (db : DbSession)
    (subject : UUID) (payload : PaymentVerifyRequest) (draws : Draws) :
    Handler (DbSession × Option HTTPException) := do
  let (attempt, order, providerOrderId) ← readVerification db.flushed subject payload
  if alreadyVerified attempt payload then
    if captureIsLate order then pure (db, none)
    else do
      let (db, _) ← ensureSettlementEntry db order draws
      pure (db, none)
  else do
    let valid ← verifyRazorpaySignature env settings providerOrderId payload.razorpayPaymentId
      payload.razorpaySignature
    if valid then do
      let db ← applyPaid db attempt order (some payload.razorpayPaymentId) draws
      pure (db, none)
    else pure (applyFailed db attempt order draws, some ⟨400, "Invalid payment signature"⟩)

/-! ## Provider events -/

/-- `((payload.get("payload") or {}).get(name) or {}).get("entity") or {}`. -/
def eventEntity (payload : List (String × Json)) (name : String) :
    Handler (List (String × Json)) := do
  let outer ← found (Json.get payload "payload").orEmpty ⟨500, "AttributeError"⟩
  let named ← found (Json.get outer name).orEmpty ⟨500, "AttributeError"⟩
  found (Json.get named "entity").orEmpty ⟨500, "AttributeError"⟩

/-- The refund row an event is matched to: by the provider's refund id, else the
newest row of the payment id. -/
def matchedRefund (db : Tables) (providerRefundId refundPaymentId : Option String) :
    Option PaymentRefund :=
  (providerRefundId.bind fun id => lookup PaymentRefund.providerRefundId (some id) db.paymentRefunds).or
    (refundPaymentId.bind fun id =>
      latest PaymentRefund.requestedAt (belonging PaymentRefund.providerPaymentId (some id)
        db.paymentRefunds))

/-- The refund a refund event is about, and the provider's refund object. -/
def readRefundEvent (env : Environment) (db : Tables) (payload : List (String × Json)) :
    Handler (Option (PaymentRefund × List (String × Json))) := do
  let entity ← eventEntity payload "refund"
  pure ((matchedRefund db ((Json.get entity "id").text env.print)
    ((Json.get entity "payment_id").text env.print)).map (·, entity))

/-- Reconcile an asynchronous refund outcome reported by the provider. -/
def processRefundEvent (env : Environment) (db : DbSession) (payload : List (String × Json))
    (draws : Draws) : Handler (DbSession × Bool) := do
  match ← readRefundEvent env db.flushed payload with
  | none => pure (db, false)
  | some (refund, entity) => pure (applyProviderRefundResult env db refund entity draws, true)

/-- The attempt and order a payment event is about, and the payment id it names. -/
def readPaymentEvent (env : Environment) (db : Tables) (payload : List (String × Json)) :
    Handler (Option (PaymentAttempt × Order × Option String)) := do
  let payment ← eventEntity payload "payment"
  let order ← eventEntity payload "order"
  let reference := if (Json.get payment "order_id").truthy then Json.get payment "order_id"
    else Json.get order "id"
  pure ((reference.text env.print).bind fun providerOrderId =>
    (lockPaymentContext db
      (lookup PaymentAttempt.providerOrderId (some providerOrderId) db.paymentAttempts) none).1.map
      fun (attempt, order) => (attempt, order, (Json.get payment "id").text env.print))

def capturedEvents : List String := ["order.paid", "payment.captured"]

/-- A payment event, matched by provider order. -/
def processPaymentEvent (env : Environment) (db : DbSession) (event : String)
    (payload : List (String × Json)) (draws : Draws) : Handler DbSession := do
  match ← readPaymentEvent env db.flushed payload with
  | none => pure db
  | some (attempt, order, paymentId) =>
    if event ∈ capturedEvents then applyPaid db attempt order paymentId draws
    else if event = "payment.failed" then pure (applyFailed db attempt order draws)
    else pure db

/-- `str(payload.get("event") or "")`. -/
def eventName (env : Environment) (payload : List (String × Json)) : String :=
  ((Json.get payload "event").text env.print).getD ""

/-- `event.startswith("refund.")`. -/
def isRefundEvent (event : String) : Bool := "refund.".toList.isPrefixOf event.toList

def processEvent (env : Environment) (db : DbSession) (payload : List (String × Json))
    (draws : Draws) : Handler DbSession :=
  if isRefundEvent (eventName env payload) then do
    let (db, _) ← processRefundEvent env db payload draws
    pure db
  else processPaymentEvent env db (eventName env payload) payload draws

/-- One delivery of a webhook. -/
structure WebhookRequest where
  rawBody : String
  signature : Option String
  eventId : Option String

/-- The payload of a delivery that is signed by the provider. -/
def readWebhook (env : Environment) (settings : Settings) (request : WebhookRequest) :
    Handler (List (String × Json)) := do
  let signature ← found (configured request.signature) ⟨400, "Missing Razorpay signature"⟩
  let valid ← verifyRazorpayWebhookSignature env settings request.rawBody signature
  require valid ⟨400, "Invalid Razorpay webhook signature"⟩
  found ((env.loads request.rawBody).bind Json.fields?) ⟨400, "Invalid Razorpay webhook payload"⟩

/-- The provider's event id, or the digest of the body. -/
def webhookEventKey (env : Environment) (request : WebhookRequest) : String :=
  (configured request.eventId).getD (env.sha256 request.rawBody)

/-- The event row a delivery records before it is processed. -/
def webhookEvent (env : Environment) (request : WebhookRequest)
    (payload : List (String × Json)) (draws : Draws) : PaymentWebhookEvent where
  id := draws.webhookEventId
  eventKey := webhookEventKey env request
  eventType := ((Json.get payload "event").text env.print).getD "unknown"
  processedAt := none

/-- `POST /payments/webhook`: an event key is processed at most once. -/
def hardenedRazorpayWebhook (env : Environment) (settings : Settings) (db : DbSession)
    (request : WebhookRequest) (draws : Draws) : Handler DbSession := do
  let payload ← readWebhook env settings request
  match lookup PaymentWebhookEvent.eventKey (webhookEventKey env request)
      db.flushed.paymentWebhookEvents with
  | some _ => pure db
  | none =>
    let event := webhookEvent env request payload draws
    match flushOrRollback (db.write (·.addWebhookEvent event)) with
    | (db, false) => pure db
    | (db, true) => do
      let db ← processEvent env db payload draws
      pure (db.write (·.putWebhookEvent { event with processedAt := some draws.now }))

/-! ## What a request is about to apply -/

/-- The payload of a delivery that will be processed: signed, and of a new key. -/
def newEvent (env : Environment) (settings : Settings) (db : Tables) (request : WebhookRequest) :
    Option (List (String × Json)) :=
  match readWebhook env settings request with
  | .ok payload =>
    if lookup PaymentWebhookEvent.eventKey (webhookEventKey env request)
        db.paymentWebhookEvents = none then some payload else none
  | .error _ => none

/-- The refund and the provider's object a delivery will fold in. -/
def refundSignal (env : Environment) (settings : Settings) (db : Tables)
    (request : WebhookRequest) : Option (PaymentRefund × List (String × Json)) :=
  (newEvent env settings db request).bind fun payload =>
    if isRefundEvent (eventName env payload) then (readRefundEvent env db payload).toOption.join
    else none

/-- The attempt, the order and the payment id a delivery will apply as captured. -/
def captureSignal (env : Environment) (settings : Settings) (db : Tables)
    (request : WebhookRequest) : Option (PaymentAttempt × Order × Option String) :=
  (newEvent env settings db request).bind fun payload =>
    if !isRefundEvent (eventName env payload) && decide (eventName env payload ∈ capturedEvents) then
      (readPaymentEvent env db payload).toOption.join.filter fun (attempt, _, paymentId) =>
        paymentIdUnused db attempt paymentId
    else none

/-- The attempt and the order a client verification will apply as captured. -/
def verifiedCapture (env : Environment) (settings : Settings) (db : Tables) (subject : UUID)
    (payload : PaymentVerifyRequest) : Option (PaymentAttempt × Order) :=
  match readVerification db subject payload with
  | .ok (attempt, order, providerOrderId) =>
    if alreadyVerified attempt payload then none
    else
      match verifyRazorpaySignature env settings providerOrderId payload.razorpayPaymentId
          payload.razorpaySignature with
      | .ok true =>
        if paymentIdUnused db attempt (some payload.razorpayPaymentId) then some (attempt, order)
        else none
      | _ => none
  | .error _ => none

end GaonOne
