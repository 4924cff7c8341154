import GaonOne.Deliveries
import GaonOne.Refunds
import GaonOne.Stock

/-! What happens to a delivery once it is under way: failure, recovery and
resolution, proof of delivery, cash collection, and completion. -/
namespace GaonOne
open Relational UnitOfWork

def otpTtl : Nat := 15 * 60000000
def otpResendCooldown : Nat := 60 * 1000000
def otpMaxChallenges : Nat := 5
def otpMaxVerificationAttempts : Nat := 5

def lockedDeliveryOrder (db : Tables) (deliveryId : UUID) : Handler (Delivery × Order) := do
  let delivery ← found (db.delivery? deliveryId) ⟨404, "Delivery not found"⟩
  let order ← found (db.order? delivery.orderId) ⟨409, "Delivery order is missing"⟩
  pure (delivery, order)

@[simp]
theorem lockedDeliveryOrder_bind_ok (db : Tables) (deliveryId : UUID)
    (next : Delivery × Order → Handler β) (result : β) :
    (lockedDeliveryOrder db deliveryId >>= next) = .ok result ↔
      ∃ delivery, db.delivery? deliveryId = some delivery ∧
        ∃ order, db.order? delivery.orderId = some order ∧ next (delivery, order) = .ok result := by
  simp only [lockedDeliveryOrder, bind_assoc, found_bind_ok, pure_bind]

/-! ## Failure -/

/-- `DeliveryFailureRequest`. -/
structure DeliveryFailureRequest where
  reason : String
  notes : Option String
  evidenceUrl : Option String

/-- `DeliveryFailureReason`. -/
def deliveryFailureReasons : List String :=
  ["customer_unavailable", "address_not_found", "vehicle_issue", "merchant_issue",
    "unsafe_condition", "other"]

def atMost (limit : Nat) (text : Option String) : Prop := ∀ held ∈ text, held.length ≤ limit

instance (limit : Nat) (text : Option String) : Decidable (atMost limit text) :=
  inferInstanceAs (Decidable (∀ _ ∈ _, _))

/-- `POST /delivery/{delivery_id}/fail`. -/
def failDelivery (db : DbSession) (subject deliveryId : UUID) (payload : DeliveryFailureRequest)
    (draws : Draws) : Handler DbSession := do
  let user ← getCurrentUser db.flushed subject
  requireRoles user [.delivery, .admin]
  require (payload.reason ∈ deliveryFailureReasons ∧ atMost 500 payload.notes ∧
      atMost 500 payload.evidenceUrl) ⟨422, "DeliveryFailureRequest"⟩
  let (delivery, _) ← lockedDeliveryOrder db.flushed deliveryId
  requireAssignedRider delivery user .riderOperations
  require (delivery.status ∈ [DeliveryStatus.assigned, .pickedUp])
    ⟨409, "Only an active delivery can be failed"⟩
  let delivery ← transitionDelivery delivery .failed
  flushRows (db.write (·.putDelivery { delivery with
    failedAt := some draws.now, failureReason := some payload.reason, failureNotes := payload.notes
    failureEvidenceUrl := payload.evidenceUrl, updatedAt := draws.now }))

/-- `POST /admin/deliveries/{delivery_id}/recover`. -/
def recoverFailedDelivery (db : DbSession) (subject deliveryId : UUID) (draws : Draws) :
    Handler DbSession := do
  let _ ← requireCapability db.flushed subject .riderOperations
  let (delivery, order) ← lockedDeliveryOrder db.flushed deliveryId
  require (delivery.status = .failed) ⟨409, "Only a failed delivery can be recovered"⟩
  require (order.status = .ready ∧ delivery.pickedUpAt = none)
    ⟨409, "A delivery can only be reassigned after failure if custody never left the merchant"⟩
  let delivery ← releasedDelivery delivery draws.now
  flushRows (db.write (·.putDelivery delivery))

inductive Resolution where
  | reassign | returnToStore
  deriving DecidableEq, Repr

/-- The goods come back: stock is restored, the merchant's entitlement ends and
captured money becomes a refund. -/
def returnToStore (db : DbSession) (admin : User) (delivery : Delivery) (order : Order)
    (draws : Draws) : Handler (DbSession × Option PaymentRefund) := do
  ensureCapability admin .refundWrite
  ensureCapability admin .settlementWrite
  require (canTransitionOrder order.status .returned)
    ⟨409, "Order cannot be returned from " ++ order.status.value⟩
  require (order.paymentMethod = .cod →
      lookup CodCollection.deliveryId delivery.id db.flushed.codCollections = none)
    ⟨409, "A cash collection is recorded for this delivery. " ++
      "Reconcile the cash before resolving the failure."⟩
  let (db, order) ← restoreOrderStockOnce db order draws.now
  let order ← transitionOrder order .returned
  let db ← flushRows (db.write (·.putOrder order))
  let db := voidSettlementForRefund db order voidReasonReturned draws
  let order := tracked Order.id order db.pending.orders
  let (db, _, refund) := ensureRefundRequest db order refundReasonReturned draws
  pure (db, refund)

/-- `POST /admin/deliveries/{delivery_id}/resolve-failure`. -/
def resolveFailedDelivery (db : DbSession) (subject deliveryId : UUID) (resolution : Resolution)
    (notes : Option String) (draws : Draws) : Handler (DbSession × Option PaymentRefund) := do
  let admin ← requireCapability db.flushed subject .riderOperations
  require (atMost 500 notes) ⟨422, "DeliveryFailureResolution"⟩
  let (delivery, order) ← lockedDeliveryOrder db.flushed deliveryId
  require (delivery.status = .failed) ⟨409, "Only a failed delivery can be resolved"⟩
  match resolution with
  | .reassign => do
    require (delivery.pickedUpAt = none)
      ⟨409, "A delivery can only be reassigned if custody never left the merchant"⟩
    require (order.status = .ready) ⟨409, "Only a ready order can be reassigned"⟩
    let delivery ← releasedDelivery delivery draws.now
    let db ← flushRows (db.write (·.putDelivery delivery))
    pure (db, none)
  | .returnToStore => returnToStore db admin delivery order draws

/-! ## Proof of delivery -/

def requireUnlockedProof (proof : DeliveryProof) : Handler Unit :=
  require (proof.verificationLockedAt = none ∧
      proof.verificationAttemptCount < otpMaxVerificationAttempts)
    ⟨429, "Delivery code verification is locked. Contact support."⟩

/-- What a delivery already holding a proof must satisfy before a new code. -/
def requireChallengeable (proof : DeliveryProof) (now : Instant) : Handler Unit := do
  require (proof.verifiedAt = none)
    ⟨409, "Delivery proof is already verified. Continue completion."⟩
  requireUnlockedProof proof
  require (proof.challengeCount < otpMaxChallenges)
    ⟨429, "Delivery code request limit reached. Contact support."⟩
  require (proof.lastChallengeAt.getD proof.updatedAt + otpResendCooldown ≤ now)
    ⟨429, "Wait before requesting another delivery code."⟩

/-- The first challenge of a delivery. -/
def newProof (deliveryId : UUID) (otpHash : String) (draws : Draws) : DeliveryProof where
  id := draws.proofId
  deliveryId := deliveryId
  otpHash := otpHash
  otpExpiresAt := draws.now + otpTtl
  lastChallengeAt := some draws.now
  challengeCount := 1
  verificationAttemptCount := 0
  verificationLockedAt := none
  verifiedAt := none
  evidenceUrl := none
  recipientName := none
  notes := none
  updatedAt := draws.now

/-- `POST /delivery/{delivery_id}/proof/challenge`, with the code that is drawn and
whether the rate limiter lets the request through. -/
def issueDeliveryProofChallenge (env : Environment) (db : DbSession) (subject deliveryId : UUID)
    (otp : String) (admitted : Bool) (draws : Draws) : Handler DbSession := do
  let user ← getCurrentUser db.flushed subject
  requireRoles user [.delivery, .admin]
  let (delivery, order) ← lockedDeliveryOrder db.flushed deliveryId
  requireAssignedRider delivery user .deliveryFinancialWrite
  require (delivery.status = .pickedUp ∧ order.status = .outForDelivery)
    ⟨409, "Proof challenge is available only after pickup"⟩
  match lookup DeliveryProof.deliveryId delivery.id db.flushed.deliveryProofs with
  | none => do
    require admitted ⟨429, "Too many delivery code requests. Try again later."⟩
    pure (db.write (·.addProof (newProof delivery.id (env.sha256 otp) draws)))
  | some proof => do
    requireChallengeable proof draws.now
    require admitted ⟨429, "Too many delivery code requests. Try again later."⟩
    pure (db.write (·.putProof { proof with
      otpHash := env.sha256 otp, otpExpiresAt := draws.now + otpTtl
      lastChallengeAt := some draws.now, challengeCount := proof.challengeCount + 1
      updatedAt := draws.now }))

/-- `DeliveryProofSubmit`. -/
structure DeliveryProofSubmit where
  otp : String
  evidenceUrl : Option String
  recipientName : Option String
  notes : Option String

/-- The failed-guess budget after one more wrong code. -/
def wrongCode (proof : DeliveryProof) (now : Instant) : DeliveryProof :=
  let attempts := proof.verificationAttemptCount + 1
  { proof with
    verificationAttemptCount := attempts
    verificationLockedAt :=
      if otpMaxVerificationAttempts ≤ attempts then some now else proof.verificationLockedAt
    updatedAt := now }

/-- `POST /delivery/{delivery_id}/proof`. A wrong code commits the guess before the
error is raised; a proof already verified is replayed. -/
def verifyDeliveryProof (env : Environment) (db : DbSession) (subject deliveryId : UUID)
    (payload : DeliveryProofSubmit) (admitted : Bool) (draws : Draws) :
    Handler (DbSession × Option HTTPException) := do
  let user ← getCurrentUser db.flushed subject
  requireRoles user [.delivery, .admin]
  require (payload.otp.length = 6 ∧ payload.otp.toList.all Text.isDecimal ∧
      atMost 500 payload.evidenceUrl ∧ atMost 160 payload.recipientName ∧ atMost 500 payload.notes)
    ⟨422, "DeliveryProofSubmit"⟩
  let (delivery, order) ← lockedDeliveryOrder db.flushed deliveryId
  requireAssignedRider delivery user .deliveryFinancialWrite
  require (delivery.status = .pickedUp ∧ order.status = .outForDelivery)
    ⟨409, "Delivery proof can only be verified after pickup"⟩
  let proof ← found (lookup DeliveryProof.deliveryId delivery.id db.flushed.deliveryProofs)
    ⟨409, "Generate a delivery verification challenge first"⟩
  if proof.verifiedAt.isSome then pure (db, none)
  else do
    requireUnlockedProof proof
    require admitted ⟨429, "Too many delivery code requests. Try again later."⟩
    require (draws.now < proof.otpExpiresAt) ⟨409, "Delivery verification code expired"⟩
    if proof.otpHash = env.sha256 payload.otp then
      pure (db.write (·.putProof { proof with
        verifiedAt := some draws.now, evidenceUrl := payload.evidenceUrl
        recipientName := payload.recipientName, notes := payload.notes
        updatedAt := draws.now }), none)
    else if otpMaxVerificationAttempts ≤ proof.verificationAttemptCount + 1 then
      pure (db.write (·.putProof (wrongCode proof draws.now)),
        some ⟨429, "Delivery code verification is locked. Contact support."⟩)
    else
      pure (db.write (·.putProof (wrongCode proof draws.now)),
        some ⟨422, "Invalid delivery verification code"⟩)

/-! ## Cash and completion -/

/-- The cash a rider hands in for an order. -/
def codCollection (delivery : Delivery) (order : Order) (user : User) (draws : Draws) :
    CodCollection where
  id := draws.collectionId
  deliveryId := delivery.id
  orderId := order.id
  amount := order.total
  collectedByUserId := some user.id
  collectedAt := draws.now

/-- `POST /delivery/{delivery_id}/cod-collection`; the amount comes in paise. -/
def recordCodCollection (db : DbSession) (subject deliveryId : UUID) (amount : Paise)
    (draws : Draws) : Handler DbSession := do
  let user ← getCurrentUser db.flushed subject
  requireRoles user [.delivery, .admin]
  require (0 < amount ∧ fitsNumeric amount) ⟨422, "CodCollectionRequest"⟩
  let (delivery, order) ← lockedDeliveryOrder db.flushed deliveryId
  requireAssignedRider delivery user .deliveryFinancialWrite
  require (order.paymentMethod = .cod) ⟨409, "Cash collection is only valid for COD orders"⟩
  require (delivery.status = .pickedUp ∧ order.status = .outForDelivery)
    ⟨409, "COD collection can only be recorded after pickup"⟩
  require (amount = order.total) ⟨422, "Collected COD amount must match the order total"⟩
  match lookup CodCollection.deliveryId delivery.id db.flushed.codCollections with
  | some existing => do
    require (existing.amount = order.total ∧ existing.orderId = order.id)
      ⟨409, "A different COD collection is already recorded"⟩
    pure db
  | none => flushRows (db.write (·.addCollection (codCollection delivery order user draws)))

/-- The cash of a COD order must be on record, for this order and in full. -/
def requireCollection (db : Tables) (delivery : Delivery) (order : Order) : Handler Unit :=
  if order.paymentMethod = .cod then do
    let collection ← found (lookup CodCollection.deliveryId delivery.id db.codCollections)
      ⟨409, "Recorded COD collection is required before completion"⟩
    require (collection.orderId = order.id ∧ collection.amount = order.total)
      ⟨409, "Recorded COD collection does not match this order"⟩
  else pure ()

/-- `POST /delivery/{delivery_id}/complete`. -/
def completeDeliveryWithFinancials (db : DbSession) (subject deliveryId : UUID) (draws : Draws) :
    Handler DbSession := do
  let user ← getCurrentUser db.flushed subject
  requireRoles user [.delivery, .admin]
  let (delivery, order) ← lockedDeliveryOrder db.flushed deliveryId
  requireAssignedRider delivery user .deliveryFinancialWrite
  require (canTransitionDelivery delivery.status .delivered)
    ⟨409, "Delivery cannot be completed from " ++ delivery.status.value⟩
  require (canTransitionOrder order.status .delivered)
    ⟨409, "Order cannot be delivered from " ++ order.status.value⟩
  require (paymentAllowsFulfillment order)
    ⟨409, "Online payment must be confirmed before delivery completion"⟩
  let _ ← found ((lookup DeliveryProof.deliveryId delivery.id db.flushed.deliveryProofs).filter
      (·.verifiedAt.isSome)) ⟨409, "Verified proof of delivery is required"⟩
  requireCollection db.flushed delivery order
  let delivery ← transitionDelivery delivery .delivered
  let order ← transitionOrder order .delivered
  let order := { order with
    paymentStatus := if order.paymentMethod = .cod then .paid else order.paymentStatus }
  let db := (db.write (·.putDelivery
    { delivery with deliveredAt := some draws.now, updatedAt := draws.now })).write (·.putOrder order)
  if order.paymentStatus = .paid then do
    let (db, _) ← ensureSettlementEntry db order draws
    pure db
  else pure db

end GaonOne
