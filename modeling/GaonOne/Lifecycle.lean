import GaonOne.DeliveryOperations
import GaonOne.OrderFile
import GaonOne.PaymentEvents

/-! What one order's file can go through. Each constructor of `FileStep` is one
thing that happens to an order, with the guards the code is known to have checked
and the rows it leaves; every invariant of the system is derived from this
relation alone. -/
namespace GaonOne
open Relational

/-- What happened to an order, with what tells its cases apart. -/
inductive FileEvent where
  | unchanged | placed | advanced | cancelled
  | assigned
  /-- The status screen set `assigned` without naming a rider. -/
  | assignedUnclaimed
  | released | pickedUp | failed | returned
  | proofChanged | collected | completed
  | intended
  | captured (paymentId : Option String)
  | settlementChecked
  | paymentFailed
  | refundClaimed | refundGivenUp
  /-- The provider call raised. -/
  | refundErrored
  /-- A provider refund object was folded in. -/
  | refundReported (providerStatus : Option String)
  | refundCleared
  | paidOut
  deriving DecidableEq

/-- The captured payment a new obligation names. -/
def capturedPayment (attempts : List PaymentAttempt) : Option PaymentAttempt :=
  latest PaymentAttempt.updatedAt (attempts.filter fun attempt =>
    attempt.status = .paid ∧ attempt.providerPaymentId.isSome)

/-- The row after a processed refund object was folded in. -/
def confirmedRefund (refund : PaymentRefund) (providerRefundId : Option String) (now : Instant) :
    PaymentRefund :=
  succeededRefund (reportedRefund refund providerRefundId (some "processed")) (some "processed") now

/-- What `ensure_refund_request` does to a file, given the captured payment it finds. -/
inductive RefundEnsured (attempt : Option PaymentAttempt) : OrderFile → OrderFile → Prop where
  | notOwed (held : file.order = some order) (free : ¬owesRefund order) :
      RefundEnsured attempt file file
  | onRecord (held : file.order = some order) (owes : owesRefund order)
      (recorded : file.refund = some refund) : RefundEnsured attempt file file
  | recorded (held : file.order = some order) (owes : owesRefund order)
      (fresh : file.refund = none) (reason : String) (draws : Draws) :
      RefundEnsured attempt file
        { file with
          refund := some (refundRequest order attempt reason draws)
          order := some { order with paymentStatus := refundOwedStatus order.paymentStatus } }

theorem RefundEnsured.keptAttempts (ensured : RefundEnsured attempt file result) :
    result.attempts = file.attempts := by
  cases ensured <;> rfl

theorem RefundEnsured.keptDelivery (ensured : RefundEnsured attempt file result) :
    result.delivery = file.delivery := by
  cases ensured <;> rfl

/-- An obligation does not look at where the order stands. -/
theorem RefundEnsured.keptStatus (ensured : RefundEnsured attempt file result)
    (held : file.order = some order) (current : result.order = some later) :
    later.status = order.status ∧ later.paymentMethod = order.paymentMethod := by
  cases ensured with
  | notOwed | onRecord =>
    cases held.symm.trans current
    exact ⟨rfl, rfl⟩
  | recorded held' =>
    cases held.symm.trans held'
    cases current
    exact ⟨rfl, rfl⟩

/-- What `ensure_settlement_entry` does to a file. -/
inductive SettlementEnsured : OrderFile → OrderFile → Prop where
  | onRecord (recorded : file.settlement = some entry) : SettlementEnsured file file
  | withheld (held : file.order = some order)
      (refused : ¬(order.paymentStatus = .paid ∧ order.status ≠ .cancelled ∧ file.refund = none)) :
      SettlementEnsured file file
  | entered (held : file.order = some order) (paid : order.paymentStatus = .paid)
      (live : order.status ≠ .cancelled) (free : file.refund = none) (fresh : file.settlement = none)
      (store : Store) (draws : Draws) :
      SettlementEnsured file { file with settlement := some (settlementEntry order store draws) }

/-- Recording an entitlement changes nothing but the ledger. -/
theorem SettlementEnsured.kept_rows (ensured : SettlementEnsured file result) :
    result.order = file.order ∧ result.delivery = file.delivery ∧ result.proof = file.proof ∧
      result.collection = file.collection ∧ result.attempts = file.attempts ∧
      result.refund = file.refund := by
  cases ensured <;> exact ⟨rfl, rfl, rfl, rfl, rfl, rfl⟩

theorem SettlementEnsured.keptOrder (ensured : SettlementEnsured file result) :
    result.order = file.order := ensured.kept_rows.1

theorem SettlementEnsured.keptAttempts (ensured : SettlementEnsured file result) :
    result.attempts = file.attempts := ensured.kept_rows.2.2.2.2.1

theorem SettlementEnsured.keptRefund (ensured : SettlementEnsured file result) :
    result.refund = file.refund := ensured.kept_rows.2.2.2.2.2

/-- What `void_settlement_for_refund` does to a file. -/
inductive SettlementVoided : OrderFile → OrderFile → Prop where
  | absent (missing : file.settlement = none) : SettlementVoided file file
  | kept (held : file.settlement = some entry) (void : entry.status = .voided) :
      SettlementVoided file file
  | voided (held : file.settlement = some entry) (pending : entry.status = .pending)
      (reason : String) (now : Instant) :
      SettlementVoided file
        { file with
          settlement := some
            { entry with status := .voided, voidedAt := some now, voidReason := some reason } }
  | repeated (held : file.settlement = some entry) (settled : entry.status = .settled)
      (recorded : adjustment ∈ file.adjustments)
      (key : adjustment.idempotencyKey = settlementReversalKey entry.id) :
      SettlementVoided file file
  | reversed (held : file.settlement = some entry) (settled : entry.status = .settled)
      (first : ∀ adjustment ∈ file.adjustments,
        adjustment.idempotencyKey ≠ settlementReversalKey entry.id)
      (order : Order) (reason : String) (draws : Draws) :
      SettlementVoided file
        { file with
          adjustments := file.adjustments ++ [settlementReversal entry order reason draws] }

/-- Voiding changes nothing but the ledger. -/
theorem SettlementVoided.kept_rows (voided : SettlementVoided file result) :
    result.order = file.order ∧ result.delivery = file.delivery ∧ result.proof = file.proof ∧
      result.collection = file.collection ∧ result.attempts = file.attempts ∧
      result.refund = file.refund := by
  cases voided <;> exact ⟨rfl, rfl, rfl, rfl, rfl, rfl⟩

theorem SettlementVoided.keptOrder (voided : SettlementVoided file result) :
    result.order = file.order := voided.kept_rows.1

theorem SettlementVoided.keptAttempts (voided : SettlementVoided file result) :
    result.attempts = file.attempts := voided.kept_rows.2.2.2.2.1

theorem SettlementVoided.keptRefund (voided : SettlementVoided file result) :
    result.refund = file.refund := voided.kept_rows.2.2.2.2.2

/-- One step of an order's file. -/
inductive FileStep : FileEvent → OrderFile → OrderFile → Prop where
  | unchanged : FileStep .unchanged file file
  | placed (order : Order) (delivery : Delivery)
      (absent : file.order = none) (undelivered : file.delivery = none)
      (status : order.status = .placed) (payment : order.paymentStatus = .pending)
      (total : order.total = order.subtotal + order.deliveryFee)
      (own : delivery.orderId = order.id) (free : delivery.status = .unassigned)
      (rider : delivery.deliveryPartnerId = none) (custody : delivery.pickedUpAt = none) :
      FileStep .placed file { file with order := some order, delivery := some delivery }
  | advanced (held : file.order = some order)
      (target : status ∈ [OrderStatus.accepted, .preparing, .ready])
      (allowed : canTransitionOrder order.status status)
      (gate : status = .ready → paymentAllowsFulfillment order) :
      FileStep .advanced file { file with order := some { order with status } }
  | cancelled (held : file.order = some order)
      (allowed : canTransitionOrder order.status .cancelled) (restoredAt : Option Instant)
      (ensured : RefundEnsured (capturedPayment file.attempts)
        { file with order := some { order with status := .cancelled, stockRestoredAt := restoredAt } }
        result) :
      FileStep .cancelled file result
  | assigned (held : file.order = some order) (carried : file.delivery = some delivery)
      (free : delivery.status = .unassigned) (ready : order.status = .ready)
      (gate : paymentAllowsFulfillment order) (riderId : UUID) (now : Instant) :
      FileStep .assigned file
        { file with
          delivery := some
            { delivery with
              deliveryPartnerId := some riderId, status := .assigned, assignedAt := some now
              updatedAt := now } }
  | assignedUnclaimed (carried : file.delivery = some delivery)
      (free : delivery.status = .unassigned) (now : Instant) :
      FileStep .assignedUnclaimed file
        { file with delivery := some { delivery with status := .assigned, updatedAt := now } }
  | released (held : file.order = some order) (carried : file.delivery = some delivery)
      (active : delivery.status = .assigned ∨ delivery.status = .failed)
      (ready : order.status = .ready) (now : Instant) :
      FileStep .released file
        { file with
          delivery := some
            { delivery with
              deliveryPartnerId := none, status := .unassigned, assignedAt := none
              updatedAt := now } }
  | pickedUp (held : file.order = some order) (carried : file.delivery = some delivery)
      (assigned : delivery.status = .assigned) (ready : order.status = .ready)
      (gate : paymentAllowsFulfillment order) (now : Instant) :
      FileStep .pickedUp file
        { file with
          order := some { order with status := .outForDelivery }
          delivery := some
            { delivery with status := .pickedUp, pickedUpAt := some now, updatedAt := now } }
  | failed (carried : file.delivery = some delivery)
      (active : delivery.status = .assigned ∨ delivery.status = .pickedUp)
      (payload : DeliveryFailureRequest) (now : Instant) :
      FileStep .failed file
        { file with
          delivery := some
            { delivery with
              status := .failed, failedAt := some now, failureReason := some payload.reason
              failureNotes := payload.notes, failureEvidenceUrl := payload.evidenceUrl
              updatedAt := now } }
  | returned (held : file.order = some order) (carried : file.delivery = some delivery)
      (failed : delivery.status = .failed) (out : order.status = .outForDelivery)
      (uncollected : order.paymentMethod = .cod → file.collection = none)
      (restoredAt : Option Instant)
      (voided : SettlementVoided
        { file with order := some { order with status := .returned, stockRestoredAt := restoredAt } }
        voidedFile)
      (ensured : RefundEnsured (capturedPayment file.attempts) voidedFile result) :
      FileStep .returned file result
  | proofChanged (carried : file.delivery = some delivery) (proof : DeliveryProof)
      (kept : ∀ old, file.proof = some old → old.verifiedAt.isSome → proof.verifiedAt.isSome) :
      FileStep .proofChanged file { file with proof := some proof }
  | collected (held : file.order = some order) (carried : file.delivery = some delivery)
      (cash : order.paymentMethod = .cod) (custody : delivery.status = .pickedUp)
      (fresh : file.collection = none) (user : User) (draws : Draws) :
      FileStep .collected file
        { file with collection := some (codCollection delivery order user draws) }
  | completed (held : file.order = some order) (carried : file.delivery = some delivery)
      (custody : delivery.status = .pickedUp) (out : order.status = .outForDelivery)
      (gate : paymentAllowsFulfillment order)
      (proved : file.proof = some proof) (verified : proof.verifiedAt.isSome)
      (collected : order.paymentMethod = .cod → ∃ collection, file.collection = some collection ∧
        collection.orderId = order.id ∧ collection.amount = order.total)
      (now : Instant)
      (ensured : SettlementEnsured
        { file with
          order := some { order with status := .delivered, paymentStatus := .paid }
          delivery := some
            { delivery with status := .delivered, deliveredAt := some now, updatedAt := now } }
        result) :
      FileStep .completed file result
  | resumed (held : file.order = some order) (online : order.paymentMethod = .upi)
      (unpaid : order.paymentStatus ≠ .paid) (live : order.status ≠ .cancelled)
      (attempted : attempt ∈ file.attempts)
      (status : attempt.status = .created ∨ attempt.status = .attempted) (now : Instant) :
      FileStep .intended file
        { file with
          attempts := put PaymentAttempt.id
            (savedAttempt attempt { attempt with status := .attempted } now) file.attempts }
  | intended (held : file.order = some order) (online : order.paymentMethod = .upi)
      (unpaid : order.paymentStatus ≠ .paid) (live : order.status ≠ .cancelled)
      (providerOrderId : Option String) (draws : Draws) :
      FileStep .intended file
        { file with attempts := file.attempts ++ [paymentAttempt order providerOrderId draws] }
  | captured (held : file.order = some order) (attempted : attempt ∈ file.attempts)
      (onTime : ¬captureIsLate order) (now : Instant)
      (ensured : SettlementEnsured
        { file with
          attempts := put PaymentAttempt.id (capturedAttempt attempt paymentId now) file.attempts
          order := some { order with paymentStatus := .paid } } result) :
      FileStep (.captured paymentId) file result
  | capturedLate (held : file.order = some order) (attempted : attempt ∈ file.attempts)
      (late : order.paymentStatus = .refunded ∨ order.paymentStatus = .refundPending)
      (now : Instant) :
      FileStep (.captured paymentId) file
        { file with
          attempts := put PaymentAttempt.id (capturedAttempt attempt paymentId now) file.attempts }
  /-- The obligation names a payment that was on record before this capture. -/
  | capturedAfterCancellation (held : file.order = some order)
      (attempted : attempt ∈ file.attempts) (cancelled : order.status = .cancelled)
      (unrefunded : order.paymentStatus ≠ .refunded ∧ order.paymentStatus ≠ .refundPending)
      (now : Instant)
      (ensured : RefundEnsured
        ((capturedPayment file.attempts).map fun seen =>
          if seen.id = attempt.id then capturedAttempt attempt paymentId now else seen)
        { file with
          attempts := put PaymentAttempt.id (capturedAttempt attempt paymentId now) file.attempts
          order := some { order with paymentStatus := .paid } } result) :
      FileStep (.captured paymentId) file result
  | settlementChecked (held : file.order = some order) (onTime : ¬captureIsLate order)
      (ensured : SettlementEnsured file result) : FileStep .settlementChecked file result
  | paymentFailed (held : file.order = some order) (attempted : attempt ∈ file.attempts)
      (live : order.status ≠ .cancelled)
      (unpaid : order.paymentStatus = .pending ∨ order.paymentStatus = .failed) (now : Instant) :
      FileStep .paymentFailed file
        { file with
          attempts := put PaymentAttempt.id
            (savedAttempt attempt { attempt with status := .failed } now) file.attempts
          order := some { order with paymentStatus := .failed } }
  | refundClaimed (owed : file.refund = some refund)
      (dispatchable : refund.status ∈ dispatchableRefundStatuses)
      (below : refund.attemptCount < maxRefundAttempts)
      (payment : configured refund.providerPaymentId = some paymentId) :
      FileStep .refundClaimed file
        { file with
          refund := some
            { refund with status := .processing, attemptCount := refund.attemptCount + 1 } }
  | refundGivenUp (owed : file.refund = some refund)
      (dispatchable : refund.status ∈ dispatchableRefundStatuses)
      (below : refund.attemptCount < maxRefundAttempts)
      (message : String) (attemptCount : Nat) (now : Instant) :
      FileStep .refundGivenUp file
        { file with refund := some { failedRefund refund message now with attemptCount } }
  | refundErrored (owed : file.refund = some refund) (message : String) (now : Instant) :
      FileStep .refundErrored file
        { file with refund := some (failedRefund refund message now) }
  | refundFailed (owed : file.refund = some refund) (providerRefundId : Option String)
      (message : String) (now : Instant) :
      FileStep (.refundReported (some "failed")) file
        { file with
          refund := some
            (failedRefund (reportedRefund refund providerRefundId (some "failed")) message now) }
  | refundPending (owed : file.refund = some refund) (providerRefundId : Option String)
      (unprocessed : providerStatus ≠ some "processed") (standing : providerStatus ≠ some "failed") :
      FileStep (.refundReported providerStatus) file
        { file with
          refund := some
            { reportedRefund refund providerRefundId providerStatus with status := .processing } }
  | refundRepeated (owed : file.refund = some refund) (held : file.order = some order)
      (closed : order.paymentStatus = .refunded) (providerRefundId : Option String)
      (now : Instant) :
      FileStep (.refundReported (some "processed")) file
        { file with refund := some (confirmedRefund refund providerRefundId now) }
  | refundSucceeded (owed : file.refund = some refund) (held : file.order = some order)
      (first : order.paymentStatus ≠ .refunded) (providerRefundId : Option String)
      (now : Instant)
      (voided : SettlementVoided
        { file with
          refund := some (confirmedRefund refund providerRefundId now)
          order := some { order with paymentStatus := .refunded } } result) :
      FileStep (.refundReported (some "processed")) file result
  | refundCleared (owed : file.refund = some refund) :
      FileStep .refundCleared file { file with refund := some { refund with attemptCount := 0 } }
  | paidOut (entered : file.settlement = some entry) (pending : entry.status = .pending)
      (now : Instant) :
      FileStep .paidOut file
        { file with settlement := some { entry with status := .settled, settledAt := some now } }

end GaonOne
