import GaonOne.Access

/-! The merchant settlement ledger. Eligibility is derived from order, payment
and refund state, never from the fact that a row exists; rows are voided or
corrected, never deleted. -/
namespace GaonOne
open Relational UnitOfWork

def voidReasonRefunded : String := "order_refunded"
def voidReasonReturned : String := "delivery_returned"

/-- Any open or completed refund obligation means the money is not the
merchant's, whatever the payment status currently reads. -/
def settlementIsEligible (db : DbSession) (order : Order) : Prop :=
  order.paymentStatus = .paid ∧ order.status ≠ .cancelled ∧
    lookup PaymentRefund.orderId order.id db.flushed.paymentRefunds = none

instance (db : DbSession) (order : Order) : Decidable (settlementIsEligible db order) :=
  inferInstanceAs (Decidable (_ ∧ _ ∧ _))

/-- The entitlement a paid order gives its merchant. -/
def settlementEntry (order : Order) (store : Store) (draws : Draws) : SettlementEntry where
  id := draws.settlementId
  orderId := order.id
  storeId := store.id
  merchantId := store.merchantId
  paymentMethod := order.paymentMethod
  grossAmount := order.total
  merchantAmount := order.subtotal
  deliveryFeeAmount := order.deliveryFee
  status := .pending
  settledAt := none
  voidedAt := none
  voidReason := none

/-- Create merchant entitlement for a paid order, once. A missing store raises
`ValueError`, which no route catches. -/
def ensureSettlementEntry (db : DbSession) (order : Order) (draws : Draws) :
    Handler (DbSession × Option SettlementEntry) :=
  match lookup SettlementEntry.orderId order.id db.flushed.settlementEntries with
  | some existing => pure (db, some existing)
  | none =>
    if settlementIsEligible db order then do
      let store ← found (db.flushed.store? order.storeId)
        ⟨500, "Settlement entry requires a valid store"⟩
      let entry := settlementEntry order store draws
      let db ← flushRows (db.write (·.addSettlement entry))
      pure (db, some entry)
    else pure (db, none)

def settlementReversalKey (entryId : UUID) : String := "settlement-reversal:" ++ uuidText entryId

/-- The correction of an entry that was already paid out. -/
def settlementReversal (entry : SettlementEntry) (order : Order) (reason : String) (draws : Draws) :
    SettlementAdjustment where
  id := draws.adjustmentId
  settlementEntryId := entry.id
  orderId := order.id
  merchantId := entry.merchantId
  amount := -entry.merchantAmount
  reason := reason
  idempotencyKey := settlementReversalKey entry.id

/-- Remove merchant entitlement for an order whose money went back, once: a
pending entry is voided in place, a settled one is corrected by an adjustment. -/
def voidSettlementForRefund (db : DbSession) (order : Order) (reason : String) (draws : Draws) :
    DbSession :=
  match lookup SettlementEntry.orderId order.id db.flushed.settlementEntries with
  | none => db
  | some row =>
    let entry := tracked SettlementEntry.id row db.pending.settlementEntries
    match entry.status with
    | .voided => db
    | .pending =>
      db.write (·.putSettlement
        { entry with status := .voided, voidedAt := some draws.now, voidReason := some reason })
    | .settled =>
      match lookup SettlementAdjustment.idempotencyKey (settlementReversalKey entry.id)
          db.flushed.settlementAdjustments with
      | some _ => db
      | none =>
        (flushOrRollback (db.write (·.addAdjustment (settlementReversal entry order reason draws)))).1

end GaonOne
