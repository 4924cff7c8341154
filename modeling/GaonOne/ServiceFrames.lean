import GaonOne.Lifecycle

/-! What each service does to the file of the order it is called for. The rollback
branches are not taken: within a coherent session the keys they guard are fresh. -/
namespace GaonOne
open Relational UnitOfWork

variable {before : Tables} {orderId : UUID} {file : OrderFile} {db : DbSession}

/-- A flush of a coherent session succeeds. -/
theorem flushOrRollback_coherent (db : DbSession) (coherent : db.pending.Coherent) :
    flushOrRollback db = (db.flush, true) :=
  if_pos coherent.toConstraints

/-! ## Stock -/

theorem Frame.putListing (frame : Frame before orderId tables file) (new : StoreProduct)
    (held : old ∈ tables.catalogue.storeProducts) (sameId : new.id = old.id)
    (sameStore : new.storeId = old.storeId) (sameProduct : new.productId = old.productId) :
    Frame before orderId (tables.putListing new) file :=
  frame.of_same (frame.coherent.putListing held sameId sameStore sameProduct) (fun _ => rfl) rfl

/-- What crediting items leaves alone: every table but the shelves. -/
structure OnlyListings (db result : DbSession) : Prop where
  committed : result.committed = db.committed
  flushed : result.flushed = db.flushed
  orders : result.pending.orders = db.pending.orders
  attempts : result.pending.paymentAttempts = db.pending.paymentAttempts
  refunds : result.pending.paymentRefunds = db.pending.paymentRefunds
  entries : result.pending.settlementEntries = db.pending.settlementEntries
  adjustments : result.pending.settlementAdjustments = db.pending.settlementAdjustments

theorem creditItems_frame (frame : Frame before orderId db.pending file)
    (ran : creditItems storeId items db = .ok result) :
    Frame before orderId result.pending file ∧ OnlyListings db result := by
  induction items generalizing db with
  | nil =>
    simp only [creditItems, pure_ok] at ran
    subst ran
    exact ⟨frame, rfl, rfl, rfl, rfl, rfl, rfl, rfl⟩
  | cons item items ih =>
    simp only [creditItems, found_bind_ok] at ran
    obtain ⟨listing, found, ran⟩ := ran
    have next := frame.putListing (creditListing listing item.quantity) (lookup_mem found) rfl
      rfl rfl
    obtain ⟨last, kept⟩ := ih (by exact next) ran
    exact ⟨last, kept.committed, kept.flushed, kept.orders, kept.attempts, kept.refunds,
      kept.entries, kept.adjustments⟩

/-- Restoring stock sets the order's guard and touches nothing else of its file. -/
theorem restoreOrderStockOnce_frame (frame : Frame before orderId db.pending file)
    (held : file.order = some order)
    (ran : restoreOrderStockOnce db order now = .ok (result, restored)) :
    ∃ restoredAt, restored = { order with stockRestoredAt := restoredAt } ∧
      Frame before orderId result.pending { file with order := some restored } ∧
      result.committed = db.committed ∧ result.flushed = db.flushed ∧
      result.pending.paymentAttempts = db.pending.paymentAttempts ∧
      result.pending.paymentRefunds = db.pending.paymentRefunds ∧
      result.pending.settlementEntries = db.pending.settlementEntries ∧
      result.pending.settlementAdjustments = db.pending.settlementAdjustments := by
  unfold restoreOrderStockOnce at ran
  split at ran
  · simp only [pure_ok, Prod.mk.injEq] at ran
    obtain ⟨rfl, rfl⟩ := ran
    refine ⟨order.stockRestoredAt, rfl, ?_, rfl, rfl, rfl, rfl, rfl, rfl⟩
    rwa [← held]
  · rw [bind_ok] at ran
    obtain ⟨credited, loop, ran⟩ := ran
    simp only [pure_ok, Prod.mk.injEq] at ran
    obtain ⟨rfl, rfl⟩ := ran
    obtain ⟨next, kept⟩ := creditItems_frame frame loop
    exact ⟨some now, rfl, next.putOrder _ held rfl rfl rfl rfl, kept.committed, kept.flushed,
      kept.attempts, kept.refunds, kept.entries, kept.adjustments⟩

/-! ## Settlements -/

theorem ensureSettlementEntry_frame (frame : Frame before orderId db.pending file)
    (held : file.order = some order)
    (entries : db.flushed.settlementEntries = db.pending.settlementEntries)
    (refunds : db.flushed.paymentRefunds = db.pending.paymentRefunds)
    (fresh : lookup SettlementEntry.id draws.settlementId db.pending.settlementEntries = none)
    (ran : ensureSettlementEntry db order draws = .ok (result, entry)) :
    ∃ next, Frame before orderId result.pending next ∧ SettlementEnsured file next := by
  have own : order.id = orderId := lookup_col (frame.order_eq.trans held)
  have eligible_iff : settlementIsEligible db order ↔
      order.paymentStatus = .paid ∧ order.status ≠ .cancelled ∧ file.refund = none := by
    rw [settlementIsEligible, refunds, own, frame.refund_eq]
  unfold ensureSettlementEntry at ran
  rw [entries, own, frame.settlement_eq] at ran
  split at ran
  · next existing recorded =>
    simp only [pure_ok, Prod.mk.injEq] at ran
    obtain ⟨rfl, -⟩ := ran
    exact ⟨file, frame, .onRecord recorded⟩
  · next missing =>
    split at ran
    · next eligible =>
      obtain ⟨paid, live, free⟩ := eligible_iff.mp eligible
      simp only [found_bind_ok, flushRows_bind_ok, pure_ok, Prod.mk.injEq] at ran
      obtain ⟨store, -, -, rfl, -⟩ := ran
      exact ⟨_, frame.addSettlement (settlementEntry order store draws) held missing own fresh,
        .entered held paid live free missing store draws⟩
    · next refused =>
      simp only [pure_ok, Prod.mk.injEq] at ran
      obtain ⟨rfl, -⟩ := ran
      exact ⟨file, frame, .withheld held (mt eligible_iff.mpr refused)⟩

/-- What voiding leaves alone: orders, attempts and refunds, flushed as they were. -/
structure OnlyLedger (db result : DbSession) : Prop where
  orders : result.pending.orders = db.pending.orders
  attempts : result.pending.paymentAttempts = db.pending.paymentAttempts
  refunds : result.pending.paymentRefunds = db.pending.paymentRefunds
  attemptsFlushed : db.flushed.paymentAttempts = db.pending.paymentAttempts →
    result.flushed.paymentAttempts = result.pending.paymentAttempts
  refundsFlushed : db.flushed.paymentRefunds = db.pending.paymentRefunds →
    result.flushed.paymentRefunds = result.pending.paymentRefunds

theorem voidSettlementForRefund_frame (db : DbSession) (order : Order) (reason : String)
    (draws : Draws) (frame : Frame before orderId db.pending file) (own : order.id = orderId)
    (entries : db.flushed.settlementEntries = db.pending.settlementEntries)
    (adjustments : db.flushed.settlementAdjustments = db.pending.settlementAdjustments)
    (fresh : lookup SettlementAdjustment.id draws.adjustmentId db.pending.settlementAdjustments = none) :
    ∃ next, Frame before orderId (voidSettlementForRefund db order reason draws).pending next ∧
      SettlementVoided file next ∧ OnlyLedger db (voidSettlementForRefund db order reason draws) := by
  unfold voidSettlementForRefund
  rw [entries, adjustments, own, frame.settlement_eq]
  have same : OnlyLedger db db := ⟨rfl, rfl, rfl, id, id⟩
  cases recorded : file.settlement with
  | none => exact ⟨file, frame, .absent recorded, same⟩
  | some entry =>
    have member := lookup_mem (frame.settlement_eq.trans recorded)
    simp only [tracked_eq frame.coherent.settlementIds member]
    cases status : entry.status with
    | voided => exact ⟨file, frame, .kept recorded status, same⟩
    | pending =>
      exact ⟨_, frame.putSettlement recorded rfl rfl, .voided recorded status reason draws.now,
        rfl, rfl, rfl, id, id⟩
    | settled =>
      dsimp only
      split
      · next adjustment reversal =>
        have made := frame.coherent.adjustment_by_key member reversal
        rw [lookup_col (frame.settlement_eq.trans recorded), frame.here] at made
        exact ⟨file, frame, .repeated recorded status made (lookup_col reversal), same⟩
      · next missing =>
        have next := frame.addAdjustment (settlementReversal entry order reason draws) own recorded
          rfl rfl fresh missing
        rw [flushOrRollback_coherent _ (by exact next.coherent)]
        refine ⟨_, next, .reversed recorded status (fun adjustment made => ?_) order reason draws,
          rfl, rfl, rfl, fun _ => rfl, fun _ => rfl⟩
        rw [← congrArg OrderFile.adjustments frame.here] at made
        exact lookup_eq_none_iff.mp missing adjustment (mem_belonging.mp made).1

/-! ## Refund obligations -/

/-- The captured attempts of an order, out of all or out of its own. -/
private theorem captured_filter (orderId : UUID) (rows : List PaymentAttempt) :
    (rows.filter fun attempt => attempt.orderId = orderId ∧ attempt.status = .paid ∧
        attempt.providerPaymentId.isSome) =
      (belonging PaymentAttempt.orderId orderId rows).filter fun attempt =>
        attempt.status = .paid ∧ attempt.providerPaymentId.isSome := by
  rw [belonging, List.filter_filter]
  apply List.filter_congr
  intro attempt _
  simp only [Bool.decide_and, Bool.and_comm]

/-- With no attempt changed since the last flush, the query finds the file's
captured payment. -/
theorem latestCapturedAttempt_eq (frame : Frame before orderId db.pending file)
    (attempts : db.flushed.paymentAttempts = db.pending.paymentAttempts) :
    latestCapturedAttempt db orderId = capturedPayment file.attempts := by
  have ids := frame.coherent.attemptIds
  rw [latestCapturedAttempt, attempts, captured_filter, frame.attempts_eq]
  cases found : latest PaymentAttempt.updatedAt (file.attempts.filter fun attempt =>
      attempt.status = .paid ∧ attempt.providerPaymentId.isSome) with
  | none => exact found.symm
  | some attempt =>
    have held := (List.mem_filter.mp (latest_mem found)).1
    rw [← frame.attempts_eq] at held
    rw [Option.map_some, tracked_eq ids (mem_belonging.mp held).1]
    exact found.symm

/-- An attempt changed since the last flush is found by what was flushed, and
handed over as it is now. -/
theorem latestCapturedAttempt_put (new : PaymentAttempt) (keys : Relational.Unique PaymentAttempt.id db.flushed.paymentAttempts)
    (attempts : db.pending.paymentAttempts = put PaymentAttempt.id new db.flushed.paymentAttempts) :
    latestCapturedAttempt db orderId =
      (capturedPayment (belonging PaymentAttempt.orderId orderId db.flushed.paymentAttempts)).map
        fun seen => if seen.id = new.id then new else seen := by
  rw [latestCapturedAttempt, captured_filter, capturedPayment, attempts]
  cases found : latest PaymentAttempt.updatedAt
      ((belonging PaymentAttempt.orderId orderId db.flushed.paymentAttempts).filter fun attempt =>
        attempt.status = .paid ∧ attempt.providerPaymentId.isSome) with
  | none => rfl
  | some attempt =>
    have held := (mem_belonging.mp (List.mem_filter.mp (latest_mem found)).1).1
    rw [Option.map_some, Option.map_some, tracked_put keys held]

theorem ensureRefundRequest_frame (db : DbSession) (order : Order) (reason : String) (draws : Draws)
    (frame : Frame before orderId db.pending file)
    (held : file.order = some order)
    (refunds : db.flushed.paymentRefunds = db.pending.paymentRefunds)
    (fresh : lookup PaymentRefund.id draws.refundId db.pending.paymentRefunds = none) :
    ∃ next, Frame before orderId (ensureRefundRequest db order reason draws).1.pending next ∧
      RefundEnsured (latestCapturedAttempt db orderId) file next ∧
      next.order = some (ensureRefundRequest db order reason draws).2.1 := by
  have own : order.id = orderId := lookup_col (frame.order_eq.trans held)
  subst own
  unfold ensureRefundRequest
  by_cases owes : owesRefund order
  · rw [if_pos owes, refunds, frame.coherent.refund_by_key, congrArg OrderFile.refund frame.here]
    cases recorded : file.refund with
    | some refund => exact ⟨file, frame, .onRecord held owes recorded, held⟩
    | none =>
      have next := frame.addRefund (refundRequest order (latestCapturedAttempt db order.id) reason
        draws) held recorded rfl rfl rfl fresh
      simp only
      rw [flushOrRollback_coherent _ (by exact next.coherent)]
      exact ⟨_, next.putOrder _ held rfl rfl rfl rfl, .recorded held owes recorded reason draws, rfl⟩
  · rw [if_neg owes]
    exact ⟨file, frame, .notOwed held owes, held⟩

/-! ## Provider results -/

/-- No other refund row has this row's provider refund id. -/
def ProviderRefundUnused (tables : Tables) (refund : PaymentRefund) : Prop :=
  ∀ refundId, refund.providerRefundId = some refundId →
    ∀ other ∈ tables.paymentRefunds, other.providerRefundId = some refundId → other.id = refund.id

/-- A row on record has its provider refund id to itself. -/
theorem ProviderRefundUnused.of_mem (coherent : tables.Coherent)
    (held : refund ∈ tables.paymentRefunds) : ProviderRefundUnused tables refund :=
  fun _ set _ inside clash => congrArg PaymentRefund.id
    (uniqueWhenSet_eq coherent.refundProviderRefunds inside held clash set)

theorem ProviderRefundUnused.put (unused : ProviderRefundUnused tables refund)
    (sameId : new.id = refund.id) (same : new.providerRefundId = refund.providerRefundId) :
    ProviderRefundUnused (tables.putRefund refund) new := by
  intro refundId set other member clash
  rcases mem_put.mp member with ⟨rfl, _⟩ | ⟨inside, _⟩
  · exact sameId.symm
  · exact (unused refundId (same ▸ set) other inside clash).trans sameId.symm

/-- Everything a provider result reads is as it was last flushed. -/
structure ResultFlushed (db : DbSession) : Prop where
  orders : db.flushed.orders = db.pending.orders
  entries : db.flushed.settlementEntries = db.pending.settlementEntries
  adjustments : db.flushed.settlementAdjustments = db.pending.settlementAdjustments

theorem markSucceeded_frame {order : Order} (status : Option String)
    (frame : Frame before orderId db.pending file)
    (owed : file.refund = some old) (held : file.order = some order) (flushed : ResultFlushed db)
    (sameId : refund.id = old.id) (sameOrder : refund.orderId = old.orderId)
    (sameKey : refund.idempotencyKey = old.idempotencyKey)
    (unused : ProviderRefundUnused db.pending refund)
    (fresh : lookup SettlementAdjustment.id draws.adjustmentId db.pending.settlementAdjustments = none) :
    ∃ next, Frame before orderId (markSucceeded db refund status draws).pending next ∧
      ((order.paymentStatus = .refunded ∧
          next = { file with refund := some (succeededRefund refund status draws.now) }) ∨
        (order.paymentStatus ≠ .refunded ∧ SettlementVoided
          { file with
            refund := some (succeededRefund refund status draws.now)
            order := some { order with paymentStatus := .refunded } } next)) := by
  have parent : refund.orderId = orderId := sameOrder.trans (lookup_col (frame.refund_eq.trans owed))
  have found : lookup Order.id orderId db.pending.orders = some order := frame.order_eq.trans held
  have own : order.id = orderId := lookup_col found
  have object : tracked Order.id order db.pending.orders = order :=
    tracked_eq frame.coherent.orderIds (lookup_mem found)
  have marked : Frame before orderId
      (db.write (·.putRefund (succeededRefund refund status draws.now))).pending
      { file with refund := some (succeededRefund refund status draws.now) } :=
    frame.putRefund owed sameId sameOrder sameKey unused
  simp only [markSucceeded, Tables.order?, Session.write_flushed, flushed.orders, parent, found,
    Option.map_some, Session.write_pending, Tables.putRefund, object]
  split
  · next closed => exact ⟨_, marked, Or.inl ⟨closed, rfl⟩⟩
  · next first =>
    have closed := marked.putOrder { order with paymentStatus := .refunded } held rfl rfl rfl rfl
    obtain ⟨next, last, voided, _⟩ := voidSettlementForRefund_frame
      ((db.write (·.putRefund (succeededRefund refund status draws.now))).write
        (·.putOrder { order with paymentStatus := .refunded }))
      { order with paymentStatus := .refunded } voidReasonRefunded draws closed own flushed.entries flushed.adjustments fresh
    exact ⟨next, last, Or.inr ⟨first, voided⟩⟩

/-- A provider refund object moves the file by one reported step. -/
theorem applyProviderRefundResult_frame (env : Environment) (db : DbSession)
    (payload : List (String × Json)) (draws : Draws) (frame : Frame before orderId db.pending file)
    (owed : file.refund = some refund) (held : file.order = some order) (flushed : ResultFlushed db)
    (unused : ProviderRefundUnused db.pending (reportedRefund refund
      ((Json.get payload "id").text env.print) ((Json.get payload "status").text env.print)))
    (fresh : lookup SettlementAdjustment.id draws.adjustmentId db.pending.settlementAdjustments = none) :
    ∃ next, Frame before orderId (applyProviderRefundResult env db refund payload draws).pending next ∧
      FileStep (.refundReported ((Json.get payload "status").text env.print)) file next := by
  unfold applyProviderRefundResult
  generalize (Json.get payload "id").text env.print = providerRefundId at unused ⊢
  generalize (Json.get payload "status").text env.print = providerStatus at unused ⊢
  have reported : Frame before orderId
      (db.write (·.putRefund (reportedRefund refund providerRefundId providerStatus))).pending
      { file with refund := some (reportedRefund refund providerRefundId providerStatus) } :=
    frame.putRefund owed rfl rfl rfl unused
  dsimp only
  split
  · next processed =>
    subst processed
    obtain ⟨next, last, ⟨closed, rfl⟩ | ⟨first, voided⟩⟩ := markSucceeded_frame
      (some "processed") reported rfl held
      ⟨flushed.orders, flushed.entries, flushed.adjustments⟩ rfl rfl rfl (unused.put rfl rfl) fresh
    · exact ⟨_, last, .refundRepeated owed held closed providerRefundId draws.now⟩
    · exact ⟨next, last, .refundSucceeded owed held first providerRefundId draws.now voided⟩
  · next unprocessed =>
    split
    · next failed =>
      subst failed
      exact ⟨_, reported.putRefund rfl rfl rfl rfl (unused.put rfl rfl),
        .refundFailed owed providerRefundId _ draws.now⟩
    · next standing =>
      exact ⟨_, reported.putRefund rfl rfl rfl rfl (unused.put rfl rfl),
        .refundPending owed providerRefundId unprocessed standing⟩

end GaonOne
