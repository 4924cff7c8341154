import GaonOne.ServiceFrames
import GaonOne.World

/-! What each request does: it moves the file of one order by one step of the
lifecycle and leaves every other file as it was. -/
namespace GaonOne
open Relational UnitOfWork

/-- Between two states of the tables, one order's file took one of these steps. -/
def Moves (allowed : UUID → FileEvent → Prop) (before after : Tables) : Prop :=
  ∃ orderId file event, Frame before orderId after file ∧ allowed orderId event ∧
    FileStep event (before.file orderId) file

/-- A move whose step does not depend on which order it is. -/
abbrev Takes (event : FileEvent) : UUID → FileEvent → Prop := fun _ taken => taken = event

variable {tables : Tables} {allowed : UUID → FileEvent → Prop}

theorem Moves.unchanged (coherent : tables.Coherent) (admitted : ∀ orderId, allowed orderId .unchanged) :
    Moves allowed tables tables :=
  ⟨0, _, _, Frame.refl coherent 0, admitted 0, .unchanged⟩

theorem Moves.mono {admitted : UUID → FileEvent → Prop} (moves : Moves allowed tables after)
    (weaker : ∀ orderId event, allowed orderId event → admitted orderId event) :
    Moves admitted tables after := by
  obtain ⟨orderId, file, event, frame, held, step⟩ := moves
  exact ⟨orderId, file, event, frame, weaker orderId event held, step⟩

/-- The file of an order that was read by its key. -/
theorem order_id (held : tables.order? orderId = some order) : order.id = orderId :=
  lookup_col held

/-- The file of the delivery that was read by its key, and of its order. -/
theorem file_of_delivery (coherent : tables.Coherent)
    (carried : tables.delivery? deliveryId = some delivery)
    (held : tables.order? delivery.orderId = some order) :
    (tables.file delivery.orderId).order = some order ∧
      (tables.file delivery.orderId).delivery = some delivery ∧ order.id = delivery.orderId :=
  ⟨held, coherent.file_delivery carried, order_id held⟩

/-- An obligation does not look at the order's status, so cancelling before or after
it is recorded leaves the same file. -/
theorem RefundEnsured.cancelAfter (ensured : RefundEnsured attempt file next)
    (held : file.order = some order) (current : next.order = some saved) :
    RefundEnsured attempt { file with order := some { order with status := .cancelled } }
      { next with order := some { saved with status := .cancelled } } := by
  cases ensured with
  | notOwed held' free =>
    cases held.symm.trans held'
    cases held.symm.trans current
    exact .notOwed rfl free
  | onRecord held' owes recorded =>
    cases held.symm.trans held'
    cases held.symm.trans current
    exact .onRecord rfl owes recorded
  | recorded held' owes fresh reason draws =>
    cases held.symm.trans held'
    cases current
    have cancelled : ({ file with
        order := some { order with status := .cancelled } } : OrderFile).order =
        some { order with status := .cancelled } := rfl
    exact RefundEnsured.recorded cancelled owes fresh reason draws

/-- The order that its own customer is about to cancel. -/
def customerCancellation (tables : Tables) (subject orderId : UUID) : Option Order :=
  ((tables.user? subject).filter (·.isActive)).bind fun user =>
    (tables.order? orderId).filter fun order =>
      order.userId = user.id ∧ canTransitionOrder order.status .cancelled

/-- The order that its store or an administrator is about to cancel. -/
def storeCancellation (tables : Tables) (subject orderId : UUID) : Option Order :=
  ((tables.user? subject).filter (·.isActive)).bind fun user =>
    (tables.order? orderId).filter fun order =>
      user.role ∈ [.merchant, .admin] ∧ (ensureMayUpdateOrder tables user order).isOk ∧
        canTransitionOrder order.status .cancelled ∧
        (user.role = .admin → hasCapability user .refundWrite)

section
variable (coherent : tables.Coherent)
include coherent

/-! ## Orders -/

theorem cancelMyOrderSafely_moves (fresh : draws.Fresh tables)
    (ran : cancelMyOrderSafely (Session.start tables) subject orderId draws = .ok (result, refund)) :
    Moves (fun id event => event = .cancelled ∧
      ∃ order, customerCancellation tables subject orderId = some order ∧ order.id = id)
      tables result.pending := by
  simp only [cancelMyOrderSafely, getCurrentUser_bind_ok, found_bind_ok, require_bind_ok,
    Option.filter_eq_some_iff] at ran
  obtain ⟨user, asking, order, ⟨held, own⟩, allowed, ran⟩ := ran
  have cancels : customerCancellation tables subject orderId = some order := by
    have current : (tables.user? subject).filter (·.isActive) = some user :=
      Option.filter_eq_some_iff.mpr asking
    simp only [customerCancellation, current, Option.bind_some]
    exact Option.filter_eq_some_iff.mpr ⟨held, decide_eq_true ⟨of_decide_eq_true own, allowed⟩⟩
  rw [bind_ok] at ran
  obtain ⟨⟨db, restored⟩, restoring, ran⟩ := ran
  obtain ⟨restoredAt, rfl, stocked, -, -, attempts, refunds, -, -⟩ :=
    restoreOrderStockOnce_frame (Frame.refl coherent orderId) held restoring
  simp only [transitionOrder_bind_ok, flushRows_bind_ok] at ran
  obtain ⟨-, -, ran⟩ := ran
  have cancelled := stocked.putOrder
    { order with status := .cancelled, stockRestoredAt := restoredAt } rfl rfl rfl rfl rfl
  obtain ⟨next, last, ensured, -⟩ := ensureRefundRequest_frame
    (db.write (·.putOrder
      { order with status := .cancelled, stockRestoredAt := restoredAt })).flush
    { order with status := .cancelled, stockRestoredAt := restoredAt } refundReasonCancelled draws
    cancelled rfl rfl (refunds ▸ fresh.refund)
  rw [latestCapturedAttempt_eq cancelled rfl] at ensured
  simp only [pure_ok, Prod.mk.injEq] at ran
  obtain ⟨rfl, -⟩ := ran
  exact ⟨orderId, next, .cancelled, last, ⟨rfl, order, cancels, order_id held⟩,
    .cancelled held allowed restoredAt ensured⟩

theorem cancelOrderForStore_moves (fresh : draws.Fresh tables)
    (held : tables.order? orderId = some order) (allowed : canTransitionOrder order.status .cancelled)
    (ran : cancelOrderForStore (Session.start tables) user order draws = .ok (result, refund)) :
    Moves (fun id event => event = .cancelled ∧ id = orderId ∧
      (user.role = .admin → hasCapability user .refundWrite)) tables result.pending := by
  simp only [cancelOrderForStore, ensureAdminCapability_bind_ok] at ran
  obtain ⟨capable, ran⟩ := ran
  rw [bind_ok] at ran
  obtain ⟨⟨db, restored⟩, restoring, ran⟩ := ran
  obtain ⟨restoredAt, rfl, stocked, -, flushed, attempts, refunds, -, -⟩ :=
    restoreOrderStockOnce_frame (Frame.refl coherent orderId) held restoring
  have flushedRefunds : db.flushed.paymentRefunds = db.pending.paymentRefunds := by
    rw [flushed, refunds]
  have flushedAttempts : db.flushed.paymentAttempts = db.pending.paymentAttempts := by
    rw [flushed, attempts]
  obtain ⟨next, last, ensured, current⟩ := ensureRefundRequest_frame _ _
    refundReasonCancelled draws stocked rfl flushedRefunds (refunds ▸ fresh.refund)
  rw [latestCapturedAttempt_eq stocked flushedAttempts] at ensured
  simp only [transitionOrder_bind_ok, flushRows_bind_ok, pure_ok, Prod.mk.injEq] at ran
  obtain ⟨-, -, rfl, -⟩ := ran
  have cancelled := last.putOrder
    { (ensureRefundRequest db { order with stockRestoredAt := restoredAt }
      refundReasonCancelled draws).2.1 with status := .cancelled } current rfl rfl rfl rfl
  refine ⟨orderId, _, .cancelled, cancelled, ⟨rfl, rfl, capable⟩,
    .cancelled held allowed restoredAt ?_⟩
  exact ensured.cancelAfter rfl current

theorem updateOrderStatusSafely_moves (fresh : draws.Fresh tables)
    (ran : updateOrderStatusSafely (Session.start tables) subject orderId status draws =
      .ok (result, refund)) :
    Moves (fun id event => event = .advanced ∨ (event = .cancelled ∧ status = .cancelled ∧
      ∃ order, storeCancellation tables subject orderId = some order ∧ order.id = id))
      tables result.pending := by
  simp only [updateOrderStatusSafely, getCurrentUser_bind_ok, requireRoles_bind_ok, found_bind_ok] at ran
  obtain ⟨user, asking, role, order, held, ran⟩ := ran
  rw [bind_ok] at ran
  obtain ⟨_, may, ran⟩ := ran
  simp only [require_bind_ok] at ran
  obtain ⟨assignable, allowed, gate, ran⟩ := ran
  split at ran
  · next cancels =>
    subst cancels
    refine (cancelOrderForStore_moves coherent fresh held allowed ran).mono ?_
    rintro _ _ ⟨rfl, rfl, capable⟩
    have current : (tables.user? subject).filter (·.isActive) = some user :=
      Option.filter_eq_some_iff.mpr asking
    have permitted : (ensureMayUpdateOrder tables user order).isOk := by
      have started : ensureMayUpdateOrder tables user order = .ok _ := may
      simp [started, Except.isOk, Except.toBool]
    refine Or.inr ⟨rfl, rfl, order, ?_, order_id held⟩
    simp only [storeCancellation, current, Option.bind_some]
    exact Option.filter_eq_some_iff.mpr
      ⟨held, decide_eq_true ⟨role, permitted, allowed, capable⟩⟩
  · next proceeds =>
    simp only [transitionOrder_bind_ok, flushRows_bind_ok, pure_ok, Prod.mk.injEq] at ran
    obtain ⟨-, -, rfl, -⟩ := ran
    have target : status ∈ [OrderStatus.accepted, .preparing, .ready] := by
      simp only [merchantAssignableStatuses, List.mem_cons, List.not_mem_nil, or_false] at assignable
      simp only [List.mem_cons, List.not_mem_nil, or_false]
      tauto
    exact ⟨orderId, _, .advanced, (Frame.refl coherent orderId).putOrder _ held rfl rfl rfl rfl,
      Or.inl rfl, .advanced held target allowed gate⟩

/-! ## Deliveries -/

/-- Every way of naming a rider ends in this write. -/
private theorem assignment_moves (carried : tables.delivery? deliveryId = some delivery)
    (held : tables.order? delivery.orderId = some order) (ready : order.status = .ready)
    (gate : paymentAllowsFulfillment order) (free : delivery.status = .unassigned)
    (riderId : UUID) (now : Instant) :
    Moves (Takes .assigned) tables (tables.putDelivery { delivery with
      deliveryPartnerId := some riderId, status := .assigned, assignedAt := some now
      updatedAt := now }) := by
  obtain ⟨orderHeld, deliveryHeld, -⟩ := file_of_delivery coherent carried held
  exact ⟨_, _, .assigned, (Frame.refl coherent delivery.orderId).putDelivery _ deliveryHeld rfl rfl,
    rfl, .assigned orderHeld deliveryHeld free ready gate riderId now⟩

/-- Every way of giving a delivery back ends in this write. -/
private theorem release_moves (carried : tables.delivery? deliveryId = some delivery)
    (held : tables.order? delivery.orderId = some order) (ready : order.status = .ready)
    (active : canTransitionDelivery delivery.status .unassigned) (now : Instant) :
    Moves (Takes .released) tables (tables.putDelivery { delivery with
      deliveryPartnerId := none, status := .unassigned, assignedAt := none, updatedAt := now }) := by
  obtain ⟨orderHeld, deliveryHeld, -⟩ := file_of_delivery coherent carried held
  exact ⟨_, _, .released, (Frame.refl coherent delivery.orderId).putDelivery _ deliveryHeld rfl rfl,
    rfl, .released orderHeld deliveryHeld (canTransitionDelivery_unassigned.mp active) ready now⟩

theorem claimDelivery_moves
    (ran : claimDelivery (Session.start tables) subject deliveryId draws = .ok result) :
    Moves (Takes .assigned) tables result.pending := by
  simp only [claimDelivery, getCurrentUser_bind_ok, requireRoles_bind_ok, found_bind_ok,
    require_bind_ok, assignedDelivery_bind_ok, pure_ok] at ran
  obtain ⟨user, -, -, delivery, carried, order, held, ⟨ready, gate, free⟩, rider, -, -, -, rfl⟩ := ran
  exact assignment_moves coherent carried held ready gate (canTransitionDelivery_assigned.mp free) _ _

theorem adminAssignDelivery_moves
    (ran : adminAssignDelivery (Session.start tables) subject deliveryId riderId draws = .ok result) :
    Moves (Takes .assigned) tables result.pending := by
  simp only [adminAssignDelivery, requireCapability_bind_ok, found_bind_ok, require_bind_ok,
    assignedDelivery_bind_ok, pure_ok] at ran
  obtain ⟨_, -, -, delivery, carried, order, held, ⟨free, ready, gate⟩, rider, -, -, -, rfl⟩ := ran
  exact assignment_moves coherent carried held ready gate free _ _

theorem autoAssignDelivery_moves
    (ran : autoAssignDelivery env (Session.start tables) subject deliveryId maxRadiusKm locked draws =
      .ok result) : Moves (Takes .assigned) tables result.pending := by
  simp only [autoAssignDelivery, requireCapability_bind_ok, found_bind_ok, require_bind_ok,
    assignedDelivery_bind_ok, pure_ok] at ran
  obtain ⟨_, -, -, -, delivery, carried, order, held, ⟨free, ready, gate⟩, store, -, riderId, -,
    rider, -, -, -, rfl⟩ := ran
  exact assignment_moves coherent carried held ready gate free _ _

omit coherent in
theorem readyDelivery_unassigned (found : readyDelivery tables seen locked = some delivery) :
    delivery ∈ tables.deliveries ∧ delivery.status = .unassigned := by
  have member := List.mem_filter.mp (List.argmin_mem found)
  exact ⟨member.1, (of_decide_eq_true member.2).1⟩

theorem dispatchReadyDelivery_moves
    (ran : dispatchReadyDelivery env (Session.start tables) radiusKm seen lockedDeliveries
      lockedRiders draws = .ok result) : Moves (Takes .assigned) tables result.pending := by
  simp only [dispatchReadyDelivery, found_bind_ok, require_bind_ok, assignedDelivery_bind_ok, flushRows, pure_ok] at ran
  obtain ⟨delivery, picked, order, held, ⟨ready, gate⟩, store, -, riderId, -, rider, -, -, -, -,
    rfl⟩ := ran
  obtain ⟨member, free⟩ := readyDelivery_unassigned picked
  exact assignment_moves coherent ((lookup_eq_some_iff coherent.deliveryIds).mpr ⟨member, rfl⟩) held
    ready gate free _ _

theorem adminUnassignDelivery_moves
    (ran : adminUnassignDelivery (Session.start tables) subject deliveryId draws = .ok result) :
    Moves (Takes .released) tables result.pending := by
  simp only [adminUnassignDelivery, requireCapability_bind_ok, found_bind_ok, require_bind_ok,
    releasedDelivery_bind_ok, pure_ok] at ran
  obtain ⟨_, -, -, delivery, carried, -, order, held, ready, active, rfl⟩ := ran
  exact release_moves coherent carried held ready active _

/-- The status screen of riders and administrators. Setting `assigned` goes through
only on an open delivery, and only for an administrator unless the open delivery
names the rider. -/
theorem updateDeliveryStatus_moves
    (ran : updateDeliveryStatus (Session.start tables) subject deliveryId status draws = .ok result) :
    Moves (fun _ event => event = .pickedUp ∨ event = .released ∨
      (event = .assignedUnclaimed ∧ status = .assigned ∧
        ∃ user delivery, tables.user? subject = some user ∧ user.isActive ∧
          tables.delivery? deliveryId = some delivery ∧ delivery.status = .unassigned ∧
          (user.role = .admin ∨ delivery.deliveryPartnerId = some user.id)))
      tables result.pending := by
  simp only [updateDeliveryStatus, getCurrentUser_bind_ok, requireRoles_bind_ok, found_bind_ok,
    require_bind_ok] at ran
  obtain ⟨user, ⟨asking, active⟩, -, ⟨undelivered, standing⟩, delivery, carried, ran⟩ := ran
  rw [bind_ok] at ran
  obtain ⟨_, rider, ran⟩ := ran
  simp only [require_bind_ok, found_bind_ok] at ran
  obtain ⟨allowed, order, held, ran⟩ := ran
  obtain ⟨orderHeld, deliveryHeld, own⟩ := file_of_delivery coherent carried held
  rw [bind_ok] at ran
  obtain ⟨⟨nextDelivery, nextOrder⟩, effects, ran⟩ := ran
  simp only [transitionDelivery_bind_ok, pure_ok] at ran
  obtain ⟨-, rfl⟩ := ran
  cases status with
  | delivered => exact absurd rfl undelivered
  | failed => exact absurd rfl standing
  | pickedUp =>
    simp only [deliveryStatusEffects, require_bind_ok, transitionOrder_bind_ok, pure_ok,
      Prod.mk.injEq] at effects
    obtain ⟨gate, leaves, -, rfl, rfl⟩ := effects
    have moved := ((Frame.refl coherent delivery.orderId).putOrder
      { order with status := .outForDelivery } orderHeld rfl rfl rfl rfl).putDelivery
        { delivery with
          status := .pickedUp, pickedUpAt := some draws.now, updatedAt := draws.now } deliveryHeld rfl rfl
    exact ⟨_, _, .pickedUp, moved, Or.inl rfl, .pickedUp orderHeld deliveryHeld
      (canTransitionDelivery_pickedUp.mp allowed) (canTransitionOrder_outForDelivery.mp leaves) gate
      draws.now⟩
  | unassigned =>
    simp only [deliveryStatusEffects, require_bind_ok, pure_ok, Prod.mk.injEq] at effects
    obtain ⟨ready, rfl, rfl⟩ := effects
    have moved := ((Frame.refl coherent delivery.orderId).putOrder order orderHeld rfl rfl
      rfl rfl).putDelivery
        { delivery with
          deliveryPartnerId := none, status := .unassigned, assignedAt := none
          updatedAt := draws.now } deliveryHeld rfl rfl
    rw [← orderHeld] at moved
    exact ⟨_, _, .released, moved, Or.inr (Or.inl rfl), .released orderHeld deliveryHeld
      (canTransitionDelivery_unassigned.mp allowed) ready draws.now⟩
  | assigned =>
    simp only [deliveryStatusEffects, pure_ok, Prod.mk.injEq] at effects
    obtain ⟨rfl, rfl⟩ := effects
    have free := canTransitionDelivery_assigned.mp allowed
    have moved := ((Frame.refl coherent delivery.orderId).putOrder order orderHeld rfl rfl
      rfl rfl).putDelivery
        { delivery with status := .assigned, updatedAt := draws.now } deliveryHeld rfl rfl
    rw [← orderHeld] at moved
    refine ⟨_, _, .assignedUnclaimed, moved, Or.inr (Or.inr ⟨rfl, rfl, user, delivery, asking, active,
      carried, free, ?_⟩), .assignedUnclaimed deliveryHeld free draws.now⟩
    unfold requireAssignedRider at rider
    split at rider
    · next admin => exact Or.inl admin
    · next other =>
      unfold require at rider
      split at rider
      · next own => exact Or.inr own
      · cases rider

/-! ## Failure and resolution -/

theorem failDelivery_moves
    (ran : failDelivery (Session.start tables) subject deliveryId payload draws = .ok result) :
    Moves (Takes .failed) tables result.pending := by
  simp only [failDelivery, getCurrentUser_bind_ok, requireRoles_bind_ok, require_bind_ok,
    lockedDeliveryOrder_bind_ok] at ran
  obtain ⟨user, -, -, -, delivery, carried, order, held, ran⟩ := ran
  rw [bind_ok] at ran
  obtain ⟨-, -, ran⟩ := ran
  simp only [require_bind_ok, transitionDelivery_bind_ok, flushRows, pure_ok] at ran
  obtain ⟨-, active, -, rfl⟩ := ran
  obtain ⟨-, deliveryHeld, -⟩ := file_of_delivery coherent carried held
  exact ⟨_, _, .failed, (Frame.refl coherent delivery.orderId).putDelivery _ deliveryHeld rfl rfl, rfl,
    .failed deliveryHeld (canTransitionDelivery_failed.mp active) payload draws.now⟩

theorem recoverFailedDelivery_moves
    (ran : recoverFailedDelivery (Session.start tables) subject deliveryId draws = .ok result) :
    Moves (Takes .released) tables result.pending := by
  simp only [recoverFailedDelivery, requireCapability_bind_ok, require_bind_ok,
    lockedDeliveryOrder_bind_ok, releasedDelivery_bind_ok, flushRows, pure_ok] at ran
  obtain ⟨_, -, -, delivery, carried, order, held, -, ⟨ready, -⟩, active, -, rfl⟩ := ran
  exact release_moves coherent carried held ready active _

theorem returnToStore_moves (fresh : draws.Fresh tables)
    (carried : tables.delivery? deliveryId = some delivery) (failed : delivery.status = .failed)
    (held : tables.order? delivery.orderId = some order)
    (ran : returnToStore (Session.start tables) admin delivery order draws = .ok (result, refund)) :
    Moves (Takes .returned) tables result.pending := by
  obtain ⟨orderHeld, deliveryHeld, own⟩ := file_of_delivery coherent carried held
  simp only [returnToStore, ensureCapability_bind_ok, require_bind_ok] at ran
  obtain ⟨-, -, leaves, uncollected, ran⟩ := ran
  rw [bind_ok] at ran
  obtain ⟨⟨db, restored⟩, restoring, ran⟩ := ran
  obtain ⟨restoredAt, rfl, stocked, -, -, attempts, refunds, entries, adjustments⟩ :=
    restoreOrderStockOnce_frame (Frame.refl coherent delivery.orderId) held restoring
  simp only [transitionOrder_bind_ok, flushRows_bind_ok, pure_ok, Prod.mk.injEq] at ran
  obtain ⟨-, -, rfl, -⟩ := ran
  have returned := stocked.putOrder
    { order with status := .returned, stockRestoredAt := restoredAt } rfl rfl rfl rfl rfl
  obtain ⟨voidedFile, voidedFrame, voided, kept⟩ := voidSettlementForRefund_frame
    (db.write (·.putOrder
      { order with status := .returned, stockRestoredAt := restoredAt })).flush
    { order with status := .returned, stockRestoredAt := restoredAt } voidReasonReturned draws
    returned own rfl rfl (adjustments ▸ fresh.adjustment)
  have orderKept := voided.keptOrder
  have object := tracked_eq voidedFrame.coherent.orderIds
    (lookup_mem (voidedFrame.order_eq.trans orderKept))
  obtain ⟨next, last, ensured, -⟩ := ensureRefundRequest_frame _ _ refundReasonReturned draws
    voidedFrame orderKept (kept.refundsFlushed rfl)
    (by rw [kept.refunds]; exact refunds ▸ fresh.refund)
  rw [latestCapturedAttempt_eq voidedFrame (kept.attemptsFlushed rfl), voided.keptAttempts] at ensured
  rw [object]
  exact ⟨_, next, .returned, last, rfl, .returned orderHeld deliveryHeld failed
    (canTransitionOrder_returned.mp leaves)
    (fun cash => (Tables.file_collection deliveryHeld).trans (uncollected cash))
    restoredAt voided ensured⟩

theorem resolveFailedDelivery_moves (fresh : draws.Fresh tables)
    (ran : resolveFailedDelivery (Session.start tables) subject deliveryId resolution notes draws =
      .ok (result, refund)) :
    Moves (fun _ event => event = .released ∨ (event = .returned ∧ resolution = .returnToStore))
      tables result.pending := by
  simp only [resolveFailedDelivery, requireCapability_bind_ok, require_bind_ok,
    lockedDeliveryOrder_bind_ok] at ran
  obtain ⟨admin, -, -, -, delivery, carried, order, held, failed, ran⟩ := ran
  cases resolution with
  | reassign =>
    simp only [require_bind_ok, releasedDelivery_bind_ok, flushRows_bind_ok, pure_ok,
      Prod.mk.injEq] at ran
    obtain ⟨-, ready, active, -, rfl, -⟩ := ran
    exact (release_moves coherent carried held ready active _).mono fun _ _ => Or.inl
  | returnToStore =>
    exact (returnToStore_moves coherent fresh carried failed held ran).mono
      fun _ _ taken => Or.inr ⟨taken, rfl⟩

/-! ## Proof, cash and completion -/

theorem issueDeliveryProofChallenge_moves (fresh : draws.Fresh tables)
    (ran : issueDeliveryProofChallenge env (Session.start tables) subject deliveryId otp admitted draws =
      .ok result) : Moves (Takes .proofChanged) tables result.pending := by
  simp only [issueDeliveryProofChallenge, getCurrentUser_bind_ok, requireRoles_bind_ok,
    lockedDeliveryOrder_bind_ok] at ran
  obtain ⟨user, -, -, delivery, carried, order, held, ran⟩ := ran
  rw [bind_ok] at ran
  obtain ⟨-, -, ran⟩ := ran
  simp only [require_bind_ok] at ran
  obtain ⟨-, ran⟩ := ran
  obtain ⟨-, deliveryHeld, -⟩ := file_of_delivery coherent carried held
  have proofs := Tables.file_proof deliveryHeld
  split at ran
  · next missing =>
    simp only [require_bind_ok, pure_ok] at ran
    obtain ⟨-, rfl⟩ := ran
    refine ⟨_, _, .proofChanged, (Frame.refl coherent delivery.orderId).addProof deliveryHeld
      (proofs.trans missing) rfl fresh.proof, rfl, .proofChanged deliveryHeld _ ?_⟩
    intro old held'
    rw [proofs, missing] at held'
    cases held'
  · next proof recorded =>
    rw [bind_ok] at ran
    obtain ⟨_, challengeable, ran⟩ := ran
    simp only [require_bind_ok, pure_ok] at ran
    obtain ⟨-, rfl⟩ := ran
    refine ⟨_, _, .proofChanged, (Frame.refl coherent delivery.orderId).putProof deliveryHeld
      (proofs.trans recorded) rfl rfl, rfl, .proofChanged deliveryHeld _ ?_⟩
    intro old held' verified
    rw [proofs, recorded] at held'
    cases held'
    exact verified

theorem verifyDeliveryProof_moves
    (ran : verifyDeliveryProof env (Session.start tables) subject deliveryId payload admitted draws =
      .ok (result, raised)) :
    Moves (fun _ event => event = .unchanged ∨ event = .proofChanged) tables result.pending := by
  simp only [verifyDeliveryProof, getCurrentUser_bind_ok, requireRoles_bind_ok, require_bind_ok,
    lockedDeliveryOrder_bind_ok] at ran
  obtain ⟨user, -, -, -, delivery, carried, order, held, ran⟩ := ran
  rw [bind_ok] at ran
  obtain ⟨-, -, ran⟩ := ran
  simp only [require_bind_ok, found_bind_ok] at ran
  obtain ⟨-, proof, recorded, ran⟩ := ran
  obtain ⟨-, deliveryHeld, -⟩ := file_of_delivery coherent carried held
  have proved := (Tables.file_proof deliveryHeld).trans recorded
  -- the row that is written keeps a verification that was there
  have writes : ∀ new : DeliveryProof, new.id = proof.id → new.deliveryId = proof.deliveryId →
      (proof.verifiedAt.isSome → new.verifiedAt.isSome) →
      Moves (fun _ event => event = .unchanged ∨ event = .proofChanged) tables (tables.putProof new) := by
    intro new sameId sameDelivery kept
    refine ⟨_, _, .proofChanged, (Frame.refl coherent delivery.orderId).putProof deliveryHeld proved
      sameId sameDelivery, Or.inr rfl, .proofChanged deliveryHeld new ?_⟩
    intro old held' verified
    cases held'.symm.trans proved
    exact kept verified
  split at ran
  · cases ran
    exact Moves.unchanged coherent fun _ => Or.inl rfl
  · simp only [requireUnlockedProof, require_bind_ok] at ran
    obtain ⟨-, -, -, ran⟩ := ran
    split at ran
    · cases ran
      exact writes _ rfl rfl fun _ => rfl
    · split at ran
      · cases ran
        exact writes _ rfl rfl id
      · cases ran
        exact writes _ rfl rfl id

theorem recordCodCollection_moves (fresh : draws.Fresh tables)
    (ran : recordCodCollection (Session.start tables) subject deliveryId amount draws = .ok result) :
    Moves (fun _ event => event = .unchanged ∨ event = .collected) tables result.pending := by
  simp only [recordCodCollection, getCurrentUser_bind_ok, requireRoles_bind_ok, require_bind_ok,
    lockedDeliveryOrder_bind_ok] at ran
  obtain ⟨user, -, -, -, delivery, carried, order, held, ran⟩ := ran
  rw [bind_ok] at ran
  obtain ⟨-, -, ran⟩ := ran
  simp only [require_bind_ok] at ran
  obtain ⟨cash, ⟨custody, -⟩, -, ran⟩ := ran
  obtain ⟨orderHeld, deliveryHeld, own⟩ := file_of_delivery coherent carried held
  split at ran
  · simp only [require_bind_ok, pure_ok] at ran
    obtain ⟨-, rfl⟩ := ran
    exact Moves.unchanged coherent fun _ => Or.inl rfl
  · next missing =>
    simp only [flushRows, require_bind_ok, pure_ok] at ran
    obtain ⟨-, rfl⟩ := ran
    have uncollected := (Tables.file_collection deliveryHeld).trans missing
    exact ⟨_, _, .collected, (Frame.refl coherent delivery.orderId).addCollection deliveryHeld
      uncollected rfl own fresh.collection, Or.inr rfl,
      .collected orderHeld deliveryHeld cash custody uncollected user draws⟩

omit coherent in
theorem requireCollection_ok (ran : requireCollection tables delivery order = .ok value) :
    order.paymentMethod = .cod → ∃ collection,
      lookup CodCollection.deliveryId delivery.id tables.codCollections = some collection ∧
        collection.orderId = order.id ∧ collection.amount = order.total := by
  intro cash
  rw [requireCollection, if_pos cash, found_bind_ok] at ran
  obtain ⟨collection, recorded, ran⟩ := ran
  unfold require at ran
  split at ran
  · next agree => exact ⟨collection, recorded, agree.1, agree.2⟩
  · cases ran

theorem completeDeliveryWithFinancials_moves (fresh : draws.Fresh tables)
    (ran : completeDeliveryWithFinancials (Session.start tables) subject deliveryId draws = .ok result) :
    Moves (Takes .completed) tables result.pending := by
  simp only [completeDeliveryWithFinancials, getCurrentUser_bind_ok, requireRoles_bind_ok,
    lockedDeliveryOrder_bind_ok] at ran
  obtain ⟨user, -, -, delivery, carried, order, held, ran⟩ := ran
  rw [bind_ok] at ran
  obtain ⟨-, -, ran⟩ := ran
  simp only [require_bind_ok, found_bind_ok, Option.filter_eq_some_iff] at ran
  obtain ⟨custody, arrives, gate, proof, ⟨recorded, verified⟩, ran⟩ := ran
  rw [bind_ok] at ran
  obtain ⟨_, collecting, ran⟩ := ran
  obtain ⟨orderHeld, deliveryHeld, own⟩ := file_of_delivery coherent carried held
  have collected := requireCollection_ok collecting
  rw [← Tables.file_collection deliveryHeld] at collected
  have proved := (Tables.file_proof deliveryHeld).trans recorded
  -- cash on delivery becomes paid here; every other order was paid before
  have paid : (if order.paymentMethod = .cod then PaymentStatus.paid else order.paymentStatus) =
      .paid := by
    split
    · rfl
    · next online => exact gate.resolve_left online
  simp only [transitionDelivery_bind_ok, transitionOrder_bind_ok, paid, if_true] at ran
  obtain ⟨-, -, ran⟩ := ran
  rw [bind_ok] at ran
  obtain ⟨⟨db, entry⟩, entering, ran⟩ := ran
  simp only [pure_ok] at ran
  subst ran
  have moved := ((Frame.refl coherent delivery.orderId).putDelivery
    { delivery with
      status := .delivered, deliveredAt := some draws.now, updatedAt := draws.now }
    deliveryHeld rfl rfl).putOrder
      { order with status := .delivered, paymentStatus := .paid } orderHeld rfl rfl rfl rfl
  obtain ⟨next, last, ensured⟩ := ensureSettlementEntry_frame moved rfl rfl rfl fresh.settlement entering
  exact ⟨_, next, .completed, last, rfl, .completed orderHeld deliveryHeld
    (canTransitionDelivery_delivered.mp custody) (canTransitionOrder_delivered.mp arrives) gate proved
    verified collected draws.now ensured⟩

end
end GaonOne
