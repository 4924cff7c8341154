import GaonOne.CaptureAccounting

/-! A cancellation and a capture that race each other. Cancelled first, the order owes
its money back, but the obligation is recorded from the rows that were flushed
before the capture, and names no payment. -/
namespace GaonOne
open Relational UnitOfWork Transitions System

variable {env : Environment} {world : World} {file next : OrderFile}

/-- A request that cancels the order. -/
def Request.Cancels (orderId : UUID) : Request → Prop
  | .cancelMyOrder _ id => id = orderId
  | .updateOrderStatus _ id .cancelled => id = orderId
  | _ => False

/-- The order is cancelled and owes back one refund of its total, for this payment. -/
def World.OwesPayment (world : World) (orderId : UUID) (paymentId : String) : Prop :=
  ∃ order ∈ world.tables.orders, order.id = orderId ∧ order.status = .cancelled ∧
    order.paymentStatus = .refundPending ∧ ∃ refund ∈ world.tables.paymentRefunds,
      belonging PaymentRefund.orderId orderId world.tables.paymentRefunds = [refund] ∧
        refund.amount = order.total ∧ refund.providerPaymentId = some paymentId

instance (world : World) (orderId : UUID) (paymentId : String) :
    Decidable (world.OwesPayment orderId paymentId) :=
  inferInstanceAs (Decidable (∃ order ∈ world.tables.orders, _))

/-- Both orders of a cancellation and a capture end in the same obligation. -/
def World.CommuteToRefund (env : Environment) (world : World) (orderId : UUID) (paymentId : String)
    (cancel capture : Action) : Prop :=
  ((world.step env cancel).step env capture).OwesPayment orderId paymentId ∧
    ((world.step env capture).step env cancel).OwesPayment orderId paymentId

/-- An order no payment was captured for. -/
structure OrderFile.Uncaptured (file : OrderFile) : Prop where
  unpaid : ∀ attempt ∈ file.attempts, attempt.status ≠ .paid
  unowed : ∀ order, file.order = some order →
    order.paymentStatus = .pending ∨ order.paymentStatus = .failed
  unrefunded : file.refund = none

theorem OrderSound.uncaptured {order : Order} (sound : OrderSound order file)
    (held : file.order = some order)
    (unpaid : order.paymentStatus = .pending ∨ order.paymentStatus = .failed) : file.Uncaptured where
  unpaid := fun attempt member paid => by
    have money := sound.captured attempt member paid
    rcases unpaid with unpaid | unpaid <;> simp [unpaid] at money
  unowed := fun other same => by
    cases held.symm.trans same
    exact unpaid
  unrefunded := sound.unrefunded (by rcases unpaid with unpaid | unpaid <;> simp [unpaid])

theorem OrderFile.Uncaptured.captured (uncaptured : file.Uncaptured) :
    capturedPayment file.attempts = none := by
  rw [capturedPayment, latest, List.argmax_eq_none, List.filter_eq_nil_iff]
  intro attempt member paid
  exact uncaptured.unpaid attempt member (of_decide_eq_true paid).1

/-- Cancelling an order nothing was captured for owes nothing. -/
theorem FileStep.uncaptured (step : FileStep event file next) (uncaptured : file.Uncaptured)
    (cancelling : event = .unchanged ∨ event = .advanced ∨ event = .cancelled) :
    next.Uncaptured := by
  cases step with
  | unchanged => exact uncaptured
  | advanced held =>
    have unpaid := uncaptured.unowed _ held
    exact ⟨uncaptured.unpaid, fun later current => by
      cases current
      exact unpaid, uncaptured.unrefunded⟩
  | cancelled held allowed restoredAt ensured =>
    have unpaid := uncaptured.unowed _ held
    cases ensured with
    | notOwed => exact ⟨uncaptured.unpaid, fun later current => by
        cases current
        exact unpaid, uncaptured.unrefunded⟩
    | onRecord held' owes recorded =>
      rw [uncaptured.unrefunded] at recorded
      cases recorded
    | recorded held' owes =>
      cases held'
      have money := owes.2
      simp only [List.mem_cons, List.not_mem_nil, or_false] at money
      rcases unpaid with unpaid | unpaid <;> simp [unpaid] at money
  | _ => simp at cancelling

/-- The first obligation for an order nothing was captured for names no payment: the
query does not see the capture that is being applied. -/
theorem FileStep.unnamed (step : FileStep event file next) (uncaptured : file.Uncaptured)
    (recorded : next.refund = some refund) : refund.providerPaymentId = none := by
  have ensured : ∀ {start : OrderFile}, start.refund = file.refund →
      RefundEnsured none start next → refund.providerPaymentId = none := by
    intro start same ensured
    cases ensured with
    | notOwed | onRecord =>
      rw [recorded, uncaptured.unrefunded] at same
      cases same
    | recorded =>
      cases recorded
      rfl
  have still : next.refund = file.refund → refund.providerPaymentId = none := by
    intro same
    rw [recorded, uncaptured.unrefunded] at same
    cases same
  have unclaimed : ∀ {owed}, file.refund = some owed → refund.providerPaymentId = none := by
    intro owed held
    rw [uncaptured.unrefunded] at held
    cases held
  cases step with
  | unchanged | placed | advanced | assigned | assignedUnclaimed | released | pickedUp | failed
  | proofChanged | collected | resumed | intended | capturedLate | paymentFailed | paidOut =>
    exact still rfl
  | cancelled held allowed restoredAt obligation =>
    rw [uncaptured.captured] at obligation
    exact ensured (by rfl) obligation
  | returned held carried failed out uncollected restoredAt voided obligation =>
    rw [uncaptured.captured] at obligation
    exact ensured voided.keptRefund obligation
  | completed held carried custody out gate proved verified collected now entered =>
    exact still entered.keptRefund
  | captured held attempted onTime now entered => exact still entered.keptRefund
  | capturedAfterCancellation held attempted cancelled unrefunded now obligation =>
    rw [uncaptured.captured, Option.map_none] at obligation
    exact ensured (by rfl) obligation
  | settlementChecked held onTime entered => exact still entered.keptRefund
  | refundClaimed owed | refundGivenUp owed | refundErrored owed | refundFailed owed
  | refundPending owed | refundRepeated owed | refundCleared owed => exact unclaimed owed
  | refundSucceeded owed => exact unclaimed owed

theorem World.cancel_moves (env : Environment) (settings : Settings) {request : Request}
    (coherent : world.tables.Coherent) (cancels : request.Cancels orderId)
    (draws : Draws) :
    Moves (fun _ event => event = .unchanged ∨ event = .advanced ∨ event = .cancelled) world.tables
      (world.request env settings request draws).tables := by
  unfold World.request
  split
  case isFalse => exact Moves.unchanged coherent fun _ => Or.inl rfl
  case isTrue fresh =>
  split
  case h_2 => exact Moves.unchanged coherent fun _ => Or.inl rfl
  case h_1 result ran =>
  refine World.commit_moves coherent (fun _ => Or.inl rfl) fun _ => ?_
  cases request with
  | cancelMyOrder subject id =>
    simp only [Request.handle, UnitOfWork.bind_ok, UnitOfWork.pure_ok] at ran
    obtain ⟨⟨_, refund⟩, ran, rfl⟩ := ran
    exact (cancelMyOrderSafely_moves coherent fresh ran).mono fun _ _ taken => Or.inr (Or.inr taken.1)
  | updateOrderStatus subject id status =>
    simp only [Request.handle, UnitOfWork.bind_ok, UnitOfWork.pure_ok] at ran
    obtain ⟨⟨_, refund⟩, ran, rfl⟩ := ran
    exact (updateOrderStatusSafely_moves coherent fresh ran).mono fun _ _ taken =>
      Or.inr (taken.imp_right And.left)
  | _ => cases cancels

/-- Whatever is captured for a cancelled order that was never paid, its obligation names
no payment, so the two orders of a cancellation and a capture never agree. -/
theorem capture_after_cancellation_unnamed (reached : Reachable (system env) world)
    (held : order ∈ world.tables.orders)
    (unpaid : order.paymentStatus = .pending ∨ order.paymentStatus = .failed)
    {request : Request} (cancels : request.Cancels order.id) (draws : Draws) (capture : Action) (paymentId : String) :
    ¬world.CommuteToRefund env order.id paymentId (.request settings request draws) capture := by
  rintro ⟨⟨final, -, -, -, -, refund, -, sole, -, names⟩, -⟩
  have coherent := reachable_coherent reached
  have uncaptured := (order_sound reached held).uncaptured (order_file coherent held) unpaid
  obtain ⟨event, cancelling, step⟩ := (World.cancel_moves env settings coherent cancels draws).file
    (fun _ => Or.inl rfl) order.id
  obtain ⟨later, -, last⟩ := step_file (reached.step (.request settings request draws)) capture order.id
  have member : refund ∈ belonging PaymentRefund.orderId order.id
      ((world.step env (.request settings request draws)).step env capture).tables.paymentRefunds := by
    rw [sole]
    exact List.mem_cons_self
  obtain ⟨inside, own⟩ := mem_belonging.mp member
  have recorded := (reachable_coherent
    ((reached.step (.request settings request draws)).step capture)).file_refund inside
  rw [own] at recorded
  have unnamed := last.unnamed (step.uncaptured uncaptured cancelling) recorded
  rw [names] at unnamed
  cases unnamed

theorem capture_after_cancellation_unnamed_intended :
    ∃ order ∈ (sampleWorld intended).tables.orders, order.paymentStatus = .pending ∧
      ¬(sampleWorld intended).CommuteToRefund sampleEnvironment order.id "pay_1"
        (sampleRequest 3 (.updateOrderStatus 2 order.id .cancelled))
        (sampleWebhook 4 "evt_capture" firstCapture) := by
  have cancels : ∀ orderId, (Request.updateOrderStatus 2 orderId .cancelled).Cancels orderId :=
    fun _ => rfl
  obtain ⟨order, held, pending⟩ :
      ∃ order ∈ (sampleWorld intended).tables.orders, order.paymentStatus = .pending := by
    decide +kernel
  exact ⟨order, held, pending, capture_after_cancellation_unnamed (sampleWorld_reachable intended)
    held (Or.inl pending) (cancels order.id) _ _ _⟩

/-- The capture first, and the obligation names the payment; the cancellation first,
and it does not. -/
theorem cancellation_hides_capture :
    Reachable (system sampleEnvironment) (sampleWorld intended) ∧
      (sampleWorld (intended ++ [sampleWebhook 4 "evt_capture" firstCapture,
        sampleRequest 3 (.cancelMyOrder 1 1)])).OwesPayment 1 "pay_1" ∧
      ¬(sampleWorld intended).CommuteToRefund sampleEnvironment 1 "pay_1"
        (sampleRequest 3 (.cancelMyOrder 1 1)) (sampleWebhook 4 "evt_capture" firstCapture) := by
  refine ⟨sampleWorld_reachable intended, by decide +kernel, fun commute => absurd commute.1 ?_⟩
  decide +kernel

end GaonOne
