import GaonOne.SystemSteps

/-! What an action can do to an order. Each action is listed with the events it may
cause; an event outside the list does not come from it, whatever its input. -/
namespace GaonOne
open Relational UnitOfWork Transitions System

variable {world : World} {env : Environment}

/-- The events a request may cause. -/
def Request.events : Request → List FileEvent
  | .checkout .. => [.placed]
  | .cancelMyOrder .. => [.cancelled]
  | .updateOrderStatus _ _ status => if status = .cancelled then [.advanced, .cancelled] else [.advanced]
  | .claimDelivery .. | .assignDelivery .. | .autoAssignDelivery .. | .dispatchReadyDelivery .. =>
    [.assigned]
  | .updateDeliveryStatus .. => [.pickedUp, .released, .assignedUnclaimed]
  | .unassignDelivery .. | .recoverFailedDelivery .. => [.released]
  | .failDelivery .. => [.failed]
  | .resolveFailedDelivery _ _ .reassign _ => [.released]
  | .resolveFailedDelivery _ _ .returnToStore _ => [.released, .returned]
  | .issueProofChallenge .. | .verifyDeliveryProof .. => [.proofChanged]
  | .recordCodCollection .. => [.collected]
  | .completeDelivery .. => [.completed]
  | .createPaymentIntent .. => [.intended]
  | .verifyPayment _ payload =>
    [.settlementChecked, .paymentFailed, .captured (some payload.razorpayPaymentId)]
  | .webhook _ => []

/-- What an action may do to an order, besides nothing. A webhook is told apart by what
it reports, not by what it is. -/
def Action.mayCause : Action → FileEvent → Prop
  | .request _ (.webhook _) _, event =>
    event = .paymentFailed ∨ (∃ paymentId, event = .captured paymentId) ∨
      ∃ status, event = .refundReported status
  | .request _ handled _, event => event ∈ handled.events
  | .commitRetry _, event => event = .refundCleared
  | .claimNext _ _, event => event = .refundClaimed ∨ event = .refundGivenUp
  | .recordAnswer _ _, event => event = .refundErrored ∨ ∃ status, event = .refundReported status
  | .payOut _ _, event => event = .paidOut
  | .dispatchDueRefunds .., _ | .retryRefund .., _ | .callProvider .., _ | .crash _, _
  | .editCatalogue _, _ => False

section
variable (coherent : world.tables.Coherent)
include coherent

theorem World.request_events (request : Request) (draws : Draws) :
    Moves (fun _ event => event = .unchanged ∨ (Action.request settings request draws).mayCause event)
      world.tables (world.request env settings request draws).tables := by
  have quiet : ∀ orderId : UUID, FileEvent.unchanged = .unchanged ∨
      (Action.request settings request draws).mayCause .unchanged := fun _ => Or.inl rfl
  unfold World.request
  split
  case isFalse => exact Moves.unchanged coherent quiet
  case isTrue fresh =>
  split
  case h_2 => exact Moves.unchanged coherent quiet
  case h_1 result ran =>
  refine World.commit_moves coherent quiet fun constraints => ?_
  cases request with
  | checkout subject payload key number =>
    simp only [Request.handle, bind_ok, pure_ok] at ran
    obtain ⟨⟨_, order⟩, ran, rfl⟩ := ran
    refine (safeCheckout_moves coherent fresh ran constraints).mono fun _ _ taken => ?_
    exact taken.imp_right fun placed => by simp [Action.mayCause, Request.events, placed]
  | cancelMyOrder subject orderId =>
    simp only [Request.handle, bind_ok, pure_ok] at ran
    obtain ⟨⟨_, refund⟩, ran, rfl⟩ := ran
    refine (cancelMyOrderSafely_moves coherent fresh ran).mono fun _ _ taken => Or.inr ?_
    simp [Action.mayCause, Request.events, taken.1]
  | updateOrderStatus subject orderId status =>
    simp only [Request.handle, bind_ok, pure_ok] at ran
    obtain ⟨⟨_, refund⟩, ran, rfl⟩ := ran
    refine (updateOrderStatusSafely_moves coherent fresh ran).mono fun _ _ taken => Or.inr ?_
    rcases taken with rfl | ⟨rfl, rfl, -⟩
    · simp only [Action.mayCause, Request.events]
      split <;> exact List.mem_cons_self
    · simp [Action.mayCause, Request.events]
  | claimDelivery subject deliveryId =>
    refine (claimDelivery_moves coherent ran).mono fun _ _ taken => Or.inr ?_
    exact List.mem_singleton.mpr taken
  | updateDeliveryStatus subject deliveryId status =>
    refine (updateDeliveryStatus_moves coherent ran).mono fun _ _ taken => Or.inr ?_
    rcases taken with rfl | rfl | ⟨rfl, -⟩ <;> simp [Action.mayCause, Request.events]
  | assignDelivery subject deliveryId riderId =>
    refine (adminAssignDelivery_moves coherent ran).mono fun _ _ taken => Or.inr ?_
    exact List.mem_singleton.mpr taken
  | unassignDelivery subject deliveryId =>
    refine (adminUnassignDelivery_moves coherent ran).mono fun _ _ taken => Or.inr ?_
    exact List.mem_singleton.mpr taken
  | autoAssignDelivery subject deliveryId maxRadiusKm locked =>
    refine (autoAssignDelivery_moves coherent ran).mono fun _ _ taken => Or.inr ?_
    exact List.mem_singleton.mpr taken
  | dispatchReadyDelivery radiusKm seen lockedDeliveries lockedRiders =>
    refine (dispatchReadyDelivery_moves coherent ran).mono fun _ _ taken => Or.inr ?_
    exact List.mem_singleton.mpr taken
  | failDelivery subject deliveryId payload =>
    refine (failDelivery_moves coherent ran).mono fun _ _ taken => Or.inr ?_
    exact List.mem_singleton.mpr taken
  | recoverFailedDelivery subject deliveryId =>
    refine (recoverFailedDelivery_moves coherent ran).mono fun _ _ taken => Or.inr ?_
    exact List.mem_singleton.mpr taken
  | resolveFailedDelivery subject deliveryId resolution notes =>
    simp only [Request.handle, bind_ok, pure_ok] at ran
    obtain ⟨⟨_, refund⟩, ran, rfl⟩ := ran
    refine (resolveFailedDelivery_moves coherent fresh ran).mono fun _ _ taken => Or.inr ?_
    rcases taken with rfl | ⟨rfl, rfl⟩
    · cases resolution <;> exact List.mem_cons_self
    · simp [Action.mayCause, Request.events]
  | issueProofChallenge subject deliveryId otp admitted =>
    refine (issueDeliveryProofChallenge_moves coherent fresh ran).mono fun _ _ taken => Or.inr ?_
    exact List.mem_singleton.mpr taken
  | verifyDeliveryProof subject deliveryId payload admitted =>
    simp only [Request.handle, bind_ok, pure_ok] at ran
    obtain ⟨⟨_, raised⟩, ran, rfl⟩ := ran
    refine (verifyDeliveryProof_moves coherent ran).mono fun _ _ taken => ?_
    exact taken.imp_right List.mem_singleton.mpr
  | recordCodCollection subject deliveryId amount =>
    refine (recordCodCollection_moves coherent fresh ran).mono fun _ _ taken => ?_
    exact taken.imp_right List.mem_singleton.mpr
  | completeDelivery subject deliveryId =>
    refine (completeDeliveryWithFinancials_moves coherent fresh ran).mono fun _ _ taken => Or.inr ?_
    exact List.mem_singleton.mpr taken
  | createPaymentIntent subject orderId response =>
    refine (createPaymentIntent_moves coherent ran constraints).mono fun _ _ taken => Or.inr ?_
    exact List.mem_singleton.mpr taken
  | verifyPayment subject payload =>
    simp only [Request.handle, bind_ok, pure_ok] at ran
    obtain ⟨⟨_, raised⟩, ran, rfl⟩ := ran
    refine (hardenedVerifyPayment_moves coherent fresh ran).mono fun _ _ taken => ?_
    rcases taken with rfl | rfl | rfl | ⟨rfl, -⟩
    · exact Or.inl rfl
    all_goals exact Or.inr (by simp [Action.mayCause, Request.events])
  | webhook request =>
    refine (hardenedRazorpayWebhook_moves coherent fresh ran).mono fun _ _ taken => ?_
    rcases taken with rfl | rfl | ⟨-, -, paymentId, -, -, rfl⟩ | ⟨-, -, -, -, rfl⟩
    · exact Or.inl rfl
    · exact Or.inr (Or.inl rfl)
    · exact Or.inr (Or.inr (Or.inl ⟨paymentId, rfl⟩))
    · exact Or.inr (Or.inr (Or.inr ⟨_, rfl⟩))

/-- One step moves one order's file by an event its action may cause. -/
theorem World.step_events (action : Action) :
    Moves (fun _ event => event = .unchanged ∨ action.mayCause event) world.tables
      (world.step env action).tables := by
  have quiet : ∀ orderId : UUID, FileEvent.unchanged = .unchanged ∨ action.mayCause .unchanged :=
    fun _ => Or.inl rfl
  have still : ∀ {after : Tables}, after = world.tables →
      Moves (fun _ event => event = .unchanged ∨ action.mayCause event) world.tables after := by
    rintro _ rfl
    exact Moves.unchanged coherent quiet
  cases action with
  | request settings request draws => exact World.request_events coherent request draws
  | dispatchDueRefunds settings limit orderId => exact still rfl
  | retryRefund settings subject refundId =>
    apply still
    simp only [World.step, World.retryRefund]
    split <;> rfl
  | commitRetry index =>
    simp only [World.step, World.commitRetry]
    split
    · exact World.commitProcess_moves coherent quiet fun _ => clearAttempts_moves coherent
    · exact Moves.unchanged coherent quiet
  | claimNext index now =>
    simp only [World.step, World.claimNext]
    split
    · exact World.commitProcess_moves coherent quiet fun _ => claimRefund_moves coherent
    · exact Moves.unchanged coherent quiet
  | callProvider index accepts response => exact still (World.callProvider_tables ..)
  | recordAnswer index draws =>
    simp only [World.step, World.recordAnswer]
    split
    · next settings rest claim result standing =>
      split
      · next fresh =>
        refine World.commitProcess_moves coherent quiet fun constraints => ?_
        refine (recordRefund_moves coherent fresh constraints).mono fun _ _ taken => ?_
        rcases taken with rfl | ⟨-, -, -, rfl⟩
        · exact Or.inl rfl
        · cases result with
          | error message => exact Or.inr (Or.inl rfl)
          | ok payload => exact Or.inr (Or.inr ⟨_, rfl⟩)
      · exact Moves.unchanged coherent quiet
    · exact Moves.unchanged coherent quiet
  | crash index =>
    apply still
    simp only [World.step]
    split <;> rfl
  | payOut entryId now =>
    simp only [World.step, World.payOut]
    split
    · next entry entered =>
      split
      · next pending =>
        refine World.commit_moves coherent quiet fun _ => ?_
        exact (GaonOne.payOut_moves coherent entered pending now).mono fun _ _ taken => Or.inr taken
      · exact Moves.unchanged coherent quiet
    · exact Moves.unchanged coherent quiet
  | editCatalogue catalogue =>
    refine World.commit_moves coherent quiet fun constraints => ?_
    exact (editCatalogue_moves coherent constraints).mono fun _ _ taken => Or.inl taken

end

/-- What happens to one order's file is nothing, or an event the action may cause. -/
theorem step_events (reached : Reachable (system env) world) (action : Action) (orderId : UUID) :
    ∃ event, (event = .unchanged ∨ action.mayCause event) ∧
      FileStep event (world.tables.file orderId) ((world.step env action).tables.file orderId) :=
  (World.step_events (reachable_coherent reached) action).file (fun _ => Or.inl rfl) orderId

end GaonOne
