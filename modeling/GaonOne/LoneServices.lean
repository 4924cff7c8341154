import GaonOne.LoneCheckout
import GaonOne.LonePayments

/-! The services whose requests interleave statement by statement, with one request and nobody
else about: each leaves in the tables what the whole program leaves that serves the same request
in one step. -/
namespace GaonOne
open Relational UnitOfWork ReadCommitted

/-- The same request of the whole program, with its draws. No row is locked by anybody else. -/
def DispatchRequest.handled : DispatchRequest → Request × Draws
  | claimDelivery subject deliveryId draws => (.claimDelivery subject deliveryId, draws)
  | updateDeliveryStatus subject deliveryId status draws =>
    (.updateDeliveryStatus subject deliveryId status, draws)
  | assignDelivery subject deliveryId riderId draws => (.assignDelivery subject deliveryId riderId, draws)
  | unassignDelivery subject deliveryId draws => (.unassignDelivery subject deliveryId, draws)
  | autoAssignDelivery subject deliveryId maxRadiusKm draws =>
    (.autoAssignDelivery subject deliveryId maxRadiusKm [], draws)
  | dispatchReadyDelivery radiusKm seen draws => (.dispatchReadyDelivery radiusKm seen [] [], draws)
  | failDelivery subject deliveryId payload draws => (.failDelivery subject deliveryId payload, draws)
  | recoverFailedDelivery subject deliveryId draws => (.recoverFailedDelivery subject deliveryId, draws)
  | resolveFailedDelivery subject deliveryId resolution notes draws =>
    (.resolveFailedDelivery subject deliveryId resolution notes, draws)
  | completeDelivery subject deliveryId draws => (.completeDelivery subject deliveryId, draws)

def StatusRequest.handled : StatusRequest → Request × Draws
  | cancelOrder subject orderId draws => (.cancelMyOrder subject orderId, draws)
  | updateOrderStatus subject orderId status draws => (.updateOrderStatus subject orderId status, draws)
  | dispatch request => request.handled

/-- The last two are not requests: they belong to a process that dispatches refunds. -/
def PaymentRequest.handled (settings : Settings) : PaymentRequest → Option (Settings × Request × Draws)
  | cancelMyOrder subject orderId draws => some (settings, .cancelMyOrder subject orderId, draws)
  | updateOrderStatus subject orderId status draws =>
    some (settings, .updateOrderStatus subject orderId status, draws)
  | resolveFailedDelivery subject deliveryId resolution notes draws =>
    some (settings, .resolveFailedDelivery subject deliveryId resolution notes, draws)
  | verifyPayment own subject payload draws => some (own, .verifyPayment subject payload, draws)
  | webhook own request draws => some (own, .webhook request, draws)
  | claimRefund _ _ _ => none
  | recordRefund _ _ _ => none

section
variable {market : Market} (env : Environment) (settings : Settings)

theorem DispatchRequest.program_alone (request : DispatchRequest) (coherent : market.tables.Coherent)
    (fresh : request.handled.2.Fresh market.tables) :
    leaves (request.program env) market = (·.pending) <$>
      request.handled.1.handle env settings request.handled.2 (Session.start market.tables) := by
  cases request with
  | claimDelivery subject deliveryId draws => exact claimDelivery_alone
  | updateDeliveryStatus subject deliveryId status draws => exact updateDeliveryStatus_alone
  | assignDelivery subject deliveryId riderId draws => exact adminAssignDelivery_alone
  | unassignDelivery subject deliveryId draws => exact adminUnassignDelivery_alone
  | autoAssignDelivery subject deliveryId maxRadiusKm draws => exact autoAssignDelivery_alone coherent.userIds
  | dispatchReadyDelivery radiusKm seen draws => exact dispatchReadyDelivery_alone coherent.toConstraints
  | failDelivery subject deliveryId payload draws => exact failDelivery_alone coherent.toConstraints
  | recoverFailedDelivery subject deliveryId draws => exact recoverFailedDelivery_alone coherent.toConstraints
  | resolveFailedDelivery subject deliveryId resolution notes draws =>
    exact (resolveFailedDelivery_alone coherent fresh).trans (first_pending _).symm
  | completeDelivery subject deliveryId draws => exact completeDelivery_alone

theorem StatusRequest.statements_alone (request : StatusRequest) (coherent : market.tables.Coherent)
    (fresh : request.handled.2.Fresh market.tables) :
    leaves (request.statements env) market = (·.pending) <$>
      request.handled.1.handle env settings request.handled.2 (Session.start market.tables) := by
  cases request with
  | cancelOrder subject orderId draws =>
    exact (cancelMyOrderSafely_alone coherent fresh).trans (first_pending _).symm
  | updateOrderStatus subject orderId status draws =>
    exact (updateOrderStatusSafely_alone coherent fresh).trans (first_pending _).symm
  | dispatch request => exact request.program_alone env settings coherent fresh

/-- A request that changes a status, with nobody else about. -/
theorem statusRequest_served {world : World} (request : StatusRequest) (tables : world.tables = market.tables)
    (coherent : market.tables.Coherent) (fresh : request.handled.2.Fresh market.tables) :
    Served (statusService env) request market
      (world.request env settings request.handled.1 request.handled.2).tables :=
  World.served (fun _ _ _ => Iff.rfl) tables fresh
    (congrArg (settles market.tables) (request.statements_alone env settings coherent fresh))

/-- And with their flushes, the requests that move money. -/
theorem paymentRequest_served {world : World} {request : PaymentRequest} {own : Settings} {whole : Request}
    {draws : Draws} (handled : request.handled settings = some (own, whole, draws))
    (tables : world.tables = market.tables) (coherent : market.tables.Coherent)
    (fresh : draws.Fresh market.tables) :
    Served (paymentService env) request market (world.request env own whole draws).tables := by
  refine World.served (fun _ _ _ => Iff.rfl) tables fresh (congrArg (settles market.tables) ?_)
  cases request with
  | cancelMyOrder subject orderId _ =>
    cases handled
    exact (flushed_cancelMyOrderSafely_alone coherent fresh).trans (first_pending _).symm
  | updateOrderStatus subject orderId status _ =>
    cases handled
    exact (flushed_updateOrderStatusSafely_alone coherent fresh).trans (first_pending _).symm
  | resolveFailedDelivery subject deliveryId resolution notes _ =>
    cases handled
    exact (flushed_resolveFailedDelivery_alone coherent fresh).trans (first_pending _).symm
  | verifyPayment _ subject payload _ =>
    cases handled
    exact (flushed_hardenedVerifyPayment_alone coherent fresh).trans (first_pending _).symm
  | webhook _ event _ =>
    cases handled
    exact flushed_hardenedRazorpayWebhook_alone coherent fresh
  | claimRefund _ refundId now => cases handled
  | recordRefund refundId result _ => cases handled

/-- The first transaction of a dispatch. -/
theorem claim_served {refundId : UUID} {now : Instant} :
    Served (paymentService env) (.claimRefund settings refundId now) market
      (settles market.tables
        (.ok (claimRefund settings (Session.start market.tables) refundId now).1.pending)) := by
  rw [← flushed_claimRefund_alone]
  exact served_alone fun _ _ _ => Iff.rfl

/-- The last one, where the provider names a refund that no other row names. -/
theorem record_served {claim : RefundClaim} {result : ProviderResult} {draws : Draws}
    (coherent : market.tables.Coherent) (fresh : draws.Fresh market.tables)
    (unused : ∀ refund payload, market.tables.refund? claim.refundId = some refund → result = .ok payload →
      ProviderRefundUnused market.tables (reportedRefund refund ((Json.get payload "id").text env.print)
        ((Json.get payload "status").text env.print))) :
    Served (paymentService env) (.recordRefund claim.refundId result draws) market
      (settles market.tables
        (.ok (recordRefund env (Session.start market.tables) claim result draws).pending)) := by
  rw [← flushed_recordRefund_alone coherent fresh unused]
  exact served_alone fun _ _ _ => Iff.rfl

end

end GaonOne
