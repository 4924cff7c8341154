import GaonOne.Checkout
import GaonOne.DeliveryOperations
import GaonOne.Library.Transitions
import GaonOne.OrderMutations
import GaonOne.PaymentEvents

/-! The running system: the committed database, the processes that dispatch
refunds, and what the provider was asked and carried out. Every step is one
transaction, one provider call, or a crash between the two; steps of different
requests and processes interleave freely. -/
namespace GaonOne
open Relational UnitOfWork Transitions

/-- The requests whose whole effect is one transaction. -/
inductive Request where
  | checkout (subject : UUID) (payload : CheckoutRequest) (idempotencyKey : Option String)
      (orderNumber : String)
  | cancelMyOrder (subject orderId : UUID)
  | updateOrderStatus (subject orderId : UUID) (status : OrderStatus)
  | claimDelivery (subject deliveryId : UUID)
  | updateDeliveryStatus (subject deliveryId : UUID) (status : DeliveryStatus)
  | assignDelivery (subject deliveryId riderId : UUID)
  | unassignDelivery (subject deliveryId : UUID)
  | autoAssignDelivery (subject deliveryId : UUID) (maxRadiusKm : ℚ) (locked : List UUID)
  /-- One iteration of the background dispatcher. -/
  | dispatchReadyDelivery (radiusKm : ℚ) (seen lockedDeliveries lockedRiders : List UUID)
  | failDelivery (subject deliveryId : UUID) (payload : DeliveryFailureRequest)
  | recoverFailedDelivery (subject deliveryId : UUID)
  | resolveFailedDelivery (subject deliveryId : UUID) (resolution : Resolution)
      (notes : Option String)
  | issueProofChallenge (subject deliveryId : UUID) (otp : String) (admitted : Bool)
  | verifyDeliveryProof (subject deliveryId : UUID) (payload : DeliveryProofSubmit)
      (admitted : Bool)
  | recordCodCollection (subject deliveryId : UUID) (amount : Paise)
  | completeDelivery (subject deliveryId : UUID)
  | createPaymentIntent (subject orderId : UUID) (response : HttpResponse)
  | verifyPayment (subject : UUID) (payload : PaymentVerifyRequest)
  | webhook (request : WebhookRequest)

/-- The session a request commits. -/
def Request.handle (env : Environment) (settings : Settings) (draws : Draws) (db : DbSession) :
    Request → Handler DbSession
  | .checkout subject payload key number => do
    let (db, _) ← safeCheckout env settings db subject payload key number draws
    pure db
  | .cancelMyOrder subject orderId => do
    let (db, _) ← cancelMyOrderSafely db subject orderId draws
    pure db
  | .updateOrderStatus subject orderId status => do
    let (db, _) ← updateOrderStatusSafely db subject orderId status draws
    pure db
  | .claimDelivery subject deliveryId => GaonOne.claimDelivery db subject deliveryId draws
  | .updateDeliveryStatus subject deliveryId status =>
    GaonOne.updateDeliveryStatus db subject deliveryId status draws
  | .assignDelivery subject deliveryId riderId =>
    adminAssignDelivery db subject deliveryId riderId draws
  | .unassignDelivery subject deliveryId => adminUnassignDelivery db subject deliveryId draws
  | .autoAssignDelivery subject deliveryId maxRadiusKm locked =>
    GaonOne.autoAssignDelivery env db subject deliveryId maxRadiusKm locked draws
  | .dispatchReadyDelivery radiusKm seen lockedDeliveries lockedRiders =>
    GaonOne.dispatchReadyDelivery env db radiusKm seen lockedDeliveries lockedRiders draws
  | .failDelivery subject deliveryId payload =>
    GaonOne.failDelivery db subject deliveryId payload draws
  | .recoverFailedDelivery subject deliveryId =>
    GaonOne.recoverFailedDelivery db subject deliveryId draws
  | .resolveFailedDelivery subject deliveryId resolution notes => do
    let (db, _) ← GaonOne.resolveFailedDelivery db subject deliveryId resolution notes draws
    pure db
  | .issueProofChallenge subject deliveryId otp admitted =>
    issueDeliveryProofChallenge env db subject deliveryId otp admitted draws
  | .verifyDeliveryProof subject deliveryId payload admitted => do
    let (db, _) ← GaonOne.verifyDeliveryProof env db subject deliveryId payload admitted draws
    pure db
  | .recordCodCollection subject deliveryId amount =>
    GaonOne.recordCodCollection db subject deliveryId amount draws
  | .completeDelivery subject deliveryId =>
    completeDeliveryWithFinancials db subject deliveryId draws
  | .createPaymentIntent subject orderId response =>
    GaonOne.createPaymentIntent env settings db subject orderId response draws
  | .verifyPayment subject payload => do
    let (db, _) ← hardenedVerifyPayment env settings db subject payload draws
    pure db
  | .webhook request => hardenedRazorpayWebhook env settings db request draws

/-! ## Dispatching processes -/

/-- Where a dispatching process stands between two of its commits. -/
inductive Phase where
  | idle
  /-- `admin_retry_refund` has read the row; whether it will clear the attempt count. -/
  | retrying (refundId : UUID) (clears : Bool)
  /-- The claim is committed, the provider not yet called. -/
  | claimed (claim : RefundClaim)
  /-- The provider has answered, the answer is not yet recorded. -/
  | answered (claim : RefundClaim) (result : ProviderResult)

/-- A run of `dispatch_due_refunds` or of `admin_retry_refund`, with the refunds it
has still to send. -/
structure Process where
  settings : Settings
  queue : List UUID
  phase : Phase

/-- A process that ended, or crashed. -/
def Process.ended (process : Process) : Process := { process with queue := [], phase := .idle }

/-- The provider's side: every call it received, and the refunds it carried out. -/
structure Provider where
  calls : List RefundCall := []
  executed : List RefundCall := []

/-- A repeated idempotency key gives back the original refund. -/
def Provider.receive (provider : Provider) (call : RefundCall) (accepts : Bool) : Provider where
  calls := provider.calls ++ [call]
  executed :=
    if accepts ∧ ∀ earlier ∈ provider.executed, earlier.idempotencyKey ≠ call.idempotencyKey then
      provider.executed ++ [call]
    else provider.executed

structure World where
  database : Database
  processes : List Process := []
  provider : Provider := {}
  /-- Every payment id a committed capture recorded, with its order. -/
  captured : List (UUID × String) := []

namespace World

def empty : World := { database := Database.empty }

abbrev tables (world : World) : Tables := world.database.tables

/-- The payment ids on record. Only `_apply_paid` writes them. -/
def recordedPayments (db : Tables) : List (UUID × String) :=
  db.paymentAttempts.filterMap fun attempt =>
    attempt.providerPaymentId.map fun paymentId => (attempt.orderId, paymentId)

/-- One commit, and the captures it put on record. -/
def commit (world : World) (pending : Tables) : World :=
  let database := world.database.commit pending
  { world with database, captured := world.captured ++ recordedPayments database.tables }

def setProcess (world : World) (index : Nat) (process : Process) : World :=
  { world with processes := world.processes.set index process }

def addProcess (world : World) (process : Process) : World :=
  { world with processes := world.processes ++ [process] }

/-- A process commits and goes on; where the commit is refused the exception ends it. -/
def commitProcess (world : World) (index : Nat) (pending : Tables) (next : Process) : World :=
  if pending.Constraints then (world.commit pending).setProcess index next
  else world.setProcess index next.ended

end World

/-- `admin_retry_refund` up to its commit: the attempt count is cleared in place. -/
def clearAttempts (db : DbSession) (refundId : UUID) (clears : Bool) : DbSession :=
  match db.flushed.refund? refundId, clears with
  | some refund, true => db.write (·.putRefund { refund with attemptCount := 0 })
  | _, _ => db

/-- The read of `admin_retry_refund`: whether the attempt count will be cleared. -/
def readRetry (db : Tables) (subject refundId : UUID) : Handler Bool := do
  let _ ← requireCapability db subject .refundWrite
  let refund ← found (db.refund? refundId) ⟨404, "Refund not found"⟩
  pure (decide (0 < refund.attemptCount ∧ refund.status = .failed))

/-- What can happen next. -/
inductive Action where
  | request (settings : Settings) (request : Request) (draws : Draws)
  /-- A worker tick, or the immediate dispatch for one order. -/
  | dispatchDueRefunds (settings : Settings) (limit : Nat) (orderId : Option UUID)
  | retryRefund (settings : Settings) (subject refundId : UUID)
  | commitRetry (index : Nat)
  | claimNext (index : Nat) (now : Instant)
  /-- The provider receives the call and answers; it may carry a refund out and
  still fail to answer. -/
  | callProvider (index : Nat) (accepts : Bool) (response : HttpResponse)
  | recordAnswer (index : Nat) (draws : Draws)
  | crash (index : Nat)
  /-- A payout outside this code marks a pending settlement as settled. -/
  | payOut (entryId : UUID) (now : Instant)
  /-- Any other endpoint: users, stores, listings, addresses, carts, presence. -/
  | editCatalogue (catalogue : Catalogue)

namespace World

def request (env : Environment) (settings : Settings) (world : World) (request : Request)
    (draws : Draws) : World :=
  if draws.Fresh world.tables then
    match request.handle env settings draws (Session.start world.tables) with
    | .ok db => world.commit db.pending
    | .error _ => world
  else world

def claimNext (world : World) (index : Nat) (now : Instant) : World :=
  match world.processes[index]? with
  | some ⟨settings, refundId :: rest, .idle⟩ =>
    let (db, claim) := claimRefund settings (Session.start world.tables) refundId now
    world.commitProcess index db.pending
      ⟨settings, rest, match claim with | some claim => .claimed claim | none => .idle⟩
  | _ => world

/-- An answer that names a refund is an accepted refund. -/
def callProvider (env : Environment) (world : World) (index : Nat) (accepts : Bool)
    (response : HttpResponse) : World :=
  match world.processes[index]? with
  | some ⟨settings, rest, .claimed claim⟩ =>
    let result := createRazorpayRefund env settings response
    match claim.call settings with
    | none => world.setProcess index ⟨settings, rest, .answered claim result⟩
    | some call =>
      if result.isOk → accepts then
        { world.setProcess index ⟨settings, rest, .answered claim result⟩ with
          provider := world.provider.receive call accepts }
      else world
  | _ => world

/-- Only an answer that is folded in draws an identifier. -/
def recordAnswer (env : Environment) (world : World) (index : Nat) (draws : Draws) : World :=
  match world.processes[index]? with
  | some ⟨settings, rest, .answered claim result⟩ =>
    if result.isOk → draws.Fresh world.tables then
      let db := recordRefund env (Session.start world.tables) claim result draws
      world.commitProcess index db.pending ⟨settings, rest, .idle⟩
    else world
  | _ => world

def retryRefund (settings : Settings) (world : World) (subject refundId : UUID) : World :=
  match readRetry world.tables subject refundId with
  | .ok clears => world.addProcess ⟨settings, [], .retrying refundId clears⟩
  | .error _ => world

def commitRetry (world : World) (index : Nat) : World :=
  match world.processes[index]? with
  | some ⟨settings, _, .retrying refundId clears⟩ =>
    world.commitProcess index (clearAttempts (Session.start world.tables) refundId clears).pending
      ⟨settings, [refundId], .idle⟩
  | _ => world

def payOut (world : World) (entryId : UUID) (now : Instant) : World :=
  match lookup SettlementEntry.id entryId world.tables.settlementEntries with
  | some entry =>
    if entry.status = .pending then
      world.commit (world.tables.putSettlement
        { entry with status := .settled, settledAt := some now })
    else world
  | none => world

def step (env : Environment) (world : World) : Action → World
  | .request settings request draws => world.request env settings request draws
  | .dispatchDueRefunds settings limit orderId =>
    world.addProcess ⟨settings, dueRefundIds world.tables limit orderId, .idle⟩
  | .retryRefund settings subject refundId => world.retryRefund settings subject refundId
  | .commitRetry index => world.commitRetry index
  | .claimNext index now => world.claimNext index now
  | .callProvider index accepts response => world.callProvider env index accepts response
  | .recordAnswer index draws => world.recordAnswer env index draws
  | .crash index =>
    match world.processes[index]? with
    | some process => world.setProcess index process.ended
    | none => world
  | .payOut entryId now => world.payOut entryId now
  | .editCatalogue catalogue => world.commit { world.tables with catalogue }

end World

/-- The system, for one behaviour of the environment. -/
def system (env : Environment) : System World Action where
  initial := World.empty
  step := World.step env

end GaonOne
