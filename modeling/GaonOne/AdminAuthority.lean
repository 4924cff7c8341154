import GaonOne.PaymentProgress
import GaonOne.ProofBudget

/-! A normal administrator cannot move money. What the requests of an administrator do
to an order is known from the events they may cause; the requests that would cause a
financial one are refused, by a capability they lack or because the order is somebody
else's. -/
namespace GaonOne
open Relational UnitOfWork Transitions System

variable {env : Environment} {world : World} {subject : UUID} {file next : OrderFile}

/-- The user a request authenticates. The worker and the provider have none. -/
def Request.subject? : Request → Option UUID
  | .checkout subject .. | .cancelMyOrder subject _ | .updateOrderStatus subject ..
  | .claimDelivery subject _ | .updateDeliveryStatus subject .. | .assignDelivery subject ..
  | .unassignDelivery subject _ | .autoAssignDelivery subject .. | .failDelivery subject ..
  | .recoverFailedDelivery subject _ | .resolveFailedDelivery subject ..
  | .issueProofChallenge subject .. | .verifyDeliveryProof subject ..
  | .recordCodCollection subject .. | .completeDelivery subject _ | .createPaymentIntent subject ..
  | .verifyPayment subject _ => some subject
  | .dispatchReadyDelivery .. | .webhook _ => none

def Action.subject? : Action → Option UUID
  | .request _ asked _ => asked.subject?
  | .retryRefund _ subject _ => some subject
  | _ => none

/-- The order a request is about, if it is about one that exists. -/
def Request.order? (db : Tables) : Request → Option Order
  | .cancelMyOrder _ orderId | .updateOrderStatus _ orderId _ | .createPaymentIntent _ orderId _ =>
    db.order? orderId
  | .claimDelivery _ deliveryId | .updateDeliveryStatus _ deliveryId _
  | .assignDelivery _ deliveryId _ | .unassignDelivery _ deliveryId
  | .autoAssignDelivery _ deliveryId _ _ | .failDelivery _ deliveryId _
  | .recoverFailedDelivery _ deliveryId | .resolveFailedDelivery _ deliveryId _ _
  | .issueProofChallenge _ deliveryId _ _ | .verifyDeliveryProof _ deliveryId _ _
  | .recordCodCollection _ deliveryId _ | .completeDelivery _ deliveryId =>
    (db.delivery? deliveryId).bind fun delivery => db.order? delivery.orderId
  | .verifyPayment _ payload =>
    (db.attempt? payload.paymentAttemptId).bind fun attempt => db.order? attempt.orderId
  | .checkout .. | .dispatchReadyDelivery .. | .webhook _ => none

def Action.order? (db : Tables) : Action → Option Order
  | .request _ asked _ => asked.order? db
  | .retryRefund _ _ refundId =>
    (db.refund? refundId).bind fun refund => db.order? refund.orderId
  | _ => none

/-- The requests that move money, or imply that it moves, where they succeed. -/
def Request.financial : Request → Bool
  | .cancelMyOrder .. | .resolveFailedDelivery _ _ .returnToStore _ | .issueProofChallenge ..
  | .verifyDeliveryProof .. | .recordCodCollection .. | .completeDelivery .. | .verifyPayment .. =>
    true
  | .updateOrderStatus _ _ status => status = .cancelled
  | _ => false

def Action.financial : Action → Bool
  | .request _ asked _ => asked.financial
  | .retryRefund .. => true
  | _ => false

/-- The user is an administrator, and not a super administrator. -/
def NormalAdmin (db : Tables) (subject : UUID) : Prop :=
  ∃ user, db.user? subject = some user ∧ user.role = .admin ∧ user.isSuperAdmin = false

instance (db : Tables) (subject : UUID) : Decidable (NormalAdmin db subject) :=
  decidable_of_iff ((db.user? subject).any fun user => user.role = .admin ∧ user.isSuperAdmin = false)
    (by simp [NormalAdmin, Option.any_eq_true])

/-- A request of a normal administrator, on no order of their own. -/
structure ByNormalAdmin (subject : UUID) (world : World) (action : Action) : Prop where
  asked : action.subject? = some subject
  normal : NormalAdmin world.tables subject
  others : ∀ order, action.order? world.tables = some order → order.userId ≠ subject

instance (subject : UUID) (world : World) (action : Action) :
    Decidable (ByNormalAdmin subject world action) :=
  decidable_of_iff (action.subject? = some subject ∧ NormalAdmin world.tables subject ∧
      (action.order? world.tables).all fun order => decide (order.userId ≠ subject))
    ⟨fun ⟨asked, normal, others⟩ => ⟨asked, normal, by simpa [Option.all_eq_true] using others⟩,
      fun ⟨asked, normal, others⟩ => ⟨asked, normal, by simpa [Option.all_eq_true] using others⟩⟩

/-! ## What is refused -/

/-- No capability of a normal administrator writes money state. -/
theorem normal_admin_lacks {user : User} (normal : user.isSuperAdmin = false) (capability : Capability)
    (financial : capability ∈ [Capability.refundWrite, .settlementWrite, .deliveryFinancialWrite]) :
    ¬hasCapability user capability := by
  intro held
  have role := hasCapability_admin held
  simp only [hasCapability, capabilitiesFor, role, normal, ne_eq, not_true_eq_false, if_false,
    Bool.false_eq_true] at held
  revert held
  simp only [List.mem_cons, List.not_mem_nil, or_false] at financial
  rcases financial with rfl | rfl | rfl <;> decide

theorem requireAssignedRider_admin {user : User} (admin : user.role = .admin)
    (ran : requireAssignedRider delivery user capability = .ok value) :
    hasCapability user capability := by
  rw [requireAssignedRider, if_pos admin] at ran
  exact (require_ok ..).mp ran

/-- Verification locks only an order of the customer who asks. -/
theorem lockPaymentContext_owner {tables : Tables}
    (locked : (lockPaymentContext tables identity (some userId)).1 = some context) :
    (identity.bind fun attempt => tables.order? attempt.orderId) = some context.2 ∧
      context.2.userId = userId := by
  cases identity with
  | none => cases locked
  | some attempt =>
    simp only [lockPaymentContext, Option.map_eq_some_iff, Option.filter_eq_some_iff] at locked
    obtain ⟨order, ⟨placed, owner⟩, rfl⟩ := locked
    exact ⟨placed, by simpa using owner⟩

/-- A financial request of a normal administrator on somebody else's order is refused. -/
theorem normal_admin_refused {db : Tables} {request : Request} (asked : request.subject? = some subject)
    (admin : NormalAdmin db subject)
    (others : ∀ order, request.order? db = some order → order.userId ≠ subject)
    (financial : request.financial = true) (settings : Settings) (draws : Draws)
    (result : DbSession) :
    request.handle env settings draws (Session.start db) ≠ .ok result := by
  intro ran
  obtain ⟨user, known, role, normal⟩ := admin
  have own : user.id = subject := lookup_col known
  cases request with
  | cancelMyOrder requester orderId =>
    cases asked
    simp only [Request.handle, cancelMyOrderSafely, bind_assoc, getCurrentUser_bind_ok,
      found_bind_ok, Option.filter_eq_some_iff] at ran
    obtain ⟨other, ⟨same, -⟩, order, ⟨held, placed⟩, -⟩ := ran
    cases known.symm.trans same
    exact others order held (own ▸ of_decide_eq_true placed)
  | updateOrderStatus requester orderId status =>
    cases asked
    have cancels : status = .cancelled := by simpa [Request.financial] using financial
    subst cancels
    simp only [Request.handle, updateOrderStatusSafely, bind_assoc, getCurrentUser_bind_ok,
      requireRoles_bind_ok, found_bind_ok] at ran
    obtain ⟨other, ⟨same, -⟩, -, order, -, ran⟩ := ran
    cases known.symm.trans same
    rw [bind_ok] at ran
    obtain ⟨_, -, ran⟩ := ran
    simp only [require_bind_ok, if_true, cancelOrderForStore, bind_assoc,
      ensureAdminCapability_bind_ok] at ran
    exact normal_admin_lacks normal .refundWrite (by decide) (ran.2.2.2.1 role)
  | resolveFailedDelivery requester deliveryId resolution notes =>
    cases asked
    cases resolution with
    | reassign => cases financial
    | returnToStore =>
      simp only [Request.handle, resolveFailedDelivery, bind_assoc, requireCapability_bind_ok,
        require_bind_ok, lockedDeliveryOrder_bind_ok, returnToStore, ensureCapability_bind_ok] at ran
      obtain ⟨other, ⟨same, -⟩, -, -, delivery, -, order, -, -, capable, -⟩ := ran
      cases known.symm.trans same
      exact normal_admin_lacks normal .refundWrite (by decide) capable
  | issueProofChallenge requester deliveryId otp admitted =>
    cases asked
    simp only [Request.handle, issueDeliveryProofChallenge, getCurrentUser_bind_ok,
      requireRoles_bind_ok, lockedDeliveryOrder_bind_ok] at ran
    obtain ⟨other, ⟨same, -⟩, -, delivery, -, order, -, ran⟩ := ran
    cases known.symm.trans same
    rw [bind_ok] at ran
    obtain ⟨_, rider, -⟩ := ran
    exact normal_admin_lacks normal _ (by decide) (requireAssignedRider_admin role rider)
  | verifyDeliveryProof requester deliveryId payload admitted =>
    cases asked
    simp only [Request.handle, verifyDeliveryProof, bind_assoc, getCurrentUser_bind_ok,
      requireRoles_bind_ok, require_bind_ok, lockedDeliveryOrder_bind_ok] at ran
    obtain ⟨other, ⟨same, -⟩, -, -, delivery, -, order, -, ran⟩ := ran
    cases known.symm.trans same
    rw [bind_ok] at ran
    obtain ⟨_, rider, -⟩ := ran
    exact normal_admin_lacks normal _ (by decide) (requireAssignedRider_admin role rider)
  | recordCodCollection requester deliveryId amount =>
    cases asked
    simp only [Request.handle, recordCodCollection, getCurrentUser_bind_ok, requireRoles_bind_ok,
      require_bind_ok, lockedDeliveryOrder_bind_ok] at ran
    obtain ⟨other, ⟨same, -⟩, -, -, delivery, -, order, -, ran⟩ := ran
    cases known.symm.trans same
    rw [bind_ok] at ran
    obtain ⟨_, rider, -⟩ := ran
    exact normal_admin_lacks normal _ (by decide) (requireAssignedRider_admin role rider)
  | completeDelivery requester deliveryId =>
    cases asked
    simp only [Request.handle, completeDeliveryWithFinancials, getCurrentUser_bind_ok,
      requireRoles_bind_ok, lockedDeliveryOrder_bind_ok] at ran
    obtain ⟨other, ⟨same, -⟩, -, delivery, -, order, -, ran⟩ := ran
    cases known.symm.trans same
    rw [bind_ok] at ran
    obtain ⟨_, rider, -⟩ := ran
    exact normal_admin_lacks normal _ (by decide) (requireAssignedRider_admin role rider)
  | verifyPayment requester payload =>
    cases asked
    simp only [Request.handle, hardenedVerifyPayment, readVerification, bind_assoc,
      getCurrentUser_bind_ok, require_bind_ok, found_bind_ok] at ran
    obtain ⟨other, ⟨same, -⟩, -, ran⟩ := ran
    cases known.symm.trans same
    obtain ⟨-, context, locked, -⟩ := ran
    obtain ⟨about, owner⟩ := lockPaymentContext_owner locked
    exact others context.2 about (owner.trans own)
  | _ => cases financial

/-! ## What is not financial -/

/-- The money rows of an order's file, and its payment status, are as they were. -/
structure SameMoney (file next : OrderFile) : Prop where
  status : ∀ order, file.order = some order → ∃ later, next.order = some later ∧
    later.paymentStatus = order.paymentStatus
  refund : next.refund = file.refund
  settlement : next.settlement = file.settlement
  adjustments : next.adjustments = file.adjustments
  collection : next.collection = file.collection
  proof : next.proof = file.proof

theorem SameMoney.refl (file : OrderFile) : SameMoney file file :=
  ⟨fun order held => ⟨order, held, rfl⟩, rfl, rfl, rfl, rfl, rfl⟩

theorem SameMoney.trans (first : SameMoney file middle) (second : SameMoney middle next) :
    SameMoney file next where
  status := fun order held => by
    obtain ⟨between, current, same⟩ := first.status order held
    obtain ⟨later, last, still⟩ := second.status between current
    exact ⟨later, last, still.trans same⟩
  refund := second.refund.trans first.refund
  settlement := second.settlement.trans first.settlement
  adjustments := second.adjustments.trans first.adjustments
  collection := second.collection.trans first.collection
  proof := second.proof.trans first.proof

/-- The events that touch no money. -/
def operationalEvents : List FileEvent :=
  [.unchanged, .placed, .advanced, .assigned, .assignedUnclaimed, .released, .pickedUp, .failed,
    .intended]

theorem FileStep.sameMoney (step : FileStep event file next) (operational : event ∈ operationalEvents) :
    SameMoney file next := by
  cases step with
  | unchanged => exact .refl _
  | placed _ _ absent =>
    exact ⟨fun order held => (by cases absent.symm.trans held), rfl, rfl, rfl, rfl, rfl⟩
  | advanced held | pickedUp held =>
    refine ⟨fun order current => ⟨_, rfl, ?_⟩, rfl, rfl, rfl, rfl, rfl⟩
    cases held.symm.trans current
    rfl
  | assigned | assignedUnclaimed | released | failed | resumed | intended =>
    exact ⟨fun order held => ⟨order, held, rfl⟩, rfl, rfl, rfl, rfl, rfl⟩
  | _ => simp [operationalEvents] at operational

/-- What is not financial causes operational events only. -/
theorem Request.operational (request : Request) (asked : request.subject? = some subject)
    (plain : request.financial = false) : ∀ event ∈ request.events, event ∈ operationalEvents := by
  cases request with
  | updateOrderStatus requester orderId status =>
    have stays : status ≠ .cancelled := by simpa [Request.financial] using plain
    simp [Request.events, stays, operationalEvents]
  | resolveFailedDelivery requester deliveryId resolution notes =>
    cases resolution with
    | reassign => simp [Request.events, operationalEvents]
    | returnToStore => cases plain
  | webhook => cases asked
  | cancelMyOrder | issueProofChallenge | verifyDeliveryProof | recordCodCollection
  | completeDelivery | verifyPayment => cases plain
  | _ => simp [Request.events, operationalEvents]

/-! ## One request, and any number of them -/

/-- A refused request changes nothing at all. -/
theorem financial_refused (asks : ByNormalAdmin subject world action)
    (financial : action.financial = true) : world.step env action = world := by
  obtain ⟨asked, admin, others⟩ := asks
  cases action with
  | request settings request draws =>
    simp only [World.step, World.request]
    split
    · split
      · next result ran =>
        exact absurd ran (normal_admin_refused asked admin others financial settings draws result)
      · rfl
    · rfl
  | retryRefund settings requester refundId =>
    cases asked
    obtain ⟨user, known, role, normal⟩ := admin
    simp only [World.step, World.retryRefund]
    split
    · next clears read =>
      simp only [readRetry, requireCapability_bind_ok] at read
      obtain ⟨other, ⟨same, -⟩, capable, -⟩ := read
      cases known.symm.trans same
      exact absurd capable (normal_admin_lacks normal _ (by decide))
    · rfl
  | _ => cases financial

/-- A request of a normal administrator changes no money row of any order. -/
theorem normal_admin_step (reached : Reachable (system env) world)
    (asks : ByNormalAdmin subject world action) (orderId : UUID) :
    SameMoney (world.tables.file orderId) ((world.step env action).tables.file orderId) := by
  by_cases financial : action.financial = true
  · rw [financial_refused asks financial]
    exact .refl _
  · have plain : action.financial = false := by simpa using financial
    obtain ⟨event, caused, step⟩ := step_events reached action orderId
    refine step.sameMoney ?_
    rcases caused with rfl | may
    · exact List.mem_cons_self
    · cases action with
      | request settings request draws =>
        have asked : request.subject? = some subject := asks.asked
        refine request.operational asked plain event ?_
        cases request with
        | webhook => cases asked
        | _ => exact may
      | retryRefund => cases plain
      | _ => cases asks.asked

theorem normal_admin_run (reached : Reachable (system env) world) (actions : List Action)
    (asks : RunWhile (system env) (ByNormalAdmin subject) world actions) (orderId : UUID) :
    SameMoney (world.tables.file orderId)
      (((system env).run world actions).tables.file orderId) := by
  induction actions generalizing world with
  | nil => exact .refl _
  | cons action rest ih =>
    exact (normal_admin_step reached asks.1 orderId).trans (ih (reached.step action) asks.2)

/-! ## The tables -/

section
variable {before after : Tables}

/-- No payment status has changed, and the money tables have the rows they had. -/
structure MoneyKept (before after : Tables) : Prop where
  statuses : ∀ order ∈ before.orders, ∃ later ∈ after.orders, later.id = order.id ∧
    later.paymentStatus = order.paymentStatus
  refunds : ∀ row, row ∈ after.paymentRefunds ↔ row ∈ before.paymentRefunds
  settlements : ∀ row, row ∈ after.settlementEntries ↔ row ∈ before.settlementEntries
  adjustments : ∀ row, row ∈ after.settlementAdjustments ↔ row ∈ before.settlementAdjustments
  collections : ∀ row, row ∈ after.codCollections ↔ row ∈ before.codCollections
  proofs : ∀ row, row ∈ after.deliveryProofs ↔ row ∈ before.deliveryProofs

theorem Tables.Coherent.mem_refunds (coherent : before.Coherent) (row : PaymentRefund) :
    row ∈ before.paymentRefunds ↔ (before.file row.orderId).refund = some row :=
  ⟨coherent.file_refund, fun held => lookup_mem held⟩

theorem Tables.Coherent.mem_settlements (coherent : before.Coherent) (row : SettlementEntry) :
    row ∈ before.settlementEntries ↔ (before.file row.orderId).settlement = some row :=
  ⟨coherent.file_settlement, fun held => lookup_mem held⟩

theorem Tables.mem_adjustments (row : SettlementAdjustment) :
    row ∈ before.settlementAdjustments ↔ row ∈ (before.file row.orderId).adjustments := by
  simp [Tables.file, mem_belonging]

theorem Tables.Coherent.mem_proofs (coherent : before.Coherent) (row : DeliveryProof) :
    row ∈ before.deliveryProofs ↔ ∃ orderId, (before.file orderId).proof = some row := by
  have keyed : row ∈ before.deliveryProofs ↔ before.proof? row.deliveryId = some row :=
    ⟨fun member => (lookup_eq_some_iff coherent.proofDeliveries).mpr ⟨member, rfl⟩, lookup_mem⟩
  rw [keyed, coherent.proof_iff_file]
  simp

theorem Tables.Coherent.mem_collections (coherent : before.Coherent) (row : CodCollection) :
    row ∈ before.codCollections ↔ ∃ orderId, (before.file orderId).collection = some row := by
  constructor
  · intro member
    obtain ⟨delivery, carried, own, -⟩ := coherent.collectionOwners row member
    have held : (before.file delivery.orderId).delivery = some delivery :=
      (lookup_eq_some_iff coherent.deliveryOrders).mpr ⟨carried, rfl⟩
    refine ⟨delivery.orderId, ?_⟩
    rw [Tables.file_collection held, own]
    exact (lookup_eq_some_iff coherent.collectionDeliveries).mpr ⟨member, rfl⟩
  · rintro ⟨orderId, held⟩
    obtain ⟨delivery, -, recorded⟩ := Option.bind_eq_some_iff.mp held
    exact lookup_mem recorded

/-- Files with the same money are tables with the same money. -/
theorem MoneyKept.of_files (coherent : before.Coherent) (kept : after.Coherent)
    (files : ∀ orderId, SameMoney (before.file orderId) (after.file orderId)) :
    MoneyKept before after where
  statuses := fun order held => by
    obtain ⟨later, current, same⟩ := (files order.id).status order
      ((lookup_eq_some_iff coherent.orderIds).mpr ⟨held, rfl⟩)
    exact ⟨later, lookup_mem current, lookup_col current, same⟩
  refunds := fun row => by
    rw [kept.mem_refunds, coherent.mem_refunds, (files row.orderId).refund]
  settlements := fun row => by
    rw [kept.mem_settlements, coherent.mem_settlements, (files row.orderId).settlement]
  adjustments := fun row => by
    rw [Tables.mem_adjustments, Tables.mem_adjustments, (files row.orderId).adjustments]
  collections := fun row => by
    rw [kept.mem_collections, coherent.mem_collections]
    simp only [fun orderId => (files orderId).collection]
  proofs := fun row => by
    rw [kept.mem_proofs, coherent.mem_proofs]
    simp only [fun orderId => (files orderId).proof]

end

/-- Whatever a normal administrator asks of other people's orders, no payment status and
no money row changes; a request that would change one is refused and changes nothing. -/
theorem normal_admin_moves_no_money (reached : Reachable (system env) world) (subject : UUID) :
    (∀ actions, RunWhile (system env) (ByNormalAdmin subject) world actions →
      MoneyKept world.tables ((system env).run world actions).tables) ∧
    ∀ action, ByNormalAdmin subject world action → action.financial = true →
      world.step env action = world :=
  ⟨fun actions asks => .of_files (reachable_coherent reached)
      (reachable_coherent (reached.run actions)) (normal_admin_run reached actions asks),
    fun _ asks financial => financial_refused asks financial⟩

/-- A customer's order, and an administrator of each kind. -/
def supervisedOrder : List Action :=
  [.editCatalogue { sampleCatalogue with
      users := sampleCatalogue.users ++ [⟨5, .admin, false, true, true⟩] },
    sampleRequest 1 (.checkout 1 ⟨1, .cod⟩ none "GO-1")]

/-- The normal administrator accepts the order, and then tries to cancel it. -/
def supervision : List Action :=
  [sampleRequest 2 (.updateOrderStatus 5 1 .accepted),
    sampleRequest 3 (.updateOrderStatus 5 1 .cancelled)]

theorem normal_admin_moves_no_money_cancelling :
    ((sampleWorld (supervisedOrder ++ supervision)).tables.orders.map (·.status) = [.accepted]) ∧
      MoneyKept (sampleWorld supervisedOrder).tables
        ((system sampleEnvironment).run (sampleWorld supervisedOrder) supervision).tables ∧
      (sampleWorld supervisedOrder).step sampleEnvironment
        (sampleRequest 3 (.updateOrderStatus 5 1 .cancelled)) = sampleWorld supervisedOrder := by
  have result := normal_admin_moves_no_money (sampleWorld_reachable supervisedOrder) 5
  refine ⟨by decide +kernel, result.1 supervision (by decide +kernel),
    result.2 _ (by decide +kernel) (by decide)⟩

end GaonOne
