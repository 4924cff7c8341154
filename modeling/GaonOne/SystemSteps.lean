import GaonOne.DispatchSteps

/-! One step of the running system. Whatever happens next, the tables stay
coherent, and every order's file takes one step of the lifecycle that the action
accounts for; so an invariant of files is one of every reachable world. -/
namespace GaonOne
open Relational UnitOfWork Transitions System

variable {world : World} {env : Environment} {allowed : UUID → FileEvent → Prop}

/-! ## What an action is about to do -/

/-- An action that sets `assigned` on a delivery nobody has taken. -/
def World.patchesUnassigned (world : World) : Action → Prop
  | .request _ (.updateDeliveryStatus subject deliveryId .assigned) draws =>
    draws.Fresh world.tables ∧ ∃ user delivery, world.tables.user? subject = some user ∧
      user.isActive ∧ world.tables.delivery? deliveryId = some delivery ∧
      delivery.status = .unassigned ∧
      (user.role = .admin ∨ delivery.deliveryPartnerId = some user.id)
  | _ => False

/-- The attempt, the order and the payment id an action applies as captured. -/
def World.capturing (env : Environment) (world : World) :
    Action → Option (PaymentAttempt × Order × Option String)
  | .request settings (.webhook request) draws =>
    if draws.Fresh world.tables then captureSignal env settings world.tables request else none
  | .request settings (.verifyPayment subject payload) draws =>
    if draws.Fresh world.tables then
      (verifiedCapture env settings world.tables subject payload).map fun (attempt, order) =>
        (attempt, order, some payload.razorpayPaymentId)
    else none
  | _ => none

/-- The refund row an action folds a provider's result into, and that result. -/
def World.reported (env : Environment) (world : World) :
    Action → Option (PaymentRefund × ProviderResult)
  | .request settings (.webhook request) draws =>
    if draws.Fresh world.tables then
      (refundSignal env settings world.tables request).map fun (refund, entity) =>
        (refund, .ok entity)
    else none
  | .recordAnswer index draws =>
    match world.processes[index]? with
    | some ⟨_, _, .answered claim result⟩ =>
      if result.isOk → draws.Fresh world.tables then
        (world.tables.refund? claim.refundId).map (·, result)
      else none
    | _ => none
  | _ => none

/-- The order an action is about to cancel. -/
def World.cancelling (world : World) : Action → Option Order
  | .request _ (.cancelMyOrder subject orderId) draws =>
    if draws.Fresh world.tables then customerCancellation world.tables subject orderId else none
  | .request _ (.updateOrderStatus subject orderId .cancelled) draws =>
    if draws.Fresh world.tables then storeCancellation world.tables subject orderId else none
  | _ => none

/-- What an action must be for this to happen to that order's file. -/
def World.Explains (env : Environment) (world : World) (action : Action) (orderId : UUID) :
    FileEvent → Prop
  | .assignedUnclaimed => world.patchesUnassigned action
  | .captured paymentId => ∃ attempt order,
      world.capturing env action = some (attempt, order, paymentId) ∧ order.id = orderId
  | .refundErrored => ∃ refund message,
      world.reported env action = some (refund, .error message) ∧ refund.orderId = orderId
  | .refundReported status => ∃ refund payload,
      world.reported env action = some (refund, .ok payload) ∧ refund.orderId = orderId ∧
        status = (Json.get payload "status").text env.print
  | _ => True

/-- What an action accounts for; only a claim's own commit claims a refund, and only a
cancellation cancels. -/
structure World.Causes (env : Environment) (world : World) (action : Action) (orderId : UUID)
    (event : FileEvent) : Prop where
  explains : world.Explains env action orderId event
  claimed : event = .refundClaimed → ∃ index now, action = .claimNext index now
  cancelled : event = .cancelled → ∃ order, world.cancelling action = some order ∧ order.id = orderId

/-- The events of neither a claim nor a cancellation. -/
def FileEvent.Plain : FileEvent → Prop
  | .refundClaimed | .cancelled => False
  | _ => True

theorem World.Causes.plain (explained : world.Explains env action orderId event) (plain : event.Plain) :
    world.Causes env action orderId event := by
  refine ⟨explained, ?_, ?_⟩
  · rintro rfl
    exact plain.elim
  · rintro rfl
    exact plain.elim

theorem World.Causes.cancels (found : world.cancelling action = some order) (own : order.id = orderId) :
    world.Causes env action orderId .cancelled := by
  refine ⟨trivial, ?_, fun _ => ⟨order, found, own⟩⟩
  rintro ⟨⟩

/-! ## Commits -/

theorem Moves.coherent (moves : Moves allowed before after) : after.Coherent := by
  obtain ⟨_, _, _, frame, -, -⟩ := moves
  exact frame.coherent

/-- Every file takes a step; all but one stay as they were. -/
theorem Moves.file (moves : Moves allowed before after) (quiet : ∀ orderId, allowed orderId .unchanged)
    (orderId : UUID) : ∃ event, allowed orderId event ∧
      FileStep event (before.file orderId) (after.file orderId) := by
  obtain ⟨moved, file, event, frame, admitted, step⟩ := moves
  by_cases same : orderId = moved
  · subst same
    exact ⟨event, admitted, frame.here ▸ step⟩
  · exact ⟨.unchanged, quiet orderId, frame.elsewhere orderId same ▸ .unchanged⟩

section
variable (coherent : world.tables.Coherent)
include coherent

/-- A commit does what was pending, or nothing. -/
theorem World.commit_moves (quiet : ∀ orderId, allowed orderId .unchanged)
    (moves : pending.Constraints → Moves allowed world.tables pending) :
    Moves allowed world.tables (world.commit pending).tables := by
  unfold World.commit Database.commit
  dsimp only [World.tables]
  split
  · next kept => exact moves kept
  · exact Moves.unchanged coherent quiet

theorem World.commitProcess_moves (quiet : ∀ orderId, allowed orderId .unchanged)
    (moves : pending.Constraints → Moves allowed world.tables pending) :
    Moves allowed world.tables (world.commitProcess index pending next).tables := by
  unfold World.commitProcess
  split
  · exact World.commit_moves coherent quiet moves
  · exact Moves.unchanged coherent quiet

/-! ## Requests -/

theorem World.request_moves (request : Request) (draws : Draws) :
    Moves (world.Causes env (.request settings request draws)) world.tables
      (world.request env settings request draws).tables := by
  have quiet : ∀ orderId, world.Causes env (.request settings request draws) orderId .unchanged :=
    fun _ => .plain trivial trivial
  unfold World.request
  split
  case isFalse => exact Moves.unchanged coherent quiet
  case isTrue fresh =>
  split
  case h_2 => exact Moves.unchanged coherent quiet
  case h_1 result ran =>
  refine World.commit_moves coherent quiet fun constraints => ?_
  cases request with
  | checkout subject payload key number =>
    simp only [Request.handle, bind_ok, pure_ok] at ran
    obtain ⟨⟨_, order⟩, ran, rfl⟩ := ran
    refine (safeCheckout_moves coherent fresh ran constraints).mono fun _ _ taken => ?_
    rcases taken with rfl | rfl <;> exact .plain trivial trivial
  | cancelMyOrder subject orderId =>
    simp only [Request.handle, bind_ok, pure_ok] at ran
    obtain ⟨⟨_, refund⟩, ran, rfl⟩ := ran
    refine (cancelMyOrderSafely_moves coherent fresh ran).mono fun _ _ taken => ?_
    obtain ⟨rfl, order, cancels, own⟩ := taken
    exact .cancels (by simp [World.cancelling, fresh, cancels]) own
  | updateOrderStatus subject orderId status =>
    simp only [Request.handle, bind_ok, pure_ok] at ran
    obtain ⟨⟨_, refund⟩, ran, rfl⟩ := ran
    refine (updateOrderStatusSafely_moves coherent fresh ran).mono fun _ _ taken => ?_
    rcases taken with rfl | ⟨rfl, rfl, order, cancels, own⟩
    · exact .plain trivial trivial
    · exact .cancels (by simp [World.cancelling, fresh, cancels]) own
  | claimDelivery subject deliveryId =>
    refine (claimDelivery_moves coherent ran).mono fun _ _ taken => ?_
    cases taken
    exact .plain trivial trivial
  | updateDeliveryStatus subject deliveryId status =>
    refine (updateDeliveryStatus_moves coherent ran).mono fun _ _ taken => ?_
    rcases taken with rfl | rfl | ⟨rfl, rfl, user, delivery, asking, active, carried, free, allowed⟩
    · exact .plain trivial trivial
    · exact .plain trivial trivial
    · exact .plain ⟨fresh, user, delivery, asking, active, carried, free, allowed⟩ trivial
  | assignDelivery subject deliveryId riderId =>
    refine (adminAssignDelivery_moves coherent ran).mono fun _ _ taken => ?_
    cases taken
    exact .plain trivial trivial
  | unassignDelivery subject deliveryId =>
    refine (adminUnassignDelivery_moves coherent ran).mono fun _ _ taken => ?_
    cases taken
    exact .plain trivial trivial
  | autoAssignDelivery subject deliveryId maxRadiusKm locked =>
    refine (autoAssignDelivery_moves coherent ran).mono fun _ _ taken => ?_
    cases taken
    exact .plain trivial trivial
  | dispatchReadyDelivery radiusKm seen lockedDeliveries lockedRiders =>
    refine (dispatchReadyDelivery_moves coherent ran).mono fun _ _ taken => ?_
    cases taken
    exact .plain trivial trivial
  | failDelivery subject deliveryId payload =>
    refine (failDelivery_moves coherent ran).mono fun _ _ taken => ?_
    cases taken
    exact .plain trivial trivial
  | recoverFailedDelivery subject deliveryId =>
    refine (recoverFailedDelivery_moves coherent ran).mono fun _ _ taken => ?_
    cases taken
    exact .plain trivial trivial
  | resolveFailedDelivery subject deliveryId resolution notes =>
    simp only [Request.handle, bind_ok, pure_ok] at ran
    obtain ⟨⟨_, refund⟩, ran, rfl⟩ := ran
    refine (resolveFailedDelivery_moves coherent fresh ran).mono fun _ _ taken => ?_
    rcases taken with rfl | ⟨rfl, -⟩ <;> exact .plain trivial trivial
  | issueProofChallenge subject deliveryId otp admitted =>
    refine (issueDeliveryProofChallenge_moves coherent fresh ran).mono fun _ _ taken => ?_
    cases taken
    exact .plain trivial trivial
  | verifyDeliveryProof subject deliveryId payload admitted =>
    simp only [Request.handle, bind_ok, pure_ok] at ran
    obtain ⟨⟨_, raised⟩, ran, rfl⟩ := ran
    refine (verifyDeliveryProof_moves coherent ran).mono fun _ _ taken => ?_
    rcases taken with rfl | rfl <;> exact .plain trivial trivial
  | recordCodCollection subject deliveryId amount =>
    refine (recordCodCollection_moves coherent fresh ran).mono fun _ _ taken => ?_
    rcases taken with rfl | rfl <;> exact .plain trivial trivial
  | completeDelivery subject deliveryId =>
    refine (completeDeliveryWithFinancials_moves coherent fresh ran).mono fun _ _ taken => ?_
    cases taken
    exact .plain trivial trivial
  | createPaymentIntent subject orderId response =>
    refine (createPaymentIntent_moves coherent ran constraints).mono fun _ _ taken => ?_
    cases taken
    exact .plain trivial trivial
  | verifyPayment subject payload =>
    simp only [Request.handle, bind_ok, pure_ok] at ran
    obtain ⟨⟨_, raised⟩, ran, rfl⟩ := ran
    refine (hardenedVerifyPayment_moves coherent fresh ran).mono fun _ _ taken => ?_
    rcases taken with rfl | rfl | rfl | ⟨rfl, attempt, order, verified, own⟩
    · exact .plain trivial trivial
    · exact .plain trivial trivial
    · exact .plain trivial trivial
    · exact .plain ⟨attempt, order, by simp [World.capturing, fresh, verified], own⟩ trivial
  | webhook request =>
    refine (hardenedRazorpayWebhook_moves coherent fresh ran).mono fun _ _ taken => ?_
    rcases taken with rfl | rfl | ⟨attempt, order, paymentId, signal, own, rfl⟩ |
      ⟨refund, entity, signal, own, rfl⟩
    · exact .plain trivial trivial
    · exact .plain trivial trivial
    · exact .plain ⟨attempt, order, by simp [World.capturing, fresh, signal], own⟩ trivial
    · exact .plain ⟨refund, entity, by simp [World.reported, fresh, signal], own, rfl⟩ trivial

/-! ## Processes -/

theorem World.claimNext_moves (index : Nat) (now : Instant) :
    Moves (world.Causes env (.claimNext index now)) world.tables
      (world.claimNext index now).tables := by
  unfold World.claimNext
  split
  · refine World.commitProcess_moves coherent (fun _ => .plain trivial trivial) fun _ => ?_
    refine (claimRefund_moves coherent).mono fun _ _ taken => ?_
    rcases taken with rfl | rfl | rfl <;> exact ⟨trivial, fun _ => ⟨index, now, rfl⟩, by simp⟩
  · exact Moves.unchanged coherent fun _ => .plain trivial trivial

theorem World.recordAnswer_moves (index : Nat) (draws : Draws) :
    Moves (world.Causes env (.recordAnswer index draws)) world.tables
      (world.recordAnswer env index draws).tables := by
  unfold World.recordAnswer
  split
  · next settings rest claim result standing =>
    split
    · next fresh =>
      refine World.commitProcess_moves coherent (fun _ => .plain trivial trivial) fun constraints => ?_
      refine (recordRefund_moves coherent fresh constraints).mono fun _ _ taken => ?_
      rcases taken with rfl | ⟨refund, held, own, rfl⟩
      · exact .plain trivial trivial
      · have folding : world.reported env (.recordAnswer index draws) = some (refund, result) := by
          simp only [World.reported, standing, if_pos fresh, held, Option.map_some]
        cases result with
        | error message => exact .plain ⟨refund, message, folding, own⟩ trivial
        | ok payload => exact .plain ⟨refund, payload, folding, own, rfl⟩ trivial
    · exact Moves.unchanged coherent fun _ => .plain trivial trivial
  · exact Moves.unchanged coherent fun _ => .plain trivial trivial

theorem World.commitRetry_moves (index : Nat) :
    Moves (world.Causes env (.commitRetry index)) world.tables
      (world.commitRetry index).tables := by
  unfold World.commitRetry
  split
  · refine World.commitProcess_moves coherent (fun _ => .plain trivial trivial) fun _ => ?_
    refine (clearAttempts_moves coherent).mono fun _ _ taken => ?_
    rcases taken with rfl | rfl <;> exact .plain trivial trivial
  · exact Moves.unchanged coherent fun _ => .plain trivial trivial

theorem World.payOut_moves (entryId : UUID) (now : Instant) :
    Moves (world.Causes env (.payOut entryId now)) world.tables
      (world.payOut entryId now).tables := by
  unfold World.payOut
  split
  · next entry entered =>
    split
    · next pending =>
      refine World.commit_moves coherent (fun _ => .plain trivial trivial) fun _ => ?_
      refine (GaonOne.payOut_moves coherent entered pending now).mono fun _ _ taken => ?_
      cases taken
      exact .plain trivial trivial
    · exact Moves.unchanged coherent fun _ => .plain trivial trivial
  · exact Moves.unchanged coherent fun _ => .plain trivial trivial

omit coherent in
/-- No provider call touches the database. -/
theorem World.callProvider_tables (env : Environment) (world : World) (index : Nat) (accepts : Bool)
    (response : HttpResponse) : (world.callProvider env index accepts response).tables = world.tables := by
  unfold World.callProvider
  split
  · dsimp only
    split
    · rfl
    · split <;> rfl
  · rfl

/-- One step of the system moves one order's file by one step of the lifecycle. -/
theorem World.step_moves (action : Action) :
    Moves (world.Causes env action) world.tables (world.step env action).tables := by
  have still : ∀ {after : Tables}, after = world.tables →
      Moves (world.Causes env action) world.tables after := by
    rintro _ rfl
    exact Moves.unchanged coherent fun _ => .plain trivial trivial
  cases action with
  | request settings request draws => exact World.request_moves coherent request draws
  | dispatchDueRefunds settings limit orderId => exact still rfl
  | retryRefund settings subject refundId =>
    apply still
    simp only [World.step, World.retryRefund]
    split <;> rfl
  | commitRetry index => exact World.commitRetry_moves coherent index
  | claimNext index now => exact World.claimNext_moves coherent index now
  | callProvider index accepts response => exact still (World.callProvider_tables ..)
  | recordAnswer index draws => exact World.recordAnswer_moves coherent index draws
  | crash index =>
    apply still
    simp only [World.step]
    split <;> rfl
  | payOut entryId now => exact World.payOut_moves coherent entryId now
  | editCatalogue catalogue =>
    refine World.commit_moves coherent (fun _ => .plain trivial trivial) fun constraints => ?_
    refine (editCatalogue_moves coherent constraints).mono fun _ _ taken => ?_
    cases taken
    exact .plain trivial trivial

end

/-! ## Runs -/

theorem reachable_coherent (reached : Reachable (system env) world) : world.tables.Coherent :=
  reached.invariant (P := fun world => world.tables.Coherent) Tables.Coherent.of_empty
    fun _ _ coherent => (World.step_moves coherent _).coherent

/-- What happens to one order's file in one step of a reachable world, and its cause. -/
theorem step_cause (reached : Reachable (system env) world) (action : Action) (orderId : UUID) :
    ∃ event, world.Causes env action orderId event ∧
      FileStep event (world.tables.file orderId) ((world.step env action).tables.file orderId) :=
  (World.step_moves (reachable_coherent reached) action).file (fun _ => .plain trivial trivial) orderId

theorem step_file (reached : Reachable (system env) world) (action : Action) (orderId : UUID) :
    ∃ event, world.Explains env action orderId event ∧
      FileStep event (world.tables.file orderId) ((world.step env action).tables.file orderId) := by
  obtain ⟨event, caused, step⟩ := step_cause reached action orderId
  exact ⟨event, caused.explains, step⟩

/-- An invariant of files that every admitted step keeps holds in every world that
admitted steps reach. -/
theorem file_invariant {ok : World → Action → Prop} {P : OrderFile → Prop}
    (reached : ReachableWhile (system env) ok world) (start : P {})
    (kept : ∀ world action orderId event next, Reachable (system env) world →
      (∀ other, P (world.tables.file other)) → ok world action →
      world.Explains env action orderId event →
      FileStep event (world.tables.file orderId) next → P next) (orderId : UUID) :
    P (world.tables.file orderId) := by
  refine reached.invariant_given (P := fun world => ∀ other, P (world.tables.file other))
    (Q := Reachable (system env)) (fun _ => start) (fun _ held => held) ?_ orderId
  intro state action before held admitted other
  obtain ⟨event, explained, step⟩ := step_file before action other
  exact kept state action other event _ before held admitted explained step

/-- An invariant of files that every step keeps holds in every reachable world. -/
theorem file_always {P : OrderFile → Prop} (reached : Reachable (system env) world) (start : P {})
    (kept : ∀ event file next, P file → FileStep event file next → P next) (orderId : UUID) :
    P (world.tables.file orderId) :=
  file_invariant reached start
    (fun _ _ orderId event next _ held _ _ step => kept event _ next (held orderId) step) orderId

end GaonOne
