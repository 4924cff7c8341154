import GaonOne.ActionEvents
import GaonOne.DeliveredEvidence
import GaonOne.Tracking

/-! Whose position the screens show. A fix belongs to the delivery, not to who
carries it: the screens show the current rider as long as no delivery is given to
a rider while its latest fix is somebody else's. -/
namespace GaonOne
open Relational UnitOfWork Transitions System

variable {env : Environment} {maps : Maps} {world : World} {state : LiveMap} {tables : Tables}
  {file next : OrderFile}

def Delivery.underWay (delivery : Delivery) : Prop := delivery.status ∈ activeTrackingStatuses

/-! ## Who is given a delivery -/

/-- The delivery a request puts under way, and the rider it is then with. -/
def Request.entrusts (env : Environment) (tables : Tables) (now : Instant) :
    Request → Option (UUID × Option UUID)
  | .claimDelivery subject deliveryId => some (deliveryId, some subject)
  | .assignDelivery _ deliveryId riderId => some (deliveryId, some riderId)
  | .autoAssignDelivery _ deliveryId maxRadiusKm locked => do
    let delivery ← tables.delivery? deliveryId
    let order ← tables.order? delivery.orderId
    let store ← (tables.store? order.storeId).bind fun store =>
      store.latitude.bind fun latitude => store.longitude.map (Point.mk latitude)
    some (deliveryId, nearestEligibleRider env tables store maxRadiusKm locked now)
  | .dispatchReadyDelivery radiusKm seen lockedDeliveries lockedRiders => do
    let delivery ← readyDelivery tables seen lockedDeliveries
    let order ← tables.order? delivery.orderId
    let store ← (tables.store? order.storeId).bind fun store =>
      store.latitude.bind fun latitude => store.longitude.map (Point.mk latitude)
    some (delivery.id, nearestEligibleRider env tables store radiusKm lockedRiders now)
  | .updateDeliveryStatus _ deliveryId .assigned =>
    (tables.delivery? deliveryId).map fun delivery => (deliveryId, delivery.deliveryPartnerId)
  | _ => none

/-- The delivery an action puts under way, where the request is accepted. -/
def World.entrusts (env : Environment) (world : World) : Action → Option (UUID × Option UUID)
  | .request settings request draws =>
    if draws.Fresh world.tables ∧
        (request.handle env settings draws (Session.start world.tables)).isOk then
      request.entrusts env world.tables draws.now
    else none
  | _ => none

/-- The latest fix of a delivery, if it has one, is this rider's. -/
def LiveMap.followed (state : LiveMap) (deliveryId : UUID) (rider : Option UUID) : Bool :=
  (latestLocation state.locations deliveryId).all fun location =>
    decide (rider = some location.deliveryPartnerId)

/-- An action gives a delivery only to the rider of its latest fix. -/
def LiveMap.keepsTrail (env : Environment) (state : LiveMap) : LiveAction → Bool
  | .act action =>
    (state.world.entrusts env action).all fun (deliveryId, rider) => state.followed deliveryId rider
  | .recordLocation .. => true

/-! ## What a step does to the deliveries under way -/

/-- But for the assignments, a delivery under way was so before, with the same rider. -/
theorem FileStep.underWay (step : FileStep event file next)
    (unassigning : event ≠ .assigned ∧ event ≠ .assignedUnclaimed)
    (carried : next.delivery = some delivery) (active : delivery.underWay) :
    ∃ before, file.delivery = some before ∧ before.underWay ∧ before.id = delivery.id ∧
      before.deliveryPartnerId = delivery.deliveryPartnerId := by
  have kept : next.delivery = file.delivery → ∃ before, file.delivery = some before ∧
      before.underWay ∧ before.id = delivery.id ∧
      before.deliveryPartnerId = delivery.deliveryPartnerId :=
    fun same => ⟨delivery, same ▸ carried, active, rfl, rfl⟩
  cases step with
  | unchanged | advanced | proofChanged | collected | resumed | intended | capturedLate
  | paymentFailed | refundClaimed | refundGivenUp | refundErrored | refundFailed | refundPending
  | refundRepeated | refundCleared | paidOut => exact kept rfl
  | placed order delivery absent undelivered status payment total own free =>
    cases carried
    simp [Delivery.underWay, free, activeTrackingStatuses] at active
  | cancelled held allowed restoredAt ensured => exact kept ensured.keptDelivery
  | assigned => exact absurd rfl unassigning.1
  | assignedUnclaimed => exact absurd rfl unassigning.2
  | released =>
    cases carried
    simp [Delivery.underWay, activeTrackingStatuses] at active
  | pickedUp held before assigned =>
    cases carried
    exact ⟨_, before, by simp [Delivery.underWay, assigned, activeTrackingStatuses], rfl, rfl⟩
  | failed =>
    cases carried
    simp [Delivery.underWay, activeTrackingStatuses] at active
  | returned held before failed out uncollected restoredAt voided ensured =>
    exact kept (ensured.keptDelivery.trans voided.kept_rows.2.1)
  | completed held before custody out gate proved verified collected now ensured =>
    cases carried.symm.trans ensured.kept_rows.2.1
    simp [Delivery.underWay, activeTrackingStatuses] at active
  | captured held attempted onTime now ensured => exact kept ensured.kept_rows.2.1
  | capturedAfterCancellation held attempted cancelled unrefunded now ensured =>
    exact kept ensured.keptDelivery
  | settlementChecked held onTime ensured => exact kept ensured.kept_rows.2.1
  | refundSucceeded owed held first providerRefundId now voided => exact kept voided.kept_rows.2.1

/-- A delivery under way was so before with the same rider, or was just entrusted. -/
def Entrusted (entrusted : Option (UUID × Option UUID)) (before after : Tables) : Prop :=
  ∀ delivery ∈ after.deliveries, delivery.underWay →
    (∃ old ∈ before.deliveries, old.underWay ∧ old.id = delivery.id ∧
      old.deliveryPartnerId = delivery.deliveryPartnerId) ∨
    entrusted = some (delivery.id, delivery.deliveryPartnerId)

theorem Entrusted.refl (tables : Tables) : Entrusted entrusted tables tables :=
  fun delivery held active => Or.inl ⟨delivery, held, active, rfl, rfl⟩

theorem Entrusted.of_moves {allowed : UUID → FileEvent → Prop}
    (moves : Moves allowed tables after)
    (unassigning : ∀ orderId event, allowed orderId event →
      event ≠ .assigned ∧ event ≠ .assignedUnclaimed)
    (quiet : ∀ orderId, allowed orderId .unchanged) : Entrusted entrusted tables after := by
  intro delivery held active
  have carried := (lookup_eq_some_iff moves.coherent.deliveryOrders).mpr ⟨held, rfl⟩
  obtain ⟨event, admitted, step⟩ := moves.file quiet delivery.orderId
  obtain ⟨old, before, under, same, rider⟩ :=
    step.underWay (unassigning _ event admitted) carried active
  exact Or.inl ⟨old, lookup_mem before, under, same, rider⟩

/-- The one row an assignment writes. -/
theorem Entrusted.putDelivery {new : Delivery}
    (named : entrusted = some (new.id, new.deliveryPartnerId))
    (deliveries : after.deliveries = put Delivery.id new tables.deliveries) :
    Entrusted entrusted tables after := by
  intro delivery held active
  rw [deliveries] at held
  rcases mem_put.mp held with ⟨rfl, -⟩ | ⟨before, -⟩
  · exact Or.inr named
  · exact Or.inl ⟨delivery, before, active, rfl, rfl⟩

/-! ## Requests -/

theorem claimDelivery_entrusts
    (ran : claimDelivery (Session.start tables) subject deliveryId draws = .ok result) :
    Entrusted (some (deliveryId, some subject)) tables result.pending := by
  simp only [claimDelivery, getCurrentUser_bind_ok, requireRoles_bind_ok, found_bind_ok,
    require_bind_ok, assignedDelivery_bind_ok, pure_ok] at ran
  obtain ⟨user, ⟨asking, -⟩, -, delivery, carried, order, -, -, rider, -, -, -, rfl⟩ := ran
  refine Entrusted.putDelivery ?_ rfl
  have own : user.id = subject := lookup_col asking
  have same : delivery.id = deliveryId := lookup_col carried
  simp only [own, same]

theorem adminAssignDelivery_entrusts
    (ran : adminAssignDelivery (Session.start tables) subject deliveryId riderId draws = .ok result) :
    Entrusted (some (deliveryId, some riderId)) tables result.pending := by
  simp only [adminAssignDelivery, requireCapability_bind_ok, found_bind_ok, require_bind_ok,
    assignedDelivery_bind_ok, pure_ok, Option.filter_eq_some_iff] at ran
  obtain ⟨_, -, -, delivery, carried, order, -, -, rider, ⟨named, -⟩, -, -, rfl⟩ := ran
  refine Entrusted.putDelivery ?_ rfl
  have own : rider.id = riderId := lookup_col named
  have same : delivery.id = deliveryId := lookup_col carried
  simp only [own, same]

theorem autoAssignDelivery_entrusts
    (ran : autoAssignDelivery env (Session.start tables) subject deliveryId maxRadiusKm locked draws =
      .ok result) :
    Entrusted
      ((Request.autoAssignDelivery subject deliveryId maxRadiusKm locked).entrusts env tables draws.now)
      tables result.pending := by
  simp only [autoAssignDelivery, requireCapability_bind_ok, found_bind_ok, require_bind_ok,
    assignedDelivery_bind_ok, pure_ok] at ran
  obtain ⟨_, -, -, -, delivery, carried, order, held, -, store, located, riderId, nearest, rider, named,
    -, -, rfl⟩ := ran
  refine Entrusted.putDelivery ?_ rfl
  have own : rider.id = riderId := lookup_col named
  have same : delivery.id = deliveryId := lookup_col carried
  have carried : tables.delivery? deliveryId = some delivery := carried
  have held : tables.order? delivery.orderId = some order := held
  simp only [Request.entrusts, carried, held, Option.bind_eq_bind, Option.bind_some, own, same]
  rw [located, Option.bind_some, nearest]

theorem dispatchReadyDelivery_entrusts
    (ran : dispatchReadyDelivery env (Session.start tables) radiusKm seen lockedDeliveries lockedRiders
      draws = .ok result) :
    Entrusted
      ((Request.dispatchReadyDelivery radiusKm seen lockedDeliveries lockedRiders).entrusts env tables
        draws.now) tables result.pending := by
  simp only [dispatchReadyDelivery, found_bind_ok, require_bind_ok, assignedDelivery_bind_ok,
    flushRows, pure_ok] at ran
  obtain ⟨delivery, picked, order, held, -, store, located, riderId, nearest, rider, named, -, -, -,
    rfl⟩ := ran
  refine Entrusted.putDelivery ?_ rfl
  have own : rider.id = riderId := lookup_col named
  have picked : readyDelivery tables seen lockedDeliveries = some delivery := picked
  have held : tables.order? delivery.orderId = some order := held
  simp only [Request.entrusts, picked, held, Option.bind_eq_bind, Option.bind_some, own]
  rw [located, Option.bind_some, nearest]

/-- The events that put a delivery into no rider's hands. -/
def FileEvent.Riderless : FileEvent → Prop
  | .assigned | .assignedUnclaimed => False
  | _ => True

theorem FileEvent.Riderless.apart (riderless : FileEvent.Riderless event) :
    event ≠ .assigned ∧ event ≠ .assignedUnclaimed := by
  constructor
  · rintro rfl
    exact riderless
  · rintro rfl
    exact riderless

/-- The status screen names nobody: a delivery it puts under way keeps its rider. -/
theorem updateDeliveryStatus_entrusts (coherent : tables.Coherent)
    (ran : updateDeliveryStatus (Session.start tables) subject deliveryId status draws = .ok result) :
    Entrusted ((Request.updateDeliveryStatus subject deliveryId status).entrusts env tables draws.now)
      tables result.pending := by
  by_cases assigns : status = .assigned
  · subst assigns
    simp only [updateDeliveryStatus, getCurrentUser_bind_ok, requireRoles_bind_ok, found_bind_ok,
      require_bind_ok] at ran
    obtain ⟨user, -, -, -, delivery, carried, ran⟩ := ran
    rw [bind_ok] at ran
    obtain ⟨_, -, ran⟩ := ran
    simp only [require_bind_ok, found_bind_ok] at ran
    obtain ⟨-, order, -, ran⟩ := ran
    rw [bind_ok] at ran
    obtain ⟨⟨nextDelivery, nextOrder⟩, effects, ran⟩ := ran
    simp only [deliveryStatusEffects, pure_ok, Prod.mk.injEq] at effects
    obtain ⟨rfl, rfl⟩ := effects
    simp only [transitionDelivery_bind_ok, pure_ok] at ran
    obtain ⟨-, rfl⟩ := ran
    refine Entrusted.putDelivery ?_ rfl
    have same : delivery.id = deliveryId := lookup_col carried
    have carried : tables.delivery? deliveryId = some delivery := carried
    simp only [Request.entrusts, carried, Option.map_some, same]
  · refine Entrusted.of_moves ((updateDeliveryStatus_moves coherent ran).mono fun _ event taken =>
      (?_ : event = .unchanged ∨ event = .pickedUp ∨ event = .released)) ?_ fun _ => Or.inl rfl
    · rcases taken with rfl | rfl | ⟨-, named, -⟩
      · exact Or.inr (Or.inl rfl)
      · exact Or.inr (Or.inr rfl)
      · exact absurd named assigns
    · rintro _ _ (rfl | rfl | rfl) <;> exact FileEvent.Riderless.apart trivial

/-- A request that is accepted entrusts what its commit shows. -/
theorem World.request_entrusted (settings : Settings) (request : Request) (draws : Draws)
    (handled : ∀ result, request.handle env settings draws (Session.start world.tables) = .ok result →
      Entrusted (request.entrusts env world.tables draws.now) world.tables result.pending) :
    Entrusted (world.entrusts env (.request settings request draws)) world.tables
      (world.request env settings request draws).tables := by
  unfold World.request
  split
  case isFalse => exact .refl _
  case isTrue fresh =>
  split
  case h_2 => exact .refl _
  case h_1 result ran =>
  have named : world.entrusts env (.request settings request draws) =
      request.entrusts env world.tables draws.now := if_pos ⟨fresh, by rw [ran]; rfl⟩
  rw [named]
  unfold World.commit Database.commit
  dsimp only [World.tables]
  split
  · exact handled result ran
  · exact .refl _

/-- One step puts a delivery under way only by entrusting it. -/
theorem World.step_entrusted (coherent : world.tables.Coherent) (action : Action) :
    Entrusted (world.entrusts env action) world.tables (world.step env action).tables := by
  have others : (∀ event, action.mayCause event → event.Riderless) →
      Entrusted (world.entrusts env action) world.tables (world.step env action).tables := by
    intro unassigning
    refine Entrusted.of_moves (World.step_events coherent action) ?_ fun _ => Or.inl rfl
    rintro _ event (rfl | caused)
    · exact FileEvent.Riderless.apart trivial
    · exact (unassigning event caused).apart
  cases action with
  | request settings request draws =>
    cases request with
    | claimDelivery subject deliveryId =>
      exact world.request_entrusted settings _ draws fun _ ran => claimDelivery_entrusts ran
    | assignDelivery subject deliveryId riderId =>
      exact world.request_entrusted settings _ draws fun _ ran => adminAssignDelivery_entrusts ran
    | autoAssignDelivery subject deliveryId maxRadiusKm locked =>
      exact world.request_entrusted settings _ draws fun _ ran => autoAssignDelivery_entrusts ran
    | dispatchReadyDelivery radiusKm seen lockedDeliveries lockedRiders =>
      exact world.request_entrusted settings _ draws fun _ ran => dispatchReadyDelivery_entrusts ran
    | updateDeliveryStatus subject deliveryId status =>
      exact world.request_entrusted settings _ draws fun _ ran =>
        updateDeliveryStatus_entrusts coherent ran
    | updateOrderStatus subject orderId status =>
      refine others fun event caused => ?_
      simp only [Action.mayCause, Request.events] at caused
      split at caused <;> simp only [List.mem_cons, List.not_mem_nil, or_false] at caused
      · rcases caused with rfl | rfl <;> exact trivial
      · exact caused ▸ trivial
    | resolveFailedDelivery subject deliveryId resolution notes =>
      refine others fun event caused => ?_
      cases resolution <;>
        simp only [Action.mayCause, Request.events, List.mem_cons, List.not_mem_nil, or_false] at caused
      · exact caused ▸ trivial
      · rcases caused with rfl | rfl <;> exact trivial
    | verifyPayment subject payload =>
      refine others fun event caused => ?_
      simp only [Action.mayCause, Request.events, List.mem_cons, List.not_mem_nil, or_false] at caused
      rcases caused with rfl | rfl | rfl <;> exact trivial
    | webhook request =>
      refine others fun event caused => ?_
      rcases caused with rfl | ⟨_, rfl⟩ | ⟨_, rfl⟩ <;> exact trivial
    | _ =>
      refine others fun event caused => ?_
      simp only [Action.mayCause, Request.events, List.mem_singleton] at caused
      exact caused ▸ trivial
  | claimNext index now =>
    refine others fun event caused => ?_
    rcases caused with rfl | rfl <;> exact trivial
  | recordAnswer index draws =>
    refine others fun event caused => ?_
    rcases caused with rfl | ⟨_, rfl⟩ <;> exact trivial
  | commitRetry index => exact others fun event caused => caused ▸ trivial
  | payOut entryId now => exact others fun event caused => caused ▸ trivial
  | _ => exact others fun _ caused => caused.elim

/-! ## The latest fix -/

/-- A fix of another delivery changes nothing here. -/
theorem latestLocation_append_other (other : location.deliveryId ≠ deliveryId) :
    latestLocation (locations ++ [location]) deliveryId = latestLocation locations deliveryId := by
  simp only [latestLocation, belonging, List.filter_append]
  rw [List.filter_singleton, decide_eq_false other]
  simp

/-- A fix newer than the latest one is the latest. -/
theorem latestLocation_append (own : location.deliveryId = deliveryId)
    (newer : ∀ latest, latestLocation locations deliveryId = some latest →
      latest.recordedAt < location.recordedAt) :
    latestLocation (locations ++ [location]) deliveryId = some location := by
  unfold latestLocation latest at newer ⊢
  have appended : belonging DeliveryLocation.deliveryId deliveryId (locations ++ [location]) =
      belonging DeliveryLocation.deliveryId deliveryId locations ++ [location] := by
    simp [belonging, List.filter_append, own]
  rw [appended, List.argmax_concat]
  cases found : List.argmax DeliveryLocation.recordedAt
      (belonging DeliveryLocation.deliveryId deliveryId locations) with
  | none => rfl
  | some latest => exact if_pos (newer latest found)

theorem requirePlausible_newer (passed : requirePlausible maps payload previous = .ok value) :
    previous.recordedAt < payload.recordedAt := by
  simp only [requirePlausible, require_bind_ok] at passed
  exact passed.1

/-- An accepted fix is the reporting rider's, newer than any of the delivery it is for. -/
theorem hardenedRecordDeliveryLocation_ok
    (ran : hardenedRecordDeliveryLocation maps tables locations subject deliveryId payload now
      locationId = .ok location) :
    ∃ delivery, tables.delivery? deliveryId = some delivery ∧ location.id = locationId ∧
      location.deliveryId = delivery.id ∧
      delivery.deliveryPartnerId = some location.deliveryPartnerId ∧
      ∀ latest, latestLocation locations delivery.id = some latest →
        latest.recordedAt < location.recordedAt := by
  simp only [hardenedRecordDeliveryLocation, getCurrentUser_bind_ok, requireRoles_bind_ok,
    found_bind_ok, require_bind_ok] at ran
  obtain ⟨rider, -, -, -, delivery, carried, own, -, -, -, -, -, ran⟩ := ran
  cases found : latestLocation locations delivery.id with
  | none =>
    rw [found] at ran
    cases ran
    exact ⟨delivery, carried, rfl, rfl, own, fun latest same => by cases found.symm.trans same⟩
  | some previous =>
    rw [found] at ran
    dsimp only at ran
    rw [bind_ok] at ran
    obtain ⟨_, passed, ran⟩ := ran
    cases ran
    refine ⟨delivery, carried, rfl, rfl, own, fun latest same => ?_⟩
    cases found.symm.trans same
    exact requirePlausible_newer passed

/-! ## Runs -/

/-- The latest fix of every delivery under way is its rider's. -/
structure LiveMap.Trailed (state : LiveMap) : Prop where
  coherent : state.tables.Coherent
  followed : ∀ delivery ∈ state.tables.deliveries, delivery.underWay →
    state.followed delivery.id delivery.deliveryPartnerId

theorem LiveMap.Trailed.act (maps : Maps) {action : Action} (trailed : state.Trailed)
    (coherent : (state.world.step env action).tables.Coherent)
    (kept : state.keepsTrail env (.act action)) : (state.step env maps (.act action)).Trailed where
  coherent := coherent
  followed := by
    intro delivery held active
    rcases state.world.step_entrusted trailed.coherent action delivery held active with
      ⟨old, before, under, same, rider⟩ | entrusted
    · rw [← same, ← rider]
      exact trailed.followed old before under
    · simp only [LiveMap.keepsTrail, entrusted, Option.all_some] at kept
      exact kept

theorem LiveMap.Trailed.recordLocation (env : Environment) (maps : Maps) (trailed : state.Trailed) :
    (state.step env maps (.recordLocation subject deliveryId payload now locationId)).Trailed := by
  simp only [LiveMap.step]
  split
  case isFalse => exact trailed
  case isTrue =>
  split
  case h_2 => exact trailed
  case h_1 location ran =>
  obtain ⟨delivery, carried, -, own, rider, newer⟩ := hardenedRecordDeliveryLocation_ok ran
  refine ⟨trailed.coherent, fun other held active => ?_⟩
  unfold LiveMap.followed
  by_cases same : other.id = delivery.id
  · have one : other = delivery :=
      unique_eq trailed.coherent.deliveryIds held (lookup_mem carried) same
    subst one
    dsimp only
    rw [latestLocation_append own newer, Option.all_some, rider]
    exact decide_eq_true rfl
  · have elsewhere : location.deliveryId ≠ other.id := fun agree => same (agree.symm.trans own)
    dsimp only
    rw [latestLocation_append_other elsewhere]
    exact trailed.followed other held active

theorem reachable_world (reached : Reachable (liveSystem env maps) state) :
    Reachable (system env) state.world := by
  induction reached with
  | initial => exact .initial
  | @next state action _ _ ih =>
    cases action with
    | act action => exact ih.step action
    | recordLocation subject deliveryId payload now locationId =>
      have same : ((liveSystem env maps).step state
          (.recordLocation subject deliveryId payload now locationId)).world = state.world := by
        simp only [liveSystem, LiveMap.step]
        repeat' split
        all_goals rfl
      rw [same]
      exact ih

theorem reachable_trailed (reached : ReachableWhile (liveSystem env maps)
    (fun state action => state.keepsTrail env action) state) : state.Trailed := by
  refine reached.invariant_given (Q := Reachable (liveSystem env maps))
    ⟨Tables.Coherent.of_empty, fun _ held => by cases held⟩ (fun _ before => before) ?_
  intro state action before trailed kept
  cases action with
  | act action =>
    exact trailed.act maps
      (reachable_coherent ((reachable_world before).step action)) kept
  | recordLocation => exact trailed.recordLocation env maps

/-! ## What the screens show -/

theorem trackingContext_bind_ok {next : Order × Option Delivery × Option Store × Option Address →
    Handler β} (ran : (trackingContext tables orderId user >>= next) = .ok result) :
    ∃ order store address, order.id = orderId ∧
      next (order, lookup Delivery.orderId orderId tables.deliveries, store, address) = .ok result := by
  simp only [trackingContext, bind_assoc, ensureAdminCapability_bind_ok, found_bind_ok,
    require_bind_ok, pure_bind] at ran
  obtain ⟨-, order, held, -, ran⟩ := ran
  have own : order.id = orderId := lookup_col held
  rw [own] at ran
  exact ⟨order, _, _, own, ran⟩

/-- A fix is looked up for a delivery under way. -/
theorem LiveMap.Trailed.locationWhile (trailed : state.Trailed) {statuses : List DeliveryStatus}
    (within : statuses ⊆ activeTrackingStatuses)
    (found : locationWhile statuses state.locations
      (lookup Delivery.orderId orderId state.tables.deliveries) = some location) :
    ∃ delivery ∈ state.tables.deliveries, delivery.orderId = orderId ∧
      latestLocation state.locations delivery.id = some location ∧
      delivery.deliveryPartnerId = some location.deliveryPartnerId := by
  simp only [GaonOne.locationWhile, Option.bind_eq_some_iff, Option.filter_eq_some_iff,
    decide_eq_true_eq] at found
  obtain ⟨delivery, ⟨carried, status⟩, latest⟩ := found
  have followed := trailed.followed delivery (lookup_mem carried) (within status)
  simp only [LiveMap.followed, latest, Option.all_some, decide_eq_true_eq] at followed
  exact ⟨delivery, lookup_mem carried, lookup_col carried, latest, followed⟩

/-- Whoever looks, the position on the tracking screen and the origin of the route are
the latest fix of the order's delivery, and the rider who recorded it holds the delivery. -/
structure LiveMap.ShowsCurrentRider (maps : Maps) (state : LiveMap) : Prop where
  tracking : ∀ subject orderId now view,
    orderTracking state.tables state.locations subject orderId now = .ok view →
    ∀ shown, view.rider = some shown → ∃ delivery ∈ state.tables.deliveries,
      delivery.orderId = orderId ∧ ∃ location,
        latestLocation state.locations delivery.id = some location ∧
        locationRead location = shown ∧
        delivery.deliveryPartnerId = some location.deliveryPartnerId
  route : ∀ subject orderId now limitRoute route,
    orderRoute maps state.tables state.locations subject orderId now limitRoute = .ok route →
    route.origin ≠ {} → ∃ delivery ∈ state.tables.deliveries,
      delivery.orderId = orderId ∧ ∃ location,
        latestLocation state.locations delivery.id = some location ∧
        routeOrigin (some location) = route.origin ∧
        delivery.deliveryPartnerId = some location.deliveryPartnerId

theorem orderRoute_origin
    (ran : orderRoute maps tables locations subject orderId now limitRoute = .ok route) :
    route.origin = routeOrigin
      (locationWhile [.pickedUp] locations (lookup Delivery.orderId orderId tables.deliveries)) := by
  simp only [orderRoute, getCurrentUser_bind_ok] at ran
  obtain ⟨user, -, ran⟩ := ran
  obtain ⟨order, store, address, -, ran⟩ := trackingContext_bind_ok ran
  dsimp only at ran
  generalize locationWhile [.pickedUp] locations
    (lookup Delivery.orderId orderId tables.deliveries) = latest at ran
  split at ran
  · split at ran
    · rw [bind_ok] at ran
      obtain ⟨_, -, ran⟩ := ran
      split at ran <;> cases ran <;> rfl
    · cases ran
      rfl
  · cases ran
    rfl

/-- Where no delivery is given to a rider whose fix is not its latest, the screens show
the current rider. -/
theorem tracking_shows_current_rider (reached : ReachableWhile (liveSystem env maps)
    (fun state action => state.keepsTrail env action) state) : state.ShowsCurrentRider maps := by
  have trailed := reachable_trailed reached
  constructor
  · intro subject orderId now view ran shown visible
    simp only [orderTracking, getCurrentUser_bind_ok] at ran
    obtain ⟨user, -, ran⟩ := ran
    obtain ⟨order, store, address, -, ran⟩ := trackingContext_bind_ok ran
    cases ran
    obtain ⟨location, found, rfl⟩ := Option.map_eq_some_iff.mp visible
    obtain ⟨delivery, held, own, latest, rider⟩ :=
      trailed.locationWhile (List.Subset.refl _) found
    exact ⟨delivery, held, own, location, latest, rfl, rider⟩
  · intro subject orderId now limitRoute route ran located
    have origin := orderRoute_origin ran
    cases found : locationWhile [.pickedUp] state.locations
        (lookup Delivery.orderId orderId state.tables.deliveries) with
    | none =>
      rw [found] at origin
      exact absurd origin located
    | some location =>
      obtain ⟨delivery, held, own, latest, rider⟩ := trailed.locationWhile (by simp
        [activeTrackingStatuses]) found
      exact ⟨delivery, held, own, location, latest, (origin.trans (congrArg _ found)).symm, rider⟩

/-! ## A reassigned delivery -/

def sampleMaps : Maps where
  distanceM := fun _ _ => 0
  enabled := false
  computeRoute := fun _ _ => none

def sampleFix : DeliveryLocationCreate := ⟨20, 77, some 10, none, none, 8000⟩

/-- A cash order that rider 4 claims, and whose rider then reports a fix. -/
def reportedDelivery : List LiveAction :=
  (placement .cod ++
    [Action.editCatalogue { sampleCatalogue with
      users := sampleCatalogue.users ++ [⟨5, .delivery, false, true, true⟩] }] ++
    preparation 2 ++ [sampleRequest 6 (.claimDelivery 4 1)]).map .act ++
    [.recordLocation 4 1 sampleFix 8000 1]

/-- The administrator takes the delivery from rider 4 and gives it to rider 5. -/
def reassignedDelivery : List LiveAction :=
  reportedDelivery ++
    [.act (sampleRequest 9 (.unassignDelivery 3 1)), .act (sampleRequest 10 (.assignDelivery 3 1 5))]

def sampleMap (actions : List LiveAction) : LiveMap :=
  (liveSystem sampleEnvironment sampleMaps).run (liveSystem sampleEnvironment sampleMaps).initial actions

theorem tracking_shows_current_rider_claimed :
    RunWhile (liveSystem sampleEnvironment sampleMaps)
      (fun state action => state.keepsTrail sampleEnvironment action)
      (liveSystem sampleEnvironment sampleMaps).initial reportedDelivery ∧
      (sampleMap reportedDelivery).ShowsCurrentRider sampleMaps := by
  have admitted : RunWhile (liveSystem sampleEnvironment sampleMaps)
      (fun state action => state.keepsTrail sampleEnvironment action)
      (liveSystem sampleEnvironment sampleMaps).initial reportedDelivery := by
    decide +kernel
  exact ⟨admitted, tracking_shows_current_rider (ReachableWhile.initial.run _ admitted)⟩

/-- Whether the customer of order 1 is shown a position. -/
def positionShown (state : LiveMap) : Bool :=
  match orderTracking state.tables state.locations 1 1 9000 with
  | .ok view => view.rider.isSome
  | .error _ => false

/-- The customer is shown where the former rider is. -/
theorem tracking_shows_former_rider :
    ¬∀ (env : Environment) (maps : Maps) (state : LiveMap),
      Reachable (liveSystem env maps) state → state.ShowsCurrentRider maps := by
  intro always
  have shows := always sampleEnvironment sampleMaps (sampleMap reassignedDelivery)
    (Reachable.run ReachableWhile.initial reassignedDelivery)
  have visible : positionShown (sampleMap reassignedDelivery) = true := by decide +kernel
  have others : ∀ delivery ∈ (sampleMap reassignedDelivery).tables.deliveries,
      (sampleMap reassignedDelivery).followed delivery.id delivery.deliveryPartnerId = false := by
    decide +kernel
  unfold positionShown at visible
  split at visible
  · next view ran =>
    obtain ⟨shown, position⟩ := Option.isSome_iff_exists.mp visible
    obtain ⟨delivery, held, -, location, latest, -, rider⟩ :=
      shows.tracking 1 1 9000 view ran shown position
    have wrong := others delivery held
    simp only [LiveMap.followed, latest, Option.all_some, rider] at wrong
    simp at wrong
  · exact Bool.false_ne_true visible

end GaonOne
