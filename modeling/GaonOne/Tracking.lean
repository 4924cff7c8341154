import GaonOne.World

/-! Live tracking. A rider's fixes are stored with the delivery they were reported
for; the tracking and route screens show the latest one of the delivery. -/
namespace GaonOne
open Relational UnitOfWork Transitions

/-- A fix a rider reported. -/
structure DeliveryLocation where
  id : UUID
  deliveryId : UUID
  deliveryPartnerId : UUID
  latitude : ℚ
  longitude : ℚ
  accuracyM : Option ℚ
  headingDeg : Option ℚ
  speedMps : Option ℚ
  recordedAt : Instant
  deriving DecidableEq

/-- `DeliveryLocationCreate`; its time carries a timezone. -/
structure DeliveryLocationCreate where
  latitude : ℚ
  longitude : ℚ
  accuracyM : Option ℚ
  headingDeg : Option ℚ
  speedMps : Option ℚ
  recordedAt : Instant

/-- A reported value, where there is one, lies in its range. -/
def reportedIn (lower upper : ℚ) (value : Option ℚ) : Bool :=
  value.all fun reported => decide (lower ≤ reported ∧ reported ≤ upper)

def DeliveryLocationCreate.valid (payload : DeliveryLocationCreate) : Bool :=
  decide (-90 ≤ payload.latitude ∧ payload.latitude ≤ 90) &&
  decide (-180 ≤ payload.longitude ∧ payload.longitude ≤ 180) &&
  reportedIn 0 5000 payload.accuracyM &&
  payload.headingDeg.all (fun heading => decide (0 ≤ heading ∧ heading < 360)) &&
  reportedIn 0 100 payload.speedMps

/-- `RouteResult`. -/
structure RouteResult where
  distanceMeters : Int
  durationSeconds : Int
  encodedPolyline : String

/-- The distance two fixes are judged by, and the maps outside this code. -/
structure Maps where
  /-- `_distance_m`, in metres: the haversine formula of this code, which is real arithmetic
  and stays a parameter. What is relied on is that it is a distance on a round surface. -/
  distanceM : Point → Point → ℚ
  enabled : Bool
  /-- `compute_route`, where it is asked. -/
  computeRoute : Point → Point → Option RouteResult

def activeTrackingStatuses : List DeliveryStatus := [.assigned, .pickedUp]

def minLocationInterval : Nat := 5 * 1000000
def freshRouteLocation : Nat := 30 * 1000000
def maxPlausibleSpeedMps : ℚ := 55
def maxReportedSpeedMps : ℚ := 60

/-- `_latest_location`. -/
def latestLocation (locations : List DeliveryLocation) (deliveryId : UUID) :
    Option DeliveryLocation :=
  latest DeliveryLocation.recordedAt (belonging DeliveryLocation.deliveryId deliveryId locations)

/-- What a new fix must satisfy beside the latest one of its delivery. -/
def requirePlausible (maps : Maps) (payload : DeliveryLocationCreate) (latest : DeliveryLocation) :
    Handler Unit := do
  require (latest.recordedAt < payload.recordedAt)
    ⟨409, "Location timestamp must be newer than the previous update"⟩
  let elapsed := payload.recordedAt - latest.recordedAt
  require (minLocationInterval ≤ elapsed)
    ⟨429, "Location updates are limited to one every 5 seconds"⟩
  let distance := maps.distanceM ⟨latest.latitude, latest.longitude⟩
    ⟨payload.latitude, payload.longitude⟩
  require (distance / (elapsed / 1000000) ≤ maxPlausibleSpeedMps)
    ⟨422, "Location jump is physically implausible"⟩

/-- `POST /delivery/{delivery_id}/location`: the row it inserts. -/
def hardenedRecordDeliveryLocation (maps : Maps) (db : Tables) (locations : List DeliveryLocation)
    (subject deliveryId : UUID) (payload : DeliveryLocationCreate) (now : Instant)
    (locationId : UUID) : Handler DeliveryLocation := do
  let rider ← getCurrentUser db subject
  requireRoles rider [.delivery]
  require payload.valid ⟨422, "DeliveryLocationCreate"⟩
  let delivery ← found (db.delivery? deliveryId) ⟨404, "Delivery not found"⟩
  require (delivery.deliveryPartnerId = some rider.id) ⟨403, "Delivery is not assigned to you"⟩
  require (delivery.status ∈ activeTrackingStatuses)
    ⟨409, "Live location is only accepted during an active delivery"⟩
  require (payload.recordedAt ≤ now + 5 * 60000000)
    ⟨422, "Location timestamp is too far in the future"⟩
  require (now ≤ payload.recordedAt + 30 * 60000000) ⟨422, "Location timestamp is too old"⟩
  require (payload.accuracyM.all (fun accuracy => decide (accuracy ≤ 500)))
    ⟨422, "Location accuracy is too poor"⟩
  require (payload.speedMps.all (fun speed => decide (speed ≤ maxReportedSpeedMps)))
    ⟨422, "Reported rider speed is implausible"⟩
  match latestLocation locations delivery.id with
  | none => pure ()
  | some latest => requirePlausible maps payload latest
  pure
    { id := locationId, deliveryId := delivery.id, deliveryPartnerId := rider.id
      latitude := payload.latitude, longitude := payload.longitude, accuracyM := payload.accuracyM
      headingDeg := payload.headingDeg, speedMps := payload.speedMps
      recordedAt := payload.recordedAt }

/-! ## The screens -/

/-- `DeliveryLocationRead`: the row without its rider. -/
structure DeliveryLocationRead where
  id : UUID
  deliveryId : UUID
  latitude : ℚ
  longitude : ℚ
  accuracyM : Option ℚ
  headingDeg : Option ℚ
  speedMps : Option ℚ
  recordedAt : Instant
  deriving DecidableEq

def locationRead (location : DeliveryLocation) : DeliveryLocationRead :=
  ⟨location.id, location.deliveryId, location.latitude, location.longitude, location.accuracyM,
    location.headingDeg, location.speedMps, location.recordedAt⟩

/-- `TrackingPoint`. -/
structure TrackingPoint where
  latitude : Option ℚ := none
  longitude : Option ℚ := none
  label : Option String := none
  deriving DecidableEq

structure OrderTrackingRead where
  orderId : UUID
  orderNumber : String
  orderStatus : OrderStatus
  deliveryId : Option UUID
  deliveryStatus : Option DeliveryStatus
  trackingActive : Bool
  store : TrackingPoint
  customer : TrackingPoint
  rider : Option DeliveryLocationRead
  riderLocationAgeSeconds : Option Nat

structure RouteRead where
  available : Bool
  provider : String
  origin : TrackingPoint
  destination : TrackingPoint
  result : Option RouteResult := none

/-- `_can_view_tracking`. -/
def canViewTracking (db : Tables) (order : Order) (delivery : Option Delivery) (user : User) : Bool :=
  decide (user.role = .admin) || decide (order.userId = user.id) ||
  delivery.any (fun carried => decide (carried.deliveryPartnerId = some user.id)) ||
  (decide (user.role = .merchant) &&
    (lookup Merchant.ownerUserId user.id db.catalogue.merchants).any fun merchant =>
      (db.store? order.storeId).any fun store => decide (store.merchantId = merchant.id))

/-- `_tracking_context`. -/
def trackingContext (db : Tables) (orderId : UUID) (user : User) :
    Handler (Order × Option Delivery × Option Store × Option Address) := do
  ensureAdminCapability user .orderRead
  let order ← found (db.order? orderId) ⟨404, "Order not found"⟩
  let delivery := lookup Delivery.orderId order.id db.deliveries
  require (canViewTracking db order delivery user) ⟨403, "You cannot view tracking for this order"⟩
  pure (order, delivery, db.store? order.storeId,
    lookup Address.id order.addressId db.catalogue.addresses)

/-- The latest fix of a delivery that stands where the screen looks for one. -/
def locationWhile (statuses : List DeliveryStatus) (locations : List DeliveryLocation)
    (delivery : Option Delivery) : Option DeliveryLocation :=
  (delivery.filter fun carried => decide (carried.status ∈ statuses)).bind fun carried =>
    latestLocation locations carried.id

/-- `GET /orders/{order_id}/tracking`. -/
def orderTracking (db : Tables) (locations : List DeliveryLocation)
    (subject orderId : UUID) (now : Instant) : Handler OrderTrackingRead := do
  let user ← getCurrentUser db subject
  let (order, delivery, store, address) ← trackingContext db orderId user
  let latest := locationWhile activeTrackingStatuses locations delivery
  pure
    { orderId := order.id, orderNumber := order.orderNumber, orderStatus := order.status
      deliveryId := delivery.map (·.id), deliveryStatus := delivery.map (·.status)
      trackingActive := delivery.any fun carried => decide (carried.status ∈ activeTrackingStatuses)
      store :=
        { latitude := store.bind (·.latitude), longitude := store.bind (·.longitude)
          label := store.map (·.name) }
      customer :=
        { latitude := address.bind (·.latitude), longitude := address.bind (·.longitude)
          label := address.map fun held => held.landmark }
      rider := latest.map locationRead
      riderLocationAgeSeconds := latest.map fun location => (now - location.recordedAt) / 1000000 }

/-- `_location_is_fresh`. -/
def locationIsFresh (location : DeliveryLocation) (now : Instant) : Bool :=
  decide (location.recordedAt ≤ now ∧ now ≤ location.recordedAt + freshRouteLocation)

/-- Where a route starts: the latest fix. -/
def routeOrigin (latest : Option DeliveryLocation) : TrackingPoint where
  latitude := latest.map (·.latitude)
  longitude := latest.map (·.longitude)
  label := latest.map fun _ => "Delivery partner"

/-- `GET /orders/{order_id}/route`, with what the rate limiter answers. -/
def orderRoute (maps : Maps) (db : Tables) (locations : List DeliveryLocation)
    (subject orderId : UUID) (now : Instant) (limitRoute : Handler Unit) : Handler RouteRead := do
  let user ← getCurrentUser db subject
  let (_, delivery, _, address) ← trackingContext db orderId user
  let latest := locationWhile [.pickedUp] locations delivery
  let origin := routeOrigin latest
  let destination : TrackingPoint :=
    { latitude := address.bind (·.latitude), longitude := address.bind (·.longitude)
      label := some ((address.map fun held => held.landmark).getD "Delivery address") }
  let unavailable : RouteRead :=
    { available := false, provider := "none", origin := origin, destination := destination }
  match latest, destination.latitude, destination.longitude with
  | some location, some latitude, some longitude =>
    if locationIsFresh location now && maps.enabled then do
      limitRoute
      match maps.computeRoute ⟨location.latitude, location.longitude⟩ ⟨latitude, longitude⟩ with
      | none => pure { unavailable with provider := "google" }
      | some result =>
        pure { unavailable with available := true, provider := "google", result := some result }
    else pure unavailable
  | _, _, _ => pure unavailable

/-! ## The system with its fixes -/

/-- The world, and the table of fixes. -/
structure LiveMap where
  world : World
  locations : List DeliveryLocation := []

inductive LiveAction where
  | act (action : Action)
  | recordLocation (subject deliveryId : UUID) (payload : DeliveryLocationCreate) (now : Instant)
      (locationId : UUID)

namespace LiveMap

abbrev tables (state : LiveMap) : Tables := state.world.tables

/-- A report holds its delivery's row to the end, so it is one step. -/
def step (env : Environment) (maps : Maps) (state : LiveMap) : LiveAction → LiveMap
  | .act action => { state with world := state.world.step env action }
  | .recordLocation subject deliveryId payload now locationId =>
    if lookup DeliveryLocation.id locationId state.locations = none then
      match hardenedRecordDeliveryLocation maps state.tables state.locations subject deliveryId
        payload now locationId with
      | .ok location => { state with locations := state.locations ++ [location] }
      | .error _ => state
    else state

end LiveMap

/-- The system, for one behaviour of its surroundings. -/
def liveSystem (env : Environment) (maps : Maps) : System LiveMap LiveAction where
  initial := { world := World.empty }
  step := LiveMap.step env maps

end GaonOne
