import GaonOne.Library.Distances
import GaonOne.Tracking

/-! What a rider's report is judged against: the latest fix of the delivery, whoever
recorded it. Two states that differ only in what earlier riders left may judge the
same report differently; they judge all reports alike exactly when their latest fixes
are of one instant and one place. -/
namespace GaonOne
open Relational UnitOfWork

variable {maps : Maps} {one two : LiveMap} {subject deliveryId : UUID}

/-- The fixes one rider recorded for a delivery. -/
def ownLocations (locations : List DeliveryLocation) (deliveryId rider : UUID) :
    List DeliveryLocation :=
  locations.filter fun location =>
    decide (location.deliveryId = deliveryId ∧ location.deliveryPartnerId = rider)

/-- Two states that a rider cannot tell apart: who is asking, the delivery's rider and
status, and what that rider recorded for it. -/
structure SameReports (subject deliveryId : UUID) (one two : LiveMap) : Prop where
  user : one.tables.user? subject = two.tables.user? subject
  delivery : (one.tables.delivery? deliveryId).map (fun row => (row.deliveryPartnerId, row.status)) =
    (two.tables.delivery? deliveryId).map (fun row => (row.deliveryPartnerId, row.status))
  own : ∀ row rider, one.tables.delivery? deliveryId = some row → row.deliveryPartnerId = some rider →
    ownLocations one.locations deliveryId rider = ownLocations two.locations deliveryId rider

/-- Every report, at every instant, is answered the same in both states. -/
def JudgedAlike (maps : Maps) (subject deliveryId : UUID) (one two : LiveMap) : Prop :=
  ∀ payload now locationId,
    hardenedRecordDeliveryLocation maps one.tables one.locations subject deliveryId payload now
        locationId =
      hardenedRecordDeliveryLocation maps two.tables two.locations subject deliveryId payload now
        locationId

/-- The subject is an active rider who carries the delivery. -/
def Carries (subject deliveryId : UUID) (state : LiveMap) : Prop :=
  ∃ rider delivery, state.tables.user? subject = some rider ∧ rider.isActive ∧
    rider.role = .delivery ∧ state.tables.delivery? deliveryId = some delivery ∧
    delivery.deliveryPartnerId = some rider.id ∧ delivery.status ∈ activeTrackingStatuses

/-- Where a rider was. -/
def DeliveryLocation.place (location : DeliveryLocation) : Point := ⟨location.latitude, location.longitude⟩

/-- No faster than plausible, a rider gets from a fix to a point by an instant. -/
def reachableBy (maps : Maps) (location : DeliveryLocation) (place : Point) (at_ : Instant) : Prop :=
  maps.distanceM location.place place /
    (((at_ - location.recordedAt : Nat) : ℚ) / 1000000) ≤ maxPlausibleSpeedMps

instance (maps : Maps) (location : DeliveryLocation) (place : Point) (at_ : Instant) :
    Decidable (reachableBy maps location place at_) := inferInstanceAs (Decidable (_ ≤ _))

/-- A point of the globe. -/
def onGlobe (place : Point) : Prop :=
  (-90 ≤ place.latitude ∧ place.latitude ≤ 90) ∧ -180 ≤ place.longitude ∧ place.longitude ≤ 180

/-- The latest fixes are one: there is none, or they are of one instant and one place. -/
def SameFix (maps : Maps) : Option DeliveryLocation → Option DeliveryLocation → Prop
  | none, none => True
  | some left, some right =>
    left.recordedAt = right.recordedAt ∧ maps.distanceM left.place right.place = 0
  | _, _ => False

/-- Half of a great circle is longer than this, in metres. -/
def acrossGlobe : ℚ := 20000000

/-- What `_distance_m` computes, rounding aside: a distance on the globe. -/
abbrev Maps.Measures (maps : Maps) : Prop := Distances.Round maps.distanceM onGlobe acrossGlobe

/-! ## One report -/

/-- The check against the latest fix, where there is one. -/
def judged (maps : Maps) (payload : DeliveryLocationCreate) : Option DeliveryLocation → Handler Unit
  | none => pure ()
  | some latest => requirePlausible maps payload latest

theorem requirePlausible_eq (maps : Maps) (payload : DeliveryLocationCreate)
    (latest : DeliveryLocation) : requirePlausible maps payload latest =
      if latest.recordedAt < payload.recordedAt then
        if latest.recordedAt + minLocationInterval ≤ payload.recordedAt then
          require (reachableBy maps latest ⟨payload.latitude, payload.longitude⟩ payload.recordedAt)
            ⟨422, "Location jump is physically implausible"⟩
        else .error ⟨429, "Location updates are limited to one every 5 seconds"⟩
      else .error ⟨409, "Location timestamp must be newer than the previous update"⟩ := by
  by_cases newer : latest.recordedAt < payload.recordedAt
  · by_cases apart : latest.recordedAt + minLocationInterval ≤ payload.recordedAt
    · have elapsed : minLocationInterval ≤ payload.recordedAt - latest.recordedAt :=
        Nat.le_sub_of_add_le' apart
      simp only [requirePlausible, require, newer, elapsed, apart, if_true]
      rfl
    · have elapsed : ¬minLocationInterval ≤ payload.recordedAt - latest.recordedAt := fun short =>
        apart ((Nat.le_sub_iff_add_le' (Nat.le_of_lt newer)).mp short)
      simp only [requirePlausible, require, newer, elapsed, apart, if_true, if_false]
      rfl
  · simp only [requirePlausible, require, newer, if_false]
    rfl

/-- One fix judges every report alike. -/
theorem judged_alike (measures : maps.Measures) {left right : Option DeliveryLocation}
    (same : SameFix maps left right) (payload : DeliveryLocationCreate) :
    judged maps payload left = judged maps payload right := by
  match left, right with
  | none, none => rfl
  | some left, some right =>
    obtain ⟨instant, here⟩ := same
    simp only [judged, requirePlausible_eq, ← instant, reachableBy, measures.eq_of_zero here]
  | none, some _ => exact same.elim
  | some _, none => exact same.elim

/-- Five seconds after a fix, whatever is within 275 metres can be reached. -/
theorem reachableBy_iff (maps : Maps) (fix : DeliveryLocation) (place : Point) :
    reachableBy maps fix place (fix.recordedAt + minLocationInterval) ↔
      maps.distanceM fix.place place ≤ 5 * maxPlausibleSpeedMps := by
  have elapsed : ((fix.recordedAt + minLocationInterval - fix.recordedAt : Nat) : ℚ) / 1000000 = 5 := by
    rw [Nat.add_sub_cancel_left, minLocationInterval]
    norm_num
  rw [reachableBy, elapsed, div_le_iff₀ (by norm_num), mul_comm]

/-- Past a check, only what follows it counts. -/
theorem require_bind_congr {check : Prop} [Decidable check] {error : HTTPException}
    {first second : Unit → Handler β} (agree : check → first () = second ()) :
    (require check error >>= first) = (require check error >>= second) := by
  by_cases held : check
  · simp only [require, if_pos held]
    exact agree held
  · simp only [require, if_neg held]
    rfl

/-- The row a report stores. -/
def reportedRow (deliveryId riderId locationId : UUID) (payload : DeliveryLocationCreate) :
    DeliveryLocation :=
  ⟨locationId, deliveryId, riderId, payload.latitude, payload.longitude, payload.accuracyM,
    payload.headingDeg, payload.speedMps, payload.recordedAt⟩

/-- A report with its checks in a row. -/
theorem hardenedRecordDeliveryLocation_eq (maps : Maps) (state : LiveMap)
    (payload : DeliveryLocationCreate) (now : Instant) (locationId : UUID) :
    hardenedRecordDeliveryLocation maps state.tables state.locations subject deliveryId payload now
        locationId = (do
      let rider ← found ((state.tables.user? subject).filter (·.isActive)) ⟨401, "User not available"⟩
      requireRoles rider [.delivery]
      require payload.valid ⟨422, "DeliveryLocationCreate"⟩
      let held ← found ((state.tables.delivery? deliveryId).map
        fun row => (row.deliveryPartnerId, row.status)) ⟨404, "Delivery not found"⟩
      require (held.1 = some rider.id) ⟨403, "Delivery is not assigned to you"⟩
      require (held.2 ∈ activeTrackingStatuses)
        ⟨409, "Live location is only accepted during an active delivery"⟩
      require (payload.recordedAt ≤ now + 5 * 60000000)
        ⟨422, "Location timestamp is too far in the future"⟩
      require (now ≤ payload.recordedAt + 30 * 60000000) ⟨422, "Location timestamp is too old"⟩
      require (payload.accuracyM.all (fun accuracy => decide (accuracy ≤ 500)))
        ⟨422, "Location accuracy is too poor"⟩
      require (payload.speedMps.all (fun speed => decide (speed ≤ maxReportedSpeedMps)))
        ⟨422, "Reported rider speed is implausible"⟩
      judged maps payload (latestLocation state.locations deliveryId)
      pure (reportedRow deliveryId rider.id locationId payload)) := by
  unfold hardenedRecordDeliveryLocation getCurrentUser
  cases carried : state.tables.delivery? deliveryId with
  | none => rfl
  | some delivery =>
    have own : delivery.id = deliveryId := lookup_col carried
    subst own
    refine bind_congr fun rider => bind_congr fun _ => bind_congr fun _ => ?_
    rw [Option.map_some, found_some_bind, found_some_bind]
    iterate 6 refine bind_congr fun _ => ?_
    cases latestLocation state.locations delivery.id <;> rfl

/-- A bare report of a point at an instant. -/
def bareReport (place : Point) (at_ : Instant) : DeliveryLocationCreate :=
  ⟨place.latitude, place.longitude, none, none, none, at_⟩

/-- From a rider who carries the delivery, a bare report meets only the latest fix. -/
theorem Carries.report (carries : Carries subject deliveryId state) {place : Point}
    (inside : onGlobe place) (maps : Maps) (at_ : Instant) :
    ∃ riderId, ∀ locationId,
      hardenedRecordDeliveryLocation maps state.tables state.locations subject deliveryId
          (bareReport place at_) at_ locationId =
        (judged maps (bareReport place at_) (latestLocation state.locations deliveryId) >>= fun _ =>
          pure (reportedRow deliveryId riderId locationId (bareReport place at_))) := by
  obtain ⟨rider, delivery, asking, active, role, carried, own, tracked⟩ := carries
  refine ⟨rider.id, fun locationId => ?_⟩
  have valid : (bareReport place at_).valid = true := by
    simp only [DeliveryLocationCreate.valid, bareReport, Bool.and_eq_true]
    exact ⟨⟨⟨⟨decide_eq_true inside.1, decide_eq_true inside.2⟩, rfl⟩, rfl⟩, rfl⟩
  have user : (state.tables.user? subject).filter (·.isActive) = some rider := by
    rw [asking, Option.filter_some, if_pos active]
  have past : (bareReport place at_).recordedAt ≤ at_ + 5 * 60000000 := Nat.le_add_right ..
  have recent : at_ ≤ (bareReport place at_).recordedAt + 30 * 60000000 := Nat.le_add_right ..
  rw [hardenedRecordDeliveryLocation_eq, user, carried, Option.map_some, found_some_bind]
  simp only [requireRoles, require, role, valid, own, tracked, past, recent, List.mem_singleton,
    if_true, found_some_bind]
  rfl

theorem SameReports.carries (same : SameReports subject deliveryId one two)
    (carries : Carries subject deliveryId one) : Carries subject deliveryId two := by
  obtain ⟨rider, delivery, asking, active, role, carried, own, tracked⟩ := carries
  have held := same.delivery
  rw [carried, Option.map_some] at held
  obtain ⟨other, there, agree⟩ := Option.map_eq_some_iff.mp held.symm
  obtain ⟨partner, status⟩ := Prod.mk.inj agree
  exact ⟨rider, other, same.user ▸ asking, active, role, there, partner.trans own, status ▸ tracked⟩

theorem judged_of_alike (same : SameReports subject deliveryId one two)
    (alike : JudgedAlike maps subject deliveryId one two) (carries : Carries subject deliveryId one)
    {place : Point} (inside : onGlobe place) (at_ : Instant) :
    judged maps (bareReport place at_) (latestLocation one.locations deliveryId) =
      judged maps (bareReport place at_) (latestLocation two.locations deliveryId) := by
  obtain ⟨left, here⟩ := carries.report inside maps at_
  obtain ⟨right, there⟩ := (same.carries carries).report inside maps at_
  have equal := alike (bareReport place at_) at_ 0
  rw [here, there] at equal
  generalize judged maps (bareReport place at_) (latestLocation one.locations deliveryId) = first at equal
  generalize judged maps (bareReport place at_) (latestLocation two.locations deliveryId) = second at equal
  cases first with
  | ok =>
    cases second with
    | ok => rfl
    | error => cases equal
  | error =>
    cases second with
    | ok => cases equal
    | error =>
      cases equal
      rfl

/-- A report of the instant of the latest fix is refused as not newer. -/
theorem judged_stale (maps : Maps) (latest : DeliveryLocation) (place : Point) :
    judged maps (bareReport place latest.recordedAt) (some latest) =
      .error ⟨409, "Location timestamp must be newer than the previous update"⟩ := by
  rw [judged, requirePlausible_eq]
  exact if_neg (Nat.lt_irrefl _)

/-- A report after the latest fix is not refused as stale. -/
theorem judged_newer {latest : DeliveryLocation} {at_ : Instant} (newer : latest.recordedAt < at_)
    (place : Point) : judged maps (bareReport place at_) (some latest) ≠
      .error ⟨409, "Location timestamp must be newer than the previous update"⟩ := by
  rw [judged, requirePlausible_eq]
  have after : latest.recordedAt < (bareReport place at_).recordedAt := newer
  rw [if_pos after]
  unfold require
  split
  · split <;> simp
  · simp

theorem reaches_of_judged {latest : DeliveryLocation} {place : Point} {at_ : Instant}
    (apart : latest.recordedAt + minLocationInterval ≤ at_) :
    judged maps (bareReport place at_) (some latest) = .ok () ↔ reachableBy maps latest place at_ := by
  have newer : latest.recordedAt < (bareReport place at_).recordedAt :=
    Nat.lt_of_lt_of_le (Nat.lt_add_of_pos_right (by decide)) apart
  have spaced : latest.recordedAt + minLocationInterval ≤ (bareReport place at_).recordedAt := apart
  rw [judged, requirePlausible_eq, if_pos newer, if_pos spaced]
  exact require_ok ..

/-- A delivery carried by rider 5, with nothing recorded. -/
def freshlyCarried : LiveMap where
  world :=
    { database :=
        { tables :=
            { catalogue := { users := [⟨5, .delivery, false, true, true⟩] }
              orders :=
                [⟨1, "GO-1", 1, 1, 1, none, none, .ready, .cod, .pending, 10000, 2000, 12000⟩]
              deliveries :=
                [⟨1, 1, some 5, .assigned, none, none, none, none, none, none, none, 1⟩] }
          constraints := by decide +kernel } }

def LiveMap.withFixes (state : LiveMap) (locations : List DeliveryLocation) : LiveMap :=
  { state with locations := locations }

/-- A fix on the meridian of 77 degrees. -/
def meridianFix (number : Nat) (rider : UUID) (latitude : ℚ) (recordedAt : Instant) : DeliveryLocation :=
  ⟨number, 1, rider, latitude, 77, none, none, none, recordedAt⟩

/-- Rider 5 sees only what rider 5 recorded. -/
theorem sameReports_withFixes {first second : List DeliveryLocation}
    (own : ownLocations first 1 5 = ownLocations second 1 5) :
    SameReports 5 1 (freshlyCarried.withFixes first) (freshlyCarried.withFixes second) := by
  refine ⟨rfl, rfl, fun row rider held carries => ?_⟩
  have five : some rider = some 5 := by
    have carried : freshlyCarried.tables.delivery? 1 = some row := held
    cases carried
    exact carries.symm
  cases five
  exact own

theorem freshlyCarried_carries (locations : List DeliveryLocation) :
    Carries 5 1 (freshlyCarried.withFixes locations) :=
  ⟨⟨5, .delivery, false, true, true⟩, _, rfl, rfl, rfl, rfl, rfl, by decide⟩

/-- A latitude as far north or south as there is one. -/
def clamped (latitude : ℚ) : ℚ := max (-90) (min latitude 90)

/-- Along the meridian, and then around the globe, a degree of latitude being 111.195 km and
the way around 40030 km. -/
def overGround (here there : Point) : ℚ :=
  111195 * |clamped here.latitude - clamped there.latitude| +
    40030000 * Distances.turn ((here.longitude - there.longitude) / 360)

theorem overGround_round : Distances.Round overGround onGlobe acrossGlobe where
  symm here there := by
    unfold overGround
    rw [abs_sub_comm, ← Distances.turn_neg, ← neg_div, neg_sub]
  triangle here there beyond := by
    have north := abs_sub_le (clamped here.latitude) (clamped there.latitude) (clamped beyond.latitude)
    have around := Distances.turn_add_le ((here.longitude - there.longitude) / 360)
      ((there.longitude - beyond.longitude) / 360)
    rw [← add_div, sub_add_sub_cancel] at around
    unfold overGround
    linarith
  onward behind here length slack forward some_ := by
    have scaled : 0 ≤ length / 40030000 := by positivity
    obtain ⟨place, short, near, away⟩ :=
      Distances.turn_onward (behind.longitude / 360) (here.longitude / 360) scaled
    have bounds := abs_le.mp short
    have pole : clamped (clamped here.latitude) = clamped here.latitude := by
      simp [clamped]
    have inside : onGlobe ⟨clamped here.latitude, 360 * place⟩ := by
      refine ⟨⟨le_max_left _ _, ?_⟩, by linarith, by linarith⟩
      exact max_le (by norm_num) (min_le_right _ _)
    refine ⟨⟨clamped here.latitude, 360 * place⟩, inside, ?_, ?_⟩
    · have same : (here.longitude - 360 * place) / 360 = here.longitude / 360 - place := by ring
      rw [overGround, pole, sub_self, abs_zero, mul_zero, zero_add, same]
      rw [le_div_iff₀ (by norm_num)] at near
      linarith
    · have same : (behind.longitude - 360 * place) / 360 = behind.longitude / 360 - place := by ring
      simp only [overGround, pole, same, sub_div]
      have north := abs_nonneg (clamped behind.latitude - clamped here.latitude)
      rcases min_le_iff.mp away with along | half
      · refine le_trans (sub_le_self _ some_.le) ((min_le_left _ _).trans ?_)
        rw [← sub_nonneg] at along ⊢
        linarith
      · refine le_trans (sub_le_self _ some_.le) ((min_le_right _ _).trans ?_)
        unfold acrossGlobe
        linarith

def groundMaps : Maps where
  distanceM := overGround
  enabled := false
  computeRoute := fun _ _ => none

end GaonOne
