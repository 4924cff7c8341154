import GaonOne.DefaultAddresses
import Mathlib.Data.List.MinMax
import Mathlib.Data.Prod.Lex

/-! What a customer is told about a place, and what checkout decides about it. The screen asks
one ranked query for the best zone; checkout asks for one zone whether the place is in it. -/
namespace GaonOne
open Relational

/-! ## The ranked query -/

/-- A row of the ranked query. -/
structure Coverage where
  id : UUID
  name : String
  radiusKm : ℚ
  distanceKm : ℚ
  coversPoint : Bool

/-- The located active hubs of an active area. -/
def locatedHubs (db : Tables) (area : ServiceArea) : List Point :=
  if area.isActive then
    (db.catalogue.villages.filter fun village =>
      decide (village.id = area.hubVillageId) && village.isActive).filterMap fun village =>
        point village.latitude village.longitude
  else []

def coverageFrom (env : Environment) (place : Point) (area : ServiceArea)
    (hub : Point) : Coverage where
  id := area.id
  name := area.name
  radiusKm := area.radiusKm
  distanceKm := env.distance hub place / 1000
  coversPoint := env.within hub place (area.radiusKm * 1000)

def coverage (env : Environment) (db : Tables) (place : Point) : List Coverage :=
  db.catalogue.serviceAreas.flatMap fun area => (locatedHubs db area).map (coverageFrom env place area)

/-- `ORDER BY coverage.covers_point DESC, coverage.distance_km, coverage.id`. -/
def Coverage.rank (row : Coverage) : Bool ×ₗ ℚ ×ₗ ℕ :=
  toLex (!row.coversPoint, toLex (row.distanceKm, row.id.toNat))

/-- `serviceability_for_point`. -/
def serviceabilityForPoint (env : Environment) (db : Tables) (place : Point) :
    Option Coverage :=
  (coverage env db place).argmin Coverage.rank

structure ServiceabilityRead where
  serviceable : Bool
  serviceAreaId : Option UUID := none
  serviceAreaName : Option String := none
  distanceKm : Option ℚ := none
  radiusKm : Option ℚ := none

/-- `_serviceability`. -/
def readServiceability (env : Environment) (db : Tables) (place : Point) :
    ServiceabilityRead :=
  match serviceabilityForPoint env db place with
  | none => { serviceable := false }
  | some best =>
    { serviceable := best.coversPoint
      serviceAreaId := some best.id
      serviceAreaName := some best.name
      distanceKm := some (Decimal.ofCents (Decimal.quantizeCents best.distanceKm))
      radiusKm := some best.radiusKm }

/-! ## The test for one area -/

theorem mem_locatedHubs : hub ∈ locatedHubs db area ↔ area.isActive = true ∧
    ∃ village ∈ db.catalogue.villages, village.id = area.hubVillageId ∧ village.isActive = true ∧
      point village.latitude village.longitude = some hub := by
  unfold locatedHubs
  by_cases active : area.isActive = true
  · simp [active, and_assoc]
  · simp [active]

/-- Checkout's test holds of an area with a located hub that reaches the place. -/
theorem pointIsInServiceArea_iff : pointIsInServiceArea env db areaId place = true ↔
    ∃ area ∈ db.catalogue.serviceAreas, area.id = areaId ∧
      ∃ hub ∈ locatedHubs db area, env.within hub place (area.radiusKm * 1000) = true := by
  simp only [pointIsInServiceArea, List.any_eq_true, Bool.and_eq_true, decide_eq_true_eq, Option.any_eq_true,
    mem_locatedHubs]
  constructor
  · rintro ⟨area, held, ⟨named, active⟩, village, inside, ⟨own, open_⟩, hub, located, reaches⟩
    exact ⟨area, held, named, hub, ⟨active, village, inside, own, open_, located⟩, reaches⟩
  · rintro ⟨area, held, named, hub, ⟨active, village, inside, own, open_, located⟩, reaches⟩
    exact ⟨area, held, ⟨named, active⟩, village, inside, ⟨own, open_⟩, hub, located, reaches⟩

/-! ## The best row -/

theorem mem_coverage : row ∈ coverage env db place ↔
    ∃ area ∈ db.catalogue.serviceAreas, ∃ hub ∈ locatedHubs db area,
      coverageFrom env place area hub = row := by
  simp only [coverage, List.mem_flatMap, List.mem_map]

/-- A row that covers the place comes before every row that does not, and among those that do
the nearest comes first. -/
theorem Coverage.rank_le {row other : Coverage} (before : row.rank ≤ other.rank)
    (covers : other.coversPoint = true) : row.coversPoint = true ∧ row.distanceKm ≤ other.distanceKm := by
  rw [rank, rank, Prod.Lex.toLex_le_toLex, covers] at before
  rcases before with less | ⟨same, less⟩
  · exact absurd less (by simp)
  · have covered : row.coversPoint = true := by simpa using same
    rw [Prod.Lex.toLex_le_toLex] at less
    refine ⟨covered, ?_⟩
    rcases less with nearer | ⟨level, -⟩
    · exact le_of_lt nearer
    · exact le_of_eq level

theorem serviceabilityForPoint_none : serviceabilityForPoint env db place = none ↔
    ∀ area ∈ db.catalogue.serviceAreas, ¬∃ hub, hub ∈ locatedHubs db area := by
  rw [serviceabilityForPoint, List.argmin_eq_none, List.eq_nil_iff_forall_not_mem]
  constructor
  · rintro empty area held ⟨hub, located⟩
    exact empty _ (mem_coverage.mpr ⟨area, held, hub, located, rfl⟩)
  · intro nowhere row member
    obtain ⟨area, held, hub, located, -⟩ := mem_coverage.mp member
    exact nowhere area held ⟨hub, located⟩

/-- The best row covers the place when any row does, and no row that does is nearer. -/
theorem serviceabilityForPoint_best (best : serviceabilityForPoint env db place = some row)
    (other : area ∈ db.catalogue.serviceAreas) (located : hub ∈ locatedHubs db area)
    (reaches : env.within hub place (area.radiusKm * 1000) = true) :
    row.coversPoint = true ∧ row.distanceKm ≤ env.distance hub place / 1000 := by
  have listed : coverageFrom env place area hub ∈ coverage env db place :=
    mem_coverage.mpr ⟨area, other, hub, located, rfl⟩
  exact Coverage.rank_le (List.le_of_mem_argmin listed best) reaches

/-- What the address screen assumes of the ranked query. -/
theorem readServiceability_serviceable (env : Environment) (db : Tables) (place : Point) :
    (readServiceability env db place).serviceable = true ↔
      ∃ area ∈ db.catalogue.serviceAreas, pointIsInServiceArea env db area.id place = true := by
  unfold readServiceability
  constructor
  · intro covered
    cases best : serviceabilityForPoint env db place with
    | none =>
      rw [best] at covered
      cases covered
    | some row =>
      rw [best] at covered
      obtain ⟨area, held, hub, located, rfl⟩ := mem_coverage.mp (List.argmin_mem best)
      exact ⟨area, held, pointIsInServiceArea_iff.mpr ⟨area, held, rfl, hub, located, covered⟩⟩
  · rintro ⟨named, -, inside⟩
    obtain ⟨area, held, -, hub, located, reaches⟩ := pointIsInServiceArea_iff.mp inside
    cases best : serviceabilityForPoint env db place with
    | none => exact absurd ⟨hub, located⟩ (serviceabilityForPoint_none.mp best area held)
    | some row => exact (serviceabilityForPoint_best best held located reaches).1

/-- The check on a new address is the screen's answer. -/
theorem serviceability_eq (env : Environment) (book : AddressBook) (place : Point) :
    AddressProgram.serviceability env book place =
      (readServiceability env book.marketplace place).serviceable := by
  rw [Bool.eq_iff_iff, readServiceability_serviceable, AddressProgram.serviceability, List.any_eq_true]

/-- The screen calls a place serviceable exactly when checkout would find it in some area, and
then names the nearest such area; it names none exactly when no active area has a located hub. -/
theorem serviceability_agrees (env : Environment) (db : Tables) (place : Point) :
    ((readServiceability env db place).serviceable = true ↔
      ∃ area ∈ db.catalogue.serviceAreas, pointIsInServiceArea env db area.id place = true) ∧
    ((readServiceability env db place).serviceable = true →
      ∃ area ∈ db.catalogue.serviceAreas, ∃ hub ∈ locatedHubs db area,
        (readServiceability env db place).serviceAreaId = some area.id ∧
        pointIsInServiceArea env db area.id place = true ∧
        env.within hub place (area.radiusKm * 1000) = true ∧
        ∀ other ∈ db.catalogue.serviceAreas, ∀ center ∈ locatedHubs db other,
          env.within center place (other.radiusKm * 1000) = true →
            env.distance hub place ≤ env.distance center place) ∧
    ((readServiceability env db place).serviceAreaId = none ↔
      ∀ area ∈ db.catalogue.serviceAreas, ¬∃ hub, hub ∈ locatedHubs db area) := by
  refine ⟨readServiceability_serviceable env db place, ?_, ?_⟩
  · intro covered
    unfold readServiceability at covered ⊢
    cases best : serviceabilityForPoint env db place with
    | none =>
      rw [best] at covered
      cases covered
    | some row =>
      rw [best] at covered
      obtain ⟨area, held, hub, located, rfl⟩ := mem_coverage.mp (List.argmin_mem best)
      refine ⟨area, held, hub, located, rfl, ?_, covered, ?_⟩
      · exact pointIsInServiceArea_iff.mpr ⟨area, held, rfl, hub, located, covered⟩
      · intro other listed center centered reaches
        have nearer := (serviceabilityForPoint_best best listed centered reaches).2
        exact (div_le_div_iff_of_pos_right (by norm_num)).mp nearer
  · rw [← serviceabilityForPoint_none, readServiceability]
    cases serviceabilityForPoint env db place with
    | none => simp
    | some row => simp

end GaonOne
