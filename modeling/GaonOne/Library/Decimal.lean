import Mathlib.Data.Rat.Floor
import Mathlib.Tactic.Linarith

/-! Rounding a decimal to hundredths, counted in hundredths. A value that
already is a whole number of hundredths is not changed, whatever the rounding. -/
namespace Decimal

/-- `value.quantize(Decimal("0.01"))`: half to even. -/
def quantizeCents (value : ℚ) : Int :=
  let scaled := value * 100
  let floor := scaled.floor
  if scaled - floor < 1 / 2 then floor
  else if 1 / 2 < scaled - floor then floor + 1
  else if floor % 2 = 0 then floor else floor + 1

/-- `value.quantize(Decimal("0.01"), rounding=ROUND_HALF_UP)`: half away from zero. -/
def quantizeCentsHalfUp (value : ℚ) : Int :=
  if 0 ≤ value then (value * 100 + 1 / 2).floor else -(-value * 100 + 1 / 2).floor

/-- The value of a number of hundredths. -/
def ofCents (cents : Int) : ℚ := cents / 100

private theorem ofCents_scaled (cents : Int) : ofCents cents * 100 = cents := by simp [ofCents]

@[simp]
theorem quantizeCents_ofCents (cents : Int) : quantizeCents (ofCents cents) = cents := by
  have floor : (cents : ℚ).floor = cents := Rat.floor_intCast cents
  simp [quantizeCents, ofCents_scaled, floor]

private theorem floor_add_half (cents : Int) : ((cents : ℚ) + 1 / 2).floor = cents := by
  change ⌊(cents : ℚ) + 1 / 2⌋ = cents
  rw [Int.floor_eq_iff]
  constructor <;> linarith

@[simp]
theorem quantizeCentsHalfUp_ofCents (cents : Int) : quantizeCentsHalfUp (ofCents cents) = cents := by
  have negated : -ofCents cents * 100 = ((-cents : Int) : ℚ) := by
    rw [neg_mul, ofCents_scaled, Int.cast_neg]
  unfold quantizeCentsHalfUp
  split
  · rw [ofCents_scaled, floor_add_half]
  · rw [negated, floor_add_half, neg_neg]

theorem ofCents_add (left right : Int) : ofCents left + ofCents right = ofCents (left + right) := by
  simp only [ofCents, Int.cast_add]
  exact (add_div _ _ _).symm

/-- Adding exact amounts is exact: the quantization of a sum rounds nothing. -/
theorem quantizeCents_add (left right : Int) :
    quantizeCents (ofCents left + ofCents right) = left + right := by
  rw [ofCents_add, quantizeCents_ofCents]

end Decimal
