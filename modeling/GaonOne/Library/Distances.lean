import Mathlib.Algebra.Order.Round
import Mathlib.Tactic.Linarith
import Mathlib.Tactic.Ring

/-! Distances on a round surface. From wherever one stands one can go straight on, away from
any other place, until places lie as far apart as they can; so two places that have the same
surroundings within some reach are one place. -/
namespace Distances

variable {X K : Type*} [Field K] [LinearOrder K] [IsStrictOrderedRing K]

/-- A distance, and for any two places a way on from the second, away from the first, among the
places inside; it is no longer than asked, and takes one away as far as it is long, up to where
places are far apart. -/
structure Round (distance : X → X → K) (inside : X → Prop) (far : K) : Prop where
  symm : ∀ here there, distance here there = distance there here
  triangle : ∀ here there beyond, distance here beyond ≤ distance here there + distance there beyond
  onward : ∀ behind here length slack, 0 ≤ length → 0 < slack → ∃ place, inside place ∧
    distance here place ≤ length ∧ min (distance behind here + length) far - slack ≤ distance behind place

namespace Round
variable {distance : X → X → K} {inside : X → Prop} {far : K}

theorem nonneg (round : Round distance inside far) (here there : X) : 0 ≤ distance here there := by
  have around := round.triangle here there here
  have still := round.triangle here here here
  rw [round.symm there here] at around
  linarith

omit [IsStrictOrderedRing K] in
/-- From one and the same place everything is equally far. -/
theorem eq_of_zero (round : Round distance inside far) (same : distance left right = 0) (place : X) :
    distance left place = distance right place := by
  apply le_antisymm
  · have through := round.triangle left right place
    rwa [same, zero_add] at through
  · have through := round.triangle right left place
    rwa [round.symm right left, same, zero_add] at through

/-- What is within reach tells two places apart. -/
theorem zero_of_same_reach (round : Round distance inside far) {reach : K} (forward : 0 ≤ reach)
    (short : reach < far)
    (same : ∀ place, inside place → distance left place ≤ reach → distance right place ≤ reach) :
    distance left right = 0 := by
  by_contra differ
  have apart : 0 < distance right left := by
    rw [round.symm]
    exact lt_of_le_of_ne (round.nonneg left right) (Ne.symm differ)
  have room : reach < min (distance right left + reach) far := lt_min (by linarith) short
  obtain ⟨place, within, near, away⟩ := round.onward right left reach
    ((min (distance right left + reach) far - reach) / 2) forward (by linarith)
  have still := same place within near
  linarith

end Round

/-! ## Circles -/

section
variable [FloorRing K]

/-- How far two points of a circle of length one are apart, from how far they are apart on the
line wound around it. -/
def turn (x : K) : K := |x - round x|

theorem turn_le (x : K) (whole : ℤ) : turn x ≤ |x - whole| := round_le x whole

theorem turn_le_abs (x : K) : turn x ≤ |x| := by simpa using turn_le x 0

theorem turn_add_intCast (x : K) (whole : ℤ) : turn (x + whole) = turn x := by
  rw [turn, turn, round_add_intCast, Int.cast_add, add_sub_add_right_eq_sub]

theorem turn_neg_le (x : K) : turn (-x) ≤ turn x := by
  have other := turn_le (-x) (-round x)
  rwa [Int.cast_neg, sub_neg_eq_add, neg_add_eq_sub, abs_sub_comm] at other

theorem turn_neg (x : K) : turn (-x) = turn x :=
  le_antisymm (turn_neg_le x) (by simpa using turn_neg_le (-x))

theorem turn_add_le (x y : K) : turn (x + y) ≤ turn x + turn y := by
  have sum := turn_le (x + y) (round x + round y)
  rw [Int.cast_add, add_sub_add_comm] at sum
  exact sum.trans (abs_add_le _ _)

/-- Within half a turn the line and the circle agree. -/
theorem turn_of_abs_le {x : K} (short : |x| ≤ 1 / 2) : turn x = |x| := by
  refine le_antisymm (turn_le_abs x) ?_
  by_cases none_ : round x = 0
  · simp [turn, none_]
  · have whole : (1 : K) ≤ |(round x : K)| := by exact_mod_cast Int.one_le_abs none_
    have split := abs_sub_abs_le_abs_sub (round x : K) x
    rw [abs_sub_comm] at split
    unfold turn
    linarith

/-- On a circle one goes on until half a turn is between. -/
theorem turn_onward (behind here : K) {length : K} (forward : 0 ≤ length) : ∃ place : K, |place| ≤ 1 / 2 ∧
    turn (here - place) ≤ length ∧ min (turn (behind - here) + length) (1 / 2) ≤ turn (behind - place) := by
  obtain ⟨gone, made⟩ : ∃ gone, gone = here - behind - round (here - behind) := ⟨_, rfl⟩
  have short : |gone| ≤ 1 / 2 := made ▸ abs_sub_round _
  have apart : turn (behind - here) = |gone| := by
    rw [← neg_sub, turn_neg, made]
    rfl
  obtain ⟨further, least, most⟩ : ∃ further : K, 0 ≤ further ∧ further = min length (1 / 2 - |gone|) :=
    ⟨_, le_min forward (by linarith), rfl⟩
  have bound : further ≤ length := most ▸ min_le_left _ _
  -- the way on keeps its direction
  obtain ⟨last, reached, step⟩ : ∃ last : K, |last| = |gone| + further ∧ |gone - last| = further := by
    rcases le_total 0 gone with ahead | back
    · refine ⟨gone + further, ?_, ?_⟩
      · rw [abs_of_nonneg ahead, abs_of_nonneg (by linarith)]
      · rw [sub_add_cancel_left, abs_neg, abs_of_nonneg least]
    · refine ⟨gone - further, ?_, ?_⟩
      · rw [abs_of_nonpos back, abs_of_nonpos (by linarith)]
        ring
      · rw [sub_sub_cancel, abs_of_nonneg least]
  have total : |last| = min (|gone| + length) (1 / 2) := by
    rw [reached, most, ← min_add_add_left, add_sub_cancel]
  refine ⟨behind + last - round (behind + last), abs_sub_round _, ?_, ?_⟩
  · have same : here - (behind + last - round (behind + last)) =
        gone - last + ((round (here - behind) + round (behind + last) : ℤ) : K) := by
      rw [made, Int.cast_add]
      ring
    rw [same, turn_add_intCast]
    exact (turn_le_abs _).trans (step.le.trans bound)
  · have same : behind - (behind + last - round (behind + last)) = -last + (round (behind + last) : ℤ) := by
      ring
    rw [same, turn_add_intCast, turn_neg, turn_of_abs_le (total.le.trans (min_le_right _ _)), total, apart]

end

end Distances
