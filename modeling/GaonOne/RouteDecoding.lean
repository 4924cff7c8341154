import Mathlib.Algebra.Group.Nat.Defs
import Mathlib.Tactic.Common

/-! The route of a delivery, as the mobile screen draws it. The provider sends it as text; a
malformed text must hide the line and nothing else, and a well-formed one must be read exactly.
Coordinates are whole numbers of 1e-5 degree, and a text is its code units. -/
namespace GaonOne

/-- What indexing a text may throw. -/
inductive DartError where
  | range
  deriving DecidableEq

structure LatLng where
  latitude : Int
  longitude : Int
  deriving DecidableEq, Repr

/-- `encoded.codeUnitAt(index)`. -/
def codeUnitAt (encoded : List Nat) (index : Nat) : Except DartError Nat :=
  match encoded[index]? with
  | some unit => .ok unit
  | none => .error .range

/-! ## The decoder -/

/-- `(value & 1) != 0 ? ~(value >> 1) : value >> 1`. -/
def signedDelta (value : Nat) : Int :=
  if value &&& 1 ≠ 0 then ~~~((value >>> 1 : Nat) : Int) else (value >>> 1 : Nat)

/-- `readDelta`: the delta, if there is one, and where reading goes on. -/
def readDelta (encoded : List Nat) (index shift value : Nat) : Except DartError (Option Int × Nat) :=
  if more : index < encoded.length ∧ shift ≤ 30 then do
    let unit ← codeUnitAt encoded index
    let byte : Int := unit - 63
    if byte < 0 ∨ 63 < byte then
      pure (none, index + 1)
    else
      let value := value ||| ((byte.toNat &&& 0x1f) <<< shift)
      if byte < 0x20 then
        pure (some (signedDelta value), index + 1)
      else
        readDelta encoded (index + 1) (shift + 5) value
  else
    pure (none, index)
termination_by encoded.length - index

theorem codeUnitAt_getElem (more : index < encoded.length) :
    codeUnitAt encoded index = .ok encoded[index] := by
  rw [codeUnitAt, List.getElem?_eq_getElem more]

/-- One more code unit is read. -/
theorem readDelta_unit (more : index < encoded.length) (within : shift ≤ 30) :
    readDelta encoded index shift value =
      (let byte : Int := encoded[index] - 63
      if byte < 0 ∨ 63 < byte then .ok (none, index + 1)
      else if byte < 0x20 then
        .ok (some (signedDelta (value ||| ((byte.toNat &&& 0x1f) <<< shift))), index + 1)
      else
        readDelta encoded (index + 1) (shift + 5) (value ||| ((byte.toNat &&& 0x1f) <<< shift))) := by
  rw [readDelta, dif_pos ⟨more, within⟩, codeUnitAt_getElem more]
  rfl

/-- Reading a delta throws nothing, never goes back, and goes on unless the text is read. -/
theorem readDelta_ok (encoded : List Nat) (index shift value : Nat) :
    ∃ delta next, readDelta encoded index shift value = .ok (delta, next) ∧ index ≤ next ∧
      (index < encoded.length → shift ≤ 30 → index < next) := by
  induction left : encoded.length - index generalizing index shift value with
  | zero =>
    refine ⟨none, index, ?_, Nat.le_refl _, by omega⟩
    rw [readDelta, dif_neg (by omega)]
    rfl
  | succ left ih =>
    by_cases within : shift ≤ 30
    · rw [readDelta_unit (by omega) within]
      dsimp only
      split
      · exact ⟨none, index + 1, rfl, by omega, by omega⟩
      · split
        · exact ⟨_, index + 1, rfl, by omega, by omega⟩
        · obtain ⟨delta, next, read, ahead, -⟩ := ih (index + 1) (shift + 5) _ (by omega)
          exact ⟨delta, next, read, by omega, by omega⟩
    · refine ⟨none, index, ?_, Nat.le_refl _, by omega⟩
      rw [readDelta, dif_neg (by omega)]
      rfl

/-- The loop of `decodePolylineSafely`. -/
def decodeFrom (encoded : List Nat) (index : Nat) (latitude longitude : Int) (points : List LatLng) :
    Except DartError (List LatLng) :=
  if index < encoded.length then
    if 2000 ≤ points.length then
      .ok []
    else
      match first : readDelta encoded index 0 0 with
      | .error error => .error error
      | .ok (latDelta, between) =>
        match second : readDelta encoded between 0 0 with
        | .error error => .error error
        | .ok (lngDelta, next) =>
          match latDelta, lngDelta with
          | some latDelta, some lngDelta =>
            if 9000000 < (latitude + latDelta).natAbs ∨ 18000000 < (longitude + lngDelta).natAbs then
              .ok []
            else
              decodeFrom encoded next (latitude + latDelta) (longitude + lngDelta)
                (points ++ [⟨latitude + latDelta, longitude + lngDelta⟩])
          | _, _ => .ok []
  else
    .ok points
termination_by encoded.length - index
decreasing_by
  obtain ⟨_, _, read, -, ahead⟩ := readDelta_ok encoded index 0 0
  obtain ⟨_, _, read', behind, -⟩ := readDelta_ok encoded between 0 0
  cases read.symm.trans first
  cases read'.symm.trans second
  have := ahead ‹_› (by omega)
  omega

/-- `decodePolylineSafely`. -/
def decodePolylineSafely (encoded : List Nat) : Except DartError (List LatLng) :=
  decodeFrom encoded 0 0 0 []

/-! ## The format -/

/-- The sign in the lowest bit. -/
def zigzag (delta : Int) : Nat :=
  if delta < 0 then (~~~(2 * delta)).toNat else (2 * delta).toNat

/-- Five bits a unit, the lowest first, and a mark on every unit but the last. -/
def encodeGroups (value : Nat) : List Nat :=
  if value < 0x20 then [value + 63]
  else ((0x20 ||| (value &&& 0x1f)) + 63) :: encodeGroups (value >>> 5)
termination_by value
decreasing_by
  rw [Nat.shiftRight_eq_div_pow]
  omega

/-- Each point as the difference from the point before. -/
def encodeFrom (latitude longitude : Int) : List LatLng → List Nat
  | [] => []
  | place :: rest =>
    encodeGroups (zigzag (place.latitude - latitude)) ++
      (encodeGroups (zigzag (place.longitude - longitude)) ++
        encodeFrom place.latitude place.longitude rest)

def encodePolyline (points : List LatLng) : List Nat := encodeFrom 0 0 points

/-- What a point of the earth satisfies. -/
def LatLng.OnGlobe (place : LatLng) : Prop :=
  place.latitude.natAbs ≤ 9000000 ∧ place.longitude.natAbs ≤ 18000000

instance (place : LatLng) : Decidable place.OnGlobe := inferInstanceAs (Decidable (_ ∧ _))

/-! ## One delta -/

theorem complement_eq (n : Int) : ~~~n = -n - 1 := by
  cases n with
  | ofNat n =>
    change Int.negSucc n = -(n : Int) - 1
    omega
  | negSucc n =>
    change (n : Int) = -Int.negSucc n - 1
    omega

theorem signedDelta_zigzag (delta : Int) : signedDelta (zigzag delta) = delta := by
  simp only [signedDelta, zigzag, complement_eq, Nat.and_one_is_mod, Nat.shiftRight_eq_div_pow]
  by_cases negative : delta < 0
  · rw [if_pos negative, if_pos (by omega)]
    omega
  · rw [if_neg negative, if_neg (by omega)]
    omega

theorem zigzag_le (bound : delta.natAbs ≤ limit) : zigzag delta ≤ 2 * limit := by
  simp only [zigzag, complement_eq]
  split <;> omega

theorem payload_eq (value : Nat) : value &&& 0x1f = value % 32 := Nat.and_two_pow_sub_one_eq_mod value 5

theorem encodeGroups_small (small : value < 32) : encodeGroups value = [value + 63] := by
  rw [encodeGroups, if_pos small]

theorem encodeGroups_large (large : ¬value < 32) :
    encodeGroups value = (32 + value % 32 + 63) :: encodeGroups (value / 32) := by
  have marked : 2 ^ 5 * 1 + value % 32 = 2 ^ 5 * 1 ||| value % 32 :=
    Nat.two_pow_add_eq_or_of_lt (Nat.mod_lt _ (by decide)) 1
  rw [encodeGroups, if_neg large, payload_eq, Nat.shiftRight_eq_div_pow]
  simp only [Nat.reducePow, Nat.reduceMul] at marked ⊢
  rw [← marked]

theorem encodeGroups_ne_nil (value : Nat) : encodeGroups value ≠ [] := by
  by_cases small : value < 32
  · simp [encodeGroups_small small]
  · simp [encodeGroups_large small]

/-- Bits above those already read are added. -/
theorem or_payload (payload : Nat) (low : value < 2 ^ shift) :
    value ||| (payload <<< shift) = value + 2 ^ shift * payload := by
  rw [Nat.shiftLeft_eq, Nat.or_comm, Nat.mul_comm, ← Nat.two_pow_add_eq_or_of_lt low, Nat.add_comm]

theorem unit_of_drop {encoded : List Nat} (here : encoded.drop index = unit :: rest) :
    ∃ more : index < encoded.length, encoded[index] = unit ∧ encoded.drop (index + 1) = rest := by
  have more : index < encoded.length := by
    have size := congrArg List.length here
    rw [List.length_drop, List.length_cons] at size
    omega
  rw [List.drop_eq_getElem_cons more, List.cons.injEq] at here
  exact ⟨more, here⟩

section
variable {encoded : List Nat} (more : index < encoded.length) (within : shift ≤ 30) (low : value < 2 ^ shift)
  (small : payload < 32)
include more within low small

/-- A unit without a mark ends the number. -/
theorem readDelta_last (unit : encoded[index] = payload + 63) :
    readDelta encoded index shift value =
      .ok (some (signedDelta (value + 2 ^ shift * payload)), index + 1) := by
  have bits : ((payload + 63 : Nat) - 63 : Int).toNat &&& 0x1f = payload := by
    rw [payload_eq]
    omega
  rw [readDelta_unit more within, unit]
  simp only [bits, or_payload payload low]
  rw [if_neg (by omega), if_pos (by omega)]

theorem readDelta_marked (unit : encoded[index] = 32 + payload + 63) :
    readDelta encoded index shift value =
      readDelta encoded (index + 1) (shift + 5) (value + 2 ^ shift * payload) := by
  have bits : ((32 + payload + 63 : Nat) - 63 : Int).toNat &&& 0x1f = payload := by
    rw [payload_eq]
    omega
  rw [readDelta_unit more within, unit]
  simp only [bits, or_payload payload low]
  rw [if_neg (by omega), if_neg (by omega)]

end

/-- The groups of a number are read back, as long as there is room for them under the bound on
the shift. -/
theorem readDelta_groups {encoded : List Nat} (room : Nat) (fits : number < 32 ^ (room + 1))
    (lasting : shift + 5 * room = 30) (low : value < 2 ^ shift)
    (here : encoded.drop index = encodeGroups number ++ rest) :
    readDelta encoded index shift value =
      .ok (some (signedDelta (value + 2 ^ shift * number)), index + (encodeGroups number).length) := by
  induction room generalizing number shift value index with
  | zero =>
    have small : number < 32 := by simpa using fits
    rw [encodeGroups_small small] at here ⊢
    obtain ⟨more, unit, -⟩ := unit_of_drop here
    exact readDelta_last more (by omega) low small unit
  | succ room ih =>
    by_cases small : number < 32
    · rw [encodeGroups_small small] at here ⊢
      obtain ⟨more, unit, -⟩ := unit_of_drop here
      exact readDelta_last more (by omega) low small unit
    · rw [encodeGroups_large small] at here ⊢
      obtain ⟨more, unit, left⟩ := unit_of_drop here
      have payload : number % 32 < 32 := Nat.mod_lt _ (by decide)
      have higher : 2 ^ (shift + 5) = 2 ^ shift * 32 := Nat.pow_add ..
      have below : value + 2 ^ shift * (number % 32) < 2 ^ (shift + 5) := by
        have most : 2 ^ shift * (number % 32) ≤ 2 ^ shift * 31 := Nat.mul_le_mul_left _ (by omega)
        omega
      have fewer : number / 32 < 32 ^ (room + 1) := by
        rw [Nat.div_lt_iff_lt_mul (by decide), ← Nat.pow_succ]
        exact fits
      have whole : value + 2 ^ shift * (number % 32) + 2 ^ (shift + 5) * (number / 32) =
          value + 2 ^ shift * number := by
        rw [higher, Nat.mul_assoc, Nat.add_assoc, ← Nat.mul_add, Nat.mod_add_div]
      rw [readDelta_marked more (by omega) low payload unit, ih fewer (by omega) below left, whole,
        List.length_cons, Nat.add_assoc, Nat.add_comm 1]

/-- A delta that can occur is read back. -/
theorem readDelta_zigzag {encoded : List Nat} (bound : delta.natAbs ≤ 36000000)
    (here : encoded.drop index = encodeGroups (zigzag delta) ++ rest) :
    ∃ next, readDelta encoded index 0 0 = .ok (some delta, next) ∧ index < next ∧
      encoded.drop next = rest := by
  have fits := zigzag_le bound
  have read : readDelta encoded index 0 0 = _ := readDelta_groups 6 (by omega) rfl (by decide) here
  rw [Nat.pow_zero, Nat.one_mul, Nat.zero_add, signedDelta_zigzag] at read
  refine ⟨_, read, ?_, ?_⟩
  · have some := List.length_pos_iff.mpr (encodeGroups_ne_nil (zigzag delta))
    omega
  · rw [← List.drop_drop, here, List.drop_left]

/-- No text makes a delta, or the value it is read from, leave the machine's integers. -/
theorem readDelta_small {encoded : List Nat} (low : value < 2 ^ shift)
    (read : readDelta encoded index shift value = .ok (some delta, next)) : delta.natAbs ≤ 2 ^ 34 := by
  induction left : encoded.length - index generalizing index shift value with
  | zero =>
    rw [readDelta, dif_neg (by omega)] at read
    cases read
  | succ left ih =>
    by_cases within : shift ≤ 30
    · rw [readDelta_unit (by omega) within] at read
      dsimp only at read
      rw [or_payload _ low, payload_eq] at read
      generalize ((encoded[index] : Int) - 63).toNat = byte at read
      have higher : 2 ^ (shift + 5) = 2 ^ shift * 32 := Nat.pow_add ..
      have below : value + 2 ^ shift * (byte % 32) < 2 ^ (shift + 5) := by
        have most : 2 ^ shift * (byte % 32) ≤ 2 ^ shift * 31 := Nat.mul_le_mul_left _ (by omega)
        omega
      split at read
      · cases read
      · split at read
        · cases read
          have cap : 2 ^ (shift + 5) ≤ 2 ^ 35 := Nat.pow_le_pow_right (by decide) (by omega)
          simp only [signedDelta, complement_eq, Nat.and_one_is_mod, Nat.shiftRight_eq_div_pow]
          split <;> omega
        · exact ih below read (by omega)
    · rw [readDelta, dif_neg (by omega)] at read
      cases read

/-! ## The route -/

/-- A point is read, and reading goes on behind it. -/
theorem decodeFrom_point {points : List LatLng} (more : index < encoded.length) (room : points.length < 2000)
    (first : readDelta encoded index 0 0 = .ok (some latDelta, between))
    (second : readDelta encoded between 0 0 = .ok (some lngDelta, next))
    (inside : LatLng.OnGlobe ⟨latitude + latDelta, longitude + lngDelta⟩) :
    decodeFrom encoded index latitude longitude points =
      decodeFrom encoded next (latitude + latDelta) (longitude + lngDelta)
        (points ++ [⟨latitude + latDelta, longitude + lngDelta⟩]) := by
  obtain ⟨north, east⟩ := inside
  rw [decodeFrom, if_pos more, if_neg (by omega)]
  split
  · next error failed => cases first.symm.trans failed
  · next read =>
    cases first.symm.trans read
    split
    · next error failed => cases second.symm.trans failed
    · next read =>
      cases second.symm.trans read
      dsimp only at north east ⊢
      rw [if_neg (by omega)]

theorem decodeFrom_encodeFrom {points : List LatLng} (start : LatLng.OnGlobe ⟨latitude, longitude⟩)
    (here : encoded.drop index = encodeFrom latitude longitude rest)
    (room : points.length + rest.length ≤ 2000) (all : ∀ place ∈ rest, place.OnGlobe) :
    decodeFrom encoded index latitude longitude points = .ok (points ++ rest) := by
  induction rest generalizing index latitude longitude points with
  | nil =>
    have read : encoded.length ≤ index := List.drop_eq_nil_iff.mp here
    rw [decodeFrom, if_neg (by omega), List.append_nil]
  | cons place rest ih =>
    have inside := all place List.mem_cons_self
    obtain ⟨north, east⟩ := inside
    obtain ⟨north', east'⟩ := start
    dsimp only at north' east'
    obtain ⟨between, first, ahead, here'⟩ := readDelta_zigzag (by omega) here
    obtain ⟨next, second, -, here''⟩ := readDelta_zigzag (by omega) here'
    rw [List.length_cons] at room
    have more : index < encoded.length := by
      by_contra read
      rw [List.drop_of_length_le (by omega)] at here
      exact encodeGroups_ne_nil _ (List.append_eq_nil_iff.mp here.symm).1
    have backNorth : latitude + (place.latitude - latitude) = place.latitude := by omega
    have backEast : longitude + (place.longitude - longitude) = place.longitude := by omega
    rw [decodeFrom_point more (by omega) first second (by rw [backNorth, backEast]; exact ⟨north, east⟩),
      backNorth, backEast, ih ⟨north, east⟩ here'' (by simp; omega)
        (fun later member => all later (List.mem_cons_of_mem _ member)), List.append_assoc,
      List.singleton_append]

theorem decodeFrom_safe (encoded : List Nat) (index : Nat) (latitude longitude : Int) (points : List LatLng)
    (few : points.length ≤ 2000) (all : ∀ place ∈ points, place.OnGlobe) :
    ∃ route, decodeFrom encoded index latitude longitude points = .ok route ∧ route.length ≤ 2000 ∧
      ∀ place ∈ route, place.OnGlobe := by
  have hidden : ∃ route, (.ok [] : Except DartError (List LatLng)) = .ok route ∧ route.length ≤ 2000 ∧
      ∀ place ∈ route, place.OnGlobe := ⟨[], rfl, by decide, List.forall_mem_nil _⟩
  fun_induction decodeFrom encoded index latitude longitude points with
  | case1 => exact hidden
  | case2 index latitude longitude points more room error failed =>
    obtain ⟨_, _, read, -⟩ := readDelta_ok encoded index 0 0
    cases read.symm.trans failed
  | case3 index latitude longitude points more room latDelta between first error failed =>
    obtain ⟨_, _, read, -⟩ := readDelta_ok encoded between 0 0
    cases read.symm.trans failed
  | case4 => exact hidden
  | case5 index latitude longitude points more room between next latDelta lngDelta _ _ inside _ _ ih =>
    apply ih
    · simp only [List.length_append, List.length_singleton]
      omega
    · intro place member
      rcases List.mem_append.mp member with before | new
      · exact all place before
      · rw [List.mem_singleton.mp new]
        exact ⟨by dsimp only; omega, by dsimp only; omega⟩
  | case6 => exact hidden
  | case7 => exact ⟨_, rfl, few, all⟩

/-- Decoding inverts the format on every route it may have to draw, and makes of any text
whatever no route or one of at most two thousand points of the earth. -/
theorem decodePolylineSafely_exact_and_safe :
    (∀ points : List LatLng, points.length ≤ 2000 → (∀ place ∈ points, place.OnGlobe) →
      decodePolylineSafely (encodePolyline points) = .ok points) ∧
    (∀ encoded : List Nat, ∃ points, decodePolylineSafely encoded = .ok points ∧
      points.length ≤ 2000 ∧ ∀ place ∈ points, place.OnGlobe) := by
  constructor
  · intro points few all
    exact decodeFrom_encodeFrom (by decide) rfl (by simpa using few) all
  · intro encoded
    exact decodeFrom_safe encoded 0 0 0 [] (by decide) (List.forall_mem_nil _)

/-- Two neighbours in the hills and the far corner of the map. -/
theorem decodePolylineSafely_corner :
    decodePolylineSafely (encodePolyline [⟨3007520, 7993270⟩, ⟨3007519, 7993271⟩, ⟨-9000000, -18000000⟩]) =
      .ok [⟨3007520, 7993270⟩, ⟨3007519, 7993271⟩, ⟨-9000000, -18000000⟩] :=
  decodePolylineSafely_exact_and_safe.1 _ (by decide) (by decide)

end GaonOne
