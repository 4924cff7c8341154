import GaonOne.DeliveredEvidence
import GaonOne.DispatchStatements

/-! One pass of the background dispatcher. It takes the waiting deliveries by age,
one transaction each, and remembers those it has looked at; a delivery it cannot
match keeps its place. Whether a pass assigns anything is decided by the deliveries
at the head of the queue. -/
namespace GaonOne
open Relational UnitOfWork Transitions System

variable {env : Environment} {db : Database} {tables : Tables} {radiusKm : ℚ} {draws : Nat → Draws}

/-- Where a pass stands between two iterations. -/
structure DispatchPass where
  database : Database
  seen : List UUID := []
  /-- The deliveries matched, and those skipped; the result counts them. -/
  assigned : List UUID := []
  skipped : List UUID := []
  /-- The loop was left by `break`. -/
  stopped : Bool := false

namespace DispatchPass

/-- One iteration of `dispatch_ready_deliveries`, running alone. -/
def iterate (env : Environment) (radiusKm : ℚ) (draws : Draws) (pass : DispatchPass) : DispatchPass :=
  if pass.stopped then pass
  else
    match readyDelivery pass.database.tables pass.seen [] with
    | none => { pass with stopped := true }
    | some delivery =>
      match dispatchReadyDelivery env (Session.start pass.database.tables) radiusKm pass.seen [] []
        draws with
      | .ok db =>
        { pass with
          database := pass.database.commit db.pending, seen := pass.seen ++ [delivery.id]
          assigned := pass.assigned ++ [delivery.id] }
      | .error _ =>
        { pass with seen := pass.seen ++ [delivery.id], skipped := pass.skipped ++ [delivery.id] }

end DispatchPass

/-- `dispatch_ready_deliveries`, with what each iteration takes from outside. -/
def dispatchReadyDeliveries (env : Environment) (db : Database) (radiusKm : ℚ) (draws : Nat → Draws) :
    Nat → DispatchPass
  | 0 => { database := db }
  | limit + 1 =>
    (dispatchReadyDeliveries env db radiusKm draws limit).iterate env radiusKm (draws limit)

/-- A delivery that waits for a rider, whose order may be carried out from a located
store, and a free rider near it. -/
def Matchable (env : Environment) (db : Tables) (radiusKm : ℚ) (now : Instant) (delivery : Delivery) :
    Prop :=
  delivery ∈ db.deliveries ∧ delivery.status = .unassigned ∧
    ∃ order, db.order? delivery.orderId = some order ∧ order.status = .ready ∧
      paymentAllowsFulfillment order ∧ ∃ store, storePoint db order.storeId = some store ∧
        ∃ presence ∈ db.catalogue.riderPresences, eligibleRider env db store radiusKm now presence

/-! ## The queue -/

section
variable {ρ κ ι : Type} [LinearOrder κ] [DecidableEq ι] {key : ρ → κ} {col : ρ → ι} {rows : List ρ}

/-- Of the rows that are not among the first of the queue, the least is the next of it. -/
theorem argmin_unseen (keys : ∀ left ∈ rows, ∀ right ∈ rows, key left = key right → left = right)
    (unique : Unique col rows) (count : Nat) :
    (rows.filter fun row =>
        col row ∉ ((rows.insertionSort fun left right => key left ≤ key right).map col).take count).argmin
      key = (rows.insertionSort fun left right => key left ≤ key right)[count]? := by
  generalize queued : rows.insertionSort (fun left right => key left ≤ key right) = queue
  have same : ∀ row, row ∈ queue ↔ row ∈ rows := fun row => by
    rw [← queued]
    exact List.mem_insertionSort _
  have sorted : queue.Pairwise fun left right => key left ≤ key right := by
    rw [← queued]
    exact List.pairwise_insertionSort _ _
  have distinct : (queue.map col).Nodup := by
    rw [← queued]
    exact ((List.perm_insertionSort _ rows).map col).nodup_iff.mpr unique
  have split : (queue.map col).take count ++ (queue.map col).drop count = queue.map col :=
    List.take_append_drop ..
  -- what is left is what the queue holds from here on
  have left : ∀ row ∈ rows, col row ∉ (queue.map col).take count ↔ row ∈ queue.drop count := by
    intro row member
    constructor
    · intro fresh
      have inside : row ∈ queue.take count ++ queue.drop count := by
        rw [List.take_append_drop]
        exact (same row).mpr member
      rcases List.mem_append.mp inside with early | late
      · rw [← List.map_take] at fresh
        exact absurd (List.mem_map_of_mem early) fresh
      · exact late
    · intro late early
      rw [← split] at distinct
      refine (List.disjoint_of_nodup_append distinct) early ?_
      rw [← List.map_drop]
      exact List.mem_map_of_mem late
  cases next : queue[count]? with
  | none =>
    have past : queue.drop count = [] := List.drop_eq_nil_of_le (List.getElem?_eq_none_iff.mp next)
    rw [List.argmin_eq_none, List.filter_eq_nil_iff]
    intro row member fresh
    have late := (left row member).mp (of_decide_eq_true fresh)
    rw [past] at late
    exact List.not_mem_nil late
  | some first =>
    obtain ⟨within, here⟩ := List.getElem?_eq_some_iff.mp next
    have rest : queue.drop count = first :: queue.drop (count + 1) := by
      rw [← here]
      exact List.drop_eq_getElem_cons within
    have among : first ∈ rows := (same first).mp (here ▸ List.getElem_mem within)
    have candidate : first ∈ rows.filter fun row => col row ∉ (queue.map col).take count := by
      refine List.mem_filter.mpr ⟨among, decide_eq_true ((left first among).mpr ?_)⟩
      rw [rest]
      exact List.mem_cons_self
    cases chosen : (rows.filter fun row => col row ∉ (queue.map col).take count).argmin key with
    | none =>
      rw [List.argmin_eq_none.mp chosen] at candidate
      exact absurd candidate List.not_mem_nil
    | some least =>
      obtain ⟨member, fresh⟩ := List.mem_filter.mp (List.argmin_mem chosen)
      have late := (left least member).mp (of_decide_eq_true fresh)
      have below : key least ≤ key first := List.le_of_mem_argmin candidate chosen
      have above : key first ≤ key least := by
        rw [rest] at late
        rcases List.mem_cons.mp late with rfl | later
        · exact le_rfl
        · have ahead := sorted.drop (i := count)
          rw [rest] at ahead
          exact List.rel_of_pairwise_cons ahead later
      rw [keys least member first among (le_antisymm below above)]

end

/-- After the first of the queue, the next of it is looked at. -/
theorem readyDelivery_next (ids : Unique Delivery.id tables.deliveries) (count : Nat) :
    (readyDelivery tables ((readyDeliveries tables []).take count) []).map (·.id) =
      (readyDeliveries tables [])[count]? := by
  let waiting (delivery : Delivery) : Bool :=
    decide (delivery.status = .unassigned ∧
      ((tables.order? delivery.orderId).any fun order => decide (order.status = .ready)))
  have queue : readyDeliveries tables [] =
      ((tables.deliveries.filter waiting).insertionSort fun left right =>
        toLex (left.updatedAt, left.id.toNat) ≤ toLex (right.updatedAt, right.id.toNat)).map (·.id) := by
    unfold readyDeliveries
    congr 2
    apply List.filter_congr
    intro delivery _
    simp [waiting]
  have candidates : ∀ seen : List UUID, (tables.deliveries.filter fun delivery =>
      decide (delivery.status = .unassigned ∧ delivery.id ∉ seen ∧ delivery.id ∉ ([] : List UUID) ∧
        ((tables.order? delivery.orderId).any fun order => decide (order.status = .ready)))) =
      (tables.deliveries.filter waiting).filter fun delivery => delivery.id ∉ seen := by
    intro seen
    rw [List.filter_filter]
    apply List.filter_congr
    intro delivery _
    by_cases fresh : delivery.id ∈ seen <;> simp [waiting, fresh]
  have unique : Unique Delivery.id (tables.deliveries.filter waiting) :=
    List.Nodup.sublist (List.filter_sublist.map _) ids
  have keys : ∀ left ∈ tables.deliveries.filter waiting, ∀ right ∈ tables.deliveries.filter waiting,
      toLex (left.updatedAt, left.id.toNat) = toLex (right.updatedAt, right.id.toNat) → left = right := by
    intro left here right there same
    have pair : (left.updatedAt, left.id.toNat) = (right.updatedAt, right.id.toNat) := toLex_inj.mp same
    exact unique_eq unique here there (BitVec.eq_of_toNat_eq (Prod.mk.inj pair).2)
  unfold readyDelivery
  rw [candidates, queue, argmin_unseen keys unique, List.getElem?_map]

/-! ## One iteration -/

theorem nearestEligibleRider_isSome {store : Point} {now : Instant} :
    (nearestEligibleRider env tables store radiusKm [] now).isSome ↔
      ∃ presence ∈ tables.catalogue.riderPresences, eligibleRider env tables store radiusKm now presence := by
  unfold nearestEligibleRider
  rw [Option.isSome_map, Option.isSome_iff_ne_none, ne_eq, List.argmin_eq_none,
    List.filter_eq_nil_iff]
  simp

/-- What is known of the delivery an iteration looks at. -/
theorem readyDelivery_mem {seen locked : List UUID} {delivery : Delivery}
    (picked : readyDelivery tables seen locked = some delivery) :
    delivery ∈ tables.deliveries ∧ delivery.status = .unassigned ∧ delivery.id ∉ seen ∧
      ∃ order, tables.order? delivery.orderId = some order ∧ order.status = .ready := by
  obtain ⟨member, candidate⟩ := List.mem_filter.mp (List.argmin_mem picked)
  obtain ⟨free, fresh, -, ready⟩ := of_decide_eq_true candidate
  obtain ⟨order, held, status⟩ := (Option.any_eq_true ..).mp ready
  exact ⟨member, free, fresh, order, held, of_decide_eq_true status⟩

theorem Tables.Constraints.putDelivery {old new : Delivery} (constraints : tables.Constraints)
    (held : old ∈ tables.deliveries) (sameId : new.id = old.id) (sameOrder : new.orderId = old.orderId) :
    (tables.putDelivery new).Constraints := by
  have ids := constraints.deliveryIds
  exact
    { constraints with
      deliveryIds := unique_put (kept_of_key ids held sameId sameId) ids
      deliveryOrders := unique_put (kept_of_key ids held sameId sameOrder) constraints.deliveryOrders
      deliveryParents := references_put_child ⟨old, held, sameOrder.symm⟩ constraints.deliveryParents
      proofParents := references_put_parent new constraints.proofParents }

/-- The rider found nearest is a user, and idle. -/
theorem nearestEligibleRider_user {store : Point} {now : Instant}
    (nearest : nearestEligibleRider env tables store radiusKm [] now = some riderId) :
    (∃ rider, tables.user? riderId = some rider) ∧ ¬riderIsBusy tables riderId none := by
  obtain ⟨presence, chosen, rfl⟩ := Option.map_eq_some_iff.mp nearest
  obtain ⟨-, eligible⟩ := List.mem_filter.mp (List.argmin_mem chosen)
  obtain ⟨⟨-, -, -, ⟨rider, member, own, -⟩, idle⟩, -⟩ := of_decide_eq_true eligible
  refine ⟨?_, idle⟩
  cases found : tables.user? presence.riderId with
  | some rider => exact ⟨rider, rfl⟩
  | none => exact absurd own (lookup_eq_none_iff.mp found rider member)

/-- An iteration assigns the delivery it looks at exactly when it can be matched. -/
theorem dispatchReadyDelivery_isOk {seen : List UUID} {delivery : Delivery} {drawn : Draws}
    (constraints : tables.Constraints) (picked : readyDelivery tables seen [] = some delivery) :
    (∃ result, dispatchReadyDelivery env (Session.start tables) radiusKm seen [] [] drawn = .ok result) ↔
      Matchable env tables radiusKm drawn.now delivery := by
  obtain ⟨member, free, -, order, held, ready⟩ := readyDelivery_mem picked
  simp only [dispatchReadyDelivery, found_bind_ok, require_bind_ok, assignedDelivery_bind_ok,
    flushRows, pure_ok]
  constructor
  · rintro ⟨result, other, same, placed, found, ⟨-, gate⟩, store, located, riderId, nearest, -⟩
    cases picked.symm.trans same
    have found : tables.order? delivery.orderId = some placed := found
    cases held.symm.trans found
    refine ⟨member, free, order, held, ready, gate, store, located, ?_⟩
    exact nearestEligibleRider_isSome.mp (by rw [nearest]; rfl)
  · rintro ⟨-, -, placed, found, -, gate, store, located, near⟩
    cases held.symm.trans found
    obtain ⟨riderId, nearest⟩ := Option.isSome_iff_exists.mp (nearestEligibleRider_isSome.mpr near)
    obtain ⟨⟨rider, user⟩, idle⟩ := nearestEligibleRider_user nearest
    refine ⟨_, delivery, picked, order, held, ⟨ready, gate⟩, store, located, riderId, nearest, rider,
      user, idle, canTransitionDelivery_assigned.mpr free, ?_, rfl⟩
    exact constraints.putDelivery member rfl rfl

/-- What an iteration that assigns commits. -/
theorem dispatchReadyDelivery_pending {seen : List UUID} {delivery : Delivery} {drawn : Draws}
    {result : DbSession} (picked : readyDelivery tables seen [] = some delivery)
    (ran : dispatchReadyDelivery env (Session.start tables) radiusKm seen [] [] drawn = .ok result) :
    ∃ changed : Delivery, changed.id = delivery.id ∧ result.pending = tables.putDelivery changed := by
  simp only [dispatchReadyDelivery, found_bind_ok, require_bind_ok, assignedDelivery_bind_ok,
    flushRows, pure_ok] at ran
  obtain ⟨other, same, _, -, -, _, -, _, -, rider, -, -, -, -, rfl⟩ := ran
  cases picked.symm.trans same
  exact ⟨{ delivery with
    deliveryPartnerId := some rider.id, status := .assigned, assignedAt := some drawn.now
    updatedAt := drawn.now }, rfl, rfl⟩

/-- What one iteration does: it stops, skips the delivery it looked at, or matches it. -/
inductive Iterates (env : Environment) (radiusKm : ℚ) (now : Instant) (pass : DispatchPass) :
    DispatchPass → Prop where
  | past (stopped : pass.stopped) : Iterates env radiusKm now pass pass
  | stops (empty : readyDelivery pass.database.tables pass.seen [] = none) :
      Iterates env radiusKm now pass { pass with stopped := true }
  | skips (delivery : Delivery) (running : ¬pass.stopped)
      (picked : readyDelivery pass.database.tables pass.seen [] = some delivery)
      (unmatched : ¬Matchable env pass.database.tables radiusKm now delivery) :
      Iterates env radiusKm now pass
        { pass with seen := pass.seen ++ [delivery.id], skipped := pass.skipped ++ [delivery.id] }
  | assigns (delivery changed : Delivery) (running : ¬pass.stopped)
      (picked : readyDelivery pass.database.tables pass.seen [] = some delivery)
      (matched : Matchable env pass.database.tables radiusKm now delivery) (own : changed.id = delivery.id)
      (later : Database)
      (commits : later.tables = pass.database.tables ∨
        later.tables = pass.database.tables.putDelivery changed) :
      Iterates env radiusKm now pass
        { pass with
          database := later, seen := pass.seen ++ [delivery.id]
          assigned := pass.assigned ++ [delivery.id] }

theorem DispatchPass.iterate_spec (pass : DispatchPass) (drawn : Draws) :
    Iterates env radiusKm drawn.now pass (pass.iterate env radiusKm drawn) := by
  unfold DispatchPass.iterate
  split
  case isTrue stopped => exact .past stopped
  case isFalse running =>
  split
  case h_1 empty => exact .stops empty
  case h_2 delivery picked =>
  have exact : (∃ result, dispatchReadyDelivery env (Session.start pass.database.tables) radiusKm
      pass.seen [] [] drawn = .ok result) ↔ Matchable env pass.database.tables radiusKm drawn.now delivery :=
    dispatchReadyDelivery_isOk pass.database.constraints picked
  split
  · next result ran =>
    obtain ⟨changed, own, pending⟩ := dispatchReadyDelivery_pending picked ran
    refine .assigns delivery changed running picked (exact.mp ⟨result, ran⟩) own _ ?_
    rw [pending]
    exact ((pass.database.commit_tables _).symm.imp_left fun same => by rw [same])
  · next error raised =>
    refine .skips delivery running picked fun matched => ?_
    obtain ⟨result, ran⟩ := exact.mpr matched
    cases raised.symm.trans ran

/-! ## A whole pass -/

/-- The promise of a pass: it looks at no delivery twice, assigns or skips each it looks
at, assigns only what can be matched when its turn comes, leaves every other delivery as
it was, and assigns something where something could be matched. -/
structure DispatchesWell (env : Environment) (db : Database) (radiusKm : ℚ) (draws : Nat → Draws)
    (limit : Nat) : Prop where
  once : (dispatchReadyDeliveries env db radiusKm draws limit).seen.Nodup
  considered : (dispatchReadyDeliveries env db radiusKm draws limit).seen.Perm
    ((dispatchReadyDeliveries env db radiusKm draws limit).assigned ++
      (dispatchReadyDeliveries env db radiusKm draws limit).skipped)
  matched : ∀ count < limit,
    ∀ id ∈ (dispatchReadyDeliveries env db radiusKm draws (count + 1)).assigned,
      id ∉ (dispatchReadyDeliveries env db radiusKm draws count).assigned →
      ∃ delivery, delivery.id = id ∧
        Matchable env (dispatchReadyDeliveries env db radiusKm draws count).database.tables radiusKm
          (draws count).now delivery
  kept : ∀ id ∉ (dispatchReadyDeliveries env db radiusKm draws limit).assigned,
    (dispatchReadyDeliveries env db radiusKm draws limit).database.tables.delivery? id =
      db.tables.delivery? id
  progress : (∃ delivery, Matchable env db.tables radiusKm (draws 0).now delivery) →
    (dispatchReadyDeliveries env db radiusKm draws limit).assigned ≠ []

theorem Iterates.seen {pass later : DispatchPass} (step : Iterates env radiusKm now pass later)
    (distinct : pass.seen.Nodup) (considered : pass.seen.Perm (pass.assigned ++ pass.skipped)) :
    later.seen.Nodup ∧ later.seen.Perm (later.assigned ++ later.skipped) := by
  have extended : ∀ delivery, readyDelivery pass.database.tables pass.seen [] = some delivery →
      (pass.seen ++ [delivery.id]).Nodup := by
    intro delivery picked
    obtain ⟨-, -, fresh, -⟩ := readyDelivery_mem picked
    exact List.nodup_append.mpr ⟨distinct, List.nodup_singleton _, fun id early other last same =>
      fresh (List.mem_singleton.mp last ▸ same ▸ early)⟩
  cases step with
  | past | stops => exact ⟨distinct, considered⟩
  | skips delivery running picked =>
    refine ⟨extended delivery picked, ?_⟩
    dsimp only
    rw [← List.append_assoc]
    exact considered.append_right _
  | assigns delivery changed running picked =>
    refine ⟨extended delivery picked, ?_⟩
    dsimp only
    refine (considered.append_right _).trans ?_
    rw [List.append_assoc, List.append_assoc]
    exact List.perm_append_comm.append_left _

/-- An iteration changes no delivery but the one it assigns. -/
theorem Iterates.kept {pass later : DispatchPass} (step : Iterates env radiusKm now pass later)
    (other : deliveryId ∉ later.assigned) :
    later.database.tables.delivery? deliveryId = pass.database.tables.delivery? deliveryId := by
  cases step with
  | past | stops | skips => rfl
  | assigns delivery changed running picked matched own later commits =>
    rcases commits with same | written
    · exact congrArg (Tables.delivery? · deliveryId) same
    · have differ : changed.id ≠ deliveryId := fun same =>
        other (List.mem_append_right _ (List.mem_singleton.mpr (same.symm.trans own)))
      dsimp only
      rw [written]
      exact lookup_put_ne differ _

theorem Iterates.assigned {pass later : DispatchPass} (step : Iterates env radiusKm now pass later) :
    pass.assigned ⊆ later.assigned := by
  cases step with
  | past | stops | skips => exact List.Subset.refl _
  | assigns => exact List.subset_append_left ..

/-- The place in the queue whose delivery can be matched when it is looked at. -/
def MatchedAt (env : Environment) (db : Tables) (radiusKm : ℚ) (draws : Nat → Draws) (place : Nat) :
    Prop :=
  ∃ delivery, (readyDeliveries db [])[place]? = some delivery.id ∧
    Matchable env db radiusKm (draws place).now delivery

/-- As long as nothing is assigned, a pass walks down the queue it started with. -/
theorem pass_walks (env : Environment) (db : Database) (radiusKm : ℚ) (draws : Nat → Draws)
    (limit : Nat) :
    ((dispatchReadyDeliveries env db radiusKm draws limit).assigned ≠ [] ∧
      ∃ place < limit, MatchedAt env db.tables radiusKm draws place) ∨
    ((dispatchReadyDeliveries env db radiusKm draws limit).assigned = [] ∧
      (dispatchReadyDeliveries env db radiusKm draws limit).database = db ∧
      (dispatchReadyDeliveries env db radiusKm draws limit).seen =
        (readyDeliveries db.tables []).take limit ∧
      ((dispatchReadyDeliveries env db radiusKm draws limit).stopped →
        (readyDeliveries db.tables []).length ≤ limit) ∧
      ∀ place < limit, ¬MatchedAt env db.tables radiusKm draws place) := by
  induction limit with
  | zero => exact Or.inr ⟨rfl, rfl, rfl, nofun, fun place early => absurd early (Nat.not_lt_zero _)⟩
  | succ count ih =>
    have step : Iterates env radiusKm (draws count).now
        (dispatchReadyDeliveries env db radiusKm draws count)
        (dispatchReadyDeliveries env db radiusKm draws (count + 1)) :=
      (dispatchReadyDeliveries env db radiusKm draws count).iterate_spec (draws count)
    generalize dispatchReadyDeliveries env db radiusKm draws (count + 1) = later at step
    generalize dispatchReadyDeliveries env db radiusKm draws count = pass at step ih
    rcases ih with ⟨some, place, early, matched⟩ | ⟨none, same, seen, past, unmatched⟩
    · refine Or.inl ⟨fun empty => some ?_, place, by omega, matched⟩
      exact List.subset_nil.mp (empty ▸ step.assigned)
    · have next := readyDelivery_next db.constraints.deliveryIds count
      -- past the end of the queue there is nothing to match
      have beyond : (readyDeliveries db.tables []).length ≤ count →
          (readyDeliveries db.tables []).take count = (readyDeliveries db.tables []).take (count + 1) ∧
          ∀ place < count + 1, ¬MatchedAt env db.tables radiusKm draws place := by
        intro ended
        refine ⟨by rw [List.take_of_length_le ended, List.take_of_length_le (by omega)], ?_⟩
        intro place early matched
        by_cases last : place < count
        · exact unmatched place last matched
        · obtain ⟨delivery, here, -⟩ := matched
          rw [List.getElem?_eq_none (by omega)] at here
          cases here
      have ahead : ∀ delivery, readyDelivery db.tables ((readyDeliveries db.tables []).take count) [] =
          some delivery → (readyDeliveries db.tables [])[count]? = some delivery.id := by
        intro delivery picked
        rw [← next, picked, Option.map_some]
      cases step with
      | past stopped =>
        obtain ⟨taken, nothing⟩ := beyond (past stopped)
        exact Or.inr ⟨none, same, seen.trans taken, fun halted => Nat.le_succ_of_le (past halted),
          nothing⟩
      | stops empty =>
        rw [same, seen] at empty
        rw [empty] at next
        have ended := List.getElem?_eq_none_iff.mp next.symm
        obtain ⟨taken, nothing⟩ := beyond ended
        exact Or.inr ⟨none, same, seen.trans taken, fun _ => Nat.le_succ_of_le ended, nothing⟩
      | skips delivery running picked missed =>
        rw [same, seen] at picked
        have here := ahead delivery picked
        refine Or.inr ⟨none, same, ?_, fun halted => absurd halted running, ?_⟩
        · dsimp only
          rw [seen, List.take_add_one, here, Option.toList_some]
        · intro place early matched
          by_cases last : place < count
          · exact unmatched place last matched
          · have last : place = count := by omega
            subst last
            obtain ⟨other, found, matched⟩ := matched
            have one : other = delivery := unique_eq db.constraints.deliveryIds matched.1
              (readyDelivery_mem picked).1 (Option.some.inj (found.symm.trans here))
            rw [same] at missed
            exact missed (one ▸ matched)
      | assigns delivery changed running picked matched own later commits =>
        rw [same, seen] at picked
        rw [same] at matched
        refine Or.inl ⟨by simp, count, Nat.lt_succ_self _, delivery, ahead delivery picked, matched⟩

/-- Two ready cash orders: the older at a store without a location, the younger at one
with a rider beside it. -/
def waitingOrders : Database where
  tables :=
    { catalogue := { sampleCatalogue with
        stores := sampleCatalogue.stores ++
          [⟨2, 1, 1, some 1, "Dukan", none, none, some 20, some 77, none, none, true, true⟩]
        riderPresences := [⟨4, 20, 77, true, 0⟩] }
      orders :=
        [⟨1, "GO-1", 1, 1, 1, none, none, .ready, .cod, .pending, 10000, 2000, 12000⟩,
          ⟨2, "GO-2", 1, 2, 1, none, none, .ready, .cod, .pending, 10000, 2000, 12000⟩]
      deliveries :=
        [⟨1, 1, none, .unassigned, none, none, none, none, none, none, none, 1⟩,
          ⟨2, 2, none, .unassigned, none, none, none, none, none, none, none, 2⟩] }
  constraints := by decide +kernel

end GaonOne
