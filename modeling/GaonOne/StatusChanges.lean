import GaonOne.RiderLoad
import GaonOne.StatusEvents

/-! What each request does to statuses, and so what the triggers record of it. A request holds
the rows it moves, so what it read of their status is still so when it commits; everything
else it writes leaves statuses alone. -/
namespace GaonOne
open Relational UnitOfWork ReadCommitted

/-! ## What triggers see of a write -/

section
variable {ρ κ σ : Type} [DecidableEq κ] [DecidableEq σ] {key : ρ → κ} {status : ρ → σ}
  {before after : List ρ} {old new : ρ}

/-- A row that keeps its status is not recorded. -/
theorem movedRows_still (unique : Relational.Unique key before)
    (same : ∀ new ∈ after, ∃ old ∈ before, key old = key new ∧ status old = status new) :
    movedRows key status before after = [] := by
  apply List.filterMap_eq_nil_iff.mpr
  intro new inside
  obtain ⟨old, there, agree, stays⟩ := same new inside
  have found : lookup key (key new) before = some old := (lookup_eq_some_iff unique).mpr ⟨there, agree⟩
  simp [found, stays]

/-- An update of one row records it, if it has another status now. -/
theorem movedRows_put (unique : Relational.Unique key before)
    (held : lookup key (key new) before = some old) :
    movedRows key status before (put key new before) =
      if status old = status new then [] else [(old, new)] := by
  obtain ⟨there, agree⟩ := (lookup_eq_some_iff unique).mp held
  obtain ⟨left, right, parts⟩ := List.append_of_mem there
  have distinct := unique
  unfold Relational.Unique at distinct
  rw [parts, List.map_append, List.map_cons, List.nodup_middle] at distinct
  obtain ⟨alone, -⟩ := List.nodup_cons.mp distinct
  have kept : ∀ rows, rows ⊆ before → (∀ row ∈ rows, key row ≠ key old) →
      movedRows key status before (put key new rows) = [] := by
    intro rows inside differ
    apply movedRows_still unique
    intro row member
    rcases mem_put.mp member with ⟨rfl, other, held, same⟩ | ⟨member, -⟩
    · exact absurd (same.trans agree.symm) (differ other held)
    · exact ⟨row, inside member, rfl, rfl⟩
  have lefts : left ⊆ before := by simp [parts]
  have rights : right ⊆ before := by
    intro row inside
    simp [parts, inside]
  have first := kept left lefts fun row inside same => alone
    (List.mem_append_left _ (same ▸ List.mem_map_of_mem inside))
  have last := kept right rights fun row inside same => alone
    (List.mem_append_right _ (same ▸ List.mem_map_of_mem inside))
  have whole : put key new before = put key new left ++ new :: put key new right := by
    rw [parts]
    simp [put, agree]
  unfold movedRows at first last ⊢
  rw [whole, List.filterMap_append, List.filterMap_cons, first, last, held]
  by_cases same : status old = status new <;> simp [Option.filter, same]

/-- What an update shows of the rows depends on what they showed. -/
theorem map_put_congr {face : ρ → β} (showsKey : ∀ left right, face left = face right → key left = key right)
    (new : ρ) (same : after.map face = before.map face) :
    (put key new after).map face = (put key new before).map face := by
  induction after generalizing before with
  | nil =>
    rw [List.map_nil] at same
    rw [List.map_eq_nil_iff.mp same.symm]
  | cons row rows ih =>
    cases before with
    | nil => cases same
    | cons other others =>
      obtain ⟨here, rest⟩ := List.cons.inj same
      have agree := showsKey row other here
      have tail := ih rest
      simp only [put, List.map_cons, List.cons.injEq] at tail ⊢
      refine ⟨?_, tail⟩
      by_cases hit : key row = key new
      · rw [if_pos hit, if_pos (agree ▸ hit)]
      · rw [if_neg hit, if_neg (agree ▸ hit), here]

end

/-- What the history knows an order by: its key, its customer and its status. -/
def orderFace (order : Order) : UUID × UUID × OrderStatus := (order.id, order.userId, order.status)

/-- What the history knows a delivery by: its key, its order and its status. -/
def deliveryFace (delivery : Delivery) : UUID × UUID × DeliveryStatus :=
  (delivery.id, delivery.orderId, delivery.status)

/-- Statuses are left alone. -/
structure Still (before after : Tables) : Prop where
  orders : after.orders.map orderFace = before.orders.map orderFace
  deliveries : after.deliveries.map deliveryFace = before.deliveries.map deliveryFace

/-- Orders and deliveries are told apart by their keys. -/
structure Keyed (db : Tables) : Prop where
  orders : Relational.Unique Order.id db.orders
  deliveries : Relational.Unique Delivery.id db.deliveries

theorem Still.refl (db : Tables) : Still db db := ⟨rfl, rfl⟩

theorem Still.of_eq {before after : Tables} (orders : after.orders = before.orders)
    (deliveries : after.deliveries = before.deliveries) : Still before after :=
  ⟨congrArg _ orders, congrArg _ deliveries⟩

theorem Tables.Constraints.keyed {db : Tables} (constraints : db.Constraints) : Keyed db :=
  ⟨constraints.orderIds, constraints.deliveryIds⟩

theorem orderIds_of_faces {left right : List Order} (same : left.map orderFace = right.map orderFace)
    (unique : Relational.Unique Order.id right) : Relational.Unique Order.id left := by
  have ids := congrArg (List.map Prod.fst) same
  rw [List.map_map, List.map_map] at ids
  exact (congrArg List.Nodup ids).mpr unique

theorem deliveryIds_of_faces {left right : List Delivery}
    (same : left.map deliveryFace = right.map deliveryFace)
    (unique : Relational.Unique Delivery.id right) : Relational.Unique Delivery.id left := by
  have ids := congrArg (List.map Prod.fst) same
  rw [List.map_map, List.map_map] at ids
  exact (congrArg List.Nodup ids).mpr unique

theorem Keyed.of_eq {before after : Tables} (keyed : Keyed before) (orders : after.orders = before.orders)
    (deliveries : after.deliveries = before.deliveries) : Keyed after :=
  ⟨orders ▸ keyed.orders, deliveries ▸ keyed.deliveries⟩

theorem Still.keyed (still : Still before after) (keyed : Keyed before) : Keyed after :=
  ⟨orderIds_of_faces still.orders keyed.orders, deliveryIds_of_faces still.deliveries keyed.deliveries⟩

theorem movedOrders_still {before after : List Order} (keyed : Relational.Unique Order.id before)
    (still : after.map orderFace = before.map orderFace) :
    movedRows Order.id Order.status before after = [] := by
  apply movedRows_still keyed
  intro new inside
  have shown : orderFace new ∈ before.map orderFace := still ▸ List.mem_map_of_mem inside
  obtain ⟨old, there, same⟩ := List.mem_map.mp shown
  simp only [orderFace, Prod.mk.injEq] at same
  exact ⟨old, there, same.1, same.2.2⟩

theorem movedDeliveries_still {before after : List Delivery}
    (keyed : Relational.Unique Delivery.id before)
    (still : after.map deliveryFace = before.map deliveryFace) :
    movedRows Delivery.id Delivery.status before after = [] := by
  apply movedRows_still keyed
  intro new inside
  have shown : deliveryFace new ∈ before.map deliveryFace := still ▸ List.mem_map_of_mem inside
  obtain ⟨old, there, same⟩ := List.mem_map.mp shown
  simp only [deliveryFace, Prod.mk.injEq] at same
  exact ⟨old, there, same.1, same.2.2⟩

/-- Nothing is recorded of a write that leaves statuses alone. -/
theorem auditedChanges_still (stamp : Stamp) (keyed : Keyed before) (still : Still before after) :
    auditedChanges stamp before after = [] := by
  rw [auditedChanges, movedOrders_still keyed.orders still.orders,
    movedDeliveries_still keyed.deliveries still.deliveries]
  rfl

/-- What the triggers record of a list of writes. -/
def told (stamp : Stamp) (made : List (Market → Market)) (now : Market) : List StatusTransitionEvent :=
  (replay (statusTriggers stamp) made (now, [])).2

theorem replay_statusTriggers (stamp : Stamp) (made : List (Market → Market)) (chronicle : Chronicle) :
    replay (statusTriggers stamp) made chronicle =
      (applied made chronicle.1, chronicle.2 ++ told stamp made chronicle.1) := by
  have appends : ∀ events (chronicle : Chronicle),
      (replay (statusTriggers stamp) made (chronicle.1, events ++ chronicle.2)).2 =
        events ++ (replay (statusTriggers stamp) made chronicle).2 := by
    induction made with
    | nil => exact fun _ _ => rfl
    | cons write made ih =>
      intro events chronicle
      have rest := ih events (fired (statusTriggers stamp) write chronicle)
      simpa only [replay_cons, fired, statusTriggers, List.append_assoc] using rest
  refine Prod.ext (replay_fst _ _ _) ?_
  have whole := appends chronicle.2 (chronicle.1, [])
  rwa [List.append_nil] at whole

theorem told_cons (stamp : Stamp) (write : Market → Market) (made : List (Market → Market)) (now : Market) :
    told stamp (write :: made) now =
      auditedChanges stamp now.tables (write now).tables ++ told stamp made (write now) := by
  have step := congrArg Prod.snd (replay_statusTriggers stamp made (write now,
    auditedChanges stamp now.tables (write now).tables))
  exact step

/-! ## One transaction's change of statuses -/

/-- The order and the delivery that a transaction moves, each with the status it leaves. -/
structure StatusStep where
  order : Option (OrderStatus × Order) := none
  delivery : Option (DeliveryStatus × Delivery) := none

namespace StatusStep

def events (step : StatusStep) (stamp : Stamp) : List StatusTransitionEvent :=
  (step.order.map fun moved => auditOrderStatus stamp { moved.2 with status := moved.1 } moved.2).toList ++
    (step.delivery.map fun moved =>
      auditDeliveryStatus stamp { moved.2 with status := moved.1 } moved.2).toList

def orders (step : StatusStep) (rows : List Order) : List Order :=
  step.order.elim rows fun moved => put Order.id moved.2 rows

def deliveries (step : StatusStep) (rows : List Delivery) : List Delivery :=
  step.delivery.elim rows fun moved => put Delivery.id moved.2 rows

/-- The rows that move are there, with the statuses they leave, and may leave them so. -/
structure Fits (step : StatusStep) (db : Tables) : Prop where
  order : ∀ before new, step.order = some (before, new) → canTransitionOrder before new.status ∧
    ∃ old, db.order? new.id = some old ∧ old.userId = new.userId ∧ old.status = before
  delivery : ∀ before new, step.delivery = some (before, new) →
    canTransitionDelivery before new.status ∧
    ∃ old, db.delivery? new.id = some old ∧ old.orderId = new.orderId ∧ old.status = before

/-- The rows that move are locked. -/
structure Locked (step : StatusStep) (held : List RowLock) : Prop where
  order : ∀ before new, step.order = some (before, new) → (Row.order new.id).forUpdate ∈ held
  delivery : ∀ before new, step.delivery = some (before, new) → (Row.delivery new.id).forUpdate ∈ held

theorem Fits.of_eq {step : StatusStep} {before after : Tables} (fits : step.Fits before)
    (orders : after.orders = before.orders) (deliveries : after.deliveries = before.deliveries) :
    step.Fits after := by
  refine ⟨?_, ?_⟩
  · unfold Tables.order?
    rw [orders]
    exact fits.order
  · unfold Tables.delivery?
    rw [deliveries]
    exact fits.delivery

/-- What fits fits as well where statuses were left alone. -/
theorem Fits.still {step : StatusStep} (fits : step.Fits before) (keyed : Keyed before)
    (still : Still before after) : step.Fits after := by
  have kept := still.keyed keyed
  constructor
  · intro earlier new moves
    obtain ⟨allowed, old, current, owner, status⟩ := fits.order earlier new moves
    have shown : orderFace old ∈ after.orders.map orderFace :=
      still.orders ▸ List.mem_map_of_mem (lookup_mem current)
    obtain ⟨next, there, same⟩ := List.mem_map.mp shown
    simp only [orderFace, Prod.mk.injEq] at same
    refine ⟨allowed, next, ?_, same.2.1.trans owner, same.2.2.trans status⟩
    exact (lookup_eq_some_iff kept.orders).mpr ⟨there, same.1.trans (lookup_col current)⟩
  · intro earlier new moves
    obtain ⟨allowed, old, current, parent, status⟩ := fits.delivery earlier new moves
    have shown : deliveryFace old ∈ after.deliveries.map deliveryFace :=
      still.deliveries ▸ List.mem_map_of_mem (lookup_mem current)
    obtain ⟨next, there, same⟩ := List.mem_map.mp shown
    simp only [deliveryFace, Prod.mk.injEq] at same
    refine ⟨allowed, next, ?_, same.2.1.trans parent, same.2.2.trans status⟩
    exact (lookup_eq_some_iff kept.deliveries).mpr ⟨there, same.1.trans (lookup_col current)⟩

end StatusStep

/-- Replayed on a database, the writes do to statuses what the step says, and the triggers
record that and nothing else. -/
structure Performs (stamp : Stamp) (made : List (Market → Market)) (step : StatusStep) (now : Market) :
    Prop where
  told : told stamp made now = step.events stamp
  orders : (applied made now).tables.orders.map orderFace =
    (step.orders now.tables.orders).map orderFace
  deliveries : (applied made now).tables.deliveries.map deliveryFace =
    (step.deliveries now.tables.deliveries).map deliveryFace

theorem orderFace_key (left right : Order) (same : orderFace left = orderFace right) :
    left.id = right.id := congrArg Prod.fst same

theorem deliveryFace_key (left right : Delivery) (same : deliveryFace left = deliveryFace right) :
    left.id = right.id := congrArg Prod.fst same

namespace Performs
variable {stamp : Stamp} {made : List (Market → Market)} {step : StatusStep} {now : Market}
  {write : Market → Market}

/-- A transaction that writes nothing moves nothing. -/
theorem nothing : Performs stamp [] {} now := ⟨rfl, rfl, rfl⟩

theorem orders_congr (step : StatusStep) {left right : List Order}
    (same : left.map orderFace = right.map orderFace) :
    (step.orders left).map orderFace = (step.orders right).map orderFace := by
  unfold StatusStep.orders
  cases step.order with
  | none => exact same
  | some moved => exact map_put_congr orderFace_key moved.2 same

theorem deliveries_congr (step : StatusStep) {left right : List Delivery}
    (same : left.map deliveryFace = right.map deliveryFace) :
    (step.deliveries left).map deliveryFace = (step.deliveries right).map deliveryFace := by
  unfold StatusStep.deliveries
  cases step.delivery with
  | none => exact same
  | some moved => exact map_put_congr deliveryFace_key moved.2 same

/-- Nothing is recorded of what is written before. -/
theorem before (keyed : Keyed now.tables) (still : Still now.tables (write now).tables)
    (performs : Performs stamp made step (write now)) : Performs stamp (write :: made) step now where
  told := by
    rw [told_cons, auditedChanges_still stamp keyed still, performs.told]
    rfl
  orders := performs.orders.trans (orders_congr step still.orders)
  deliveries := performs.deliveries.trans (deliveries_congr step still.deliveries)

/-- The keys stay what they were. -/
theorem keyed (performs : Performs stamp made step now) (keyed : Keyed now.tables) :
    Keyed (applied made now).tables := by
  constructor
  · apply orderIds_of_faces performs.orders
    unfold StatusStep.orders
    cases step.order with
    | none => exact keyed.orders
    | some moved => exact unique_put (fun _ _ same => same) keyed.orders
  · apply deliveryIds_of_faces performs.deliveries
    unfold StatusStep.deliveries
    cases step.delivery with
    | none => exact keyed.deliveries
    | some moved => exact unique_put (fun _ _ same => same) keyed.deliveries

/-- Nothing is recorded of what is written after. -/
theorem after (performs : Performs stamp made step now) (keyed : Keyed now.tables)
    (still : Still (applied made now).tables (write (applied made now)).tables) :
    Performs stamp (made ++ [write]) step now where
  told := by
    have last : GaonOne.told stamp [write] (applied made now) = [] := by
      rw [told_cons, auditedChanges_still stamp (performs.keyed keyed) still]
      rfl
    have both : replay (statusTriggers stamp) (made ++ [write]) (now, []) =
        replay (statusTriggers stamp) [write] (replay (statusTriggers stamp) made (now, [])) := by
      rw [replay_snoc]
      rfl
    unfold GaonOne.told
    rw [both, replay_statusTriggers, replay_fst, last, List.append_nil]
    exact performs.told
  orders := by
    rw [applied_snoc]
    exact still.orders.trans performs.orders
  deliveries := by
    rw [applied_snoc]
    exact still.deliveries.trans performs.deliveries

end Performs

theorem canTransitionOrder_ne (allowed : canTransitionOrder before target) : before ≠ target := by
  rintro rfl
  revert allowed
  cases before <;> decide

theorem canTransitionDelivery_ne (allowed : canTransitionDelivery before target) : before ≠ target := by
  rintro rfl
  revert allowed
  cases before <;> decide

/-- One write that moves an order, a delivery, or both; an order that it writes back and does
not move is known by the same. -/
theorem performs_write {stamp : Stamp} {write : Market → Market} {step : StatusStep} {now : Market}
    (keyed : Keyed now.tables) (fits : step.Fits now.tables)
    (orders : (write now).tables.orders = step.orders now.tables.orders ∨ (step.order = none ∧
      (write now).tables.orders.map orderFace = now.tables.orders.map orderFace))
    (deliveries : (write now).tables.deliveries = step.deliveries now.tables.deliveries) :
    Performs stamp [write] step now where
  told := by
    have nothing : told stamp [] (write now) = [] := rfl
    rw [told_cons, nothing, List.append_nil, auditedChanges, deliveries, StatusStep.events]
    congr 1
    · cases moves : step.order with
      | none =>
        have still : (write now).tables.orders.map orderFace = now.tables.orders.map orderFace := by
          rcases orders with same | ⟨-, still⟩
          · rw [same, StatusStep.orders, moves]
            rfl
          · exact still
        exact congrArg (List.map _) (movedOrders_still keyed.orders still)
      | some moved =>
        obtain ⟨before, new⟩ := moved
        obtain ⟨allowed, old, current, -, rfl⟩ := fits.order before new moves
        have one : movedRows Order.id Order.status _ _ = _ := movedRows_put keyed.orders current
        rw [if_neg (canTransitionOrder_ne allowed)] at one
        rcases orders with same | ⟨none_, -⟩
        · rw [same, StatusStep.orders, moves]
          exact congrArg (List.map _) one
        · cases none_.symm.trans moves
    · unfold StatusStep.deliveries
      cases moves : step.delivery with
      | none => exact congrArg (List.map _) (movedDeliveries_still keyed.deliveries rfl)
      | some moved =>
        obtain ⟨before, new⟩ := moved
        obtain ⟨allowed, old, current, -, rfl⟩ := fits.delivery before new moves
        have one : movedRows Delivery.id Delivery.status _ _ = _ :=
          movedRows_put keyed.deliveries current
        rw [if_neg (canTransitionDelivery_ne allowed)] at one
        exact congrArg (List.map _) one
  orders := by
    rcases orders with same | ⟨none_, still⟩
    · exact congrArg _ same
    · rw [StatusStep.orders, none_]
      exact still
  deliveries := congrArg _ deliveries

end GaonOne
