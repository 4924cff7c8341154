import GaonOne.StatusRequests
import Mathlib.Data.List.Sort

/-! The history of an order. However the requests that change statuses interleave, the
recorded events of an order, in the order they were committed, lead from the status it was
placed with to the status it has, one allowed step each; none of them is ever changed
again; and each says who is accountable for it. -/
namespace GaonOne
open Relational UnitOfWork ReadCommitted Transitions

/-- The events about one order or delivery. -/
def about (entity : Entity) (events : List StatusTransitionEvent) : List StatusTransitionEvent :=
  events.filter fun event => event.About entity

def StatusTransitionEvent.IsOrder (event : StatusTransitionEvent) : Prop := event.entityType = "order"

instance (event : StatusTransitionEvent) : Decidable event.IsOrder :=
  inferInstanceAs (Decidable (_ = _))

/-- An event records one move. -/
def RecordsMove (value : σ → String) (before after : σ) (event : StatusTransitionEvent) : Prop :=
  event.fromStatus = value before ∧ event.toStatus = value after

/-- Who an event names, and why: nobody for pickup and delivery; for a cancellation the
customer who asked for it, or whoever asked for it on the store's status screen; for every
other step of the store the user whose request on that screen it is; for a return the
administrator who sent the goods back. -/
def Attributed (asked : StatusRequest → Prop) (event : StatusTransitionEvent) (order : Order) : Prop :=
  (event.toStatus ∈ ["out_for_delivery", "delivered"] ∧ event.actorUserId = none ∧ event.reason = none) ∨
  (event.toStatus = "cancelled" ∧ event.reason = some "customer_cancelled" ∧
    event.actorUserId = some order.userId ∧ ∃ draws, asked (.cancelOrder order.userId order.id draws)) ∨
  (event.reason = some "merchant_status_update" ∧
    ∃ status ∈ merchantAssignableStatuses, event.toStatus = status.value ∧
      ∃ subject draws, event.actorUserId = some subject ∧
        asked (.updateOrderStatus subject order.id status draws)) ∨
  (event.toStatus = "returned" ∧ event.reason = some "delivery_failed_after_pickup" ∧
    ∃ subject deliveryId notes draws, event.actorUserId = some subject ∧
      asked (.dispatch (.resolveFailedDelivery subject deliveryId .returnToStore notes draws)))

/-- It depends on the order's key and customer only. -/
theorem Attributed.of_order {old : Order} (known : Attributed asked event old) (same : old.id = order.id)
    (owner : old.userId = order.userId) : Attributed asked event order := by
  unfold Attributed at known ⊢
  rwa [← same, ← owner]

/-- What the table of events says of the orders and deliveries there are. -/
structure History (asked : StatusRequest → Prop) (chronicle : Chronicle) : Prop where
  orders : ∀ order ∈ chronicle.1.tables.orders,
    Trail canTransitionOrder (RecordsMove OrderStatus.value) .placed (about (.order order.id) chronicle.2)
      order.status
  deliveries : ∀ delivery ∈ chronicle.1.tables.deliveries,
    Trail canTransitionDelivery (RecordsMove DeliveryStatus.value) .unassigned
      (about (.delivery delivery.id) chronicle.2) delivery.status
  known : ∀ event ∈ chronicle.2,
    (∃ order ∈ chronicle.1.tables.orders, event.About (.order order.id)) ∨
      ∃ delivery ∈ chronicle.1.tables.deliveries, event.About (.delivery delivery.id)
  attributed : ∀ event ∈ chronicle.2, ∀ order ∈ chronicle.1.tables.orders,
    event.About (.order order.id) → Attributed asked event order
  reasoned : ∀ event ∈ chronicle.2, event.entityType = "delivery" → event.toStatus = "failed" →
    FailsFor event.reason
  /-- Events are filed under the order they belong to. -/
  filed : ∀ event ∈ chronicle.2,
    (∀ order ∈ chronicle.1.tables.orders, event.About (.order order.id) → event.orderId = some order.id) ∧
      ∀ delivery ∈ chronicle.1.tables.deliveries, event.About (.delivery delivery.id) →
        event.orderId = some delivery.orderId

/-! ## One step's events -/

theorem about_append (entity : Entity) (left right : List StatusTransitionEvent) :
    about entity (left ++ right) = about entity left ++ about entity right := List.filter_append ..

section
variable {step : StatusStep} {stamp : Stamp} {made : List (Market → Market)} {now : Market}

/-- An event of a step is the order's or the delivery's. -/
theorem mem_events (inside : event ∈ step.events stamp) :
    (∃ before new, step.order = some (before, new) ∧
      event = auditOrderStatus stamp { new with status := before } new) ∨
    ∃ before new, step.delivery = some (before, new) ∧
      event = auditDeliveryStatus stamp { new with status := before } new := by
  rcases List.mem_append.mp inside with order | delivery
  · obtain ⟨⟨before, new⟩, moves, rfl⟩ := Option.map_eq_some_iff.mp (Option.mem_toList.mp order)
    exact .inl ⟨before, new, moves, rfl⟩
  · obtain ⟨⟨before, new⟩, moves, rfl⟩ := Option.map_eq_some_iff.mp (Option.mem_toList.mp delivery)
    exact .inr ⟨before, new, moves, rfl⟩

theorem orderEvent_about (stamp : Stamp) (old new : Order) (entity : Entity) :
    (auditOrderStatus stamp old new).About entity ↔ entity = .order new.id := by
  cases entity with
  | order id =>
    simp only [StatusTransitionEvent.About, auditOrderStatus, Entity.type, Entity.id, true_and,
      Entity.order.injEq]
    exact eq_comm
  | delivery id => simp [StatusTransitionEvent.About, auditOrderStatus, Entity.type]

theorem deliveryEvent_about (stamp : Stamp) (old new : Delivery) (entity : Entity) :
    (auditDeliveryStatus stamp old new).About entity ↔ entity = .delivery new.id := by
  cases entity with
  | order id => simp [StatusTransitionEvent.About, auditDeliveryStatus, Entity.type]
  | delivery id =>
    simp only [StatusTransitionEvent.About, auditDeliveryStatus, Entity.type, Entity.id, true_and,
      Entity.delivery.injEq]
    exact eq_comm

/-- The events of a step about one order. -/
theorem about_order (step : StatusStep) (stamp : Stamp) (id : UUID) :
    about (.order id) (step.events stamp) =
      ((step.order.filter fun moved => moved.2.id = id).map fun moved =>
        auditOrderStatus stamp { moved.2 with status := moved.1 } moved.2).toList := by
  obtain ⟨order, delivery⟩ := step
  have none_ : about (.order id) (delivery.map fun moved =>
      auditDeliveryStatus stamp { moved.2 with status := moved.1 } moved.2).toList = [] := by
    cases delivery with
    | none => rfl
    | some moved => simp [about, deliveryEvent_about]
  rw [StatusStep.events, about_append, none_, List.append_nil]
  cases order with
  | none => rfl
  | some moved =>
    by_cases own : moved.2.id = id
    · simp [about, orderEvent_about, own, Option.filter]
    · have differ : ¬id = moved.2.id := fun same => own same.symm
      simp [about, orderEvent_about, own, differ, Option.filter]

/-- The events of a step about one delivery. -/
theorem about_delivery (step : StatusStep) (stamp : Stamp) (id : UUID) :
    about (.delivery id) (step.events stamp) =
      ((step.delivery.filter fun moved => moved.2.id = id).map fun moved =>
        auditDeliveryStatus stamp { moved.2 with status := moved.1 } moved.2).toList := by
  obtain ⟨order, delivery⟩ := step
  have none_ : about (.delivery id) (order.map fun moved =>
      auditOrderStatus stamp { moved.2 with status := moved.1 } moved.2).toList = [] := by
    cases order with
    | none => rfl
    | some moved => simp [about, orderEvent_about]
  rw [StatusStep.events, about_append, none_, List.nil_append]
  cases delivery with
  | none => rfl
  | some moved =>
    by_cases own : moved.2.id = id
    · simp [about, deliveryEvent_about, own, Option.filter]
    · have differ : ¬id = moved.2.id := fun same => own same.symm
      simp [about, deliveryEvent_about, own, differ, Option.filter]

/-- What there is was there before: known as now, or the row that was moved. -/
theorem row_before {ρ β κ σ : Type} [DecidableEq κ] (key : ρ → κ) {face : ρ → β} {rows after : List ρ}
    {row : ρ} (move : Option (σ × ρ))
    (same : after.map face = (move.elim rows fun moved => put key moved.2 rows).map face)
    (inside : row ∈ after) :
    (∃ old ∈ rows, face old = face row ∧ ∀ before new, move = some (before, new) → key new ≠ key old) ∨
      ∃ before new, move = some (before, new) ∧ face new = face row := by
  have shown : face row ∈ (move.elim rows fun moved => put key moved.2 rows).map face :=
    same ▸ List.mem_map_of_mem inside
  obtain ⟨next, there, agree⟩ := List.mem_map.mp shown
  cases move with
  | none => exact .inl ⟨next, there, agree, nofun⟩
  | some moved =>
    rcases mem_put.mp there with ⟨rfl, -⟩ | ⟨there, differ⟩
    · exact .inr ⟨moved.1, moved.2, rfl, agree⟩
    · refine .inl ⟨next, there, agree, ?_⟩
      rintro _ _ ⟨⟩ same
      exact differ same.symm

/-- Every order there is was there before, and its events of the step lead on from its status
then. -/
theorem Performs.orderTrail (performs : Performs stamp made step now) (fits : step.Fits now.tables)
    {order : Order} (inside : order ∈ (applied made now).tables.orders) :
    ∃ old ∈ now.tables.orders, old.id = order.id ∧ old.userId = order.userId ∧
      Trail canTransitionOrder (RecordsMove OrderStatus.value) old.status
        (about (.order order.id) (step.events stamp)) order.status := by
  rw [about_order]
  rcases row_before Order.id step.order performs.orders inside with
    ⟨old, there, same, differ⟩ | ⟨before, new, moves, same⟩
  · simp only [orderFace, Prod.mk.injEq] at same
    refine ⟨old, there, same.1, same.2.1, ?_⟩
    cases moves : step.order with
    | none => exact same.2.2
    | some moved =>
      have apart : moved.2.id ≠ order.id := fun own => differ _ _ moves (own.trans same.1.symm)
      rw [Option.filter_some_neg (by simpa using apart)]
      exact same.2.2
  · simp only [orderFace, Prod.mk.injEq] at same
    obtain ⟨allowed, old, current, owned, leaves⟩ := fits.order before new moves
    have oldId : old.id = new.id := lookup_col current
    refine ⟨old, lookup_mem current, oldId.trans same.1, owned.trans same.2.1, ?_⟩
    rw [leaves, moves, Option.filter_some_pos (by simpa using same.1)]
    exact ⟨_, allowed, ⟨rfl, rfl⟩, same.2.2⟩

/-- The same of every delivery. -/
theorem Performs.deliveryTrail (performs : Performs stamp made step now) (fits : step.Fits now.tables)
    {delivery : Delivery} (inside : delivery ∈ (applied made now).tables.deliveries) :
    ∃ old ∈ now.tables.deliveries, old.id = delivery.id ∧ old.orderId = delivery.orderId ∧
      Trail canTransitionDelivery (RecordsMove DeliveryStatus.value) old.status
        (about (.delivery delivery.id) (step.events stamp)) delivery.status := by
  rw [about_delivery]
  rcases row_before Delivery.id step.delivery performs.deliveries inside with
    ⟨old, there, same, differ⟩ | ⟨before, new, moves, same⟩
  · simp only [deliveryFace, Prod.mk.injEq] at same
    refine ⟨old, there, same.1, same.2.1, ?_⟩
    cases moves : step.delivery with
    | none => exact same.2.2
    | some moved =>
      have apart : moved.2.id ≠ delivery.id := fun own => differ _ _ moves (own.trans same.1.symm)
      rw [Option.filter_some_neg (by simpa using apart)]
      exact same.2.2
  · simp only [deliveryFace, Prod.mk.injEq] at same
    obtain ⟨allowed, old, current, owned, leaves⟩ := fits.delivery before new moves
    have oldId : old.id = new.id := lookup_col current
    refine ⟨old, lookup_mem current, oldId.trans same.1, owned.trans same.2.1, ?_⟩
    rw [leaves, moves, Option.filter_some_pos (by simpa using same.1)]
    exact ⟨_, allowed, ⟨rfl, rfl⟩, same.2.2⟩

/-- What was there is there, as it was known unless it is the row that was moved. -/
theorem row_kept {ρ β κ σ : Type} [DecidableEq κ] {key : ρ → κ} {face : ρ → β} {rows after : List ρ}
    (move : Option (σ × ρ)) (showsKey : ∀ left right, face left = face right → key left = key right)
    (same : after.map face = (move.elim rows fun moved => put key moved.2 rows).map face)
    {row : ρ} (inside : row ∈ rows) :
    ∃ next ∈ after, key next = key row ∧
      ((∀ before new, move = some (before, new) → key new ≠ key row) → face next = face row) := by
  have moved : ∃ next ∈ move.elim rows fun moved => put key moved.2 rows, key next = key row ∧
      ((∀ before new, move = some (before, new) → key new ≠ key row) → face next = face row) := by
    cases move with
    | none => exact ⟨row, inside, rfl, fun _ => rfl⟩
    | some moved =>
      by_cases own : key row = key moved.2
      · exact ⟨moved.2, mem_put.mpr (.inl ⟨rfl, row, inside, own⟩), own.symm,
          fun differ => absurd own.symm (differ moved.1 moved.2 rfl)⟩
      · exact ⟨row, mem_put.mpr (.inr ⟨inside, own⟩), rfl, fun _ => rfl⟩
  obtain ⟨next, there, own, kept⟩ := moved
  have shown : face next ∈ after.map face := same ▸ List.mem_map_of_mem there
  obtain ⟨last, here, agree⟩ := List.mem_map.mp shown
  exact ⟨last, here, (showsKey last next agree).trans own, fun differ => agree.trans (kept differ)⟩

theorem Performs.orderKept (performs : Performs stamp made step now) {order : Order}
    (inside : order ∈ now.tables.orders) :
    ∃ next ∈ (applied made now).tables.orders, next.id = order.id ∧
      ((∀ before new, step.order = some (before, new) → new.id ≠ order.id) →
        orderFace next = orderFace order) :=
  row_kept step.order orderFace_key performs.orders inside

theorem Performs.deliveryKept (performs : Performs stamp made step now) {delivery : Delivery}
    (inside : delivery ∈ now.tables.deliveries) :
    ∃ next ∈ (applied made now).tables.deliveries, next.id = delivery.id ∧
      ((∀ before new, step.delivery = some (before, new) → new.id ≠ delivery.id) →
        deliveryFace next = deliveryFace delivery) :=
  row_kept step.delivery deliveryFace_key performs.deliveries inside

end

/-! ## What a request relies on, and what it commits -/

def Entity.row : Entity → Row
  | order id => .order id
  | delivery id => .delivery id

/-- Statuses and events stay while the row they belong to is locked. -/
structure HistoryRely (held : List RowLock) (before after : Chronicle) : Prop where
  statuses : StatusRely held before.1.tables after.1.tables
  events : ∀ entity : Entity, entity.row.forUpdate ∈ held → about entity after.2 = about entity before.2

/-- The events of orders are only ever added to, one at a time of each; where commits come in
the order their transactions began, all events are. -/
structure Grows (ordered : Prop) (before after : List StatusTransitionEvent) : Prop where
  once : ∀ entity, (about entity (after.drop before.length)).length ≤ 1
  orders : before.filter (·.IsOrder) <+: after.filter (·.IsOrder)
  all : ordered → before <+: after

/-- What a commit adds began after everything on record of the same order or delivery. -/
def Timely (footing : Footing Chronicle RowLock Note) (now : Chronicle) : Prop :=
  ∀ new ∈ (footing.change now).2.drop now.2.length, ∀ old ∈ now.2,
    old.entityType = new.entityType → old.entityId = new.entityId → old.createdAt < new.createdAt

instance (footing : Footing Chronicle RowLock Note) (now : Chronicle) : Decidable (Timely footing now) :=
  inferInstanceAs (Decidable (∀ _ ∈ _, ∀ _ ∈ _, _ → _ → _))

def historyDiscipline (asked : StatusRequest → Prop) (ordered : Prop) : Discipline Chronicle RowLock Note where
  invariant chronicle := Keyed chronicle.1.tables ∧ History asked chronicle
  guarantee before after := Grows ordered before.2 after.2
  rely held _ before after := HistoryRely held before after
  refl held _ db := ⟨.refl held db.1.tables, fun _ _ => rfl⟩
  trans earlier later := ⟨earlier.statuses.trans later.statuses,
    fun entity locked => (later.events entity locked).trans (earlier.events entity locked)⟩
  weaken rely := ⟨rely.statuses.weaken, fun entity locked =>
    rely.events entity (List.mem_cons_of_mem _ locked)⟩
  admits footing now := ordered → Timely footing now
  apart first second := ∀ row ∈ first.held, ∀ held ∈ second.held, ¬RowLock.conflicts row held

/-- Two versions of an event tell of the same move. -/
structure Retells (event after : StatusTransitionEvent) : Prop where
  id : after.id = event.id
  entityType : after.entityType = event.entityType
  entityId : after.entityId = event.entityId
  orderId : after.orderId = event.orderId
  fromStatus : after.fromStatus = event.fromStatus
  toStatus : after.toStatus = event.toStatus
  createdAt : after.createdAt = event.createdAt

theorem Retells.about (retells : Retells event after) (entity : Entity) :
    after.About entity ↔ event.About entity := by
  unfold StatusTransitionEvent.About
  rw [retells.entityType, retells.entityId]

/-- What an annotation may touch, of the events on record and those of the step. -/
structure Touches (asked : StatusRequest → Prop) (ordered : Prop) (step : StatusStep) (stamp : Stamp)
    (touch : StatusTransitionEvent → StatusTransitionEvent) (recorded : List StatusTransitionEvent) :
    Prop where
  retells : ∀ event, Retells event (touch event)
  /-- Of what is on record, only an event of the delivery that moves. -/
  kept : ∀ event ∈ recorded, touch event = event ∨
    ∃ before new, step.delivery = some (before, new) ∧ event.About (.delivery new.id)
  attributed : ∀ before new, step.order = some (before, new) → ∀ order : Order,
    order.id = new.id → order.userId = new.userId →
    Attributed asked (touch (auditOrderStatus stamp { new with status := before } new)) order
  reasoned : ∀ event ∈ recorded ++ step.events stamp, event.entityType = "delivery" →
    event.toStatus = "failed" → FailsFor event.reason → FailsFor (touch event).reason
  untouched : ordered → ∀ event ∈ recorded, touch event = event

section
variable {touch : StatusTransitionEvent → StatusTransitionEvent}
  {recorded events : List StatusTransitionEvent} {ordered : Prop} {step : StatusStep} {stamp : Stamp}
  {made : List (Market → Market)} {now : Chronicle}

theorem about_map (retells : ∀ event, Retells event (touch event)) (entity : Entity) :
    about entity (events.map touch) = (about entity events).map touch := by
  unfold about
  rw [List.filter_map]
  congr 2
  funext event
  exact decide_eq_decide.mpr ((retells event).about entity)

theorem trail_touched {value : σ → String} {moves : σ → σ → Prop}
    (retells : ∀ event, Retells event (touch event))
    (trail : Trail moves (RecordsMove value) start events current) :
    Trail moves (RecordsMove value) start (events.map touch) current := by
  apply trail.map touch
  rintro before after event ⟨leaves, arrives⟩
  exact ⟨(retells event).fromStatus.trans leaves, (retells event).toStatus.trans arrives⟩

/-- An event about a delivery is no order's. -/
theorem not_isOrder {event : StatusTransitionEvent} (delivery : event.About (.delivery deliveryId)) :
    ¬event.IsOrder := by
  intro order
  have clash : "order" = "delivery" := order.symm.trans delivery.1
  exact absurd clash (by decide)

/-- An annotated event of what is on record is about a delivery that is moved. -/
theorem Touches.order (touches : Touches asked ordered step stamp touch recorded) (inside : event ∈ recorded)
    (order : event.IsOrder) : touch event = event := by
  rcases touches.kept event inside with same | ⟨before, new, -, delivery⟩
  · exact same
  · exact absurd order (not_isOrder delivery)

/-- What a step and its annotation leave on record is again a history. -/
theorem History.next (history : History asked now) (keyed : Keyed now.1.tables)
    (performs : Performs stamp made step now.1) (fits : step.Fits now.1.tables)
    (fails : ∀ before new, step.delivery = some (before, new) → new.status = .failed →
      FailsFor new.failureReason)
    (touches : Touches asked ordered step stamp touch now.2) :
    History asked (applied made now.1, (now.2 ++ step.events stamp).map touch) where
  orders := by
    intro order inside
    obtain ⟨old, there, own, -, trail⟩ := performs.orderTrail fits inside
    have start := history.orders old there
    rw [own] at start
    rw [about_map touches.retells, about_append]
    exact trail_touched touches.retells (start.append trail)
  deliveries := by
    intro delivery inside
    obtain ⟨old, there, own, -, trail⟩ := performs.deliveryTrail fits inside
    have start := history.deliveries old there
    rw [own] at start
    rw [about_map touches.retells, about_append]
    exact trail_touched touches.retells (start.append trail)
  known := by
    intro event inside
    obtain ⟨first, before, rfl⟩ := List.mem_map.mp inside
    have retells := (touches.retells first).about
    rcases List.mem_append.mp before with old | fresh
    · rcases history.known first old with ⟨order, there, named⟩ | ⟨delivery, there, named⟩
      · obtain ⟨next, here, own, -⟩ := performs.orderKept there
        exact .inl ⟨next, here, (retells _).mpr (own ▸ named)⟩
      · obtain ⟨next, here, own, -⟩ := performs.deliveryKept there
        exact .inr ⟨next, here, (retells _).mpr (own ▸ named)⟩
    · rcases mem_events fresh with ⟨leaves, new, moves, rfl⟩ | ⟨leaves, new, moves, rfl⟩
      · obtain ⟨-, old, current, -⟩ := fits.order leaves new moves
        obtain ⟨next, here, own, -⟩ := performs.orderKept (lookup_mem current)
        have named := (orderEvent_about stamp { new with status := leaves } new (.order next.id)).mpr
          (congrArg Entity.order (own.trans (lookup_col current)))
        exact .inl ⟨next, here, (retells _).mpr named⟩
      · obtain ⟨-, old, current, -⟩ := fits.delivery leaves new moves
        obtain ⟨next, here, own, -⟩ := performs.deliveryKept (lookup_mem current)
        have named := (deliveryEvent_about stamp { new with status := leaves } new (.delivery next.id)).mpr
          (congrArg Entity.delivery (own.trans (lookup_col current)))
        exact .inr ⟨next, here, (retells _).mpr named⟩
  attributed := by
    intro event inside order there named
    obtain ⟨first, before, rfl⟩ := List.mem_map.mp inside
    have retells := (touches.retells first).about
    obtain ⟨old, earlier, own, owner, -⟩ := performs.orderTrail fits there
    have aboutOld : first.About (.order old.id) := own ▸ (retells _).mp named
    rcases List.mem_append.mp before with recorded | fresh
    · have known := history.attributed first recorded old earlier aboutOld
      rw [touches.order recorded aboutOld.1]
      exact known.of_order own owner
    · rcases mem_events fresh with ⟨leaves, new, moves, rfl⟩ | ⟨leaves, new, moves, rfl⟩
      · obtain ⟨-, found, current, owned, -⟩ := fits.order leaves new moves
        have sameId : Entity.order old.id = .order new.id := (orderEvent_about ..).mp aboutOld
        have sole := unique_eq keyed.orders earlier (lookup_mem current)
          ((Entity.order.inj sameId).trans (lookup_col current).symm)
        subst sole
        exact touches.attributed leaves new moves order (own.symm.trans (Entity.order.inj sameId))
          (owner.symm.trans owned)
      · have clash := (deliveryEvent_about ..).mp aboutOld
        cases clash
  reasoned := by
    intro event inside delivery failed
    obtain ⟨first, before, rfl⟩ := List.mem_map.mp inside
    have retells := touches.retells first
    rw [retells.entityType] at delivery
    rw [retells.toStatus] at failed
    refine touches.reasoned first before delivery failed ?_
    rcases List.mem_append.mp before with recorded | fresh
    · exact history.reasoned first recorded delivery failed
    · rcases mem_events fresh with ⟨leaves, new, moves, rfl⟩ | ⟨leaves, new, moves, rfl⟩
      · have clash : "order" = "delivery" := delivery
        exact absurd clash (by decide)
      · have arrives : new.status = .failed := by
          have text : new.status.value = "failed" := failed
          revert text
          cases new.status <;> decide
        have reason : (auditDeliveryStatus stamp { new with status := leaves } new).reason =
            new.failureReason := if_pos failed
        rw [reason]
        exact fails leaves new moves arrives
  filed := by
    intro event inside
    obtain ⟨first, before, rfl⟩ := List.mem_map.mp inside
    have retells := touches.retells first
    rw [retells.orderId]
    refine ⟨fun order there named => ?_, fun delivery there named => ?_⟩
    · rw [retells.about] at named
      obtain ⟨old, earlier, own, -, -⟩ := performs.orderTrail fits there
      rcases List.mem_append.mp before with recorded | fresh
      · rw [← own]
        exact (history.filed first recorded).1 old earlier (own ▸ named)
      · rcases mem_events fresh with ⟨leaves, new, moves, rfl⟩ | ⟨leaves, new, moves, rfl⟩
        · exact congrArg some (Entity.order.inj ((orderEvent_about ..).mp named)).symm
        · cases (deliveryEvent_about ..).mp named
    · rw [retells.about] at named
      obtain ⟨old, earlier, own, parent, -⟩ := performs.deliveryTrail fits there
      rcases List.mem_append.mp before with recorded | fresh
      · rw [← parent]
        exact (history.filed first recorded).2 old earlier (own ▸ named)
      · rcases mem_events fresh with ⟨leaves, new, moves, rfl⟩ | ⟨leaves, new, moves, rfl⟩
        · cases (orderEvent_about ..).mp named
        · obtain ⟨-, found, current, parented, -⟩ := fits.delivery leaves new moves
          have same : delivery.id = new.id := Entity.delivery.inj ((deliveryEvent_about ..).mp named)
          have sole := unique_eq keyed.deliveries earlier (lookup_mem current)
            ((own.trans same).trans (lookup_col current).symm)
          subst sole
          exact congrArg some (parented.symm.trans parent)

/-- A step has at most one event of anything. -/
theorem about_once (step : StatusStep) (stamp : Stamp) (entity : Entity) :
    (about entity (step.events stamp)).length ≤ 1 := by
  cases entity with
  | order id =>
    rw [about_order]
    cases Option.map _ _ <;> simp
  | delivery id =>
    rw [about_delivery]
    cases Option.map _ _ <;> simp

/-- What is on record only grows. -/
theorem Touches.grows (touches : Touches asked ordered step stamp touch recorded) :
    Grows ordered recorded ((recorded ++ step.events stamp).map touch) where
  once entity := by
    rw [List.map_append, List.drop_left' (List.length_map ..), about_map touches.retells, List.length_map]
    exact about_once step stamp entity
  orders := by
    have same : (recorded.map touch).filter (·.IsOrder) = recorded.filter (·.IsOrder) := by
      have types : (fun event : StatusTransitionEvent => decide event.IsOrder) ∘ touch =
          fun event => decide event.IsOrder := by
        funext event
        exact decide_eq_decide.mpr (by rw [StatusTransitionEvent.IsOrder, (touches.retells event).entityType]; rfl)
      rw [List.filter_map, types]
      refine (List.map_congr_left fun event inside => ?_).trans (List.map_id _)
      obtain ⟨there, order⟩ := List.mem_filter.mp inside
      exact touches.order there (of_decide_eq_true order)
    rw [List.map_append, List.filter_append, same]
    exact List.prefix_append ..
  all := by
    intro orderly
    have same : recorded.map touch = recorded :=
      (List.map_congr_left (touches.untouched orderly)).trans (List.map_id _)
    rw [List.map_append, same]
    exact List.prefix_append ..

/-- Others who hold an order or a delivery find it, and its events, as they were. -/
theorem others_rely (locked : step.Locked held) {others : List RowLock}
    (apart : ∀ row ∈ held, ∀ other ∈ others, ¬RowLock.conflicts row other) (keyed : Keyed now.1.tables)
    (performs : Performs stamp made step now.1) (touches : Touches asked ordered step stamp touch now.2) :
    HistoryRely others now (applied made now.1, (now.2 ++ step.events stamp).map touch) := by
  have mine : ∀ entity : Entity, entity.row.forUpdate ∈ others →
      (∀ before new, step.order = some (before, new) → entity ≠ .order new.id) ∧
        ∀ before new, step.delivery = some (before, new) → entity ≠ .delivery new.id := by
    intro entity theirs
    refine ⟨?_, ?_⟩
    · rintro before new moves rfl
      exact apart _ (locked.order before new moves) _ theirs (RowLock.update_conflicts _ _)
    · rintro before new moves rfl
      exact apart _ (locked.delivery before new moves) _ theirs (RowLock.update_conflicts _ _)
  have kept := performs.keyed keyed
  refine ⟨⟨fun id theirs order current => ?_, fun id theirs delivery current => ?_⟩, fun entity theirs => ?_⟩
  · have own : order.id = id := lookup_col current
    subst own
    obtain ⟨next, there, same, stays⟩ := performs.orderKept (lookup_mem current)
    have face := stays fun before new moves agree =>
      (mine (.order order.id) theirs).1 before new moves (congrArg Entity.order agree.symm)
    simp only [orderFace, Prod.mk.injEq] at face
    exact ⟨next, (lookup_eq_some_iff kept.orders).mpr ⟨there, same⟩, face.2.1, face.2.2⟩
  · have own : delivery.id = id := lookup_col current
    subst own
    obtain ⟨next, there, same, stays⟩ := performs.deliveryKept (lookup_mem current)
    have face := stays fun before new moves agree =>
      (mine (.delivery delivery.id) theirs).2 before new moves (congrArg Entity.delivery agree.symm)
    simp only [deliveryFace, Prod.mk.injEq] at face
    exact ⟨next, (lookup_eq_some_iff kept.deliveries).mpr ⟨there, same⟩, face.2.1, face.2.2⟩
  · obtain ⟨orders, deliveries⟩ := mine entity theirs
    have silent : about entity (step.events stamp) = [] := by
      apply List.filter_eq_nil_iff.mpr
      intro event inside named
      rcases mem_events inside with ⟨before, new, moves, rfl⟩ | ⟨before, new, moves, rfl⟩
      · exact orders before new moves ((orderEvent_about ..).mp (of_decide_eq_true named))
      · exact deliveries before new moves ((deliveryEvent_about ..).mp (of_decide_eq_true named))
    rw [about_map touches.retells, about_append, silent, List.append_nil]
    refine (List.map_congr_left fun event inside => ?_).trans (List.map_id _)
    obtain ⟨there, named⟩ := List.mem_filter.mp inside
    rcases touches.kept event there with same | ⟨before, new, moves, delivery⟩
    · exact same
    · have entityIs : entity = .delivery new.id := by
        have facts : event.About entity := of_decide_eq_true named
        have types : entity.type = (Entity.delivery new.id).type := facts.1.symm.trans delivery.1
        have ids : entity.id = new.id := facts.2.symm.trans delivery.2
        cases entity with
        | order id => exact absurd (show "order" = "delivery" from types) (by decide)
        | delivery id => exact congrArg Entity.delivery ids
      exact absurd entityIs (deliveries before new moves)

/-- A request that ends in one step of the rows it holds, and in a remark on that step. -/
theorem commits_history (touch : StatusTransitionEvent → StatusTransitionEvent)
    {footing : Footing Chronicle RowLock Note} {db : Chronicle} (locked : step.Locked footing.held)
    (fails : ∀ before new, step.delivery = some (before, new) → new.status = .failed →
      FailsFor new.failureReason)
    (change : ∀ now, footing.change now =
      (applied made now.1, (now.2 ++ told stamp made now.1).map touch))
    (performs : ∀ now, (historyDiscipline asked ordered).Later footing db now →
      Performs stamp made step now.1 ∧ step.Fits now.1.tables)
    (valid : Chronicle → Prop)
    (touches : ∀ now, (historyDiscipline asked ordered).Later footing db now →
      (ordered → Timely footing now) → valid (footing.change now) →
      Touches asked ordered step stamp touch now.2) (value : α) :
    (historyDiscipline asked ordered).Commits valid value footing db := by
  intro now later admits validity
  obtain ⟨does, fits⟩ := performs now later
  have touched := touches now later admits validity
  obtain ⟨keyed, history⟩ := later.2
  rw [change, does.told]
  exact ⟨⟨does.keyed keyed, history.next keyed does fits fails touched⟩, touched.grows,
    fun other apart => others_rely locked apart keyed does touched⟩

end
/-! ## The event an annotation finds -/

/-- How far an order has come. -/
def orderRank : OrderStatus → Nat
  | .placed => 0
  | .accepted => 1
  | .preparing => 2
  | .ready => 3
  | .outForDelivery => 4
  | .delivered | .returned | .cancelled => 5

theorem orderRank_rises (before after : OrderStatus) (allowed : canTransitionOrder before after) :
    orderRank before < orderRank after := by
  revert allowed
  cases before <;> cases after <;> decide

theorem OrderStatus.value_injective {left right : OrderStatus} (same : left.value = right.value) :
    left = right := by
  revert same
  cases left <;> cases right <;> decide

section
variable {events : List StatusTransitionEvent} {entity : Entity} {event : StatusTransitionEvent}

/-- The latest event is one of those asked for, and none of them is later. -/
theorem latestTransition_some (found : latestTransition events entity toStatus = some event) :
    (event ∈ events ∧ event.About entity ∧ event.toStatus = toStatus) ∧
      ∀ other ∈ events, other.About entity → other.toStatus = toStatus →
        toLex (other.createdAt, other.id.toNat) ≤ toLex (event.createdAt, event.id.toNat) := by
  unfold latestTransition at found
  generalize queued : List.insertionSort (fun left right : StatusTransitionEvent =>
      toLex (right.createdAt, right.id.toNat) ≤ toLex (left.createdAt, left.id.toNat))
    (events.filter fun event => event.About entity ∧ event.toStatus = toStatus) = queue at found
  have member : ∀ other, other ∈ queue ↔
      other ∈ events ∧ other.About entity ∧ other.toStatus = toStatus := by
    intro other
    rw [← queued, List.mem_insertionSort, List.mem_filter, decide_eq_true_eq]
  have sorted : queue.Pairwise fun left right =>
      toLex (right.createdAt, right.id.toNat) ≤ toLex (left.createdAt, left.id.toNat) := by
    rw [← queued]
    exact List.pairwise_insertionSort _ _
  obtain ⟨rest, rfl⟩ := List.head?_eq_some_iff.mp found
  refine ⟨(member event).mp (List.mem_cons_self ..), fun other inside named arrives => ?_⟩
  rcases List.mem_cons.mp ((member other).mpr ⟨inside, named, arrives⟩) with rfl | later
  · exact le_rfl
  · exact (List.pairwise_cons.mp sorted).1 other later

/-- If there is no latest event, there is none. -/
theorem latestTransition_none (missing : latestTransition events entity toStatus = none)
    (inside : event ∈ events) (named : event.About entity) : event.toStatus ≠ toStatus := by
  intro arrives
  unfold latestTransition at missing
  rw [List.head?_eq_none_iff, ← List.length_eq_zero_iff, List.length_insertionSort,
    List.length_eq_zero_iff, List.filter_eq_nil_iff] at missing
  exact missing event inside (decide_eq_true ⟨named, arrives⟩)

end

section
variable {step : StatusStep} {stamp : Stamp} {made : List (Market → Market)} {now : Chronicle}

/-- An order comes to a status once, so the latest event of its coming there is the one just
recorded. -/
theorem latest_order (history : History asked now) (fits : step.Fits now.1.tables)
    (moves : step.order = some (before, new)) (only : step.delivery = none)
    (found : latestTransition (now.2 ++ step.events stamp) (.order new.id) new.status.value = some event) :
    event = auditOrderStatus stamp { new with status := before } new := by
  obtain ⟨⟨inside, named, arrives⟩, -⟩ := latestTransition_some found
  rcases List.mem_append.mp inside with recorded | fresh
  · obtain ⟨allowed, old, current, -, leaves⟩ := fits.order before new moves
    have own : old.id = new.id := lookup_col current
    obtain ⟨-, bounded⟩ := (history.orders old (lookup_mem current)).bounded orderRank_rises
    have mine : event ∈ about (.order old.id) now.2 :=
      List.mem_filter.mpr ⟨recorded, decide_eq_true (own ▸ named)⟩
    obtain ⟨first, second, records, below⟩ := bounded event mine
    have same : second = new.status := OrderStatus.value_injective (records.2.symm.trans arrives)
    have rises := orderRank_rises before new.status allowed
    rw [same, leaves] at below
    omega
  · rcases mem_events fresh with ⟨leaves, next, moved, rfl⟩ | ⟨leaves, next, moved, -⟩
    · cases moves.symm.trans moved
      rfl
    · cases only.symm.trans moved

end

/-! ## The requests -/

/-- What the database enforces of the tables and their history. -/
def Chronicled (chronicle : Chronicle) : Prop :=
  chronicle.1.tables.Constraints ∧ Relational.Unique StatusTransitionEvent.id chronicle.2

instance (chronicle : Chronicle) : Decidable (Chronicled chronicle) :=
  inferInstanceAs (Decidable (_ ∧ _))

theorem retells_attach (note : Annotation) (event : StatusTransitionEvent) :
    Retells event (note.attach event) :=
  ⟨rfl, rfl, rfl, rfl, rfl, rfl, rfl⟩

/-- The update of one event by its key. -/
def touched (target : UUID) (note : Annotation) (row : StatusTransitionEvent) : StatusTransitionEvent :=
  if row.id = target then note.attach row else row

theorem retells_touched (target : UUID) (note : Annotation) (row : StatusTransitionEvent) :
    Retells row (touched target note row) := by
  unfold touched
  split
  · exact retells_attach note row
  · exact ⟨rfl, rfl, rfl, rfl, rfl, rfl, rfl⟩

section
variable {step : StatusStep} {stamp : Stamp} {made : List (Market → Market)} {ordered : Prop}
  {footing : Footing Chronicle RowLock Note} {recorded : List StatusTransitionEvent}

/-- A step of which nothing is said. -/
theorem touches_nothing
    (silent : ∀ before new, step.order = some (before, new) →
      new.status = .outForDelivery ∨ new.status = .delivered) :
    Touches asked ordered step stamp (fun event => event) recorded where
  retells _ := ⟨rfl, rfl, rfl, rfl, rfl, rfl, rfl⟩
  kept _ _ := .inl rfl
  attributed before new moves order _ _ := by
    refine .inl ⟨?_, rfl, rfl⟩
    have arrives : (auditOrderStatus stamp { new with status := before } new).toStatus =
        new.status.value := rfl
    rw [arrives]
    rcases silent before new moves with leaves | arrives
    · rw [leaves]
      decide
    · rw [arrives]
      decide
  reasoned _ _ _ _ fails := fails
  untouched _ _ _ := rfl

/-- A reason that fits the column is kept as it is. -/
theorem attach_reason {note : Annotation} (reason : note.reason = some text)
    (fits : text ≠ "" ∧ text.length ≤ 160) : (note.attach event).reason = some text := by
  have whole : text.toList.take 160 = text.toList := by
    apply List.take_of_length_le
    rw [String.length_toList]
    exact fits.2
  simp [ Annotation.attach, reason, Option.filter, fits.1, whole]

/-- What an annotation makes of the event just recorded of an order. -/
theorem attributed_attach {note : Annotation} (named : NamesActor asked note new) (same : order.id = new.id)
    (owner : order.userId = new.userId) (old : Order) :
    Attributed asked (note.attach (auditOrderStatus stamp old new)) order := by
  have actor {subject : UUID} (given : note.actorUserId = some subject) :
      (note.attach (auditOrderStatus stamp old new)).actorUserId = some subject := by
    simp [ Annotation.attach, given]
  have arrives : (note.attach (auditOrderStatus stamp old new)).toStatus = new.status.value := rfl
  rcases named with ⟨status, reason, customer, draws, asks⟩ | ⟨status, reason, subject, draws, named, asks⟩ |
    ⟨status, reason, subject, deliveryId, notes, draws, named, asks⟩
  · refine .inr (.inl ⟨by rw [arrives, status, OrderStatus.value], ?_, ?_, draws, ?_⟩)
    · exact attach_reason reason (by decide +kernel)
    · rw [owner]
      exact actor customer
    · rwa [owner, same]
  · refine .inr (.inr (.inl ⟨attach_reason reason (by decide +kernel), new.status, status, arrives, ?_⟩))
    exact ⟨subject, draws, actor named, same ▸ asks⟩
  · refine .inr (.inr (.inr ⟨by rw [arrives, status, OrderStatus.value], ?_, ?_⟩))
    · exact attach_reason reason (by decide +kernel)
    · exact ⟨subject, deliveryId, notes, draws, actor named, asks⟩

/-- A remark on the event just recorded of an order. -/
theorem touches_order (moves : step.order = some (before, new)) (only : step.delivery = none)
    (named : NamesActor asked note new) (fresh : ∀ event ∈ recorded, event.id ≠ stamp.eventId (.order new.id)) :
    Touches asked ordered step stamp (touched (stamp.eventId (.order new.id)) note) recorded where
  retells := retells_touched _ note
  kept event inside := .inl (if_neg (fresh event inside))
  attributed := by
    intro leaves next moved order same owner
    cases moves.symm.trans moved
    have hit : touched (stamp.eventId (.order new.id)) note
        (auditOrderStatus stamp { new with status := before } new) = note.attach _ := if_pos rfl
    rw [hit]
    exact attributed_attach named same owner _
  reasoned := by
    intro event inside delivery failed fails
    rcases List.mem_append.mp inside with there | made
    · rwa [touched, if_neg (fresh event there)]
    · rcases mem_events made with ⟨leaves, next, moved, rfl⟩ | ⟨leaves, next, moved, -⟩
      · have clash : "order" = "delivery" := delivery
        exact absurd clash (by decide)
      · cases only.symm.trans moved
  untouched _ event inside := if_neg (fresh event inside)

/-- A remark on an event of a delivery's coming to a status: the one just recorded, or one on
record that is as late. -/
theorem touches_delivery (moves : step.delivery = some (before, new)) (only : step.order = none)
    (fails : new.status = .failed → FailsFor note.reason) (named : event.About (.delivery new.id))
    (arrives : event.toStatus = new.status.value)
    (sole : ∀ other ∈ recorded ++ step.events stamp, other.id = event.id → other = event)
    (fresh : ordered → event ∉ recorded) :
    Touches asked ordered step stamp (touched event.id note) recorded where
  retells := retells_touched _ note
  kept other inside := by
    by_cases same : other.id = event.id
    · exact .inr ⟨before, new, moves, sole other (List.mem_append_left _ inside) same ▸ named⟩
    · exact .inl (if_neg same)
  attributed leaves next moved := by cases only.symm.trans moved
  reasoned := by
    intro other inside delivery failed reason
    by_cases same : other.id = event.id
    · have own := sole other inside same
      subst own
      have arrived : new.status = .failed := by
        have text : new.status.value = "failed" := arrives.symm.trans failed
        revert text
        cases new.status <;> decide
      obtain ⟨listed, known, said⟩ := fails arrived
      have hit : touched other.id note other = note.attach other := if_pos rfl
      have fits : ∀ listed ∈ deliveryFailureReasons, listed ≠ "" ∧ listed.length ≤ 160 := by
        decide +kernel
      rw [hit]
      exact ⟨listed, known, attach_reason said (fits listed known)⟩
    · rwa [touched, if_neg same]
  untouched orderly other inside := by
    apply if_neg
    intro same
    have own := sole other (List.mem_append_left _ inside) same
    exact fresh orderly (own ▸ inside)

end

section
variable {ordered : Prop} {stamp : Stamp} {db : Chronicle}
  {remark : α → Tables → Option (Entity × String × Annotation)} {request : Statements α}

/-- Others change nothing that a request on the tables alone relies on. -/
theorem history_reliance {plain : Standing} {footing : Footing Chronicle RowLock Note} {both now : Chronicle}
    (held : footing.held = plain.held) (later : (historyDiscipline asked ordered).Later footing both now) :
    statusDiscipline.Later plain both.1 now.1 :=
  ⟨held ▸ later.1.statuses, later.2.1⟩

/-- A committed table of events has one of each key, before and after an annotation. -/
theorem sole_event {touch : StatusTransitionEvent → StatusTransitionEvent}
    {events : List StatusTransitionEvent} (retells : ∀ event, Retells event (touch event))
    (unique : Relational.Unique StatusTransitionEvent.id (events.map touch)) :
    Relational.Unique StatusTransitionEvent.id events := by
  have same : StatusTransitionEvent.id ∘ touch = StatusTransitionEvent.id :=
    funext fun event => (retells event).id
  unfold Relational.Unique at unique ⊢
  rwa [List.map_map, same] at unique

theorem id_ne {left right : List StatusTransitionEvent}
    (unique : Relational.Unique StatusTransitionEvent.id (left ++ right)) (first : event ∈ left)
    (second : other ∈ right) : event.id ≠ other.id := by
  unfold Relational.Unique at unique
  rw [List.map_append] at unique
  intro same
  exact List.disjoint_of_nodup_append unique (List.mem_map_of_mem first) (same ▸ List.mem_map_of_mem second)

/-- What is on record of a locked row stays on record. -/
theorem still_recorded {entity : Entity} {footing : Footing Chronicle RowLock Note} {second now : Chronicle}
    (later : (historyDiscipline asked ordered).Later footing second now)
    (locked : entity.row.forUpdate ∈ footing.held) (inside : event ∈ second.2)
    (named : event.About entity) : event ∈ now.2 := by
  have mine : event ∈ about entity second.2 := List.mem_filter.mpr ⟨inside, decide_eq_true named⟩
  rw [← later.1.events entity locked] at mine
  exact (List.mem_filter.mp mine).1

section
variable {step : StatusStep} {made : List (Market → Market)} {footing : Footing Chronicle RowLock Note}
  {second : Chronicle}

/-- Annotating the order that was moved. -/
theorem annotate_order (locked : step.Locked footing.held)
    (view : ∀ now, footing.change now = (applied made now.1, now.2 ++ told stamp made now.1))
    (tell : ∀ now, (historyDiscipline asked ordered).Later footing db now →
      Performs stamp made step now.1 ∧ step.Fits now.1.tables)
    (moves : step.order = some (before, new)) (only : step.delivery = none) (named : NamesActor asked note new) :
    (historyDiscipline asked ordered).Holds (annotateTransition (.order new.id) new.status.value note)
      ((historyDiscipline asked ordered).Commits Chronicled) footing db := by
  unfold annotateTransition
  refine Discipline.Holds.query fun second looking => ?_
  obtain ⟨performs, fits⟩ := tell second looking
  have fails : ∀ before new, step.delivery = some (before, new) → new.status = .failed →
      FailsFor new.failureReason := fun _ _ moved => by cases only.symm.trans moved
  have own : auditOrderStatus stamp { new with status := before } new ∈ step.events stamp := by
    simp [StatusStep.events, moves]
  simp only [view, performs.told]
  cases found : latestTransition (second.2 ++ step.events stamp) (.order new.id) new.status.value with
  | none =>
    refine absurd rfl (latestTransition_none found (List.mem_append_right _ own) ?_)
    exact (orderEvent_about ..).mpr rfl
  | some event =>
    have same := latest_order looking.2.2 fits moves only found
    subst same
    change (historyDiscipline asked ordered).Commits Chronicled () { footing with
      change := (fun chronicle : Chronicle =>
        (chronicle.1, chronicle.2.map (touched (stamp.eventId (.order new.id)) note))) ∘
          footing.change } second
    apply commits_history (touched (stamp.eventId (.order new.id)) note)
    · exact locked
    · exact fails
    · intro now
      exact congrArg (fun chronicle : Chronicle => (chronicle.1, chronicle.2.map _)) (view now)
    · exact fun now later => tell now (looking.trans later)
    · intro now later _ validity
      obtain ⟨does, -⟩ := tell now (looking.trans later)
      have unique := validity.2
      change Relational.Unique _ ((footing.change now).2.map _) at unique
      rw [view, does.told] at unique
      refine touches_order moves only named fun event inside => ?_
      exact id_ne (sole_event (retells_touched _ note) unique) inside own

/-- Annotating the delivery that was moved. -/
theorem annotate_delivery (locked : step.Locked footing.held)
    (view : ∀ now, footing.change now = (applied made now.1, now.2 ++ told stamp made now.1))
    (tell : ∀ now, (historyDiscipline asked ordered).Later footing db now →
      Performs stamp made step now.1 ∧ step.Fits now.1.tables)
    (fails : ∀ before new, step.delivery = some (before, new) → new.status = .failed →
      FailsFor new.failureReason)
    (moves : step.delivery = some (before, new)) (only : step.order = none)
    (reason : new.status = .failed → FailsFor note.reason) :
    (historyDiscipline asked ordered).Holds (annotateTransition (.delivery new.id) new.status.value note)
      ((historyDiscipline asked ordered).Commits Chronicled) footing db := by
  unfold annotateTransition
  refine Discipline.Holds.query fun second looking => ?_
  obtain ⟨performs, fits⟩ := tell second looking
  have own : auditDeliveryStatus stamp { new with status := before } new ∈ step.events stamp := by
    simp [StatusStep.events, moves]
  have mine : (Entity.delivery new.id).row.forUpdate ∈ footing.held := locked.delivery before new moves
  simp only [view, performs.told]
  cases found : latestTransition (second.2 ++ step.events stamp) (.delivery new.id) new.status.value with
  | none =>
    refine absurd rfl (latestTransition_none found (List.mem_append_right _ own) ?_)
    exact (deliveryEvent_about ..).mpr rfl
  | some event =>
    obtain ⟨⟨inside, named, arrives⟩, latest⟩ := latestTransition_some found
    change (historyDiscipline asked ordered).Commits Chronicled () { footing with
      change := (fun chronicle : Chronicle => (chronicle.1, chronicle.2.map (touched event.id note))) ∘
        footing.change } second
    apply commits_history (touched event.id note)
    · exact locked
    · exact fails
    · intro now
      exact congrArg (fun chronicle : Chronicle => (chronicle.1, chronicle.2.map _)) (view now)
    · exact fun now later => tell now (looking.trans later)
    intro now later timely validity
    obtain ⟨does, -⟩ := tell now (looking.trans later)
    refine touches_delivery moves only reason named arrives ?_ ?_
    · have unique := validity.2
      change Relational.Unique _ ((footing.change now).2.map _) at unique
      rw [view, does.told] at unique
      have there : event ∈ now.2 ++ step.events stamp := by
        rcases List.mem_append.mp inside with recorded | fresh
        · exact List.mem_append_left _ (still_recorded later mine recorded named)
        · exact List.mem_append_right _ fresh
      exact fun other member same =>
        unique_eq (sole_event (retells_touched _ note) unique) member there same
    · intro orderly recorded
      have retold := retells_touched event.id note
        (auditDeliveryStatus stamp { new with status := before } new)
      have added : touched event.id note (auditDeliveryStatus stamp { new with status := before } new) ∈
          (((footing.change now).2.map (touched event.id note)).drop now.2.length) := by
        rw [view, does.told, List.map_append, List.drop_left' (by simp)]
        exact List.mem_map_of_mem own
      have earlier := timely orderly _ added event recorded
        (named.1.trans retold.entityType.symm) (named.2.trans retold.entityId.symm)
      rw [retold.createdAt] at earlier
      have late := latest _ (List.mem_append_right _ own) ((deliveryEvent_about ..).mpr rfl) rfl
      rcases Prod.Lex.le_iff.mp late with before_ | ⟨same, -⟩
      · exact absurd earlier (not_lt_of_gt before_)
      · exact absurd earlier (not_lt_of_ge (le_of_eq same))

end

/-- A request that changes statuses, with what it says of the change, keeps the history. -/
theorem annotated_upholds (request : Statements α)
    (remark : α → Tables → Option (Entity × String × Annotation))
    (told_ : statusDiscipline.Holds (request.traced []) (Told asked stamp remark) {} db.1) :
    (historyDiscipline asked ordered).Holds (annotated stamp request remark)
      ((historyDiscipline asked ordered).Commits Chronicled) {} db := by
  have mirrors : Discipline.Mirrors (statusTriggers stamp) [] ({} : Standing)
      ({} : Footing Chronicle RowLock Note) := ⟨rfl, rfl, rfl, rfl⟩
  unfold annotated
  rw [Discipline.holds_bind]
  refine (Discipline.triggered_holds (fun held _ later => history_reliance held later) mirrors
    told_).mono ?_
  rintro answer footing chronicle ⟨made, plain, mirrors, step, locked, fails, tells⟩
  rw [← mirrors.held] at locked
  have view : ∀ now, footing.change now = (applied made now.1, now.2 ++ told stamp made now.1) := by
    intro now
    rw [mirrors.change, replay_statusTriggers]
  have tell : ∀ now, (historyDiscipline asked ordered).Later footing chronicle now →
      (Performs stamp made step now.1 ∧ step.Fits now.1.tables) ∧
        Remarked asked step (remark answer (applied made now.1).tables) := by
    intro now later
    obtain ⟨performs, fits, remarked⟩ := tells now.1 (history_reliance mirrors.held later)
    exact ⟨⟨performs, fits⟩, remarked⟩
  refine Discipline.Holds.query fun first reading => ?_
  have remarked := (tell first reading).2
  have onwards := fun now (later : (historyDiscipline asked ordered).Later footing first now) =>
    (tell now (reading.trans later)).1
  simp only [view]
  cases said : remark answer (applied made first.1).tables with
  | none =>
    rw [said] at remarked
    refine commits_history (fun event => event) locked fails (fun now => ?_) onwards _
      (fun now later _ _ => touches_nothing remarked) ()
    rw [view, List.map_id']
  | some target =>
    obtain ⟨entity, toStatus, note⟩ := target
    rw [said] at remarked
    rcases remarked with ⟨before, new, moves, only, rfl, rfl, named⟩ |
      ⟨before, new, moves, only, rfl, rfl, reason⟩
    · exact annotate_order locked view onwards moves only named
    · exact annotate_delivery locked view onwards fails moves only reason

end
/-! ## Runs -/

/-- The requests that change statuses, on the constraints of the database. -/
def historyService (env : Environment) :
    Service Chronicle RowLock Note HTTPException Unit (Stamp × StatusRequest) where
  program request := request.2.program env request.1
  conflicts := RowLock.conflicts
  symmetric := RowLock.conflicts_symm
  valid := Chronicled
  decideConflicts := inferInstance
  decideValid := inferInstance

/-- What the rest of the program does to statuses: a checkout adds an order that is placed and
a delivery that is open. -/
def LeavesStatuses (before after : Tables) : Prop :=
  after.Constraints ∧
    (∀ old ∈ before.orders, orderFace old ∈ after.orders.map orderFace) ∧
    (∀ new ∈ after.orders, orderFace new ∈ before.orders.map orderFace ∨
      (new.status = .placed ∧ new.id ∉ before.orders.map Order.id)) ∧
    (∀ old ∈ before.deliveries, deliveryFace old ∈ after.deliveries.map deliveryFace) ∧
    ∀ new ∈ after.deliveries, deliveryFace new ∈ before.deliveries.map deliveryFace ∨
      (new.status = .unassigned ∧ new.id ∉ before.deliveries.map Delivery.id)

instance (before after : Tables) : Decidable (LeavesStatuses before after) :=
  inferInstanceAs (Decidable (_ ∧ _ ∧ _ ∧ _ ∧ _))

/-- Any interleaving of these requests with whatever else leaves statuses and events alone;
with `ordered`, one in which no commit's transaction began before an event on record of the
same order or delivery. -/
def Chronicling (ordered : Prop) (state : State Chronicle RowLock Note HTTPException Unit) :
    ReadCommitted.Action Chronicle (Stamp × StatusRequest) → Prop
  | .other after => after.2 = state.database.2 ∧
      LeavesStatuses state.database.1.tables after.1.tables
  | .advance index => ordered → ∀ footing ∈ state.sessions[index]?.bind Session.committing,
      Timely footing state.database
  | _ => True

theorem statusRequest_upholds (env : Environment) (ordered : Prop) (stamp : Stamp) (request : StatusRequest)
    (asks : asked request) (db : Chronicle) :
    (historyDiscipline asked ordered).Holds (request.program env stamp)
      ((historyDiscipline asked ordered).Commits Chronicled) {} db := by
  cases request with
  | cancelOrder =>
    unfold StatusRequest.program
    exact annotated_upholds _ _ (cancelMyOrderSafely_told _ _ _ _ _ asks)
  | updateOrderStatus =>
    unfold StatusRequest.program
    exact annotated_upholds _ _ (updateOrderStatusSafely_told _ _ _ _ _ _ asks)
  | dispatch request =>
    unfold StatusRequest.program
    cases request with
    | claimDelivery => apply annotated_upholds; apply claimDelivery_told
    | updateDeliveryStatus => apply annotated_upholds; apply updateDeliveryStatus_told
    | assignDelivery => apply annotated_upholds; apply adminAssignDelivery_told
    | unassignDelivery => apply annotated_upholds; apply adminUnassignDelivery_told
    | autoAssignDelivery => apply annotated_upholds; apply autoAssignDelivery_told
    | dispatchReadyDelivery => apply annotated_upholds; apply dispatchReadyTask_told
    | failDelivery => apply annotated_upholds; apply failDelivery_told
    | recoverFailedDelivery => apply annotated_upholds; apply recoverFailedDelivery_told
    | resolveFailedDelivery => exact annotated_upholds _ _ (resolveFailedDelivery_told _ _ _ _ _ _ _ asks)
    | completeDelivery => apply annotated_upholds; apply completeDeliveryWithFinancials_told

end GaonOne
