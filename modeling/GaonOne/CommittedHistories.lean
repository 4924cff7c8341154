import GaonOne.Library.Executions
import GaonOne.OrderHistory
import GaonOne.RiderLoad

/-! The histories that runs leave. Requests that change statuses, checkouts and everything
else interleave statement by statement; what is on record of an order is then its path
through the state machine, is never rewritten, and is what `GET /orders/{order_id}/events`
serves. -/
namespace GaonOne
open Relational UnitOfWork ReadCommitted Transitions

/-! ## The rest of the program -/

section
variable {before : Chronicle} {after : Market} {id : UUID}

/-- Nothing is on record of an order before there is one. -/
theorem about_newOrder (history : History asked before) (fresh : id ∉ before.1.tables.orders.map Order.id) :
    about (.order id) before.2 = [] := by
  apply List.filter_eq_nil_iff.mpr
  intro event inside named
  have mine : event.About (.order id) := of_decide_eq_true named
  rcases history.known event inside with ⟨order, there, other⟩ | ⟨delivery, -, other⟩
  · have same : order.id = id := other.2.symm.trans mine.2
    exact fresh (same ▸ List.mem_map_of_mem there)
  · exact absurd mine.1 (not_isOrder other)

theorem about_newDelivery (history : History asked before)
    (fresh : id ∉ before.1.tables.deliveries.map Delivery.id) : about (.delivery id) before.2 = [] := by
  apply List.filter_eq_nil_iff.mpr
  intro event inside named
  have mine : event.About (.delivery id) := of_decide_eq_true named
  rcases history.known event inside with ⟨order, -, other⟩ | ⟨delivery, there, other⟩
  · exact absurd other.1 (not_isOrder mine)
  · have same : delivery.id = id := other.2.symm.trans mine.2
    exact fresh (same ▸ List.mem_map_of_mem there)

/-- An order there is afterwards was there before, or has no history. -/
theorem LeavesStatuses.order (leaves : LeavesStatuses before.1.tables after.tables) (history : History asked before)
    {order : Order} (inside : order ∈ after.tables.orders) :
    (∃ old ∈ before.1.tables.orders, orderFace old = orderFace order) ∨
      (order.status = .placed ∧ about (.order order.id) before.2 = []) := by
  rcases leaves.2.2.1 order inside with known | ⟨placed, fresh⟩
  · exact .inl (List.mem_map.mp known)
  · exact .inr ⟨placed, about_newOrder history fresh⟩

theorem LeavesStatuses.delivery (leaves : LeavesStatuses before.1.tables after.tables)
    (history : History asked before) {delivery : Delivery} (inside : delivery ∈ after.tables.deliveries) :
    (∃ old ∈ before.1.tables.deliveries, deliveryFace old = deliveryFace delivery) ∨
      (delivery.status = .unassigned ∧ about (.delivery delivery.id) before.2 = []) := by
  rcases leaves.2.2.2.2 delivery inside with known | ⟨opened, fresh⟩
  · exact .inl (List.mem_map.mp known)
  · exact .inr ⟨opened, about_newDelivery history fresh⟩

/-- What leaves statuses and events alone keeps the history. -/
theorem LeavesStatuses.history (leaves : LeavesStatuses before.1.tables after.tables)
    (history : History asked before) : History asked (after, before.2) where
  orders := by
    intro order inside
    rcases leaves.order history inside with ⟨old, there, same⟩ | ⟨placed, none_⟩
    · simp only [orderFace, Prod.mk.injEq] at same
      have trail := history.orders old there
      rwa [same.1, same.2.2] at trail
    · dsimp only
      rw [none_]
      exact placed.symm
  deliveries := by
    intro delivery inside
    rcases leaves.delivery history inside with ⟨old, there, same⟩ | ⟨opened, none_⟩
    · simp only [deliveryFace, Prod.mk.injEq] at same
      have trail := history.deliveries old there
      rwa [same.1, same.2.2] at trail
    · dsimp only
      rw [none_]
      exact opened.symm
  known := by
    intro event inside
    rcases history.known event inside with ⟨order, there, named⟩ | ⟨delivery, there, named⟩
    · obtain ⟨next, here, same⟩ := List.mem_map.mp (leaves.2.1 order there)
      exact .inl ⟨next, here, orderFace_key next order same ▸ named⟩
    · obtain ⟨next, here, same⟩ := List.mem_map.mp (leaves.2.2.2.1 delivery there)
      exact .inr ⟨next, here, deliveryFace_key next delivery same ▸ named⟩
  attributed := by
    intro event inside order there named
    rcases leaves.order history there with ⟨old, earlier, same⟩ | ⟨-, none_⟩
    · simp only [orderFace, Prod.mk.injEq] at same
      exact (history.attributed event inside old earlier (same.1 ▸ named)).of_order same.1 same.2.1
    · exact absurd (decide_eq_true named) (List.filter_eq_nil_iff.mp none_ event inside)
  reasoned := history.reasoned
  filed := by
    intro event inside
    constructor
    · intro order there named
      rcases leaves.order history there with ⟨old, earlier, same⟩ | ⟨-, none_⟩
      · simp only [orderFace, Prod.mk.injEq] at same
        rw [← same.1]
        exact (history.filed event inside).1 old earlier (same.1 ▸ named)
      · exact absurd (decide_eq_true named) (List.filter_eq_nil_iff.mp none_ event inside)
    · intro delivery there named
      rcases leaves.delivery history there with ⟨old, earlier, same⟩ | ⟨-, none_⟩
      · simp only [deliveryFace, Prod.mk.injEq] at same
        rw [← same.2.1]
        exact (history.filed event inside).2 old earlier (same.1 ▸ named)
      · exact absurd (decide_eq_true named) (List.filter_eq_nil_iff.mp none_ event inside)

/-- Whoever holds an order or a delivery finds it as it was. -/
theorem LeavesStatuses.rely (leaves : LeavesStatuses before.1.tables after.tables) (held : List RowLock) :
    HistoryRely held before (after, before.2) := by
  have kept := leaves.1.keyed
  refine ⟨⟨fun id _ order current => ?_, fun id _ delivery current => ?_⟩, fun _ _ => rfl⟩
  · obtain ⟨next, here, same⟩ := List.mem_map.mp (leaves.2.1 order (lookup_mem current))
    simp only [orderFace, Prod.mk.injEq] at same
    have own : next.id = id := same.1.trans (lookup_col current)
    exact ⟨next, (lookup_eq_some_iff kept.orders).mpr ⟨here, own⟩, same.2.1, same.2.2⟩
  · obtain ⟨next, here, same⟩ := List.mem_map.mp (leaves.2.2.2.1 delivery (lookup_mem current))
    simp only [deliveryFace, Prod.mk.injEq] at same
    have own : next.id = id := same.1.trans (lookup_col current)
    exact ⟨next, (lookup_eq_some_iff kept.deliveries).mpr ⟨here, own⟩, same.2.1, same.2.2⟩

end

/-! ## Every run -/

/-- And every request is one of these. -/
def ChroniclingOf (asked : StatusRequest → Prop) (ordered : Prop)
    (state : State Chronicle RowLock Note HTTPException Unit)
    (action : ReadCommitted.Action Chronicle (Stamp × StatusRequest)) : Prop :=
  Chronicling ordered state action ∧ ∀ request ∈ action.request?, asked request.2

theorem history_upheld (env : Environment) (asked : StatusRequest → Prop) (ordered : Prop) :
    Discipline.Upheld (historyService env) (historyDiscipline asked ordered) (ChroniclingOf asked ordered) where
  starts state request admitted _ :=
    statusRequest_upholds env ordered request.1 request.2 (admitted.2 request rfl) state.database
  others state after leaves kept := by
    obtain ⟨⟨events, others⟩, -⟩ := leaves
    obtain ⟨market, log⟩ := after
    cases events
    exact ⟨⟨others.1.keyed, others.history kept.2⟩, fun held _ => others.rely held⟩
  admitted state index value footing admits standing orderly := by
    refine admits.1 orderly footing ?_
    rw [standing]
    exact rfl
  separated _ _ _ _ _ _ _ _ _ _ _ apart := apart

theorem history_empty (asked : StatusRequest → Prop) :
    Keyed ({} : Tables) ∧ History asked (({} : Market), []) := by
  refine ⟨⟨List.nodup_nil, List.nodup_nil⟩, ⟨?_, ?_, ?_, ?_, ?_, ?_⟩⟩
  all_goals
    intro row inside
    cases inside

/-! An afternoon: the merchant accepts one order while the customer cancels another, then the
accepted one is prepared and claimed, and its delivery fails. -/

def twoPlaced : Market where
  tables :=
    { catalogue := sampleCatalogue
      orders := [{ readyOrder 1 with status := .placed }, { readyOrder 2 with status := .placed }]
      deliveries := [newDelivery 1 (sampleDraws 1), newDelivery 2 (sampleDraws 2)] }

/-- A request that began at an instant, with keys of its own for its events. -/
def sampleStamp (number : Nat) : Stamp where
  begun := number
  eventId
    | .order id => id * 4 + BitVec.ofNat 128 (1000 * number)
    | .delivery id => id * 4 + 1 + BitVec.ofNat 128 (1000 * number)

def decidedOrders : List (ReadCommitted.Action Chronicle (Stamp × StatusRequest)) :=
  [.other (twoPlaced, []),
    .start (sampleStamp 1, .updateOrderStatus 2 2 .accepted (sampleDraws 3)),
    .start (sampleStamp 2, .cancelOrder 1 1 (sampleDraws 4))] ++
    (List.replicate 24 [.advance 0, .advance 1]).flatten

def failedRide : List (ReadCommitted.Action Chronicle (Stamp × StatusRequest)) :=
  .start (sampleStamp 3, .updateOrderStatus 2 2 .preparing (sampleDraws 5)) ::
    List.replicate 20 (.advance 2) ++
  .start (sampleStamp 4, .updateOrderStatus 2 2 .ready (sampleDraws 6)) ::
    List.replicate 20 (.advance 3) ++
  .start (sampleStamp 5, .dispatch (.claimDelivery 4 2 (sampleDraws 7))) ::
    List.replicate 20 (.advance 4) ++
  .start (sampleStamp 6, .dispatch (.failDelivery 4 2 ⟨"address_not_found", none, none⟩ (sampleDraws 8))) ::
    List.replicate 20 (.advance 5)

@[irreducible] def chronicledState (actions : List (ReadCommitted.Action Chronicle (Stamp × StatusRequest))) :
    State Chronicle RowLock Note HTTPException Unit :=
  ((historyService sampleEnvironment).system ({}, [])).run ⟨({}, []), []⟩ actions

/-- The same condition on the requests' own steps. -/
def ServingInOrder (state : State Chronicle RowLock Note HTTPException Unit) :
    ReadCommitted.Action Chronicle (Stamp × StatusRequest) → Prop
  | .other _ => False
  | .advance index => ∀ footing ∈ state.sessions[index]?.bind Session.committing,
      Timely footing state.database
  | _ => True

instance (state : State Chronicle RowLock Note HTTPException Unit) :
    DecidablePred (ServingInOrder state)
  | .other _ => inferInstanceAs (Decidable False)
  | .advance _ => inferInstanceAs (Decidable (∀ _ ∈ _, _))
  | .start _ => inferInstanceAs (Decidable True)
  | .abort _ => inferInstanceAs (Decidable True)

theorem servingInOrder_chronicling (ordered : Prop) (state : State Chronicle RowLock Note HTTPException Unit)
    (action : ReadCommitted.Action Chronicle (Stamp × StatusRequest)) (serving : ServingInOrder state action) :
    Chronicling ordered state action := by
  cases action with
  | other after => exact serving.elim
  | advance index => exact fun _ => serving
  | start request => exact trivial
  | abort index => exact trivial

theorem decidedOrders_admitted (ordered : Prop) :
    System.RunWhile ((historyService sampleEnvironment).system ({}, [])) (Chronicling ordered)
      ⟨({}, []), []⟩ decidedOrders := by
  have onwards : System.RunWhile ((historyService sampleEnvironment).system ({}, [])) ServingInOrder
      ⟨(twoPlaced, []), []⟩ decidedOrders.tail := by
    decide +kernel
  exact ⟨⟨rfl, by decide +kernel⟩, onwards.mono (servingInOrder_chronicling ordered)⟩

theorem failedRide_admitted (ordered : Prop) :
    System.RunWhile ((historyService sampleEnvironment).system ({}, [])) (Chronicling ordered)
      (chronicledState decidedOrders) failedRide := by
  have onwards : System.RunWhile ((historyService sampleEnvironment).system ({}, [])) ServingInOrder
      (chronicledState decidedOrders) failedRide := by
    decide +kernel
  exact onwards.mono (servingInOrder_chronicling ordered)

@[irreducible] def afternoon : State Chronicle RowLock Note HTTPException Unit :=
  ((historyService sampleEnvironment).system ({}, [])).run (chronicledState decidedOrders) failedRide

theorem decidedOrders_reached (ordered : Prop) :
    System.ReachableWhile ((historyService sampleEnvironment).system ({}, [])) (Chronicling ordered)
      (chronicledState decidedOrders) := by
  unfold chronicledState
  exact .run .initial decidedOrders (decidedOrders_admitted ordered)

theorem afternoon_reached (ordered : Prop) :
    System.ReachableWhile ((historyService sampleEnvironment).system ({}, [])) (Chronicling ordered)
      afternoon := by
  unfold afternoon
  exact (decidedOrders_reached ordered).run failedRide (failedRide_admitted ordered)

section
variable {env : Environment} {ordered : Prop}
  {state : State Chronicle RowLock Note HTTPException Unit}

theorem history_safe_of
    (reached : System.ReachableWhile ((historyService env).system ({}, [])) (ChroniclingOf asked ordered)
      state) : Discipline.Safe (historyService env) (historyDiscipline asked ordered) state :=
  (history_upheld env asked ordered).safe
    (show (historyDiscipline asked ordered).invariant (({} : Market), []) from history_empty asked) reached

theorem Chronicling.any (admitted : Chronicling ordered state action) :
    ChroniclingOf (fun _ => True) ordered state action := ⟨admitted, fun _ _ => trivial⟩

theorem history_safe
    (reached : System.ReachableWhile ((historyService env).system ({}, [])) (Chronicling ordered) state) :
    Discipline.Safe (historyService env) (historyDiscipline (fun _ => True) ordered) state :=
  history_safe_of (reached.mono fun _ _ => Chronicling.any)

/-- However requests and checkouts interleave: the events about an order lead, in the order
they were committed, from `placed` to its status by allowed steps, those about a delivery from
`unassigned`, and no event is about anything else. -/
theorem events_follow_statuses
    (reached : System.ReachableWhile ((historyService env).system ({}, [])) (Chronicling False) state) :
    (∀ order ∈ state.database.1.tables.orders,
      Trail canTransitionOrder (RecordsMove OrderStatus.value) .placed
        (about (.order order.id) state.database.2) order.status) ∧
    (∀ delivery ∈ state.database.1.tables.deliveries,
      Trail canTransitionDelivery (RecordsMove DeliveryStatus.value) .unassigned
        (about (.delivery delivery.id) state.database.2) delivery.status) ∧
    ∀ event ∈ state.database.2,
      (∃ order ∈ state.database.1.tables.orders,
        event.About (.order order.id) ∧ event.orderId = some order.id) ∨
      ∃ delivery ∈ state.database.1.tables.deliveries,
        event.About (.delivery delivery.id) ∧ event.orderId = some delivery.orderId := by
  have history := (history_safe reached).invariant.2
  refine ⟨history.orders, history.deliveries, ?_⟩
  intro event inside
  obtain ⟨orders, deliveries⟩ := history.filed event inside
  rcases history.known event inside with ⟨order, there, named⟩ | ⟨delivery, there, named⟩
  · exact .inl ⟨order, there, named, orders order there named⟩
  · exact .inr ⟨delivery, there, named, deliveries delivery there named⟩

theorem events_follow_statuses_afternoon :
    afternoon.database.2.length = 6 ∧ afternoon.sessions.length = 6 ∧
    (∀ order ∈ afternoon.database.1.tables.orders,
      Trail canTransitionOrder (RecordsMove OrderStatus.value) .placed
        (about (.order order.id) afternoon.database.2) order.status) ∧
    ∀ delivery ∈ afternoon.database.1.tables.deliveries,
      Trail canTransitionDelivery (RecordsMove DeliveryStatus.value) .unassigned
        (about (.delivery delivery.id) afternoon.database.2) delivery.status := by
  obtain ⟨orders, deliveries, -⟩ := events_follow_statuses (afternoon_reached False)
  exact ⟨by decide +kernel, by decide +kernel, orders, deliveries⟩

/-- The requests a run starts, whatever they are stamped with. -/
def Asked (actions : List (ReadCommitted.Action Chronicle (Stamp × StatusRequest)))
    (request : StatusRequest) : Prop :=
  ∃ stamp, (stamp, request) ∈ requested actions

/-- Every event of an order names who is accountable for it, by a request of the run that
asked for just that step of the order, and every failed delivery has a reason the rider may
give. -/
theorem events_are_attributed {actions : List (ReadCommitted.Action Chronicle (Stamp × StatusRequest))}
    (admitted : System.RunWhile ((historyService env).system ({}, [])) (Chronicling False) ⟨({}, []), []⟩
      actions) :
    let state := ((historyService env).system ({}, [])).run ⟨({}, []), []⟩ actions
    (∀ order ∈ state.database.1.tables.orders, ∀ event ∈ about (.order order.id) state.database.2,
      Attributed (Asked actions) event order) ∧
    ∀ delivery ∈ state.database.1.tables.deliveries,
      ∀ event ∈ about (.delivery delivery.id) state.database.2,
        event.toStatus = DeliveryStatus.failed.value → FailsFor event.reason := by
  intro state
  have answers : ∀ action ∈ actions, ∀ request ∈ action.request?, Asked actions request.2 :=
    fun action taken request starts => ⟨request.1, List.mem_filterMap.mpr ⟨action, taken, starts⟩⟩
  have history := (history_safe_of (.run .initial actions (admitted.with_mem answers))).invariant.2
  constructor
  · intro order there event inside
    obtain ⟨recorded, named⟩ := List.mem_filter.mp inside
    exact history.attributed event recorded order there (of_decide_eq_true named)
  · intro delivery there event inside failed
    obtain ⟨recorded, named⟩ := List.mem_filter.mp inside
    have mine : event.About (.delivery delivery.id) := of_decide_eq_true named
    exact history.reasoned event recorded mine.1 failed

/-- The merchant, user 2, accepts order 2; and the event of it names a request of that user. -/
theorem events_are_attributed_afternoon :
    (∃ event ∈ about (.order 2) afternoon.database.2,
      event.toStatus = OrderStatus.accepted.value ∧ event.actorUserId = some 2) ∧
    (∃ event ∈ about (.delivery 2) afternoon.database.2,
      event.toStatus = DeliveryStatus.failed.value) ∧
    (∀ order ∈ afternoon.database.1.tables.orders,
      ∀ event ∈ about (.order order.id) afternoon.database.2,
        Attributed (Asked (decidedOrders ++ failedRide)) event order) ∧
    ∀ delivery ∈ afternoon.database.1.tables.deliveries,
      ∀ event ∈ about (.delivery delivery.id) afternoon.database.2,
        event.toStatus = DeliveryStatus.failed.value → FailsFor event.reason := by
  have whole : afternoon = ((historyService sampleEnvironment).system ({}, [])).run ⟨({}, []), []⟩
      (decidedOrders ++ failedRide) := by
    unfold afternoon chronicledState
    exact (System.run_append _ _ _ _).symm
  have admitted := System.runWhile_append.mpr ⟨decidedOrders_admitted False, by
    have later := failedRide_admitted False
    unfold chronicledState at later
    exact later⟩
  refine ⟨by decide +kernel, by decide +kernel, ?_⟩
  rw [whole]
  exact events_are_attributed admitted

/-- A commit only adds to the record. -/
theorem step_grows {action : ReadCommitted.Action Chronicle (Stamp × StatusRequest)}
    (safe : Discipline.Safe (historyService env) (historyDiscipline (fun _ => True) ordered) state)
    (admitted : Chronicling ordered state action) :
    ((historyService env).step state action).database.2 = state.database.2 ∨
      Grows ordered state.database.2 ((historyService env).step state action).database.2 := by
  cases action with
  | start request => exact .inl rfl
  | advance index =>
    rcases safe.advance (history_upheld env _ ordered) admitted.any with same | grows
    · exact .inl (congrArg Prod.snd same)
    · exact .inr grows
  | abort index => exact .inl rfl
  | other after => exact .inl admitted.1

/-- What is on record of orders stays as it is, event by event; where commits come in the order
their transactions began, so does what is on record of deliveries. -/
theorem events_append_only
    (reached : System.ReachableWhile ((historyService env).system ({}, [])) (Chronicling ordered) state)
    (actions : List (ReadCommitted.Action Chronicle (Stamp × StatusRequest)))
    (admitted : System.RunWhile ((historyService env).system ({}, [])) (Chronicling ordered) state actions) :
    let after := ((historyService env).system ({}, [])).run state actions
    state.database.2.filter (·.IsOrder) <+: after.database.2.filter (·.IsOrder) ∧
      (ordered → state.database.2 <+: after.database.2) := by
  intro after
  refine reached.persists
    (P := fun now => state.database.2.filter (·.IsOrder) <+: now.database.2.filter (·.IsOrder) ∧
      (ordered → state.database.2 <+: now.database.2)) ?_ ?_ actions admitted
  · exact ⟨List.prefix_refl _, fun _ => List.prefix_refl _⟩
  · rintro now action there ⟨orders, all⟩ admits
    rcases step_grows (history_safe there) admits with same | grows
    · change _ <+: List.filter _ ((historyService env).step now action).database.2 ∧
        (ordered → _ <+: ((historyService env).step now action).database.2)
      rw [same]
      exact ⟨orders, all⟩
    · exact ⟨orders.trans grows.orders, fun orderly => (all orderly).trans (grows.all orderly)⟩

theorem events_append_only_afternoon :
    (chronicledState decidedOrders).database.2.filter (·.IsOrder) <+:
      afternoon.database.2.filter (·.IsOrder) := by
  unfold afternoon
  exact (events_append_only (decidedOrders_reached False) failedRide (failedRide_admitted False)).1

end

/-! ## What is served -/

/-- Of one order or delivery, later events on record carry later times. -/
def Timed (events : List StatusTransitionEvent) : Prop :=
  ∀ entity, (about entity events).Pairwise fun earlier later => earlier.createdAt < later.createdAt

/-- One event more of each order or delivery, later than all there are. -/
theorem Timed.grows {before after : List StatusTransitionEvent} (timed : Timed before)
    (grows : Grows True before after)
    (timely : ∀ new ∈ after.drop before.length, ∀ old ∈ before,
      old.entityType = new.entityType → old.entityId = new.entityId → old.createdAt < new.createdAt) :
    Timed after := by
  intro entity
  obtain ⟨rest, rfl⟩ := grows.all trivial
  have once := grows.once entity
  rw [List.drop_left] at timely once
  rw [about_append]
  apply List.pairwise_append.mpr
  refine ⟨timed entity, ?_, ?_⟩
  · cases rows : about entity rest with
    | nil => exact List.Pairwise.nil
    | cons event others =>
      rw [rows, List.length_cons] at once
      have sole : others = [] := List.length_eq_zero_iff.mp (by omega)
      rw [sole]
      exact List.pairwise_singleton ..
  · intro old earlier new later
    obtain ⟨recorded, first⟩ := List.mem_filter.mp earlier
    obtain ⟨fresh, second⟩ := List.mem_filter.mp later
    have named : old.About entity := of_decide_eq_true first
    have same : new.About entity := of_decide_eq_true second
    exact timely new fresh old recorded (named.1.trans same.1.symm) (named.2.trans same.2.symm)

section
variable {env : Environment} {state : State Chronicle RowLock Note HTTPException Unit}

theorem history_timed
    (reached : System.ReachableWhile ((historyService env).system ({}, [])) (Chronicling True) state) :
    Timed state.database.2 := by
  induction reached with
  | initial => exact fun _ => List.Pairwise.nil
  | @next state action there admitted ih =>
    cases action with
    | start request => exact ih
    | abort index => exact ih
    | other after =>
      change Timed after.2
      rw [admitted.1]
      exact ih
    | advance index =>
      have safe := history_safe there
      rcases (historyService env).step_advance_database state index with
        same | ⟨value, footing, standing, valid, same⟩
      · change Timed ((historyService env).step state (.advance index)).database.2
        rw [same]
        exact ih
      · have upheld := history_upheld env (fun _ => True) True
        have timely := upheld.admitted state index value footing admitted.any standing trivial
        have grows := (safe.commit upheld admitted.any standing valid).2.1
        change Timed ((historyService env).step state (.advance index)).database.2
        rw [same]
        exact ih.grows grows timely

/-- Sorting by time keeps what is on record of an order or delivery in its order. -/
theorem about_orderEvents {log : List StatusTransitionEvent} (timed : Timed log)
    (filed : ∀ event ∈ about entity log, event.orderId = some orderId) :
    about entity (orderEvents log orderId) = about entity log := by
  have strict := timed entity
  have same : List.Perm (about entity (orderEvents log orderId)) (about entity log) := by
    refine ((List.perm_insertionSort _ _).filter _).trans (List.Perm.of_eq ?_)
    rw [List.filter_filter]
    refine List.filter_congr fun event inside => ?_
    by_cases named : event.About entity
    · have mine := filed event (List.mem_filter.mpr ⟨inside, decide_eq_true named⟩)
      simp [named, mine]
    · simp [named]
  refine List.Perm.eq_of_pairwise ?_ ((List.pairwise_insertionSort _ _).filter _)
    (strict.imp fun less => Prod.Lex.le_iff.mpr (.inl less)) same
  -- two events of one time would be one event
  intro left right first second before after
  have times : Relational.Unique StatusTransitionEvent.createdAt (about entity log) :=
    List.pairwise_map.mpr (strict.imp fun less => ne_of_lt less)
  have together := congrArg (fun key => (ofLex key).1) (le_antisymm before after)
  exact unique_eq times (same.mem_iff.mp first) second together

/-- In runs whose commits come in the order their transactions began, whoever may see an order
is served its path from `placed` to its status and that of its delivery, and nothing else. -/
theorem served_history
    (reached : System.ReachableWhile ((historyService env).system ({}, [])) (Chronicling True) state)
    (answered : orderTransitionEvents state.database subject orderId = .ok events) :
    ∃ order, state.database.1.tables.order? orderId = some order ∧
      Trail canTransitionOrder (RecordsMove OrderStatus.value) .placed (about (.order orderId) events)
        order.status ∧
      (∀ delivery ∈ state.database.1.tables.deliveries, delivery.orderId = orderId →
        Trail canTransitionDelivery (RecordsMove DeliveryStatus.value) .unassigned
          (about (.delivery delivery.id) events) delivery.status) ∧
      (∀ event ∈ events, event.About (.order orderId) ∨
        ∃ delivery ∈ state.database.1.tables.deliveries, delivery.orderId = orderId ∧
          event.About (.delivery delivery.id)) ∧
      events.Pairwise fun earlier later => earlier.createdAt ≤ later.createdAt := by
  simp only [orderTransitionEvents, bind_ok, found_ok, require_ok, pure_ok] at answered
  obtain ⟨user, -, order, found, -, -, rfl⟩ := answered
  have own : order.id = orderId := lookup_col found
  subst own
  have timed := history_timed reached
  obtain ⟨keyed, history⟩ := (history_safe reached).invariant
  have inside := lookup_mem found
  refine ⟨order, found, ?_, ?_, ?_, ?_⟩
  · rw [about_orderEvents timed]
    · exact history.orders order inside
    · intro event recorded
      obtain ⟨there, named⟩ := List.mem_filter.mp recorded
      exact (history.filed event there).1 order inside (of_decide_eq_true named)
  · intro delivery there parent
    rw [about_orderEvents timed]
    · exact history.deliveries delivery there
    · intro event recorded
      obtain ⟨on, named⟩ := List.mem_filter.mp recorded
      rw [← parent]
      exact (history.filed event on).2 delivery there (of_decide_eq_true named)
  · intro event served
    obtain ⟨recorded, mine⟩ := List.mem_filter.mp ((List.mem_insertionSort ..).mp served)
    have filed : event.orderId = some order.id := of_decide_eq_true mine
    obtain ⟨orders, deliveries⟩ := history.filed event recorded
    rcases history.known event recorded with ⟨other, there, named⟩ | ⟨delivery, there, named⟩
    · have same := Option.some.inj ((orders other there named).symm.trans filed)
      exact .inl (same ▸ named)
    · have same := Option.some.inj ((deliveries delivery there named).symm.trans filed)
      exact .inr ⟨delivery, there, same, named⟩
  · refine (List.pairwise_insertionSort _ _).imp fun {left right} sorted => ?_
    rcases Prod.Lex.le_iff.mp sorted with less | ⟨same, -⟩
    · exact less.le
    · exact same.le

theorem served_history_afternoon :
    ∃ events order, orderTransitionEvents afternoon.database 1 2 = .ok events ∧
      afternoon.database.1.tables.order? 2 = some order ∧
      Trail canTransitionOrder (RecordsMove OrderStatus.value) .placed (about (.order 2) events)
        order.status := by
  have customer : (orderTransitionEvents afternoon.database 1 2).toOption.isSome = true := by
    decide +kernel
  cases answered : orderTransitionEvents afternoon.database 1 2 with
  | error refused =>
    rw [answered] at customer
    cases customer
  | ok events =>
    obtain ⟨order, found, trail, -⟩ := served_history (afternoon_reached True) answered
    exact ⟨events, order, rfl, found, trail⟩

end

end GaonOne
