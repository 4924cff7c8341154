import GaonOne.DeliveredEvidence

/-! Orders and their deliveries move together. The two state machines are driven by a
dozen requests, each checking its own part of the state; what they keep between them
is the stage of the pair. The one request that leaves every stage is an administrator
setting `assigned` on the status screen, which names no rider. -/
namespace GaonOne
open Relational Transitions System

variable {env : Environment} {world : World} {file next : OrderFile}

/-- Where an order and its delivery stand together: the two statuses, the rider and
the time of pickup. -/
inductive Stage : OrderStatus → DeliveryStatus → Option UUID → Option Instant → Prop where
  | waiting (early : status ∈ [OrderStatus.placed, .accepted, .preparing, .ready, .cancelled]) :
      Stage status .unassigned none none
  | assigned (riderId : UUID) : Stage .ready .assigned (some riderId) none
  | carried (riderId : UUID) (at_ : Instant) : Stage .outForDelivery .pickedUp (some riderId) (some at_)
  /-- The rider gave up before the goods left the store. -/
  | refused (rider : Option UUID) : Stage .ready .failed rider none
  | lost (rider : Option UUID) (at_ : Instant) (back : status ∈ [OrderStatus.outForDelivery, .returned]) :
      Stage status .failed rider (some at_)
  | delivered (rider : Option UUID) (at_ : Option Instant) : Stage .delivered .delivered rider at_

namespace Stage
variable {rider : Option UUID} {pickedUpAt : Option Instant}

theorem advance (stage : Stage current delivery rider pickedUpAt)
    (target : status ∈ [OrderStatus.accepted, .preparing, .ready])
    (allowed : canTransitionOrder current status) : Stage status delivery rider pickedUpAt := by
  have leaves : current ∈ [OrderStatus.placed, .accepted, .preparing] := by
    cases current <;> cases status <;> simp_all [canTransitionOrder, orderTransitions]
  cases stage with
  | waiting early => exact .waiting (by simp at target ⊢; tauto)
  | assigned | carried | refused | delivered => simp at leaves
  | lost _ _ back =>
    simp only [List.mem_cons, List.not_mem_nil, or_false] at back leaves
    rcases back with rfl | rfl <;> simp at leaves

theorem cancel (stage : Stage current delivery rider pickedUpAt)
    (allowed : canTransitionOrder current .cancelled) : Stage .cancelled delivery rider pickedUpAt := by
  rw [canTransitionOrder_cancelled] at allowed
  cases stage with
  | waiting early => exact .waiting (by simp)
  | assigned | carried | refused | delivered => simp at allowed
  | lost _ _ back =>
    simp only [List.mem_cons, List.not_mem_nil, or_false] at back
    rcases back with rfl | rfl <;> simp at allowed

theorem assign (stage : Stage .ready .unassigned rider pickedUpAt) (riderId : UUID) :
    Stage .ready .assigned (some riderId) pickedUpAt := by
  cases stage
  exact .assigned riderId

theorem release (stage : Stage .ready delivery rider pickedUpAt)
    (active : delivery = .assigned ∨ delivery = .failed) :
    Stage .ready .unassigned none pickedUpAt := by
  cases stage with
  | waiting early => exact .waiting (by simp)
  | assigned | refused => exact .waiting (by simp)
  | lost _ _ back => simp at back

theorem pickUp (stage : Stage .ready .assigned rider pickedUpAt) (now : Instant) :
    Stage .outForDelivery .pickedUp rider (some now) := by
  cases stage
  exact .carried _ now

theorem fail (stage : Stage current delivery rider pickedUpAt)
    (active : delivery = .assigned ∨ delivery = .pickedUp) :
    Stage current .failed rider pickedUpAt := by
  cases stage with
  | waiting | refused | lost | delivered => simp at active
  | assigned riderId => exact .refused _
  | carried riderId at_ => exact .lost _ at_ (by simp)

theorem bringBack (stage : Stage .outForDelivery .failed rider pickedUpAt) :
    Stage .returned .failed rider pickedUpAt := by
  cases stage with
  | lost _ at_ back => exact .lost _ at_ (by simp)

end Stage

/-- The order and the delivery on file are at one stage. -/
def OrderFile.Staged (file : OrderFile) : Prop :=
  ∀ order delivery, file.order = some order → file.delivery = some delivery →
    Stage order.status delivery.status delivery.deliveryPartnerId delivery.pickedUpAt

theorem OrderFile.Staged.of_kept (staged : file.Staged)
    (order : ∀ later, next.order = some later →
      ∃ order, file.order = some order ∧ order.status = later.status)
    (delivery : next.delivery = file.delivery) : next.Staged := by
  intro later held current carried
  obtain ⟨before, placed, same⟩ := order later current
  rw [← same]
  exact staged before held placed (delivery ▸ carried)

/-- Every step keeps the stage, but for the one that assigns nobody. -/
theorem FileStep.staged (step : FileStep event file next) (staged : file.Staged)
    (named : event ≠ .assignedUnclaimed) : next.Staged := by
  have still : ∀ {changed : OrderFile}, changed.order = file.order →
      changed.delivery = file.delivery → changed.Staged := fun order delivery =>
    staged.of_kept (fun later current => ⟨later, order ▸ current, rfl⟩) delivery
  cases step with
  | unchanged | proofChanged | collected | resumed | intended | capturedLate | refundClaimed
  | refundGivenUp | refundErrored | refundFailed | refundPending | refundRepeated | refundCleared
  | paidOut => exact still rfl rfl
  | placed order delivery absent undelivered status payment total own free rider custody =>
    intro later held current carried
    cases current
    cases carried
    rw [status, free, rider, custody]
    exact .waiting (by simp)
  | advanced held target allowed gate =>
    intro later delivery current carried
    cases current
    exact (staged _ delivery held carried).advance target allowed
  | @cancelled order _ _ held allowed restoredAt ensured =>
    have cancelled : ({ file with
        order := some { order with status := .cancelled, stockRestoredAt := restoredAt } } :
        OrderFile).Staged := by
      intro later delivery current carried
      cases current
      exact (staged _ delivery held carried).cancel allowed
    exact cancelled.of_kept
      (fun later current => ⟨_, rfl, (ensured.keptStatus rfl current).1.symm⟩) ensured.keptDelivery
  | assigned held carried free ready gate riderId now =>
    intro order delivery current taken
    cases held.symm.trans current
    cases taken
    have stage := staged _ _ held carried
    rw [ready, free] at stage
    rw [ready]
    exact stage.assign riderId
  | assignedUnclaimed => exact absurd rfl named
  | released held carried active ready now =>
    intro order delivery current taken
    cases held.symm.trans current
    cases taken
    have stage := staged _ _ held carried
    rw [ready] at stage
    rw [ready]
    exact stage.release active
  | pickedUp held carried assigned ready gate now =>
    intro order delivery current taken
    cases current
    cases taken
    have stage := staged _ _ held carried
    rw [ready, assigned] at stage
    exact stage.pickUp now
  | failed carried active payload now =>
    intro order delivery current taken
    cases taken
    exact (staged order _ current carried).fail active
  | @returned order _ _ _ _ held carried failed out uncollected restoredAt voided ensured =>
    have returned : ({ file with
        order := some { order with status := .returned, stockRestoredAt := restoredAt } } :
        OrderFile).Staged := by
      intro later delivery current carried'
      cases current
      cases carried.symm.trans carried'
      have stage := staged _ _ held carried
      rw [out, failed] at stage
      rw [failed]
      exact stage.bringBack
    exact returned.of_kept
      (fun later current => ⟨_, rfl, (ensured.keptStatus voided.keptOrder current).1.symm⟩)
      (ensured.keptDelivery.trans voided.kept_rows.2.1)
  | completed held carried custody out gate proved verified collected now ensured =>
    intro later delivery current taken
    cases current.symm.trans ensured.keptOrder
    cases taken.symm.trans ensured.kept_rows.2.1
    exact .delivered _ _
  | captured held attempted onTime now ensured =>
    exact staged.of_kept (fun later current => by
      cases current.symm.trans ensured.keptOrder
      exact ⟨_, held, rfl⟩) ensured.kept_rows.2.1
  | capturedAfterCancellation held attempted cancelled unrefunded now ensured =>
    exact staged.of_kept (fun later current =>
      ⟨_, held, (ensured.keptStatus rfl current).1.symm⟩) ensured.keptDelivery
  | settlementChecked held onTime ensured => exact still ensured.keptOrder ensured.kept_rows.2.1
  | paymentFailed held attempted live unpaid now =>
    exact staged.of_kept (fun later current => by
      cases current
      exact ⟨_, held, rfl⟩) rfl
  | refundSucceeded owed held first providerRefundId now voided =>
    exact staged.of_kept (fun later current => by
      cases current.symm.trans voided.keptOrder
      exact ⟨_, held, rfl⟩) voided.kept_rows.2.1

/-! ## Runs -/

/-- What the statuses of an order and its delivery say of each other. -/
structure MoveTogether (order : Order) (delivery : Delivery) : Prop where
  unassigned : delivery.status = .unassigned → delivery.deliveryPartnerId = none ∧
    order.status ≠ .outForDelivery ∧ order.status ≠ .delivered ∧ order.status ≠ .returned
  assigned : delivery.status = .assigned → delivery.deliveryPartnerId ≠ none ∧
    order.status = .ready ∧ paymentAllowsFulfillment order
  pickedUp : delivery.status = .pickedUp → delivery.deliveryPartnerId ≠ none ∧
    order.status = .outForDelivery ∧ delivery.pickedUpAt ≠ none
  delivered : delivery.status = .delivered ↔ order.status = .delivered
  failed : delivery.status = .failed → (order.status = .ready ∧ delivery.pickedUpAt = none) ∨
    ((order.status = .outForDelivery ∨ order.status = .returned) ∧ delivery.pickedUpAt ≠ none)

theorem Stage.together
    (stage : Stage order.status delivery.status delivery.deliveryPartnerId delivery.pickedUpAt)
    (gate : order.status = .ready → paymentAllowsFulfillment order) : MoveTogether order delivery := by
  generalize current : order.status = status at stage
  generalize standing : delivery.status = carried at stage
  generalize taken : delivery.deliveryPartnerId = rider at stage
  generalize custody : delivery.pickedUpAt = pickedUpAt at stage
  cases stage with
  | waiting early =>
    simp only [List.mem_cons, List.not_mem_nil, or_false] at early
    rcases early with rfl | rfl | rfl | rfl | rfl <;> constructor <;> simp_all
  | assigned riderId => constructor <;> simp_all
  | carried riderId at_ => constructor <;> simp_all
  | refused => constructor <;> simp_all
  | lost _ at_ back =>
    simp only [List.mem_cons, List.not_mem_nil, or_false] at back
    rcases back with rfl | rfl <;> constructor <;> simp_all
  | delivered => constructor <;> simp_all

/-- Every order and its delivery move together. -/
def World.AllTogether (world : World) : Prop :=
  ∀ order ∈ world.tables.orders, ∀ delivery ∈ world.tables.deliveries,
    delivery.orderId = order.id → MoveTogether order delivery

/-- An administrator sets `assigned` on a delivery nobody has taken. -/
def World.forcesAssigned (world : World) : Action → Prop
  | .request _ (.updateDeliveryStatus subject deliveryId .assigned) draws =>
    draws.Fresh world.tables ∧ ∃ user delivery, world.tables.user? subject = some user ∧
      user.isActive ∧ user.role = .admin ∧ world.tables.delivery? deliveryId = some delivery ∧
      delivery.status = .unassigned
  | _ => False

theorem reachable_staged
    (reached : ReachableWhile (system env) (fun world action => ¬world.forcesAssigned action) world)
    (orderId : UUID) : (world.tables.file orderId).Staged := by
  refine file_invariant reached (by simp [OrderFile.Staged]) ?_ orderId
  intro world action orderId event next earlier staged unforced explained step
  refine step.staged (staged orderId) ?_
  rintro rfl
  have coherent := reachable_coherent earlier
  cases action with
  | request settings request draws =>
    cases request with
    | updateDeliveryStatus subject deliveryId status =>
      cases status with
      | assigned =>
        obtain ⟨fresh, user, delivery, asking, active, carried, free, admin | own⟩ := explained
        · exact unforced ⟨fresh, user, delivery, asking, active, admin, carried, free⟩
        · -- an open delivery names no rider
          obtain ⟨order, placed, parent⟩ := coherent.deliveryParents delivery (lookup_mem carried)
          have stage := staged delivery.orderId order delivery
            ((lookup_eq_some_iff coherent.orderIds).mpr ⟨placed, parent⟩)
            (coherent.file_delivery carried)
          rw [free, own] at stage
          generalize order.status = status at stage
          cases stage
      | _ => exact explained
    | _ => exact explained
  | _ => exact explained

/-- Where no administrator forces `assigned`, every order moves with its delivery. -/
theorem orders_move_with_deliveries
    (reached : ReachableWhile (system env) (fun world action => ¬world.forcesAssigned action) world) :
    world.AllTogether := by
  intro order held delivery carried own
  have coherent := reachable_coherent reached.reachable
  have placed := order_file coherent held
  have onFile : (world.tables.file order.id).delivery = some delivery :=
    (lookup_eq_some_iff coherent.deliveryOrders).mpr ⟨carried, own⟩
  exact (reachable_staged reached order.id order delivery placed onFile).together fun ready =>
    (order_sound reached.reachable held).gate (by simp [ready])

/-- Before the merchant accepted the order, an administrator sets its delivery to
`assigned` on the status screen: the delivery is assigned to nobody. -/
def forcedAssignment : List Action :=
  placement .cod ++ [sampleRequest 2 (.updateDeliveryStatus 3 1 .assigned)]

theorem forced_assignment_splits :
    Reachable (system sampleEnvironment) (sampleWorld forcedAssignment) ∧
      ¬(sampleWorld forcedAssignment).AllTogether := by
  refine ⟨sampleWorld_reachable _, fun together => ?_⟩
  obtain ⟨order, held, delivery, carried, own, assigned, nobody⟩ :
      ∃ order ∈ (sampleWorld forcedAssignment).tables.orders,
        ∃ delivery ∈ (sampleWorld forcedAssignment).tables.deliveries,
          delivery.orderId = order.id ∧ delivery.status = .assigned ∧
            delivery.deliveryPartnerId = none := by
    decide +kernel
  exact ((together order held delivery carried own).assigned assigned).1 nobody

theorem orders_move_with_deliveries_delivered :
    (sampleWorld deliveredOrder).AllTogether := by
  have quiet : ReachableWhile (system sampleEnvironment)
      (fun world action => ¬world.forcesAssigned action) (sampleWorld deliveredOrder) := by
    refine ReachableWhile.initial.run deliveredOrder (RunWhile.of_forall ?_ _)
    intro action member world
    simp only [deliveredOrder, placement, preparation, handover, sampleRequest, List.cons_append,
      List.nil_append, List.mem_cons, List.not_mem_nil, or_false] at member
    rcases member with rfl | rfl | rfl | rfl | rfl | rfl | rfl | rfl | rfl | rfl | rfl <;> exact id
  exact orders_move_with_deliveries quiet

end GaonOne
