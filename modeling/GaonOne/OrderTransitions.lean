import GaonOne.Access

/-! The two status machines of an order and its delivery, and the payment gate
that joins them. -/
namespace GaonOne
open UnitOfWork

/-- `ORDER_TRANSITIONS`. `returned` is the only exit from a delivery that failed
after pickup. -/
def orderTransitions : OrderStatus → List OrderStatus
  | .placed => [.accepted, .cancelled]
  | .accepted => [.preparing, .cancelled]
  | .preparing => [.ready]
  | .ready => [.outForDelivery]
  | .outForDelivery => [.delivered, .returned]
  | _ => []

/-- Statuses a merchant may drive from their own order screen. -/
def merchantAssignableStatuses : List OrderStatus := [.accepted, .preparing, .ready, .cancelled]

/-- `DELIVERY_TRANSITIONS`. -/
def deliveryTransitions : DeliveryStatus → List DeliveryStatus
  | .unassigned => [.assigned]
  | .assigned => [.unassigned, .pickedUp, .failed]
  | .pickedUp => [.delivered, .failed]
  | .failed => [.unassigned]
  | .delivered => []

def canTransitionOrder (current target : OrderStatus) : Prop := target ∈ orderTransitions current

def canTransitionDelivery (current target : DeliveryStatus) : Prop :=
  target ∈ deliveryTransitions current

instance (current target : OrderStatus) : Decidable (canTransitionOrder current target) :=
  inferInstanceAs (Decidable (_ ∈ _))

instance (current target : DeliveryStatus) : Decidable (canTransitionDelivery current target) :=
  inferInstanceAs (Decidable (_ ∈ _))

/-- Whether an order may enter or continue physical delivery: cash on delivery
has no online payment to confirm, every other order must be paid. -/
def paymentAllowsFulfillment (order : Order) : Prop :=
  order.paymentMethod = .cod ∨ order.paymentStatus = .paid

instance (order : Order) : Decidable (paymentAllowsFulfillment order) :=
  inferInstanceAs (Decidable (_ ∨ _))

/-- Raises `ValueError`, which no route catches. -/
def transitionOrder (order : Order) (target : OrderStatus) : Handler Order := do
  require (canTransitionOrder order.status target)
    ⟨500, "Invalid order transition from " ++ order.status.value ++ " to " ++ target.value⟩
  pure { order with status := target }

def transitionDelivery (delivery : Delivery) (target : DeliveryStatus) : Handler Delivery := do
  require (canTransitionDelivery delivery.status target)
    ⟨500, "Invalid delivery transition from " ++ delivery.status.value ++ " to " ++ target.value⟩
  pure { delivery with status := target }

theorem transitionOrder_ok {order result : Order} :
    transitionOrder order target = .ok result ↔
      canTransitionOrder order.status target ∧ { order with status := target } = result := by
  simp only [transitionOrder, require_bind_ok, pure_ok]

theorem transitionDelivery_ok {delivery result : Delivery} :
    transitionDelivery delivery target = .ok result ↔
      canTransitionDelivery delivery.status target ∧ { delivery with status := target } = result := by
  simp only [transitionDelivery, require_bind_ok, pure_ok]

@[simp]
theorem transitionOrder_bind_ok (order : Order) (target : OrderStatus) (next : Order → Handler β)
    (result : β) : (transitionOrder order target >>= next) = .ok result ↔
      canTransitionOrder order.status target ∧ next { order with status := target } = .ok result := by
  simp only [transitionOrder, bind_assoc, require_bind_ok, pure_bind]

@[simp]
theorem transitionDelivery_bind_ok (delivery : Delivery) (target : DeliveryStatus)
    (next : Delivery → Handler β) (result : β) :
    (transitionDelivery delivery target >>= next) = .ok result ↔
      canTransitionDelivery delivery.status target ∧
        next { delivery with status := target } = .ok result := by
  simp only [transitionDelivery, bind_assoc, require_bind_ok, pure_bind]

theorem canTransitionOrder_cancelled :
    canTransitionOrder current .cancelled ↔ current = .placed ∨ current = .accepted := by
  cases current <;> simp [canTransitionOrder, orderTransitions]

theorem canTransitionDelivery_unassigned :
    canTransitionDelivery current .unassigned ↔ current = .assigned ∨ current = .failed := by
  cases current <;> simp [canTransitionDelivery, deliveryTransitions]

theorem canTransitionDelivery_assigned :
    canTransitionDelivery current .assigned ↔ current = .unassigned := by
  cases current <;> simp [canTransitionDelivery, deliveryTransitions]

theorem canTransitionDelivery_pickedUp :
    canTransitionDelivery current .pickedUp ↔ current = .assigned := by
  cases current <;> simp [canTransitionDelivery, deliveryTransitions]

theorem canTransitionDelivery_failed :
    canTransitionDelivery current .failed ↔ current = .assigned ∨ current = .pickedUp := by
  cases current <;> simp [canTransitionDelivery, deliveryTransitions]

theorem canTransitionDelivery_delivered :
    canTransitionDelivery current .delivered ↔ current = .pickedUp := by
  cases current <;> simp [canTransitionDelivery, deliveryTransitions]

theorem canTransitionOrder_outForDelivery :
    canTransitionOrder current .outForDelivery ↔ current = .ready := by
  cases current <;> simp [canTransitionOrder, orderTransitions]

theorem canTransitionOrder_delivered :
    canTransitionOrder current .delivered ↔ current = .outForDelivery := by
  cases current <;> simp [canTransitionOrder, orderTransitions]

theorem canTransitionOrder_returned :
    canTransitionOrder current .returned ↔ current = .outForDelivery := by
  cases current <;> simp [canTransitionOrder, orderTransitions]

end GaonOne
