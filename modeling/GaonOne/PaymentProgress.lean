import GaonOne.PaymentInvariants

/-! The payment status of an order only moves forward, and an order in fulfilment is
paid or cash on delivery. -/
namespace GaonOne
open Relational Transitions System

variable {env : Environment} {world : World} {file next : OrderFile}

/-! ## The payment status -/

/-- The changes of an order's payment status that events allow. -/
inductive PaymentMove (event : FileEvent) (order : Order) : PaymentStatus → Prop where
  | paid (unpaid : order.paymentStatus = .pending ∨ order.paymentStatus = .failed) :
      PaymentMove event order .paid
  | failed (pending : order.paymentStatus = .pending) : PaymentMove event order .failed
  /-- A capture on an already cancelled order. -/
  | owedLate (paymentId : Option String) (capture : event = .captured paymentId)
      (cancelled : order.status = .cancelled)
      (unpaid : order.paymentStatus = .pending ∨ order.paymentStatus = .failed) :
      PaymentMove event order .refundPending
  | owed (paid : order.paymentStatus = .paid) : PaymentMove event order .refundPending
  | refunded (owed : order.paymentStatus = .refundPending) : PaymentMove event order .refunded

theorem RefundEnsured.payment (ensured : RefundEnsured attempt file next)
    (held : file.order = some order) : ∃ later, next.order = some later ∧
      (later.paymentStatus = order.paymentStatus ∨
        (order.paymentStatus = .paid ∧ later.paymentStatus = .refundPending)) := by
  cases ensured with
  | notOwed => exact ⟨order, held, Or.inl rfl⟩
  | onRecord => exact ⟨order, held, Or.inl rfl⟩
  | recorded held' owes fresh reason draws =>
    cases held.symm.trans held'
    refine ⟨_, rfl, ?_⟩
    cases status : order.paymentStatus <;> simp [refundOwedStatus]

/-- A refund row stands for a payment that is owed back or refunded. -/
theorem OrderBase.owing {refund : PaymentRefund} (base : OrderBase order file)
    (recorded : file.refund = some refund) :
    order.paymentStatus = .refundPending ∨ order.paymentStatus = .refunded := by
  simpa using base.owed.mpr (by simp [recorded])

/-- What one step does to the payment status. -/
theorem FileStep.payment (step : FileStep event file next) (sound : file.Sound)
    (held : file.order = some order) : ∃ later, next.order = some later ∧
      (later.paymentStatus = order.paymentStatus ∨ PaymentMove event order later.paymentStatus) := by
  have sole : ∀ {other}, file.order = some other → other = order := fun same =>
    Option.some.inj (same.symm.trans held)
  cases step with
  | unchanged | assigned | assignedUnclaimed | released | failed | proofChanged | collected
  | resumed | intended | capturedLate | refundClaimed | refundGivenUp | refundErrored
  | refundFailed | refundPending | refundRepeated | refundCleared | paidOut =>
    exact ⟨order, held, Or.inl rfl⟩
  | placed _ _ absent => exact absurd held (by simp [absent])
  | advanced held' =>
    cases sole held'
    exact ⟨_, rfl, Or.inl rfl⟩
  | pickedUp held' =>
    cases sole held'
    exact ⟨_, rfl, Or.inl rfl⟩
  | cancelled held' allowed restoredAt ensured =>
    cases sole held'
    obtain ⟨later, current, moved⟩ := ensured.payment rfl
    refine ⟨later, current, moved.imp_right fun ⟨paid, owed⟩ => ?_⟩
    rw [owed]
    exact .owed paid
  | returned held' carried failed out uncollected restoredAt voided ensured =>
    cases sole held'
    obtain ⟨later, current, moved⟩ := ensured.payment voided.keptOrder
    refine ⟨later, current, moved.imp_right fun ⟨paid, owed⟩ => ?_⟩
    rw [owed]
    exact .owed paid
  | completed held' carried custody out gate proved verified collected now ensured =>
    cases sole held'
    refine ⟨_, ensured.keptOrder, ?_⟩
    have base := sound.placed order held
    rcases gate with cash | paid
    · exact Or.inr (.paid (Or.inl ((base.cash cash).trans (by simp [out]))))
    · exact Or.inl paid.symm
  | captured held' attempted onTime now ensured =>
    cases sole held'
    refine ⟨_, ensured.keptOrder, ?_⟩
    simp only [captureIsLate, not_or, List.mem_cons, List.not_mem_nil, or_false] at onTime
    cases status : order.paymentStatus with
    | pending => exact Or.inr (.paid (Or.inl status))
    | paid => exact Or.inl rfl
    | failed => exact Or.inr (.paid (Or.inr status))
    | refundPending => exact absurd status onTime.2.2
    | refunded => exact absurd status onTime.2.1
  | @capturedAfterCancellation _ attempt paymentId _ _ held' attempted cancelled unrefunded now ensured =>
    cases sole held'
    have base := sound.placed order held
    obtain ⟨later, current, moved⟩ := ensured.payment rfl
    obtain ⟨saved, current', sameStatus, sameMethod, kept⟩ := ensured.sound _ rfl
      (base.capture attempted (by simp; tauto)) (by simp [cancelled]) (by simp [cancelled])
    cases current.symm.trans current'
    have online := base.online attempt attempted
    have unpaid : order.paymentStatus = .pending ∨ order.paymentStatus = .failed := by
      have given := base.givenUp cancelled online
      cases status : order.paymentStatus <;> simp_all
    refine ⟨later, current, Or.inr ?_⟩
    rcases moved with same | ⟨-, owed⟩
    · exact absurd same (kept.givenUp (sameStatus.trans cancelled) (sameMethod.trans online))
    · rw [owed]
      exact .owedLate paymentId rfl cancelled unpaid
  | settlementChecked held' onTime ensured => exact ⟨order, ensured.keptOrder.trans held, Or.inl rfl⟩
  | paymentFailed held' attempted live unpaid now =>
    cases sole held'
    exact ⟨_, rfl, unpaid.symm.imp Eq.symm .failed⟩
  | refundSucceeded owed held' first providerRefundId now voided =>
    cases sole held'
    refine ⟨_, voided.keptOrder, Or.inr (.refunded ?_)⟩
    exact ((sound.placed order held).toOrderBase.owing owed).resolve_right first

/-! ## A market for concrete runs -/

/-- A message between the provider and the backend: its text, the value it parses to,
and the digest it is signed with. -/
structure SampleMessage where
  body : String
  value : Json
  digest : String

def paymentMessage (event paymentId digest : String) : SampleMessage where
  body := "\x7b\"event\":\"" ++ event ++
    "\",\"payload\":\x7b\"payment\":\x7b\"entity\":\x7b\"id\":\"" ++ paymentId ++
    "\",\"order_id\":\"order_1\"\x7d\x7d\x7d\x7d"
  value := .obj [("event", .str event), ("payload", .obj [("payment", .obj [("entity",
    .obj [("id", .str paymentId), ("order_id", .str "order_1")])])])]
  digest := digest

def refundMessage (event refundId : String) (amount : Nat) (status digest : String) :
    SampleMessage where
  body := "\x7b\"event\":\"" ++ event ++
    "\",\"payload\":\x7b\"refund\":\x7b\"entity\":\x7b\"id\":\"" ++ refundId ++
    "\",\"payment_id\":\"pay_1\",\"amount\":" ++ toString amount ++ ",\"status\":\"" ++ status ++
    "\"\x7d\x7d\x7d\x7d"
  value := .obj [("event", .str event), ("payload", .obj [("refund", .obj [("entity",
    .obj [("id", .str refundId), ("payment_id", .str "pay_1"),
      ("amount", .num amount (toString amount)), ("status", .str status)])])])]
  digest := digest

/-- What the provider answers to an intent. -/
def intentAnswer : SampleMessage where
  body := "\x7b\"id\":\"order_1\"\x7d"
  value := .obj [("id", .str "order_1")]
  digest := ""

/-- What the provider answers to a refund call it carries out. -/
def refundAnswer : SampleMessage where
  body := "\x7b\"id\":\"rfnd_1\",\"status\":\"processed\"\x7d"
  value := .obj [("id", .str "rfnd_1"), ("status", .str "processed")]
  digest := ""

def firstCapture : SampleMessage := paymentMessage "payment.captured" "pay_1"
  "c934338a05377b850350369eebb3d2b26e3fa307bcd8de703b82a7aeb2ad49ed"

def secondCapture : SampleMessage := paymentMessage "payment.captured" "pay_2"
  "2ba6051e2e92c094f18fef1cf0759e87eeef4dd66289a42e6a6311298e37d4d8"

def refundProcessed : SampleMessage := refundMessage "refund.processed" "rfnd_1" 12000 "processed"
  "0bf612f81aa5601954068f0504c78e0450b85dd77096ac08dd6b9b86771848cb"

def refundCreated : SampleMessage := refundMessage "refund.created" "rfnd_1" 12000 "pending"
  "fba89c852fb461562cc2dc0add063194a4abff75a0e29f07b9b8ae18cd87fcc4"

/-- A refund of one rupee, issued from the provider's dashboard. -/
def partialRefund : SampleMessage := refundMessage "refund.processed" "rfnd_9" 100 "processed"
  "bda4c65d94697463ed45e0d76bfb47419a2a4d6007cb5d87827f445870aea5b8"

def sampleMessages : List SampleMessage :=
  [intentAnswer, refundAnswer, firstCapture, secondCapture, refundProcessed, refundCreated,
    partialRefund]

/-- The outside functions on these messages; every place is in its hub's village. -/
def sampleEnvironment : Environment where
  hmacSha256 := fun _ message =>
    ((sampleMessages.find? fun sample => sample.body = message).map (·.digest)).getD ""
  sha256 := fun text =>
    if text = "123456" then "8d969eef6ecad3c29a3a629280e686cf0c3f5d5a86aff3ca12020c923adc6c92" else ""
  loads := fun body =>
    (sampleMessages.find? fun sample => sample.body = body).map (·.value)
  print := fun _ => ""
  within := fun hub place _ => decide (hub = place)
  distance := fun _ _ => 0

def sampleSettings : Settings := 
  ⟨some "rzp_key", some "rzp_secret_gaonone", some "whsec_gaonone", 20⟩

/-- A customer with rice in the cart, a merchant, a super administrator and a rider. -/
def sampleCatalogue : Catalogue where
  users := [⟨1, .customer, false, true, true⟩, ⟨2, .merchant, false, true, true⟩,
    ⟨3, .admin, true, true, true⟩, ⟨4, .delivery, false, true, true⟩]
  merchants := [⟨1, 2, .approved⟩]
  stores := [⟨1, 1, 1, some 1, "Kirana", none, some "Bus stand", none, none, none, none, true, true⟩]
  products := [⟨1, 1, "Rice", "kg", true⟩]
  storeProducts := [⟨1, 1, 1, 5000, 10, true⟩]
  villages := [⟨1, "Rampur", some 20, some 77, true⟩]
  serviceAreas := [⟨1, "Rampur", 1, 5, some 2000, true⟩]
  addresses := [⟨1, 1, 1, some "Asha", none, none, "Temple", none, none, none, none⟩]
  carts := [⟨1, 1, some 1⟩]
  cartItems := [⟨1, 1, 1, 2⟩]

def sampleDraws (number : Nat) : Draws where
  now := 1000 * number
  orderId := number
  deliveryId := number
  itemId := fun index => 100 * number + index
  proofId := number
  collectionId := number
  attemptId := number
  webhookEventId := number
  refundId := number
  settlementId := number
  adjustmentId := number

def sampleRequest (number : Nat) (request : Request) : Action :=
  .request sampleSettings request (sampleDraws number)

/-- The delivery of a message as a webhook of its own. -/
def sampleWebhook (number : Nat) (eventId : String) (message : SampleMessage) : Action :=
  sampleRequest number (.webhook ⟨message.body, some message.digest, some eventId⟩)

def sampleWorld (actions : List Action) : World := (system sampleEnvironment).run World.empty actions

theorem sampleWorld_reachable (actions : List Action) :
    Reachable (system sampleEnvironment) (sampleWorld actions) :=
  Reachable.run ReachableWhile.initial actions

/-- The customer orders; the order is number 1. -/
def placement (paymentMethod : PaymentMethod) : List Action :=
  [.editCatalogue sampleCatalogue,
    sampleRequest 1 (.checkout 1 ⟨1, paymentMethod⟩ none "GO-1")]

/-- An online order with an open intent. -/
def intended : List Action :=
  placement .upi ++ [sampleRequest 2 (.createPaymentIntent 1 1 (.answered 200 intentAnswer.body))]

/-- An online order that is paid. -/
def paidOrder : List Action := intended ++ [sampleWebhook 3 "evt_capture" firstCapture]

/-! ## Every commit -/

/-- Between two commits the payment status stands still or makes an allowed move. -/
theorem payment_status_progress (reached : Reachable (system env) world) (action : Action)
    (held : order ∈ world.tables.orders) (after : later ∈ (world.step env action).tables.orders)
    (same : later.id = order.id) :
    later.paymentStatus = order.paymentStatus ∨ ∃ event, world.Explains env action order.id event ∧
      PaymentMove event order later.paymentStatus := by
  obtain ⟨event, explained, step⟩ := step_file reached action order.id
  have placed := order_file (reachable_coherent reached) held
  have current := order_file (reachable_coherent (reached.step action)) after
  obtain ⟨result, moved, progress⟩ := step.payment (reachable_sound reached order.id) placed
  rw [same] at current
  cases moved.symm.trans current
  exact progress.imp_right fun move => ⟨event, explained, move⟩

/-- The capture of an open intent makes its pending order paid. -/
theorem payment_status_progress_capture :
    ∃ order ∈ (sampleWorld intended).tables.orders, ∃ later ∈ (sampleWorld paidOrder).tables.orders,
      (order.paymentStatus = .pending ∧ later.paymentStatus = .paid) ∧
        (later.paymentStatus = order.paymentStatus ∨ ∃ event,
          (sampleWorld intended).Explains sampleEnvironment (sampleWebhook 3 "evt_capture" firstCapture)
            order.id event ∧ PaymentMove event order later.paymentStatus) := by
  obtain ⟨order, held, later, after, same, moved⟩ :
      ∃ order ∈ (sampleWorld intended).tables.orders, ∃ later ∈ (sampleWorld paidOrder).tables.orders,
        later.id = order.id ∧ order.paymentStatus = .pending ∧ later.paymentStatus = .paid := by
    decide +kernel
  exact ⟨order, held, later, after, moved,
    payment_status_progress (sampleWorld_reachable intended) _ held after same⟩

/-! ## The fulfilment gate -/

/-- No order is prepared for hand-over, carried or delivered without its money. -/
theorem fulfilment_is_paid (reached : Reachable (system env) world)
    (held : order ∈ world.tables.orders)
    (fulfilled : order.status = .ready ∨ order.status = .outForDelivery ∨ order.status = .delivered) :
    order.paymentMethod = .cod ∨ order.paymentStatus = .paid :=
  (order_sound reached held).gate (by simpa using fulfilled)

/-- The merchant takes an order up to `ready`. -/
def preparation (first : Nat) : List Action :=
  [sampleRequest first (.updateOrderStatus 2 1 .accepted),
    sampleRequest (first + 1) (.updateOrderStatus 2 1 .preparing),
    sampleRequest (first + 2) (.updateOrderStatus 2 1 .ready)]

theorem fulfilment_is_paid_ready :
    ∃ order ∈ (sampleWorld (paidOrder ++ preparation 4)).tables.orders,
      (order.status = .ready ∧ order.paymentMethod = .upi) ∧
        (order.paymentMethod = .cod ∨ order.paymentStatus = .paid) := by
  obtain ⟨order, held, ready, online⟩ :
      ∃ order ∈ (sampleWorld (paidOrder ++ preparation 4)).tables.orders,
        order.status = .ready ∧ order.paymentMethod = .upi := by
    decide +kernel
  exact ⟨order, held, ⟨ready, online⟩,
    fulfilment_is_paid (sampleWorld_reachable _) held (Or.inl ready)⟩

end GaonOne
