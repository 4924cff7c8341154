import GaonOne.SystemSteps

/-! What holds between an order, its payment, its refund and its settlement in
every reachable world, derived from the steps of its file. -/
namespace GaonOne
open Relational Transitions System

variable {file next : OrderFile} {order : Order}

/-- The rows of an order agree with the order, whatever became of its payment. -/
structure OrderBase (order : Order) (file : OrderFile) : Prop where
  balanced : order.total = order.subtotal + order.deliveryFee
  /-- Only online orders have payment attempts. -/
  online : ∀ attempt ∈ file.attempts, order.paymentMethod = .upi
  captured : ∀ attempt ∈ file.attempts, attempt.status = .paid →
    order.paymentStatus ∈ [PaymentStatus.paid, .refundPending, .refunded]
  /-- Cash is paid on delivery, and not before. -/
  cash : order.paymentMethod = .cod →
    order.paymentStatus = if order.status = .delivered then .paid else .pending
  gate : order.status ∈ [OrderStatus.ready, .outForDelivery, .delivered] →
    paymentAllowsFulfillment order
  owed : order.paymentStatus ∈ [PaymentStatus.refundPending, .refunded] ↔ file.refund.isSome
  refund : ∀ refund, file.refund = some refund →
    order.status ∈ [OrderStatus.cancelled, .returned] ∧ refund.amount = order.total
  entry : ∀ entry, file.settlement = some entry → entry.grossAmount = order.total ∧
    entry.merchantAmount = order.subtotal ∧ entry.deliveryFeeAmount = order.deliveryFee
  collection : ∀ collection, file.collection = some collection →
    collection.orderId = order.id ∧ collection.amount = order.total

/-- An online order that was given up keeps no payment as paid. -/
structure OrderSound (order : Order) (file : OrderFile) : Prop extends OrderBase order file where
  givenUp : order.status = .cancelled → order.paymentMethod = .upi → order.paymentStatus ≠ .paid
  broughtBack : order.status = .returned → order.paymentMethod = .upi →
    order.paymentStatus ∈ [PaymentStatus.refundPending, .refunded]

/-- Nothing is on file before the order is placed. -/
structure OrderFile.Sound (file : OrderFile) : Prop where
  unplaced : file.order = none → file = {}
  placed : ∀ order, file.order = some order → OrderSound order file

theorem OrderFile.Sound.of_empty : OrderFile.Sound {} := ⟨fun _ => rfl, by simp⟩

theorem OrderFile.Sound.of_order (held : next.order = some order) (sound : OrderSound order next) :
    next.Sound where
  unplaced := fun absent => absurd absent (by simp [held])
  placed := fun other same => by
    cases held.symm.trans same
    exact sound

namespace OrderFile.Sound
variable (sound : file.Sound)
include sound

theorem order_of_ne (filled : file ≠ {}) : ∃ order, file.order = some order ∧ OrderSound order file := by
  cases held : file.order with
  | none => exact absurd (sound.unplaced held) filled
  | some order => exact ⟨order, rfl, sound.placed order held⟩

theorem order_of_delivery {delivery : Delivery} (carried : file.delivery = some delivery) :
    ∃ order, file.order = some order ∧ OrderSound order file :=
  sound.order_of_ne fun empty => by simp [empty] at carried

theorem order_of_refund {refund : PaymentRefund} (owed : file.refund = some refund) :
    ∃ order, file.order = some order ∧ OrderSound order file :=
  sound.order_of_ne fun empty => by simp [empty] at owed

theorem order_of_settlement (entered : file.settlement = some entry) :
    ∃ order, file.order = some order ∧ OrderSound order file :=
  sound.order_of_ne fun empty => by simp [empty] at entered

end OrderFile.Sound

/-! ## What the services keep -/

/-- No refund row while the money is the order's. -/
theorem OrderBase.unrefunded (base : OrderBase order file)
    (standing : order.paymentStatus ∉ [PaymentStatus.refundPending, .refunded]) :
    file.refund = none := by
  simpa using mt base.owed.mpr standing

theorem SettlementEnsured.keeps (ensured : SettlementEnsured file next) (order : Order)
    (held : file.order = some order) (base : OrderBase order file) :
    next.order = some order ∧ OrderBase order next := by
  cases ensured with
  | onRecord recorded => exact ⟨held, base⟩
  | withheld held' refused => exact ⟨held, base⟩
  | entered held' paid live free fresh store draws =>
    cases held.symm.trans held'
    exact ⟨held, { base with
      entry := fun entry same => by
        cases same
        exact ⟨rfl, rfl, rfl⟩ }⟩

theorem SettlementVoided.keeps (voided : SettlementVoided file next) (order : Order)
    (held : file.order = some order) (base : OrderBase order file) :
    next.order = some order ∧ OrderBase order next := by
  cases voided with
  | absent missing => exact ⟨held, base⟩
  | kept | repeated => exact ⟨held, base⟩
  | voided held' pending reason now =>
    have amounts := base.entry _ held'
    exact ⟨held, { base with
      entry := fun entry same => by
        cases same
        exact amounts }⟩
  | reversed held' settled first order reason draws => exact ⟨held, { base with }⟩

/-- Giving up a paid order turns its payment into a debt. -/
theorem RefundEnsured.sound (ensured : RefundEnsured attempt file next) (order : Order)
    (held : file.order = some order) (base : OrderBase order file)
    (ended : order.status ∈ [OrderStatus.cancelled, .returned])
    (gate : order.status = .returned → paymentAllowsFulfillment order) :
    ∃ saved, next.order = some saved ∧ saved.status = order.status ∧
      saved.paymentMethod = order.paymentMethod ∧ OrderSound saved next := by
  cases ensured with
  | notOwed held' free =>
    cases held.symm.trans held'
    refine ⟨order, held, rfl, rfl, base, fun _ online paid => free ⟨online, ?_⟩,
      fun back online => absurd ⟨online, ?_⟩ free⟩
    · simp [paid]
    · rcases gate back with cash | paid
      · simp [online] at cash
      · simp [paid]
  | onRecord held' owes recorded =>
    have owed := base.owed.mpr (by simp [recorded])
    refine ⟨order, held, rfl, rfl, base, fun _ _ paid => ?_, fun _ _ => owed⟩
    simp [paid] at owed
  | recorded held' owes fresh reason draws =>
    cases held.symm.trans held'
    obtain ⟨online, money⟩ := owes
    have pending : refundOwedStatus order.paymentStatus = .refundPending := by
      simp only [List.mem_cons, List.not_mem_nil, or_false] at money
      rcases money with paid | standing
      · rw [paid]
        rfl
      · rw [standing]
        rfl
    refine ⟨_, rfl, rfl, rfl, { base with
      captured := fun _ _ _ => by simp [pending]
      cash := fun cash => by simp [online] at cash
      gate := fun fulfilled => ?_
      owed := by simp [pending]
      refund := fun refund same => ?_ }, fun _ _ paid => by simp [pending] at paid,
      fun _ _ => by simp [pending]⟩
    · simp only [List.mem_cons, List.not_mem_nil, or_false] at ended fulfilled
      rcases ended with ended | ended <;> simp [ended] at fulfilled
    · cases same
      exact ⟨ended, rfl⟩

/-! ## One step -/

/-- A written attempt that is not paid leaves the paid ones as they were. -/
theorem captured_put {attempts : List PaymentAttempt} {Q : Prop} (unpaid : new.status ≠ .paid)
    (captured : ∀ attempt ∈ attempts, attempt.status = .paid → Q) :
    ∀ attempt ∈ put PaymentAttempt.id new attempts, attempt.status = .paid → Q := by
  intro attempt member paid
  rcases mem_put.mp member with ⟨rfl, -⟩ | ⟨inside, -⟩
  · exact absurd paid unpaid
  · exact captured attempt inside paid

theorem savedAttempt_status (old new : PaymentAttempt) (now : Instant) :
    (savedAttempt old new now).status = new.status := by
  obtain ⟨time, saved⟩ := savedAttempt_eq old new now
  rw [saved]

/-- A refund row may change in everything but its amount. -/
theorem OrderBase.putRefund (base : OrderBase order file) (held : file.refund = some old)
    (sameAmount : new.amount = old.amount) :
    OrderBase order { file with refund := some new } :=
  { base with
    owed := by simpa [held] using base.owed
    refund := fun refund same => by
      cases same
      rw [sameAmount]
      exact base.refund old held }

theorem OrderSound.putRefund (sound : OrderSound order file) (held : file.refund = some old)
    (sameAmount : new.amount = old.amount) :
    OrderSound order { file with refund := some new } :=
  { sound.toOrderBase.putRefund held sameAmount with
    givenUp := sound.givenUp
    broughtBack := sound.broughtBack }

/-- A capture makes a live order paid, or an online order that is about to owe. -/
theorem OrderBase.capture (base : OrderBase order file) (attempted : attempt ∈ file.attempts)
    (standing : order.paymentStatus ∉ [PaymentStatus.refundPending, .refunded]) :
    OrderBase { order with paymentStatus := .paid }
      { file with
        attempts := put PaymentAttempt.id new file.attempts
        order := some { order with paymentStatus := .paid } } := by
  have online := base.online attempt attempted
  exact { base with
    online := fun _ _ => online
    captured := fun _ _ _ => by simp
    cash := fun cash => by simp [online] at cash
    gate := fun _ => Or.inr rfl
    owed := by simp [base.unrefunded standing] }

/-- Every step of the lifecycle keeps the rows of an order in agreement. -/
theorem FileStep.sound (step : FileStep event file next) (sound : file.Sound) : next.Sound := by
  cases step with
  | unchanged => exact sound
  | placed order delivery absent undelivered status payment total own free rider custody =>
    have empty := sound.unplaced absent
    subst empty
    exact .of_order rfl
      { balanced := total
        online := by simp
        captured := by simp
        cash := fun _ => by simp [status, payment]
        gate := by simp [status]
        owed := by simp [payment]
        refund := by simp
        entry := by simp
        collection := by simp
        givenUp := fun ended => by simp [status] at ended
        broughtBack := fun ended => by simp [status] at ended }
  | @advanced order status _ held target allowed gate =>
    have base := sound.placed order held
    have live : order.status ∉ [OrderStatus.cancelled, .returned, .delivered] := by
      cases current : order.status <;> simp_all [canTransitionOrder, orderTransitions]
    have unrefunded : file.refund = none := by
      cases recorded : file.refund with
      | none => rfl
      | some refund =>
        have ended := (base.refund refund recorded).1
        simp_all
    refine .of_order rfl
      { base with
        cash := fun cash => (base.cash cash).trans ?_
        gate := fun fulfilled => ?_
        refund := fun refund recorded => ?_
        givenUp := fun ended => ?_
        broughtBack := fun ended => ?_ }
    · simp only [List.mem_cons, List.not_mem_nil, or_false, not_or] at live
      rw [if_neg live.2.2, if_neg fun delivered => ?_]
      simp [show status = .delivered from delivered] at target
    · refine gate ?_
      simp only [List.mem_cons, List.not_mem_nil, or_false] at target fulfilled
      rcases target with rfl | rfl | rfl <;> simp_all
    · rw [unrefunded] at recorded
      cases recorded
    · simp [show status = .cancelled from ended] at target
    · simp [show status = .returned from ended] at target
  | @cancelled order _ _ held allowed restoredAt ensured =>
    have base := sound.placed order held
    obtain ⟨saved, current, -, -, kept⟩ := ensured.sound
      { order with status := .cancelled, stockRestoredAt := restoredAt } rfl
      { base.toOrderBase with
        cash := fun cash => (base.cash cash).trans (by
          rcases canTransitionOrder_cancelled.mp allowed with early | early <;> simp [early])
        gate := by simp
        refund := fun refund recorded => ⟨by simp, (base.refund refund recorded).2⟩ } (by simp) (by simp)
    exact .of_order current kept
  | assigned held carried => exact .of_order held { sound.placed _ held with }
  | assignedUnclaimed carried =>
    obtain ⟨order, held, base⟩ := sound.order_of_delivery carried
    exact .of_order held { base with }
  | released held carried => exact .of_order held { sound.placed _ held with }
  | @pickedUp order _ _ held carried assigned ready gate now =>
    have base := sound.placed order held
    refine .of_order rfl
      { base with
        cash := fun cash => (base.cash cash).trans (by simp [ready])
        gate := fun _ => gate
        refund := fun refund recorded => ?_
        givenUp := fun ended => by simp at ended
        broughtBack := fun ended => by simp at ended }
    have ended := (base.refund refund recorded).1
    simp [ready] at ended
  | failed carried =>
    obtain ⟨order, held, base⟩ := sound.order_of_delivery carried
    exact .of_order held { base with }
  | @returned order _ _ _ _ held carried failed out uncollected restoredAt voided ensured =>
    have base := sound.placed order held
    obtain ⟨current, kept⟩ := voided.keeps
      { order with status := .returned, stockRestoredAt := restoredAt } rfl
      { base.toOrderBase with
        cash := fun cash => (base.cash cash).trans (by simp [out])
        gate := by simp
        refund := fun refund recorded => ⟨by simp, (base.refund refund recorded).2⟩ }
    obtain ⟨saved, last, -, -, given⟩ := ensured.sound _ current kept (by simp) fun _ =>
      base.gate (by simp [out])
    exact .of_order last given
  | proofChanged carried =>
    obtain ⟨order, held, base⟩ := sound.order_of_delivery carried
    exact .of_order held { base with }
  | collected held carried cash custody fresh user draws =>
    exact .of_order held
      { sound.placed _ held with
        collection := fun collection same => by
          cases same
          exact ⟨rfl, rfl⟩ }
  | @completed order _ _ _ _ held carried custody out gate proved verified collected now ensured =>
    have base := sound.placed order held
    have unrefunded : file.refund = none := by
      cases recorded : file.refund with
      | none => rfl
      | some refund =>
        have ended := (base.refund refund recorded).1
        simp [out] at ended
    obtain ⟨current, kept⟩ := ensured.keeps
      { order with status := .delivered, paymentStatus := .paid } rfl
      { base.toOrderBase with
        captured := fun _ _ _ => by simp
        cash := fun _ => by simp
        gate := fun _ => Or.inr rfl
        owed := by simp [unrefunded]
        refund := fun refund recorded => by
          rw [unrefunded] at recorded
          cases recorded }
    exact .of_order current ⟨kept, fun ended => by simp at ended, fun ended => by simp at ended⟩
  | resumed held online unpaid live attempted =>
    have base := sound.placed _ held
    exact .of_order held
      { base with
        online := fun _ _ => online
        captured := captured_put (by simp [savedAttempt_status]) base.captured }
  | intended held online =>
    have base := sound.placed _ held
    refine .of_order held
      { base with
        online := fun _ _ => online
        captured := fun attempt member paid => ?_ }
    rcases List.mem_append.mp member with inside | last
    · exact base.captured attempt inside paid
    · rw [List.mem_singleton.mp last] at paid
      cases paid
  | @captured order _ _ _ _ held attempted onTime now ensured =>
    have base := sound.placed order held
    simp only [captureIsLate, not_or, List.mem_cons, List.not_mem_nil, or_false] at onTime
    obtain ⟨current, kept⟩ := ensured.keeps { order with paymentStatus := .paid } rfl
      (base.capture attempted (by simp; tauto))
    refine .of_order current ⟨kept, fun ended => absurd ended onTime.1, fun back online => ?_⟩
    have owed := base.broughtBack back online
    simp at owed
    tauto
  | capturedLate held attempted late now =>
    have base := sound.placed _ held
    have online := base.online _ attempted
    exact .of_order held
      { base with
        online := fun _ _ => online
        captured := fun _ _ _ => by simp; tauto }
  | @capturedAfterCancellation order _ _ _ _ held attempted cancelled unrefunded now ensured =>
    have base := sound.placed order held
    obtain ⟨saved, current, -, -, kept⟩ := ensured.sound { order with paymentStatus := .paid }
      rfl (base.capture attempted (by simp; tauto)) (by simp [cancelled]) (by simp [cancelled])
    exact .of_order current kept
  | settlementChecked held onTime ensured =>
    have base := sound.placed _ held
    obtain ⟨current, kept⟩ := ensured.keeps _ held base.toOrderBase
    exact .of_order current
      { kept with
        givenUp := base.givenUp
        broughtBack := base.broughtBack }
  | @paymentFailed order _ _ held attempted live unpaid now =>
    have base := sound.placed order held
    have online := base.online _ attempted
    have standing : order.paymentStatus ∉ [PaymentStatus.refundPending, .refunded] := by
      rcases unpaid with unpaid | unpaid <;> simp [unpaid]
    have uncaptured : ∀ attempt ∈ file.attempts, attempt.status ≠ .paid := by
      intro attempt member paid
      have money := base.captured attempt member paid
      rcases unpaid with unpaid | unpaid <;> simp [unpaid] at money
    refine .of_order rfl
      { base with
        online := fun _ _ => online
        captured := captured_put (by simp [savedAttempt_status]) fun attempt member paid =>
          absurd paid (uncaptured attempt member)
        cash := fun cash => by simp [online] at cash
        gate := fun fulfilled => ?_
        owed := by simp [base.unrefunded standing]
        givenUp := by simp
        broughtBack := fun back => ?_ }
    · rcases base.gate fulfilled with cash | paid
      · exact Or.inl cash
      · rcases unpaid with unpaid | unpaid <;> simp [unpaid] at paid
    · exact absurd (base.broughtBack back online) standing
  | refundClaimed owed =>
    obtain ⟨order, held, base⟩ := sound.order_of_refund owed
    exact .of_order held (base.putRefund owed rfl)
  | refundGivenUp owed =>
    obtain ⟨order, held, base⟩ := sound.order_of_refund owed
    exact .of_order held (base.putRefund owed rfl)
  | refundErrored owed =>
    obtain ⟨order, held, base⟩ := sound.order_of_refund owed
    exact .of_order held (base.putRefund owed rfl)
  | refundFailed owed =>
    obtain ⟨order, held, base⟩ := sound.order_of_refund owed
    exact .of_order held (base.putRefund owed rfl)
  | refundPending owed =>
    obtain ⟨order, held, base⟩ := sound.order_of_refund owed
    exact .of_order held (base.putRefund owed rfl)
  | refundRepeated owed held => exact .of_order held ((sound.placed _ held).putRefund owed rfl)
  | @refundSucceeded refund order _ _ owed held first providerRefundId now voided =>
    have base := sound.placed order held
    have recorded : OrderBase order
        { file with refund := some (confirmedRefund refund providerRefundId now) } :=
      base.toOrderBase.putRefund owed rfl
    have ended := (base.refund refund owed).1
    have money := base.owed.mpr (by simp [owed])
    have online : order.paymentMethod ≠ .cod := fun cash => by
      rw [base.cash cash] at money
      split at money <;> simp at money
    have idle : order.status ∉ [OrderStatus.ready, .outForDelivery, .delivered] := fun fulfilled => by
      simp only [List.mem_cons, List.not_mem_nil, or_false] at ended fulfilled
      rcases ended with ended | ended <;> simp [ended] at fulfilled
    obtain ⟨current, kept⟩ := voided.keeps { order with paymentStatus := .refunded } rfl
      { recorded with
        captured := fun _ _ _ => by simp
        cash := fun cash => absurd cash online
        gate := fun fulfilled => absurd fulfilled idle
        owed := by simp }
    exact .of_order current ⟨kept, by simp, by simp⟩
  | refundCleared owed =>
    obtain ⟨order, held, base⟩ := sound.order_of_refund owed
    exact .of_order held (base.putRefund owed rfl)
  | paidOut entered pending now =>
    obtain ⟨order, held, base⟩ := sound.order_of_settlement entered
    have amounts := base.entry _ entered
    exact .of_order held
      { base with
        entry := fun entry same => by
          cases same
          exact amounts }

/-! ## Every reachable world -/

variable {env : Environment} {world : World} {tables : Tables}

theorem reachable_sound (reached : Reachable (system env) world) (orderId : UUID) :
    (world.tables.file orderId).Sound :=
  file_always reached .of_empty (fun _ _ _ sound step => step.sound sound) orderId

/-- The file an order on record heads. -/
theorem order_file (coherent : tables.Coherent) (held : order ∈ tables.orders) :
    (tables.file order.id).order = some order :=
  (lookup_eq_some_iff coherent.orderIds).mpr ⟨held, rfl⟩

theorem order_sound (reached : Reachable (system env) world) (held : order ∈ world.tables.orders) :
    OrderSound order (world.tables.file order.id) :=
  (reachable_sound reached order.id).placed order (order_file (reachable_coherent reached) held)

end GaonOne
