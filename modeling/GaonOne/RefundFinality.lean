import GaonOne.PaymentProgress

/-! A confirmed refund. Nothing the code does on its own account touches a confirmed
row; what the provider reports is folded in whatever the row says, so a row stays
confirmed exactly as long as nothing else is reported for it. -/
namespace GaonOne
open Relational Transitions System

variable {env : Environment} {world : World} {tables : Tables} {file next : OrderFile}

/-! ## What never changes of an obligation -/

/-- One obligation at two times. -/
structure SameObligation (refund kept : PaymentRefund) : Prop where
  id : kept.id = refund.id
  orderId : kept.orderId = refund.orderId
  amount : kept.amount = refund.amount
  idempotencyKey : kept.idempotencyKey = refund.idempotencyKey
  providerPaymentId : kept.providerPaymentId = refund.providerPaymentId

theorem SameObligation.refl (refund : PaymentRefund) : SameObligation refund refund :=
  ⟨rfl, rfl, rfl, rfl, rfl⟩

theorem SameObligation.trans {first second third : PaymentRefund} (one : SameObligation first second)
    (two : SameObligation second third) : SameObligation first third where
  id := two.id.trans one.id
  orderId := two.orderId.trans one.orderId
  amount := two.amount.trans one.amount
  idempotencyKey := two.idempotencyKey.trans one.idempotencyKey
  providerPaymentId := two.providerPaymentId.trans one.providerPaymentId

theorem RefundEnsured.obligation {refund : PaymentRefund} (ensured : RefundEnsured attempt file next)
    (owed : file.refund = some refund) : next.refund = some refund := by
  cases ensured with
  | notOwed | onRecord => exact owed
  | recorded held owes fresh => simp [fresh] at owed

/-- An obligation on record stays on record: whom it pays, how much and under which key. -/
theorem FileStep.obligation {refund : PaymentRefund} (step : FileStep event file next)
    (owed : file.refund = some refund) :
    ∃ kept, next.refund = some kept ∧ SameObligation refund kept := by
  have still : next.refund = some refund → ∃ kept, next.refund = some kept ∧
      SameObligation refund kept := fun same => ⟨refund, same, .refl refund⟩
  cases step with
  | unchanged | placed | advanced | assigned | assignedUnclaimed | released | pickedUp | failed
  | proofChanged | collected | resumed | intended | capturedLate | paymentFailed | paidOut =>
    exact still owed
  | cancelled _ _ _ ensured => exact still (ensured.obligation owed)
  | returned _ _ _ _ _ _ voided ensured => exact still (ensured.obligation (voided.keptRefund.trans owed))
  | completed _ _ _ _ _ _ _ _ _ ensured => exact still (ensured.keptRefund.trans owed)
  | captured _ _ _ _ ensured => exact still (ensured.keptRefund.trans owed)
  | capturedAfterCancellation _ _ _ _ _ ensured => exact still (ensured.obligation owed)
  | settlementChecked _ _ ensured => exact still (ensured.keptRefund.trans owed)
  | refundClaimed owed' | refundGivenUp owed' | refundErrored owed' | refundFailed owed'
  | refundPending owed' | refundRepeated owed' | refundCleared owed' =>
    cases owed.symm.trans owed'
    exact ⟨_, rfl, rfl, rfl, rfl, rfl, rfl⟩
  | refundSucceeded owed' _ _ _ _ voided =>
    cases owed.symm.trans owed'
    exact ⟨_, voided.keptRefund, rfl, rfl, rfl, rfl, rfl⟩

/-! ## One order -/

/-- The obligation on file is confirmed by the provider. -/
def OrderFile.Confirmed (file : OrderFile) : Prop :=
  ∃ refund, file.refund = some refund ∧ refund.status = .succeeded

/-- The order is refunded exactly when its obligation is confirmed. -/
def OrderFile.RefundsAgree (file : OrderFile) : Prop :=
  ∀ order, file.order = some order → (order.paymentStatus = .refunded ↔ file.Confirmed)

/-- What is reported for a confirmed obligation confirms it again. -/
def OrderFile.ConfirmsAgain (file : OrderFile) (event : FileEvent) : Prop :=
  file.Confirmed → event ≠ .refundErrored ∧
    ∀ status, event = .refundReported status → status = some "processed"

/-- Only a step that changes the obligation can take its confirmation back. -/
theorem OrderFile.Confirmed.of_same (confirmed : file.Confirmed) (same : next.refund = file.refund) :
    next.Confirmed := by
  obtain ⟨refund, owed, status⟩ := confirmed
  exact ⟨refund, same.trans owed, status⟩

theorem OrderFile.Confirmed.not_dispatchable {refund : PaymentRefund} (confirmed : file.Confirmed)
    (owed : file.refund = some refund) : refund.status ∉ dispatchableRefundStatuses := by
  obtain ⟨other, held, status⟩ := confirmed
  cases owed.symm.trans held
  simp [status, dispatchableRefundStatuses]

theorem RefundEnsured.confirmed (ensured : RefundEnsured attempt file next)
    (confirmed : file.Confirmed) : next.Confirmed := by
  cases ensured with
  | notOwed | onRecord => exact confirmed
  | recorded held owes fresh =>
    obtain ⟨refund, owed, -⟩ := confirmed
    simp [fresh] at owed

/-- A confirmed obligation stays confirmed unless something else is reported for it. -/
theorem FileStep.confirmed (step : FileStep event file next) (confirmed : file.Confirmed)
    (again : file.ConfirmsAgain event) : next.Confirmed := by
  obtain ⟨unfailed, reported⟩ := again confirmed
  cases step with
  | unchanged | placed | advanced | assigned | assignedUnclaimed | released | pickedUp | failed
  | proofChanged | collected | resumed | intended | capturedLate | paymentFailed | paidOut =>
    exact confirmed.of_same rfl
  | cancelled _ _ _ ensured => exact ensured.confirmed (confirmed.of_same rfl)
  | returned _ _ _ _ _ _ voided ensured =>
    exact ensured.confirmed (confirmed.of_same voided.keptRefund)
  | completed _ _ _ _ _ _ _ _ _ ensured => exact confirmed.of_same ensured.keptRefund
  | captured _ _ _ _ ensured => exact confirmed.of_same ensured.keptRefund
  | capturedAfterCancellation _ _ _ _ _ ensured => exact ensured.confirmed (confirmed.of_same rfl)
  | settlementChecked _ _ ensured => exact confirmed.of_same ensured.keptRefund
  | refundClaimed owed dispatchable => exact absurd dispatchable (confirmed.not_dispatchable owed)
  | refundGivenUp owed dispatchable => exact absurd dispatchable (confirmed.not_dispatchable owed)
  | refundErrored => exact absurd rfl unfailed
  | refundFailed => exact absurd (reported _ rfl) (by decide)
  | refundPending owed _ unprocessed => exact absurd (reported _ rfl) unprocessed
  | refundRepeated => exact ⟨_, rfl, rfl⟩
  | refundSucceeded _ _ _ _ _ voided => exact ⟨_, voided.keptRefund, rfl⟩
  | refundCleared owed =>
    obtain ⟨refund, held, status⟩ := confirmed
    cases owed.symm.trans held
    exact ⟨_, rfl, status⟩

/-- A step that neither refunds the order nor changes what its obligation says. -/
theorem OrderFile.RefundsAgree.of_kept (agree : file.RefundsAgree)
    (order : ∀ later, next.order = some later → ∃ order, file.order = some order ∧
      (later.paymentStatus = .refunded ↔ order.paymentStatus = .refunded))
    (confirmed : next.Confirmed ↔ file.Confirmed) : next.RefundsAgree := by
  intro later current
  obtain ⟨before, held, same⟩ := order later current
  exact same.trans ((agree before held).trans confirmed.symm)

/-- An order that is not refunded, with an obligation that is not confirmed. -/
theorem OrderFile.RefundsAgree.of_open (order : ∀ later, next.order = some later →
    later.paymentStatus ≠ .refunded) (open_ : ¬next.Confirmed) : next.RefundsAgree :=
  fun later current => iff_of_false (order later current) open_

theorem not_confirmed_of_status {refund : PaymentRefund} (owed : file.refund = some refund)
    (status : refund.status ≠ .succeeded) : ¬file.Confirmed := by
  rintro ⟨other, held, confirmed⟩
  cases owed.symm.trans held
  exact status confirmed

theorem RefundEnsured.agree (ensured : RefundEnsured attempt file next) (agree : file.RefundsAgree) :
    next.RefundsAgree := by
  cases ensured with
  | notOwed | onRecord => exact agree
  | @recorded order _ held owes fresh reason draws =>
    refine .of_open (fun later current => ?_) (not_confirmed_of_status rfl (by simp [refundRequest]))
    cases current
    have money := owes.2
    simp only [List.mem_cons, List.not_mem_nil, or_false] at money
    rcases money with paid | standing
    · simp [paid, refundOwedStatus]
    · simp [standing, refundOwedStatus]

/-- Order and obligation are closed together. -/
theorem FileStep.refundsAgree (step : FileStep event file next) (sound : file.Sound)
    (agree : file.RefundsAgree) (again : file.ConfirmsAgain event) : next.RefundsAgree := by
  have same : ∀ {changed : OrderFile}, changed.refund = file.refund →
      (changed.Confirmed ↔ file.Confirmed) := fun same =>
    ⟨fun confirmed => confirmed.of_same same.symm, fun confirmed => confirmed.of_same same⟩
  have still : ∀ {changed : OrderFile}, changed.order = file.order →
      changed.refund = file.refund → changed.RefundsAgree := fun order refund =>
    agree.of_kept (fun later current => ⟨later, order ▸ current, Iff.rfl⟩) (same refund)
  -- a step that leaves a live order's money with the order
  have unrefunded : ∀ {order : Order} {changed : OrderFile}, file.order = some order →
      order.paymentStatus ≠ .refunded → changed.refund = file.refund → ¬changed.Confirmed :=
    fun held money kept confirmed => money ((agree _ held).mpr ((same kept).mp confirmed))
  cases step with
  | unchanged | assigned | assignedUnclaimed | released | failed | proofChanged | collected
  | resumed | intended | capturedLate | paidOut => exact still rfl rfl
  | placed order delivery absent undelivered status payment =>
    refine .of_open (fun later current => ?_) ?_
    · cases current
      simp [payment]
    · rintro ⟨refund, owed, -⟩
      simp [sound.unplaced absent] at owed
  | @advanced order _ _ held | @pickedUp order _ _ held =>
    refine agree.of_kept (fun later current => ?_) (same rfl)
    cases current
    exact ⟨order, held, Iff.rfl⟩
  | @cancelled order _ _ held allowed restoredAt ensured =>
    refine ensured.agree (agree.of_kept (fun later current => ?_) (same rfl))
    cases current
    exact ⟨order, held, Iff.rfl⟩
  | @returned order _ _ _ _ held carried failed out uncollected restoredAt voided ensured =>
    refine ensured.agree (agree.of_kept (fun later current => ?_) (same voided.keptRefund))
    rw [voided.keptOrder] at current
    cases current
    exact ⟨order, held, Iff.rfl⟩
  | @completed order _ _ _ _ held carried custody out gate proved verified collected now ensured =>
    have money : order.paymentStatus ≠ .refunded := by
      rcases gate with cash | paid
      · simp [(sound.placed order held).cash cash, out]
      · simp [paid]
    refine .of_open (fun later current => ?_) (unrefunded held money ensured.keptRefund)
    rw [ensured.keptOrder] at current
    cases current
    simp
  | @captured order _ _ _ _ held attempted onTime now ensured =>
    have money : order.paymentStatus ≠ .refunded := fun closed => onTime (Or.inr (by simp [closed]))
    refine .of_open (fun later current => ?_) (unrefunded held money ensured.keptRefund)
    rw [ensured.keptOrder] at current
    cases current
    simp
  | capturedAfterCancellation held attempted cancelled standing now ensured =>
    refine ensured.agree (.of_open (fun later current => ?_) (unrefunded held standing.1 rfl))
    cases current
    simp
  | settlementChecked _ _ ensured => exact still ensured.keptOrder ensured.keptRefund
  | @paymentFailed order _ _ held attempted live unpaid now =>
    have money : order.paymentStatus ≠ .refunded := by rcases unpaid with money | money <;> simp [money]
    refine .of_open (fun later current => ?_) (unrefunded held money rfl)
    cases current
    simp
  | refundClaimed owed dispatchable | refundGivenUp owed dispatchable =>
    refine agree.of_kept (fun later current => ⟨later, current, Iff.rfl⟩) (iff_of_false ?_ ?_)
    · exact not_confirmed_of_status rfl (by simp [failedRefund])
    · exact fun confirmed => confirmed.not_dispatchable owed dispatchable
  | refundErrored owed =>
    refine agree.of_kept (fun later current => ⟨later, current, Iff.rfl⟩) (iff_of_false ?_ ?_)
    · exact not_confirmed_of_status rfl (by simp [failedRefund])
    · exact fun confirmed => (again confirmed).1 rfl
  | refundFailed owed =>
    refine agree.of_kept (fun later current => ⟨later, current, Iff.rfl⟩) (iff_of_false ?_ ?_)
    · exact not_confirmed_of_status rfl (by simp [failedRefund])
    · exact fun confirmed => absurd ((again confirmed).2 _ rfl) (by decide)
  | refundPending owed _ unprocessed =>
    refine agree.of_kept (fun later current => ⟨later, current, Iff.rfl⟩) (iff_of_false ?_ ?_)
    · exact not_confirmed_of_status rfl (by simp)
    · exact fun confirmed => unprocessed ((again confirmed).2 _ rfl)
  | refundRepeated owed held closed =>
    intro later current
    cases held.symm.trans current
    exact iff_of_true closed ⟨_, rfl, rfl⟩
  | refundSucceeded owed held first providerRefundId now voided =>
    intro later current
    rw [voided.keptOrder] at current
    cases current
    exact iff_of_true rfl ⟨_, voided.keptRefund, rfl⟩
  | refundCleared owed =>
    refine agree.of_kept (fun later current => ⟨later, current, Iff.rfl⟩) ⟨?_, ?_⟩
    · rintro ⟨_, ⟨⟩, status⟩
      exact ⟨_, owed, status⟩
    · rintro ⟨refund, held, status⟩
      cases owed.symm.trans held
      exact ⟨_, rfl, status⟩

/-! ## Every committed state -/

/-- A provider refund object that says `processed`. -/
def ProviderResult.Confirms (env : Environment) : ProviderResult → Prop
  | .ok payload => (Json.get payload "status").text env.print = some "processed"
  | .error _ => False

instance (env : Environment) : (result : ProviderResult) → Decidable (result.Confirms env)
  | .ok _ => inferInstanceAs (Decidable (_ = _))
  | .error _ => inferInstanceAs (Decidable False)

/-- Whatever the action reports for a confirmed refund is that it was processed. -/
def World.confirmsAgain (env : Environment) (world : World) (action : Action) : Prop :=
  ∀ folded ∈ world.reported env action, folded.1.status = .succeeded →
    ProviderResult.Confirms env folded.2

instance (env : Environment) (world : World) (action : Action) :
    Decidable (world.confirmsAgain env action) :=
  inferInstanceAs (Decidable (∀ folded ∈ world.reported env action, _))

theorem refundSignal_mem (signal : refundSignal env settings tables request = some (refund, entity)) :
    refund ∈ tables.paymentRefunds := by
  simp only [refundSignal, Option.bind_eq_some_iff] at signal
  obtain ⟨payload, -, signal⟩ := signal
  split at signal
  · cases reading : readRefundEvent env tables payload with
    | error raised => simp [reading, Except.toOption] at signal
    | ok found =>
      simp only [reading, Except.toOption, Option.join_some] at signal
      exact matchedRefund_mem (readRefundEvent_ok (reading.trans (congrArg Except.ok signal)))
  · cases signal

/-- A result is folded into a row on record. -/
theorem World.reported_mem (folded : world.reported env action = some (refund, result)) :
    refund ∈ world.tables.paymentRefunds := by
  unfold World.reported at folded
  split at folded
  · split at folded
    · simp only [Option.map_eq_some_iff, Prod.mk.injEq] at folded
      obtain ⟨⟨_, _⟩, signal, rfl, -⟩ := folded
      exact refundSignal_mem signal
    · cases folded
  · split at folded
    · split at folded
      · simp only [Option.map_eq_some_iff, Prod.mk.injEq] at folded
        obtain ⟨_, held, rfl, -⟩ := folded
        exact lookup_mem held
      · cases folded
    · cases folded
  · cases folded

theorem World.confirmsAgain_file (coherent : world.tables.Coherent)
    (again : world.confirmsAgain env action) (explained : world.Explains env action orderId event) :
    (world.tables.file orderId).ConfirmsAgain event := by
  rintro ⟨refund, owed, confirmed⟩
  have reported : ∀ {folded result}, world.reported env action = some (folded, result) →
      folded.orderId = orderId → ProviderResult.Confirms env result := by
    rintro folded result folding rfl
    have held := coherent.file_refund (World.reported_mem folding)
    cases owed.symm.trans held
    exact again (refund, result) folding confirmed
  refine ⟨?_, ?_⟩
  · rintro rfl
    obtain ⟨folded, message, folding, own⟩ := explained
    exact reported folding own
  · rintro status rfl
    obtain ⟨folded, payload, folding, own, rfl⟩ := explained
    exact reported folding own

/-- At this commit, an order is refunded exactly when its refund row is confirmed. -/
def World.RefundsAgree (world : World) : Prop :=
  ∀ order ∈ world.tables.orders, order.paymentStatus = .refunded ↔
    ∃ refund ∈ world.tables.paymentRefunds, refund.orderId = order.id ∧ refund.status = .succeeded

/-- Every refund row that is confirmed in one state is confirmed in the other. -/
def World.KeepsConfirmed (world later : World) : Prop :=
  ∀ refund ∈ world.tables.paymentRefunds, refund.status = .succeeded →
    ∃ kept ∈ later.tables.paymentRefunds, kept.id = refund.id ∧ kept.status = .succeeded

theorem reachable_refundsAgree (reached : ReachableWhile (system env) (World.confirmsAgain env) world)
    (orderId : UUID) : (world.tables.file orderId).RefundsAgree := by
  refine file_invariant reached (fun order held => by cases held) ?_ orderId
  intro state action orderId event next before agree again explained step
  exact step.refundsAgree (reachable_sound before orderId) (agree orderId)
    (World.confirmsAgain_file (reachable_coherent before) again explained)

theorem file_refund_mem {refund : PaymentRefund} (owed : (tables.file orderId).refund = some refund) :
    refund ∈ tables.paymentRefunds ∧ refund.orderId = orderId :=
  ⟨lookup_mem owed, lookup_col owed⟩

/-- While nothing but a confirmation is reported for a confirmed refund, confirmed
refunds stay confirmed and their orders refunded. -/
theorem confirmed_refunds_are_final
    (reached : ReachableWhile (system env) (World.confirmsAgain env) world) (actions : List Action)
    (admitted : RunWhile (system env) (World.confirmsAgain env) world actions) :
    world.RefundsAgree ∧ world.KeepsConfirmed ((system env).run world actions) := by
  have coherent := reachable_coherent reached.reachable
  refine ⟨fun order held => ?_, fun refund recorded status => ?_⟩
  · rw [reachable_refundsAgree reached order.id order (order_file coherent held)]
    constructor
    · rintro ⟨refund, owed, confirmed⟩
      exact ⟨refund, (file_refund_mem owed).1, (file_refund_mem owed).2, confirmed⟩
    · rintro ⟨refund, member, own, confirmed⟩
      exact ⟨refund, own ▸ coherent.file_refund member, confirmed⟩
  · have kept := reached.persists (P := fun state => ∃ kept,
      (state.tables.file refund.orderId).refund = some kept ∧ SameObligation refund kept ∧
        kept.status = .succeeded)
      ⟨refund, coherent.file_refund recorded, .refl refund, status⟩ ?_ actions admitted
    · obtain ⟨kept, owed, same, confirmed⟩ := kept
      exact ⟨kept, (file_refund_mem owed).1, same.id, confirmed⟩
    · rintro state action before ⟨kept, owed, same, confirmed⟩ again
      obtain ⟨event, explained, step⟩ := step_file before.reachable action refund.orderId
      obtain ⟨later, held, still⟩ := step.confirmed ⟨kept, owed, confirmed⟩
        (World.confirmsAgain_file (reachable_coherent before.reachable) again explained)
      obtain ⟨other, held', obligation⟩ := step.obligation owed
      cases held.symm.trans held'
      exact ⟨later, held, same.trans obligation, still⟩

/-- A paid order that was cancelled; its money is owed back. -/
def cancelledPaidOrder : List Action := paidOrder ++ [sampleRequest 4 (.cancelMyOrder 1 1)]

/-- The cancelled order's money is sent back at once. -/
def refundedOrder : List Action :=
  cancelledPaidOrder ++ [.dispatchDueRefunds sampleSettings 10 none, .claimNext 0 5000,
    .callProvider 0 true (.answered 200 refundAnswer.body), .recordAnswer 0 (sampleDraws 5)]

theorem confirmed_refunds_are_final_repeated :
    (∃ refund ∈ (sampleWorld refundedOrder).tables.paymentRefunds, refund.status = .succeeded) ∧
      (sampleWorld refundedOrder).RefundsAgree ∧
        (sampleWorld refundedOrder).KeepsConfirmed ((system sampleEnvironment).run
          (sampleWorld refundedOrder) [sampleWebhook 6 "evt_processed" refundProcessed]) := by
  have quiet : RunWhile (system sampleEnvironment) (World.confirmsAgain sampleEnvironment)
      World.empty refundedOrder := by
    decide +kernel
  refine ⟨by decide +kernel, confirmed_refunds_are_final (ReachableWhile.initial.run _ quiet) _ ?_⟩
  decide +kernel

/-- The provider's word that the refund was created arrives after the refund is confirmed. -/
def reopenedRefund : List Action := refundedOrder ++ [sampleWebhook 6 "evt_created" refundCreated]

theorem late_report_reopens_refund :
    Reachable (system sampleEnvironment) (sampleWorld reopenedRefund) ∧
      ¬(sampleWorld refundedOrder).KeepsConfirmed (sampleWorld reopenedRefund) ∧
      ¬(sampleWorld reopenedRefund).RefundsAgree := by
  refine ⟨sampleWorld_reachable _, fun keeps => ?_, fun agree => ?_⟩
  · obtain ⟨refund, recorded, confirmed⟩ : ∃ refund ∈ (sampleWorld refundedOrder).tables.paymentRefunds,
        refund.status = .succeeded := by
      decide +kernel
    obtain ⟨kept, member, -, still⟩ := keeps refund recorded confirmed
    have reopened : ∀ refund ∈ (sampleWorld reopenedRefund).tables.paymentRefunds,
        refund.status = .processing := by
      decide +kernel
    simp [reopened kept member] at still
  · obtain ⟨order, held, refunded, open_⟩ : ∃ order ∈ (sampleWorld reopenedRefund).tables.orders,
        order.paymentStatus = .refunded ∧
          ∀ refund ∈ (sampleWorld reopenedRefund).tables.paymentRefunds, refund.status ≠ .succeeded := by
      decide +kernel
    obtain ⟨refund, recorded, -, confirmed⟩ := (agree order held).mp refunded
    exact open_ refund recorded confirmed

end GaonOne
