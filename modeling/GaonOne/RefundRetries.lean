import GaonOne.RefundProgress

/-! Sending an open refund again. An administrator's retry clears the attempts behind a
failed row and calls the provider; a worker tick does so for the rows in its batch, one
after another. What neither of them takes up is a row that is being processed. -/
namespace GaonOne
open Relational UnitOfWork Transitions System

variable {env : Environment} {world : World} {tables : Tables} {settings : Settings}
variable {refund : PaymentRefund} {refundId : UUID} {index limit : Nat}

/-! ## Runs of one process -/

/-- The steps that a dispatching process takes of its own. -/
def Action.StepOf (index : Nat) : Action → Prop
  | .commitRetry place => place = index
  | .claimNext place _ => place = index
  | .callProvider place _ _ => place = index
  | .recordAnswer place _ => place = index
  | _ => False

/-- What starts a dispatch: the worker's tick, or an administrator's retry. -/
inductive Action.Starts (settings : Settings) (limit : Nat) : Action → Prop where
  | tick : Action.Starts settings limit (.dispatchDueRefunds settings limit none)
  | retry (subject refundId : UUID) :
      Action.Starts settings limit (.retryRefund settings subject refundId)

/-- A tick or a retry is possible whose process calls the provider for the obligation. -/
def World.SentAgain (env : Environment) (settings : Settings) (limit : Nat) (world : World)
    (refund : PaymentRefund) : Prop :=
  ∃ first steps, Action.Starts settings limit first ∧
    (∀ action ∈ steps, action.StepOf world.processes.length) ∧
    ∃ call ∈ ((system env).run world (first :: steps)).provider.calls.drop world.provider.calls.length,
      RefundCall.Of call refund

/-- An administrator can retry refunds, or the refund is in the batch of the next tick. -/
def World.TakenUp (world : World) (limit : Nat) (refund : PaymentRefund) : Prop :=
  (∃ subject admin, requireCapability world.tables subject .refundWrite = .ok admin) ∨
    refund.id ∈ dueRefundIds world.tables limit none

/-- A refund that still has to be sent: it is owed and captured, nobody is sending it and
the provider has not accepted it. -/
structure World.Owes (world : World) (refund : PaymentRefund) : Prop where
  recorded : refund ∈ world.tables.paymentRefunds
  unconfirmed : refund.status ≠ .succeeded
  captured : (configured refund.providerPaymentId).isSome
  unsent : ¬world.Sending refund
  unaccepted : ¬world.Accepted refund

/-! ## One row of the queue -/

theorem claimRefund_granted (held : tables.refund? refundId = some refund)
    (dispatchable : refund.status ∈ dispatchableRefundStatuses)
    (below : refund.attemptCount < maxRefundAttempts)
    (payment : configured refund.providerPaymentId = some paymentId)
    (enabled : razorpayEnabled settings) (now : Instant) :
    (claimRefund settings (Session.start tables) refundId now).2 =
      some ⟨refundId, paymentId, refund.amount, refund.idempotencyKey, uuidText refund.orderId⟩ := by
  have found : (Session.start tables).flushed.refund? refundId = some refund := held
  simp only [claimRefund, found, payment, enabled]
  rw [if_neg (not_not.mpr dispatchable), if_neg (Nat.not_le.mpr below), if_pos trivial]

/-- A claim leaves every other row alone. -/
theorem claimRefund_keeps (member : refund ∈ tables.paymentRefunds) (apart : refund.id ≠ refundId) :
    refund ∈ (claimRefund settings (Session.start tables) refundId now).1.pending.paymentRefunds := by
  have kept : ∀ {saved row : PaymentRefund}, tables.refund? refundId = some row → saved.id = row.id →
      refund ∈ put PaymentRefund.id saved tables.paymentRefunds := by
    intro saved row held same
    exact mem_put.mpr (Or.inr ⟨member, fun clash =>
      apart (clash.trans (same.trans (lookup_col held)))⟩)
  unfold claimRefund
  split
  · exact member
  · next row held =>
    split
    · exact member
    · split
      · exact member
      · split
        · exact kept held rfl
        · split
          · exact kept held rfl
          · exact kept held rfl

theorem setProcess_here {after : World} {process next : Process}
    (standing : world.processes[index]? = some process)
    (changed : after.processes = world.processes.set index next) :
    after.processes[index]? = some next := by
  obtain ⟨inside, -⟩ := List.getElem?_eq_some_iff.mp standing
  rw [changed, List.getElem?_set_self inside]

/-- The claim at the head of a queue is committed. -/
theorem World.claimNext_granted (coherent : world.tables.Coherent)
    (standing : world.processes[index]? = some ⟨settings, refundId :: rest, .idle⟩)
    (granted : (claimRefund settings (Session.start world.tables) refundId now).2 = some claim) :
    (world.claimNext index now).processes[index]? = some ⟨settings, rest, .claimed claim⟩ ∧
      (world.claimNext index now).tables =
        (claimRefund settings (Session.start world.tables) refundId now).1.pending := by
  have kept : (claimRefund settings (Session.start world.tables) refundId now).1.pending.Constraints :=
    (claimRefund_moves coherent).coherent.toConstraints
  simp only [World.claimNext, standing, granted]
  exact ⟨setProcess_here standing (World.commitProcess_kept kept).2, (World.commitProcess_kept kept).1⟩

/-- A call that nobody answers reaches the provider. -/
theorem World.callProvider_unreachable (env : Environment)
    (standing : world.processes[index]? = some ⟨settings, rest, .claimed claim⟩)
    (called : claim.call settings = some call) :
    (world.callProvider env index false .unreachable).provider.calls = world.provider.calls ++ [call] ∧
      (world.callProvider env index false .unreachable).tables = world.tables ∧
      (world.callProvider env index false .unreachable).processes[index]? =
        some ⟨settings, rest, .answered claim (createRazorpayRefund env settings .unreachable)⟩ := by
  have unanswered : (createRazorpayRefund env settings .unreachable).isOk = false := by
    unfold createRazorpayRefund
    split <;> rfl
  simp only [World.callProvider, standing, called, unanswered]
  rw [if_pos (by simp)]
  exact ⟨rfl, rfl, setProcess_here standing rfl⟩

/-- A process at the head of whose queue stands a dispatchable row calls for it. -/
theorem World.sends_head (reached : Reachable (system env) world)
    (standing : world.processes[index]? = some ⟨settings, refund.id :: rest, .idle⟩)
    (recorded : refund ∈ world.tables.paymentRefunds)
    (dispatchable : refund.status ∈ dispatchableRefundStatuses)
    (below : refund.attemptCount < maxRefundAttempts)
    (payment : (configured refund.providerPaymentId).isSome) (enabled : razorpayEnabled settings) :
    ∃ call, RefundCall.Of call refund ∧
      ((system env).run world [.claimNext index 0, .callProvider index false .unreachable]).provider.calls =
        world.provider.calls ++ [call] := by
  obtain ⟨paymentId, payment⟩ := Option.isSome_iff_exists.mp payment
  have coherent := reachable_coherent reached
  have held : world.tables.refund? refund.id = some refund :=
    (lookup_eq_some_iff coherent.refundIds).mpr ⟨recorded, rfl⟩
  have granted := claimRefund_granted held dispatchable below payment enabled 0
  obtain ⟨claimed, -⟩ := World.claimNext_granted coherent standing granted
  have same : (world.claimNext index 0).provider = world.provider := by
    rcases World.step_provider env world (.claimNext index 0) with same | ⟨_, _, _, _, _, _, _, other, -⟩
    · exact same
    · cases other
  have of : RefundClaim.Of ⟨refund.id, paymentId, refund.amount, refund.idempotencyKey,
      uuidText refund.orderId⟩ refund := ⟨rfl, payment, rfl, rfl, rfl⟩
  have called : RefundClaim.call settings ⟨refund.id, paymentId, refund.amount,
      refund.idempotencyKey, uuidText refund.orderId⟩ = some ⟨paymentId,
        amountToSubunits (Decimal.ofCents refund.amount), providerIdempotencyKey refund.idempotencyKey,
        uuidText refund.orderId⟩ := by
    simp only [RefundClaim.call, refundCall, enabled]
    rfl
  refine ⟨_, of.called called, ?_⟩
  change ((world.claimNext index 0).callProvider env index false .unreachable).provider.calls = _
  rw [(World.callProvider_unreachable env claimed called).1, same]

/-! ## The queue -/

theorem World.calls_step (env : Environment) (world : World) (action : Action) :
    world.provider.calls <+: (world.step env action).provider.calls := by
  rcases World.step_provider env world action with same |
    ⟨_, _, _, _, accepts, _, call, -, -, -, -, received⟩
  · exact same ▸ List.prefix_rfl
  · rw [received, Provider.receive_calls]
    exact List.prefix_append _ _

theorem World.calls_run (env : Environment) (world : World) (actions : List Action) :
    world.provider.calls <+: ((system env).run world actions).provider.calls := by
  induction actions generalizing world with
  | nil => exact List.prefix_rfl
  | cons action rest ih => exact (World.calls_step env world action).trans (ih _)

/-- A process gets past the head of its queue without touching another row. -/
theorem World.skips_head (reached : Reachable (system env) world)
    (standing : world.processes[index]? = some ⟨settings, refundId :: rest, .idle⟩)
    (recorded : refund ∈ world.tables.paymentRefunds) (apart : refund.id ≠ refundId) :
    ∃ steps, (∀ action ∈ steps, action.StepOf index) ∧
      ((system env).run world steps).processes[index]? = some ⟨settings, rest, .idle⟩ ∧
      refund ∈ ((system env).run world steps).tables.paymentRefunds := by
  have coherent := reachable_coherent reached
  have kept : (claimRefund settings (Session.start world.tables) refundId 0).1.pending.Constraints :=
    (claimRefund_moves coherent).coherent.toConstraints
  cases granted : (claimRefund settings (Session.start world.tables) refundId 0).2 with
  | none =>
    refine ⟨[.claimNext index 0], by simp [Action.StepOf], ?_, ?_⟩
    · change (world.claimNext index 0).processes[index]? = _
      simp only [World.claimNext, standing, granted]
      exact setProcess_here standing (World.commitProcess_kept kept).2
    · change refund ∈ (world.claimNext index 0).tables.paymentRefunds
      simp only [World.claimNext, standing, granted]
      rw [(World.commitProcess_kept kept).1]
      exact claimRefund_keeps recorded apart
  | some claim =>
    obtain ⟨row, paymentId, -, -, -, -, enabled, own, -⟩ := claimRefund_some (Prod.ext rfl granted)
    obtain ⟨claimed, tables⟩ := World.claimNext_granted coherent standing granted
    have inside : refund ∈ (world.claimNext index 0).tables.paymentRefunds := by
      rw [tables]
      exact claimRefund_keeps recorded apart
    obtain ⟨call, called⟩ : ∃ call, claim.call settings = some call := by
      simp [RefundClaim.call, refundCall, enabled]
    obtain ⟨-, unchanged, answered⟩ := World.callProvider_unreachable env claimed called
    have failed : createRazorpayRefund env settings .unreachable = .error "Unable to reach Razorpay" := by
      simp [createRazorpayRefund, enabled, decodeResponse]
    rw [failed] at answered
    have called_reached : Reachable (system env)
        ((world.claimNext index 0).callProvider env index false .unreachable) :=
      Reachable.run reached [.claimNext index 0, .callProvider index false .unreachable]
    obtain ⟨taken, recorded', of⟩ :=
      (reachable_obliged called_reached).claims index claim ⟨_, answered, rfl⟩
    have coherent' := reachable_coherent called_reached
    have held := (lookup_eq_some_iff coherent'.refundIds).mpr ⟨recorded', of.refundId.symm⟩
    obtain ⟨written, processes⟩ := World.recordAnswer_error coherent' env (sampleDraws 0)
      answered held
    refine ⟨[.claimNext index 0, .callProvider index false .unreachable,
      .recordAnswer index (sampleDraws 0)], by simp [Action.StepOf], ?_, ?_⟩
    · exact setProcess_here answered processes
    · change refund ∈ (World.recordAnswer env ((world.claimNext index 0).callProvider env index
        false .unreachable) index (sampleDraws 0)).tables.paymentRefunds
      rw [written]
      refine mem_put.mpr (Or.inr ⟨unchanged ▸ inside, fun clash => apart ?_⟩)
      rw [clash]
      exact of.refundId.symm.trans (own ▸ rfl)

theorem mem_dueRefundIds (due : refundId ∈ dueRefundIds tables limit orderId) :
    ∃ refund ∈ tables.paymentRefunds, refund.id = refundId ∧
      refund.status ∈ dispatchableRefundStatuses ∧ refund.attemptCount < maxRefundAttempts := by
  unfold dueRefundIds at due
  obtain ⟨refund, taken, rfl⟩ := List.mem_map.mp due
  obtain ⟨recorded, meets⟩ := List.mem_filter.mp ((List.mem_insertionSort _).mp (List.mem_of_mem_take taken))
  simp only [decide_eq_true_eq] at meets
  exact ⟨refund, recorded, rfl, meets.1, meets.2.1⟩

/-- A process reaches every dispatchable row of its queue. -/
theorem World.sends_queued (index : Nat) (refund : PaymentRefund) (queue : List UUID)
    (reached : Reachable (system env) world)
    (standing : world.processes[index]? = some ⟨settings, queue, .idle⟩)
    (queued : refund.id ∈ queue) (recorded : refund ∈ world.tables.paymentRefunds)
    (dispatchable : refund.status ∈ dispatchableRefundStatuses)
    (below : refund.attemptCount < maxRefundAttempts)
    (payment : (configured refund.providerPaymentId).isSome) (enabled : razorpayEnabled settings) :
    ∃ steps, (∀ action ∈ steps, action.StepOf index) ∧
      ∃ call ∈ ((system env).run world steps).provider.calls.drop world.provider.calls.length,
        RefundCall.Of call refund := by
  induction queue generalizing world with
  | nil => cases queued
  | cons head rest ih =>
    by_cases own : refund.id = head
    · subst own
      obtain ⟨call, of, called⟩ := World.sends_head reached standing recorded dispatchable below
        payment enabled
      refine ⟨[.claimNext index 0, .callProvider index false .unreachable],
        by simp [Action.StepOf], call, ?_, of⟩
      rw [called, List.drop_left]
      exact List.mem_singleton_self call
    · obtain ⟨steps, own_steps, standing', recorded'⟩ := World.skips_head reached standing recorded own
      obtain ⟨later, own_later, call, called, of⟩ := ih (reached.run steps) standing'
        ((List.mem_cons.mp queued).resolve_left own) recorded'
      refine ⟨steps ++ later, ?_, call, ?_, of⟩
      · intro action member
        rcases List.mem_append.mp member with first | second
        · exact own_steps action first
        · exact own_later action second
      · have longer := (World.calls_run env world steps).length_le
        rw [show (system env).run world (steps ++ later) =
          (system env).run ((system env).run world steps) later from List.foldl_append]
        exact List.drop_subset_drop_left _ longer called

/-! ## Open refunds are sent again -/

/-- What an administrator's retry makes of a row. -/
theorem clearAttempts_row (held : tables.refund? refund.id = some refund)
    (status : refund.status ∈ dispatchableRefundStatuses)
    (first : refund.status = .requested → refund.attemptCount = 0) :
    ∃ cleared ∈ (clearAttempts (Session.start tables) refund.id
        (decide (0 < refund.attemptCount ∧ refund.status = .failed))).pending.paymentRefunds,
      SameObligation cleared refund ∧ cleared.id = refund.id ∧ cleared.status = refund.status ∧
        cleared.attemptCount = 0 := by
  have found : (Session.start tables).flushed.refund? refund.id = some refund := held
  simp only [clearAttempts, found]
  by_cases clears : 0 < refund.attemptCount ∧ refund.status = .failed
  · rw [decide_eq_true clears]
    exact ⟨{ refund with attemptCount := 0 }, mem_put.mpr (Or.inl ⟨rfl, refund, lookup_mem held, rfl⟩),
      ⟨rfl, rfl, rfl, rfl, rfl⟩, rfl, rfl, rfl⟩
  · rw [decide_eq_false clears]
    refine ⟨refund, lookup_mem held, .refl refund, rfl, rfl, ?_⟩
    rcases List.mem_pair.mp status with requested | failed
    · exact first requested
    · exact Nat.eq_zero_of_not_pos fun positive => clears ⟨positive, failed⟩

/-- A retry by an administrator calls the provider for a row that was asked for or failed. -/
theorem World.sentAgain_retry (reached : Reachable (system env) world)
    (capable : requireCapability world.tables subject .refundWrite = .ok admin)
    (recorded : refund ∈ world.tables.paymentRefunds)
    (status : refund.status ∈ dispatchableRefundStatuses)
    (payment : (configured refund.providerPaymentId).isSome) (enabled : razorpayEnabled settings) :
    world.SentAgain env settings limit refund := by
  have coherent := reachable_coherent reached
  have held : world.tables.refund? refund.id = some refund :=
    (lookup_eq_some_iff coherent.refundIds).mpr ⟨recorded, rfl⟩
  obtain ⟨cleared, inside, same, sameId, sameStatus, fresh⟩ := clearAttempts_row held status
    (reachable_firstAttempt reached refund.orderId refund (coherent.file_refund recorded))
  have read : readRetry world.tables subject refund.id =
      .ok (decide (0 < refund.attemptCount ∧ refund.status = .failed)) := by
    simp only [readRetry, capable, held]
    rfl
  let started := world.addProcess
    ⟨settings, [], .retrying refund.id (decide (0 < refund.attemptCount ∧ refund.status = .failed))⟩
  have start : world.retryRefund settings subject refund.id = started := by
    simp only [World.retryRefund, read]
    rfl
  have standing : started.processes[world.processes.length]? = some ⟨settings, [],
      .retrying refund.id (decide (0 < refund.attemptCount ∧ refund.status = .failed))⟩ := by
    simp [started]
  have kept : (clearAttempts (Session.start started.tables) refund.id
      (decide (0 < refund.attemptCount ∧ refund.status = .failed))).pending.Constraints :=
    (clearAttempts_moves coherent).coherent.toConstraints
  have committed : started.commitRetry world.processes.length = started.commitProcess
      world.processes.length (clearAttempts (Session.start started.tables) refund.id
        (decide (0 < refund.attemptCount ∧ refund.status = .failed))).pending
      ⟨settings, [refund.id], .idle⟩ := by
    simp only [World.commitRetry, standing]
  have readied : Reachable (system env) (started.commitRetry world.processes.length) := by
    have next := reached.run [.retryRefund settings subject refund.id,
      .commitRetry world.processes.length]
    change Reachable (system env)
      ((world.retryRefund settings subject refund.id).commitRetry world.processes.length) at next
    rwa [start] at next
  obtain ⟨steps, own, call, called, of⟩ := World.sends_queued world.processes.length cleared [refund.id] readied
    (by rw [committed]; exact setProcess_here standing (World.commitProcess_kept kept).2)
    (by simp [sameId]) (by rw [committed, (World.commitProcess_kept kept).1]; exact inside)
    (sameStatus ▸ status) (by rw [fresh]; decide) (same.providerPaymentId ▸ payment) enabled
  refine ⟨.retryRefund settings subject refund.id, .commitRetry world.processes.length :: steps,
    .retry subject refund.id, ?_, call, ?_, of.kept same⟩
  · intro action member
    rcases List.mem_cons.mp member with rfl | later
    · rfl
    · exact own action later
  · have quiet : (started.commitRetry world.processes.length).provider = world.provider := by
      rw [committed, World.commitProcess_provider]
      rfl
    rw [quiet, ← start] at called
    exact called

/-- While no claim is lost and no progress is made up, every refund that still has to be
sent is sent again by a retry, or by the next tick. -/
theorem open_refunds_are_sent_again
    (reached : ReachableWhile (system env) (World.keepsSendable env) world)
    (owes : world.Owes refund) (taken : world.TakenUp limit refund)
    (enabled : razorpayEnabled settings) : world.SentAgain env settings limit refund := by
  have before := reached.reachable
  have coherent := reachable_coherent before
  rcases taken with ⟨subject, admin, capable⟩ | due
  · refine World.sentAgain_retry before capable owes.recorded ?_ owes.captured enabled
    have idle : refund.status ≠ .processing := by
      intro processing
      rcases reachable_processing reached refund owes.recorded processing with accepted | sending
      · exact owes.unaccepted accepted
      · exact owes.unsent sending
    have unconfirmed := owes.unconfirmed
    cases status : refund.status with
    | requested | failed => simp [dispatchableRefundStatuses]
    | processing => exact absurd status idle
    | succeeded => exact absurd status unconfirmed
  · obtain ⟨row, recorded, same, dispatchable, below⟩ := mem_dueRefundIds due
    have sole := unique_eq coherent.refundIds recorded owes.recorded same
    subst sole
    obtain ⟨steps, own, call, called, of⟩ := World.sends_queued world.processes.length row
      (dueRefundIds world.tables limit none) (before.step (.dispatchDueRefunds settings limit none))
      (by simp [system, World.step]) due recorded dispatchable below owes.captured enabled
    exact ⟨_, steps, .tick, own, call, called, of⟩

/-- A step with no crash and no refund reported by a webhook. -/
def World.uneventful (env : Environment) (world : World) : Action → Bool
  | .crash _ => false
  | .request settings (.webhook request) draws =>
    (world.reported env (.request settings (.webhook request) draws)).isNone
  | _ => true

theorem World.uneventful.keepsSendable (quiet : world.uneventful env action) :
    world.keepsSendable env action := by
  cases action with
  | crash => cases quiet
  | request settings request draws =>
    cases request with
    | webhook request =>
      intro refund payload folded
      simp [World.uneventful, folded] at quiet
    | _ => exact trivial
  | _ => exact trivial

theorem open_refunds_are_sent_again_cancelled :
    ∃ refund, (sampleWorld cancelledPaidOrder).Owes refund ∧
      (sampleWorld cancelledPaidOrder).SentAgain sampleEnvironment sampleSettings 25 refund := by
  have uneventful : RunWhile (system sampleEnvironment)
      (fun world action => world.uneventful sampleEnvironment action) World.empty cancelledPaidOrder := by
    decide +kernel
  have quiet := uneventful.mono fun _ _ => World.uneventful.keepsSendable
  obtain ⟨refund, recorded, unconfirmed, captured, due⟩ :
      ∃ refund ∈ (sampleWorld cancelledPaidOrder).tables.paymentRefunds,
        refund.status ≠ .succeeded ∧ (configured refund.providerPaymentId).isSome ∧
        refund.id ∈ dueRefundIds (sampleWorld cancelledPaidOrder).tables 25 none := by
    decide +kernel
  have idle : (sampleWorld cancelledPaidOrder).processes.length = 0 ∧
      (sampleWorld cancelledPaidOrder).provider.executed = [] := by
    decide +kernel
  have owes : (sampleWorld cancelledPaidOrder).Owes refund := by
    refine ⟨recorded, unconfirmed, captured, ?_, ?_⟩
    · rintro ⟨index, claim, ⟨process, found, -⟩, -⟩
      simp [List.length_eq_zero_iff.mp idle.1] at found
    · rintro ⟨call, executed, -⟩
      simp [idle.2] at executed
  exact ⟨refund, owes, open_refunds_are_sent_again (ReachableWhile.initial.run _ quiet) owes
    (Or.inr due) (by decide)⟩

/-! ## Refunds that nobody takes up -/

/-- Only a report on a row that is being processed takes it out of that state. -/
theorem FileStep.keeps_processing (step : FileStep event file next)
    (owed : file.refund = some refund) (status : refund.status = .processing)
    (clean : event ≠ .refundErrored) (unreported : ∀ status, event ≠ .refundReported status) :
    ∃ kept, next.refund = some kept ∧ kept.status = .processing ∧ SameObligation refund kept := by
  have still : next.refund = some refund → ∃ kept, next.refund = some kept ∧
      kept.status = .processing ∧ SameObligation refund kept :=
    fun same => ⟨refund, same, status, .refl refund⟩
  cases step with
  | unchanged | placed | advanced | assigned | assignedUnclaimed | released | pickedUp | failed
  | proofChanged | collected | resumed | intended | capturedLate | paymentFailed | paidOut =>
    exact still owed
  | cancelled _ _ _ ensured => exact still (ensured.obligation owed)
  | returned _ _ _ _ _ _ voided ensured => exact still (ensured.obligation (voided.keptRefund.trans owed))
  | completed _ _ _ _ _ _ _ _ _ ensured => exact still (ensured.keptRefund.trans owed)
  | captured _ _ _ _ ensured => exact still (ensured.keptRefund.trans owed)
  | capturedAfterCancellation _ _ _ _ _ ensured => exact still (ensured.obligation owed)
  | settlementChecked _ _ ensured => exact still (ensured.keptRefund.trans owed)
  | refundClaimed owed' open_ | refundGivenUp owed' open_ =>
    cases owed.symm.trans owed'
    simp [dispatchableRefundStatuses, status] at open_
  | refundErrored => exact absurd rfl clean
  | refundFailed | refundPending | refundRepeated | refundSucceeded => exact absurd rfl (unreported _)
  | refundCleared owed' =>
    cases owed.symm.trans owed'
    exact ⟨_, rfl, status, rfl, rfl, rfl, rfl, rfl⟩

/-- The refund is being processed, and the process at this place does not hold its claim. -/
structure World.LeftBehind (world : World) (index : Nat) (refund : PaymentRefund) : Prop where
  standing : ∃ kept ∈ world.tables.paymentRefunds, SameObligation refund kept ∧
    kept.status = .processing
  other : ∀ claim, world.HoldsAt index claim → claim.refundId ≠ refund.id

/-- A process records answers for its own claim only. -/
theorem World.reported_own {action : Action} (mine : action.StepOf index)
    (folded : world.reported env action = some (row, result)) :
    ∃ claim, world.HoldsAt index claim ∧ claim.refundId = row.id := by
  cases action with
  | recordAnswer place draws =>
    cases mine
    simp only [World.reported] at folded
    split at folded
    · next settings rest claim recorded standing =>
      split at folded
      · obtain ⟨found, held, same⟩ := Option.map_eq_some_iff.mp folded
        cases same
        exact ⟨claim, ⟨_, standing, rfl⟩, (lookup_col held).symm⟩
      · cases folded
    · cases folded
  | commitRetry | claimNext | callProvider => cases folded
  | _ => cases mine

/-- A process that does not hold the claim of a refund being processed leaves it alone. -/
theorem World.LeftBehind.step {action : Action} (left : world.LeftBehind index refund)
    (reached : Reachable (system env) world) (mine : action.StepOf index) :
    (world.step env action).LeftBehind index refund ∧
      ∃ calls, (world.step env action).provider.calls = world.provider.calls ++ calls ∧
        ∀ call ∈ calls, ¬RefundCall.Of call refund := by
  have coherent := reachable_coherent reached
  obtain ⟨kept, recorded, same, processing⟩ := left.standing
  have apart : ∀ {row claim}, row ∈ world.tables.paymentRefunds → world.HoldsAt index claim →
      claim.refundId = row.id → row.orderId ≠ refund.orderId := by
    intro row claim inside holds own parent
    have sole := unique_eq coherent.refundOrders inside recorded (parent.trans same.orderId.symm)
    subst sole
    exact left.other claim holds (own.trans same.id)
  refine ⟨⟨?_, ?_⟩, ?_⟩
  · obtain ⟨event, caused, moved⟩ := step_cause reached action kept.orderId
    have unreported : ∀ row result, world.reported env action = some (row, result) →
        row.orderId ≠ kept.orderId := by
      intro row result folded parent
      obtain ⟨claim, holds, own⟩ := World.reported_own mine folded
      exact apart (World.reported_mem folded) holds own (parent.trans same.orderId)
    obtain ⟨later, owed, still, obligation⟩ := moved.keeps_processing (coherent.file_refund recorded)
      processing
      (by
        rintro rfl
        obtain ⟨row, message, folded, parent⟩ := caused.explains
        exact unreported row _ folded parent)
      (by
        rintro status rfl
        obtain ⟨row, payload, folded, parent, -⟩ := caused.explains
        exact unreported row _ folded parent)
    exact ⟨later, (file_refund_mem owed).1, same.trans obligation, still⟩
  · intro claim holds own
    rcases World.step_holds env world action holds with before | ⟨settings, refundId, _, _, -, -, granted⟩
    · exact left.other claim before own
    · obtain ⟨row, paymentId, held, dispatchable, -, -, -, rfl, -⟩ := claimRefund_some (Prod.ext rfl granted)
      have sole := unique_eq coherent.refundIds (lookup_mem held) recorded
        ((lookup_col held).trans (own.trans same.id.symm))
      subst sole
      simp [dispatchableRefundStatuses, processing] at dispatchable
  · rcases World.step_provider env world action with quiet |
      ⟨place, settings, rest, claim, accepts, response, call, rfl, standing, called, -, received⟩
    · exact ⟨[], by simp [quiet], List.forall_mem_nil _⟩
    · cases mine
      refine ⟨[call], by rw [received, Provider.receive_calls], ?_⟩
      intro made only of
      rw [List.mem_singleton.mp only] at of
      obtain ⟨row, inside, claims⟩ := (reachable_obliged reached).claims index claim ⟨_, standing, rfl⟩
      have note := (claims.called called).note.symm.trans of.note
      exact apart inside ⟨_, standing, rfl⟩ claims.refundId (uuidText_injective note)

theorem World.LeftBehind.run (steps : List Action) (left : world.LeftBehind index refund)
    (reached : Reachable (system env) world) (own : ∀ action ∈ steps, action.StepOf index) :
    ∃ calls, ((system env).run world steps).provider.calls = world.provider.calls ++ calls ∧
      ∀ call ∈ calls, ¬RefundCall.Of call refund := by
  induction steps generalizing world with
  | nil => exact ⟨[], by simp [System.run], nofun⟩
  | cons action rest ih =>
    obtain ⟨left', calls, made, others⟩ := left.step reached (own action List.mem_cons_self)
    obtain ⟨more, made', others'⟩ := ih left' (reached.step action)
      fun later member => own later (List.mem_cons_of_mem _ member)
    refine ⟨calls ++ more, ?_, fun call member => ?_⟩
    · change ((system env).run (world.step env action) rest).provider.calls = _
      rw [made', made, List.append_assoc]
    · exact (List.mem_append.mp member).elim (others call) (others' call)

/-- A refund that is being processed, and that no process holds, is not sent again by
any tick or retry. -/
theorem World.not_sentAgain (reached : Reachable (system env) world)
    (recorded : refund ∈ world.tables.paymentRefunds) (processing : refund.status = .processing) :
    ¬world.SentAgain env settings limit refund := by
  rintro ⟨first, steps, starts, own, call, called, of⟩
  have started : (world.step env first).tables = world.tables ∧
      (world.step env first).provider = world.provider ∧
      ∀ claim, ¬(world.step env first).HoldsAt world.processes.length claim := by
    have beyond : ∀ claim, ¬world.HoldsAt world.processes.length claim := by
      rintro claim ⟨process, found, -⟩
      simp at found
    have ungranted : ∀ claim, (∀ index now, first ≠ .claimNext index now) →
        ¬(world.step env first).HoldsAt world.processes.length claim := by
      intro claim other holds
      rcases World.step_holds env world first holds with before | ⟨_, _, _, now, same, -⟩
      · exact beyond claim before
      · exact other _ now same
    cases starts with
    | tick => exact ⟨rfl, rfl, fun claim => ungranted claim nofun⟩
    | retry subject refundId =>
      refine ⟨?_, ?_, fun claim => ungranted claim nofun⟩
      · simp only [World.step, World.retryRefund]
        split <;> rfl
      · simp only [World.step, World.retryRefund]
        split <;> rfl
  obtain ⟨tables, provider, unheld⟩ := started
  have left : (world.step env first).LeftBehind world.processes.length refund :=
    ⟨⟨refund, tables ▸ recorded, .refl refund, processing⟩, fun claim holds => absurd holds (unheld claim)⟩
  obtain ⟨calls, made, others⟩ := left.run steps (reached.step first) own
  change call ∈ List.drop _ ((system env).run (world.step env first) steps).provider.calls at called
  rw [made, provider, List.drop_left] at called
  exact others call called of

/-- A dispatcher crashes between its claim and its call. -/
def abandonedRefund : List Action :=
  cancelledPaidOrder ++ [.dispatchDueRefunds sampleSettings 25 none, .claimNext 0 5000, .crash 0]

theorem abandoned_refund_is_stuck :
    Reachable (system sampleEnvironment) (sampleWorld abandonedRefund) ∧
      ∃ refund, (sampleWorld abandonedRefund).Owes refund ∧
        (∃ subject admin, requireCapability (sampleWorld abandonedRefund).tables subject
          .refundWrite = .ok admin) ∧
        ∀ settings limit, ¬(sampleWorld abandonedRefund).SentAgain sampleEnvironment settings limit refund := by
  obtain ⟨refund, recorded, processing, captured⟩ :
      ∃ refund ∈ (sampleWorld abandonedRefund).tables.paymentRefunds, refund.status = .processing ∧
        (configured refund.providerPaymentId).isSome := by
    decide +kernel
  have idle : (∀ process ∈ (sampleWorld abandonedRefund).processes, process.phase.claim? = none) ∧
      (sampleWorld abandonedRefund).provider.executed = [] := by
    decide +kernel
  refine ⟨sampleWorld_reachable _, refund, ⟨recorded, by simp [processing], captured, ?_, ?_⟩, ?_,
    fun settings limit => World.not_sentAgain (sampleWorld_reachable _) recorded processing⟩
  · rintro ⟨index, claim, ⟨process, found, held⟩, -⟩
    simp [idle.1 process (List.mem_of_getElem? found)] at held
  · rintro ⟨call, executed, -⟩
    simp [idle.2] at executed
  · refine ⟨3, ⟨3, .admin, true, true, true⟩, ?_⟩
    decide +kernel

end GaonOne
