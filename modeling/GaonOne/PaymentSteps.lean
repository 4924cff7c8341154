import GaonOne.RequestSteps

/-! The payment side, step by step: intents, captures and failures, provider events,
and the placing of the order they are for. -/
namespace GaonOne
open Relational UnitOfWork

variable {tables : Tables} {before : Tables} {orderId : UUID} {file : OrderFile} {db : DbSession}

/-- Everything a capture reads is as it was last flushed. -/
structure CaptureFlushed (db : DbSession) : Prop where
  attempts : db.flushed.paymentAttempts = db.pending.paymentAttempts
  refunds : db.flushed.paymentRefunds = db.pending.paymentRefunds
  entries : db.flushed.settlementEntries = db.pending.settlementEntries

/-- A written attempt keeps its payment id to itself when it had it to itself. -/
theorem Frame.saveAttempt (frame : Frame before orderId tables file) (new : PaymentAttempt)
    (attempted : attempt ∈ file.attempts)
    (sameId : new.id = attempt.id) (sameOrder : new.orderId = attempt.orderId)
    (sameProvider : new.providerOrderId = attempt.providerOrderId)
    (samePayment : new.providerPaymentId = attempt.providerPaymentId) :
    Frame before orderId (tables.putAttempt new)
      { file with attempts := put PaymentAttempt.id new file.attempts } := by
  refine frame.putAttempt attempted sameId sameOrder sameProvider fun paymentId set other member clash => ?_
  have held := (mem_belonging.mp (frame.attempts_eq ▸ attempted)).1
  rw [uniqueWhenSet_eq frame.coherent.attemptProviderPayments member held clash (samePayment ▸ set),
    sameId]

theorem applyPaid_unused (ran : applyPaid db attempt order paymentId draws = .ok result) :
    paymentIdUnused db.flushed attempt paymentId := by
  rw [applyPaid, require_bind_ok] at ran
  exact ran.1

/-- What a capture makes the attempt carry is the attempt's alone. -/
theorem captured_sole (payments : UniqueWhenSet PaymentAttempt.providerPaymentId tables.paymentAttempts)
    (member : attempt ∈ tables.paymentAttempts) (unused : paymentIdUnused tables attempt paymentId)
    (now : Instant) : ∀ text, (capturedAttempt attempt paymentId now).providerPaymentId = some text →
      ∀ other ∈ tables.paymentAttempts, other.providerPaymentId = some text → other.id = attempt.id := by
  obtain ⟨time, saved⟩ := capturedAttempt_eq attempt paymentId now
  rw [saved]
  intro text set other inside clash
  cases given : configured paymentId with
  | some received =>
    simp only [given, Option.some_or] at set
    cases set
    exact unused text given other inside clash
  | none =>
    simp only [given, Option.none_or] at set
    rw [uniqueWhenSet_eq payments inside member clash set]

theorem Frame.captureAttempt (frame : Frame before orderId tables file) (attempted : attempt ∈ file.attempts)
    (unused : paymentIdUnused tables attempt paymentId) (now : Instant) :
    Frame before orderId (tables.putAttempt (capturedAttempt attempt paymentId now))
      { file with
        attempts := put PaymentAttempt.id (capturedAttempt attempt paymentId now) file.attempts } := by
  have member := (mem_belonging.mp (frame.attempts_eq ▸ attempted)).1
  have sole := captured_sole frame.coherent.attemptProviderPayments member unused now
  obtain ⟨time, saved⟩ := capturedAttempt_eq attempt paymentId now
  rw [saved] at sole ⊢
  exact frame.putAttempt attempted rfl rfl rfl sole

theorem applyPaid_frame (frame : Frame before orderId db.pending file)
    (held : file.order = some order) (attempted : attempt ∈ file.attempts)
    (flushed : CaptureFlushed db)
    (freshRefund : lookup PaymentRefund.id draws.refundId db.pending.paymentRefunds = none)
    (freshEntry : lookup SettlementEntry.id draws.settlementId db.pending.settlementEntries = none)
    (ran : applyPaid db attempt order paymentId draws = .ok result) :
    ∃ next, Frame before orderId result.pending next ∧ FileStep (.captured paymentId) file next := by
  simp only [applyPaid, require_bind_ok] at ran
  obtain ⟨unused, ran⟩ := ran
  have unused : paymentIdUnused db.pending attempt paymentId := by
    rwa [paymentIdUnused, ← flushed.attempts]
  have taken := frame.captureAttempt attempted unused draws.now
  have id_eq : (capturedAttempt attempt paymentId draws.now).id = attempt.id := by
    obtain ⟨time, saved⟩ := capturedAttempt_eq attempt paymentId draws.now
    rw [saved]
  unfold captureOrder at ran
  split at ran
  · next late =>
    split at ran
    · next orphaned =>
      cases ran
      simp only [List.mem_cons, List.not_mem_nil, or_false, not_or] at orphaned
      have paid := taken.putOrder { order with paymentStatus := .paid } held rfl rfl rfl rfl
      obtain ⟨next, last, ensured, -⟩ := ensureRefundRequest_frame
        ((db.write (·.putAttempt (capturedAttempt attempt paymentId draws.now))).write
          (·.putOrder { order with paymentStatus := .paid }))
        { order with paymentStatus := .paid } refundReasonOrphanedCapture draws paid rfl flushed.refunds freshRefund
      rw [latestCapturedAttempt_put (capturedAttempt attempt paymentId draws.now)
        (flushed.attempts ▸ frame.coherent.attemptIds)
        (by exact congrArg (put _ _) flushed.attempts.symm)] at ensured
      simp only [Session.write_flushed, flushed.attempts, frame.attempts_eq, id_eq] at ensured
      exact ⟨next, last, .capturedAfterCancellation held attempted orphaned.1 orphaned.2 draws.now
        ensured⟩
    · next ignored =>
      cases ran
      refine ⟨_, taken, .capturedLate held attempted ?_ draws.now⟩
      simp only [captureIsLate, List.mem_cons, List.not_mem_nil, or_false] at late ignored
      tauto
  · next onTime =>
    rw [bind_ok] at ran
    obtain ⟨⟨entered, entry⟩, entering, ran⟩ := ran
    cases ran
    have paid := taken.putOrder { order with paymentStatus := .paid } held rfl rfl rfl rfl
    obtain ⟨next, last, ensured⟩ := ensureSettlementEntry_frame (by exact paid) rfl
      (by exact flushed.entries) (by exact flushed.refunds) (by exact freshEntry) entering
    exact ⟨next, last, .captured held attempted onTime draws.now ensured⟩

/-- A failure either comes too late to count or marks attempt and order. -/
theorem applyFailed_frame (db : DbSession) (draws : Draws) (frame : Frame before orderId db.pending file)
    (held : file.order = some order) (attempted : attempt ∈ file.attempts) :
    ∃ next event, Frame before orderId (applyFailed db attempt order draws).pending next ∧
      (event = .unchanged ∨ event = .paymentFailed) ∧ FileStep event file next := by
  unfold applyFailed
  split
  · exact ⟨file, .unchanged, frame, Or.inl rfl, .unchanged⟩
  · next counts =>
    obtain ⟨time, saved⟩ := savedAttempt_eq attempt { attempt with status := .failed } draws.now
    have marked := (frame.saveAttempt (savedAttempt attempt { attempt with status := .failed } draws.now)
      attempted (by rw [saved]) (by rw [saved]) (by rw [saved]) (by rw [saved])).putOrder
        { order with paymentStatus := .failed } held rfl rfl rfl rfl
    refine ⟨_, .paymentFailed, marked, Or.inr rfl, .paymentFailed held attempted ?_ ?_ draws.now⟩
    · exact fun cancelled => counts (Or.inl cancelled)
    · simp only [List.mem_cons, List.not_mem_nil, or_false, not_or] at counts
      cases status : order.paymentStatus <;> simp_all

/-! ## Requests -/

theorem lockPaymentContext_some
    (locked : (lockPaymentContext tables identity userId).1 = some (attempt, order)) :
    identity = some attempt ∧ tables.order? attempt.orderId = some order := by
  cases identity with
  | none => cases locked
  | some held =>
    simp only [lockPaymentContext, Option.map_eq_some_iff, Option.filter_eq_some_iff,
      Prod.mk.injEq] at locked
    obtain ⟨found, ⟨placed, -⟩, rfl, rfl⟩ := locked
    exact ⟨rfl, placed⟩

theorem readVerification_ok
    (ran : readVerification tables subject payload = .ok (attempt, order, providerOrderId)) :
    attempt ∈ tables.paymentAttempts ∧ tables.order? attempt.orderId = some order := by
  simp only [readVerification, getCurrentUser_bind_ok, require_bind_ok, found_bind_ok, pure_ok,
    Prod.mk.injEq] at ran
  obtain ⟨user, -, -, -, ⟨held, placed⟩, context, _, -, rfl, rfl, -⟩ := ran
  obtain ⟨identity, found⟩ := lockPaymentContext_some context
  exact ⟨lookup_mem identity, found⟩

/-- The order that is captured is the attempt's own. -/
theorem attempt_file (held : attempt ∈ tables.paymentAttempts)
    (placed : tables.order? attempt.orderId = some order) :
    (tables.file attempt.orderId).order = some order ∧
      attempt ∈ (tables.file attempt.orderId).attempts ∧ order.id = attempt.orderId :=
  ⟨placed, Tables.file_attempt held, lookup_col placed⟩

section
variable (coherent : tables.Coherent)
include coherent

theorem createPaymentIntent_moves
    (ran : createPaymentIntent env settings (Session.start tables) subject orderId response draws =
      .ok result) (constraints : result.pending.Constraints) :
    Moves (Takes .intended) tables result.pending := by
  simp only [createPaymentIntent, getCurrentUser_bind_ok, found_bind_ok, require_bind_ok,
    Option.filter_eq_some_iff] at ran
  obtain ⟨user, -, order, ⟨held, -⟩, online, unpaid, live, ran⟩ := ran
  have own : order.id = orderId := lookup_col held
  subst own
  split at ran
  · next existing found =>
    simp only [require_bind_ok, pure_ok] at ran
    obtain ⟨-, rfl⟩ := ran
    have candidate := List.mem_filter.mp (latest_mem (Option.filter_eq_some_iff.mp found).1)
    obtain ⟨parent, status, -⟩ := of_decide_eq_true candidate.2
    have attempted : existing ∈ (tables.file order.id).attempts := parent ▸ Tables.file_attempt candidate.1
    obtain ⟨time, saved⟩ := savedAttempt_eq existing { existing with status := .attempted } draws.now
    refine ⟨_, _, .intended, (Frame.refl coherent order.id).saveAttempt _ attempted
      (by rw [saved]) (by rw [saved]) (by rw [saved]) (by rw [saved]), rfl,
      .resumed held online unpaid live attempted ?_ draws.now⟩
    simpa using status
  · split at ran
    · cases ran
    · cases ran
      exact ⟨_, _, .intended, (Frame.refl coherent order.id).addAttempt rfl constraints, rfl,
        .intended held online unpaid live _ draws⟩

theorem hardenedVerifyPayment_moves (fresh : draws.Fresh tables)
    (ran : hardenedVerifyPayment env settings (Session.start tables) subject payload draws =
      .ok (result, raised)) :
    Moves (fun orderId event => event = .unchanged ∨ event = .settlementChecked ∨
      event = .paymentFailed ∨
      (event = .captured (some payload.razorpayPaymentId) ∧ ∃ attempt order,
        verifiedCapture env settings tables subject payload = some (attempt, order) ∧
          order.id = orderId)) tables result.pending := by
  rw [hardenedVerifyPayment, bind_ok] at ran
  obtain ⟨⟨attempt, order, providerOrderId⟩, read, ran⟩ := ran
  obtain ⟨member, placed⟩ := readVerification_ok read
  obtain ⟨held, attempted, own⟩ := attempt_file member placed
  have start := Frame.refl coherent attempt.orderId
  dsimp only at ran
  split at ran
  · split at ran
    · cases ran
      exact Moves.unchanged coherent fun _ => Or.inl rfl
    · next onTime =>
      rw [bind_ok] at ran
      obtain ⟨⟨entered, entry⟩, entering, ran⟩ := ran
      cases ran
      obtain ⟨next, last, ensured⟩ := ensureSettlementEntry_frame (by exact start) held
        rfl rfl fresh.settlement entering
      exact ⟨_, next, .settlementChecked, last, Or.inr (Or.inl rfl),
        .settlementChecked held onTime ensured⟩
  · next unverified =>
    rw [bind_ok] at ran
    obtain ⟨valid, verified, ran⟩ := ran
    cases valid with
    | true =>
      rw [if_pos rfl, bind_ok] at ran
      obtain ⟨captured, capturing, ran⟩ := ran
      cases ran
      obtain ⟨next, last, step⟩ := applyPaid_frame (by exact start) held attempted
        ⟨rfl, rfl, rfl⟩ fresh.refund fresh.settlement capturing
      refine ⟨_, next, _, last, Or.inr (Or.inr (Or.inr ⟨rfl, attempt, order, ?_, own⟩)), step⟩
      have unused : paymentIdUnused tables attempt (some payload.razorpayPaymentId) :=
        applyPaid_unused capturing
      simp [verifiedCapture, read, unverified, verified, unused]
    | false =>
      cases ran
      obtain ⟨next, event, last, counted, step⟩ := applyFailed_frame
        (Session.start tables) draws start held attempted
      exact ⟨_, next, event, last, by tauto, step⟩

/-! ## Provider events -/

omit coherent in
theorem matchedRefund_mem (found : matchedRefund tables refundId paymentId = some refund) :
    refund ∈ tables.paymentRefunds := by
  simp only [matchedRefund, Option.or_eq_some_iff, Option.bind_eq_some_iff] at found
  rcases found with ⟨id, -, byId⟩ | ⟨-, id, -, byPayment⟩
  · exact lookup_mem byId
  · exact (mem_belonging.mp (latest_mem byPayment)).1

/-- The row that is matched is the only one that may carry the event's refund id. -/
theorem matchedRefund_unused (found : matchedRefund tables refundId paymentId = some refund) :
    ProviderRefundUnused tables (reportedRefund refund refundId status) := by
  have member := matchedRefund_mem found
  have keeps := ProviderRefundUnused.of_mem coherent member
  intro id set other inside clash
  unfold reportedRefund at set ⊢
  dsimp only at set ⊢
  split at set
  · exact keeps id set other inside clash
  · next unset =>
    cases received : refundId with
    | none =>
      rw [received, Option.none_or] at set
      exact keeps id set other inside clash
    | some sent =>
      rw [received, Option.some_or] at set
      cases set
      simp only [matchedRefund, received, Option.bind_some, Option.or_eq_some_iff] at found
      rcases found with byId | ⟨missing, -⟩
      · exact keeps id (lookup_col byId) other inside clash
      · exact absurd clash (lookup_eq_none_iff.mp missing other inside)

omit coherent in
theorem readRefundEvent_ok (ran : readRefundEvent env tables payload = .ok (some (refund, entity))) :
    matchedRefund tables ((Json.get entity "id").text env.print)
      ((Json.get entity "payment_id").text env.print) = some refund := by
  rw [readRefundEvent, bind_ok] at ran
  obtain ⟨object, -, ran⟩ := ran
  simp only [pure_ok, Option.map_eq_some_iff, Prod.mk.injEq] at ran
  obtain ⟨row, found, rfl, rfl⟩ := ran
  exact found

omit coherent in
theorem readPaymentEvent_ok
    (ran : readPaymentEvent env tables payload = .ok (some (attempt, order, paymentId))) :
    attempt ∈ tables.paymentAttempts ∧ tables.order? attempt.orderId = some order := by
  rw [readPaymentEvent, bind_ok] at ran
  obtain ⟨payment, -, ran⟩ := ran
  rw [bind_ok] at ran
  obtain ⟨entity, -, ran⟩ := ran
  simp only [pure_ok, Option.bind_eq_some_iff, Option.map_eq_some_iff, Prod.mk.injEq] at ran
  obtain ⟨_, -, ⟨held, placed⟩, context, rfl, rfl, -⟩ := ran
  obtain ⟨identity, found⟩ := lockPaymentContext_some context
  exact ⟨lookup_mem identity, found⟩

/-- What a provider event does to a file: nothing, a failure that counts, the capture
it names, or the refund it reports. -/
def EventEffect (env : Environment) (tables : Tables) (payload : List (String × Json))
    (orderId : UUID) (event : FileEvent) : Prop :=
  event = .unchanged ∨ event = .paymentFailed ∨
    (∃ attempt order paymentId, isRefundEvent (eventName env payload) = false ∧
      eventName env payload ∈ capturedEvents ∧
      readPaymentEvent env tables payload = .ok (some (attempt, order, paymentId)) ∧
      paymentIdUnused tables attempt paymentId ∧ order.id = orderId ∧
      event = .captured paymentId) ∨
    ∃ refund entity, isRefundEvent (eventName env payload) = true ∧
      readRefundEvent env tables payload = .ok (some (refund, entity)) ∧
      refund.orderId = orderId ∧
      event = .refundReported ((Json.get entity "status").text env.print)

/-- The row an event is matched to takes what the event reports. -/
theorem foldRefundEvent_frame
    (reading : readRefundEvent env tables payload = .ok (some (refund, entity)))
    (fresh : lookup SettlementAdjustment.id draws.adjustmentId tables.settlementAdjustments = none) :
    ∃ next, Frame tables refund.orderId
        (applyProviderRefundResult env ⟨committed, tables, tables⟩ refund entity draws).pending next ∧
      FileStep (.refundReported ((Json.get entity "status").text env.print))
        (tables.file refund.orderId) next := by
  have matched := readRefundEvent_ok reading
  obtain ⟨order, placed, own⟩ := coherent.refundParents refund (matchedRefund_mem matched)
  have held : (tables.file refund.orderId).order = some order :=
    (lookup_eq_some_iff coherent.orderIds).mpr ⟨placed, own⟩
  exact applyProviderRefundResult_frame env ⟨committed, tables, tables⟩ entity draws
    (Frame.refl coherent refund.orderId) (coherent.file_refund (matchedRefund_mem matched)) held
    ⟨rfl, rfl, rfl⟩ (matchedRefund_unused coherent matched) fresh

theorem processRefundEvent_frame (refunding : isRefundEvent (eventName env payload) = true)
    (fresh : lookup SettlementAdjustment.id draws.adjustmentId tables.settlementAdjustments = none)
    (ran : processRefundEvent env ⟨committed, tables, tables⟩ payload draws = .ok (result, matched)) :
    ∃ orderId next event, Frame tables orderId result.pending next ∧
      EventEffect env tables payload orderId event ∧ FileStep event (tables.file orderId) next := by
  rw [processRefundEvent, bind_ok] at ran
  obtain ⟨read, reading, ran⟩ := ran
  cases read with
  | none =>
    simp only [pure_ok, Prod.mk.injEq] at ran
    obtain ⟨rfl, -⟩ := ran
    exact ⟨0, _, .unchanged, Frame.refl coherent 0, Or.inl rfl, .unchanged⟩
  | some found =>
    obtain ⟨refund, entity⟩ := found
    simp only [pure_ok, Prod.mk.injEq] at ran
    obtain ⟨rfl, -⟩ := ran
    obtain ⟨next, last, step⟩ := foldRefundEvent_frame coherent reading fresh
    exact ⟨_, next, _, last,
      Or.inr (Or.inr (Or.inr ⟨refund, entity, refunding, reading, rfl, rfl⟩)), step⟩

theorem processPaymentEvent_frame (paying : isRefundEvent (eventName env payload) = false)
    (freshRefund : lookup PaymentRefund.id draws.refundId tables.paymentRefunds = none)
    (freshEntry : lookup SettlementEntry.id draws.settlementId tables.settlementEntries = none)
    (ran : processPaymentEvent env ⟨committed, tables, tables⟩ (eventName env payload) payload draws =
      .ok result) :
    ∃ orderId next event, Frame tables orderId result.pending next ∧
      EventEffect env tables payload orderId event ∧ FileStep event (tables.file orderId) next := by
  rw [processPaymentEvent, bind_ok] at ran
  obtain ⟨read, reading, ran⟩ := ran
  cases read with
  | none =>
    simp only [pure_ok] at ran
    subst ran
    exact ⟨0, _, .unchanged, Frame.refl coherent 0, Or.inl rfl, .unchanged⟩
  | some found =>
    obtain ⟨attempt, order, paymentId⟩ := found
    obtain ⟨member, placed⟩ := readPaymentEvent_ok reading
    obtain ⟨held, attempted, own⟩ := attempt_file member placed
    have start := Frame.refl coherent attempt.orderId
    dsimp only at ran
    split at ran
    · next capturing =>
      obtain ⟨next, last, step⟩ := applyPaid_frame (by exact start) held attempted
        ⟨rfl, rfl, rfl⟩ freshRefund freshEntry ran
      exact ⟨_, next, _, last, Or.inr (Or.inr (Or.inl
        ⟨attempt, order, paymentId, paying, capturing, reading, applyPaid_unused ran, own, rfl⟩)), step⟩
    · split at ran
      · simp only [pure_ok] at ran
        subst ran
        obtain ⟨next, event, last, counted, step⟩ := applyFailed_frame
          ⟨committed, tables, tables⟩ draws start held attempted
        refine ⟨_, next, event, last, ?_, step⟩
        rcases counted with rfl | rfl
        · exact Or.inl rfl
        · exact Or.inr (Or.inl rfl)
      · simp only [pure_ok] at ran
        subst ran
        exact ⟨_, _, .unchanged, start, Or.inl rfl, .unchanged⟩

omit coherent in
/-- The delivery that was recorded first is marked as processed; no file shows it. -/
theorem Frame.eventProcessed {event : PaymentWebhookEvent}
    (frame : Frame (tables.addWebhookEvent event) orderId after next)
    (fresh : lookup PaymentWebhookEvent.id event.id tables.paymentWebhookEvents = none)
    (processedAt : Option Instant) :
    Frame tables orderId (after.putWebhookEvent { event with processedAt }) next := by
  have row : event ∈ after.paymentWebhookEvents :=
    frame.events (List.mem_append_right _ List.mem_cons_self)
  refine ⟨frame.coherent.putWebhookEvent { event with processedAt } row rfl rfl, frame.here,
    frame.elsewhere, fun old member => ?_⟩
  exact mem_put.mpr (Or.inr ⟨frame.events (List.mem_append_left _ member),
    lookup_eq_none_iff.mp fresh old member⟩)

theorem hardenedRazorpayWebhook_moves (fresh : draws.Fresh tables)
    (ran : hardenedRazorpayWebhook env settings (Session.start tables) request draws = .ok result) :
    Moves (fun orderId event => event = .unchanged ∨ event = .paymentFailed ∨
      (∃ attempt order paymentId,
        captureSignal env settings tables request = some (attempt, order, paymentId) ∧
          order.id = orderId ∧ event = .captured paymentId) ∨
      ∃ refund entity, refundSignal env settings tables request = some (refund, entity) ∧
        refund.orderId = orderId ∧
          event = .refundReported ((Json.get entity "status").text env.print))
      tables result.pending := by
  rw [hardenedRazorpayWebhook, bind_ok] at ran
  obtain ⟨payload, signed, ran⟩ := ran
  dsimp only at ran
  split at ran
  · simp only [pure_ok] at ran
    subst ran
    exact Moves.unchanged coherent fun _ => Or.inl rfl
  · next unseen =>
    have recorded := coherent.addWebhookEvent (webhookEvent env request payload draws)
      fresh.webhookEvent unseen
    have signal : newEvent env settings tables request = some payload := by
      simp [newEvent, signed, unseen]
    rw [flushOrRollback_coherent ((Session.start tables).write
      (·.addWebhookEvent (webhookEvent env request payload draws))) recorded] at ran
    rw [bind_ok] at ran
    obtain ⟨processed, processing, ran⟩ := ran
    simp only [pure_ok] at ran
    subst ran
    -- the delivery is recorded before the event is processed, and no file shows it
    obtain ⟨orderId, next, event, frame, effect, step⟩ : ∃ orderId next event,
        Frame (tables.addWebhookEvent (webhookEvent env request payload draws)) orderId
          processed.pending next ∧ EventEffect env tables payload orderId event ∧
          FileStep event (tables.file orderId) next := by
      unfold processEvent at processing
      split at processing
      · next refunding =>
        rw [bind_ok] at processing
        obtain ⟨⟨db, matched⟩, folding, same⟩ := processing
        simp only [pure_ok] at same
        subst same
        exact processRefundEvent_frame recorded refunding fresh.adjustment folding
      · next paying =>
        exact processPaymentEvent_frame recorded (by simpa using paying) fresh.refund
          fresh.settlement processing
    refine ⟨orderId, next, event, frame.eventProcessed fresh.webhookEvent _, ?_, step⟩
    rcases effect with same | failed |
      ⟨attempt, order, paymentId, paying, capturing, reading, unused, own, captured⟩ |
      ⟨refund, entity, refunding, reading, own, reported⟩
    · exact Or.inl same
    · exact Or.inr (Or.inl failed)
    · refine Or.inr (Or.inr (Or.inl ⟨attempt, order, paymentId, ?_, own, captured⟩))
      simp [captureSignal, signal, paying, capturing, reading, Except.toOption]
      exact unused
    · refine Or.inr (Or.inr (Or.inr ⟨refund, entity, ?_, own, reported⟩))
      simp [refundSignal, signal, refunding, reading, Except.toOption]

/-! ## Checkout -/

omit coherent in
theorem recordItems_tables (ran : recordItems order itemId validated db = .ok result) :
    ∃ orderItems catalogue, result.pending = { db.pending with orderItems, catalogue } := by
  induction validated generalizing db with
  | nil =>
    simp only [recordItems, pure_ok] at ran
    subst ran
    exact ⟨_, _, rfl⟩
  | cons pair validated ih =>
    simp only [recordItems, found_bind_ok] at ran
    obtain ⟨product, -, ran⟩ := ran
    obtain ⟨orderItems, catalogue, same⟩ := ih ran
    exact ⟨orderItems, catalogue, same⟩

/-- The tables with a new order and its delivery. -/
def placedTables (tables : Tables) (order : Order) (delivery : Delivery)
    (orderItems : List OrderItem) (catalogue : Catalogue) : Tables :=
  { tables with
    catalogue, orderItems
    orders := tables.orders ++ [order]
    deliveries := tables.deliveries ++ [delivery] }

omit coherent in
theorem placeOrder_tables
    (ran : placeOrder env settings (Session.start tables) user payload address key number draws =
      .ok (result, order)) :
    (∃ orderItems catalogue, result.pending =
        placedTables tables order (newDelivery order.id draws) orderItems catalogue) ∧
      order.id = draws.orderId ∧ order.status = .placed ∧ order.paymentStatus = .pending ∧
      order.total = order.subtotal + order.deliveryFee := by
  simp only [placeOrder, found_bind_ok, require_bind_ok] at ran
  obtain ⟨cart, -, storeId, -, -, store, -, merchant, -, -, -, -, serviceAreaId, -, place, -, -, -,
    ran⟩ := ran
  rw [bind_ok] at ran
  obtain ⟨⟨subtotal, validated⟩, -, ran⟩ := ran
  simp only [require_bind_ok, flushRows_bind_ok] at ran
  obtain ⟨-, -, ran⟩ := ran
  rw [bind_ok] at ran
  obtain ⟨recorded, recording, ran⟩ := ran
  simp only [pure_ok, Prod.mk.injEq] at ran
  obtain ⟨rfl, rfl⟩ := ran
  obtain ⟨orderItems, catalogue, same⟩ := recordItems_tables recording
  refine ⟨⟨orderItems, (emptyCart cart recorded.pending).catalogue, ?_⟩, rfl, rfl, rfl,
    orderTotal_eq _ _⟩
  simp only [Session.execute_pending, Session.write_pending, same]
  rfl

/-- A new order's file is empty but for the order and its delivery. -/
theorem placedTables_frame (freshOrder : lookup Order.id order.id tables.orders = none)
    (freshDelivery : lookup Delivery.id delivery.id tables.deliveries = none)
    (own : delivery.orderId = order.id)
    (constraints : (placedTables tables order delivery orderItems catalogue).Constraints) :
    Frame tables order.id (placedTables tables order delivery orderItems catalogue)
        { tables.file order.id with order := some order, delivery := some delivery } ∧
      (tables.file order.id).order = none ∧ (tables.file order.id).delivery = none := by
  have undelivered : lookup Delivery.orderId order.id tables.deliveries = none := by
    rw [lookup_eq_none_iff]
    intro row member same
    obtain ⟨parent, placed, parented⟩ := coherent.deliveryParents row member
    exact lookup_eq_none_iff.mp freshOrder parent placed (parented.trans same)
  have unproved : lookup DeliveryProof.deliveryId delivery.id tables.deliveryProofs = none := by
    rw [lookup_eq_none_iff]
    intro row member same
    obtain ⟨parent, carried, parented⟩ := coherent.proofParents row member
    exact lookup_eq_none_iff.mp freshDelivery parent carried (parented.trans same)
  have uncollected : lookup CodCollection.deliveryId delivery.id tables.codCollections = none := by
    rw [lookup_eq_none_iff]
    intro row member same
    obtain ⟨parent, carried, parented, -⟩ := coherent.collectionOwners row member
    exact lookup_eq_none_iff.mp freshDelivery parent carried (parented.trans same)
  refine ⟨⟨?_, ?_, ?_, List.Subset.refl _⟩, freshOrder, undelivered⟩
  · refine { constraints with
      refundKeysOf := coherent.refundKeysOf
      adjustmentEntries := coherent.adjustmentEntries
      collectionOwners := fun collection member => ?_ }
    obtain ⟨owner, inside, owns⟩ := coherent.collectionOwners collection member
    exact ⟨owner, List.mem_append_left _ inside, owns⟩
  · simp [Tables.file, placedTables, lookup_append, freshOrder, undelivered, own, unproved,
      uncollected]
  · intro other differ
    simp [Tables.file, placedTables, lookup_append, own, differ.symm]

theorem safeCheckout_moves (fresh : draws.Fresh tables)
    (ran : safeCheckout env settings (Session.start tables) subject payload idempotencyKey number
      draws = .ok (result, order)) (constraints : result.pending.Constraints) :
    Moves (fun _ event => event = .unchanged ∨ event = .placed) tables result.pending := by
  simp only [safeCheckout, getCurrentUser_bind_ok, require_bind_ok] at ran
  obtain ⟨user, -, -, ran⟩ := ran
  split at ran
  · simp only [pure_ok, Prod.mk.injEq] at ran
    obtain ⟨rfl, -⟩ := ran
    exact Moves.unchanged coherent fun _ => Or.inl rfl
  · rw [found_bind_ok] at ran
    obtain ⟨address, -, ran⟩ := ran
    obtain ⟨⟨orderItems, catalogue, same⟩, drawn, placed, pending, balanced⟩ := placeOrder_tables ran
    rw [same] at constraints ⊢
    obtain ⟨frame, absent, undelivered⟩ := placedTables_frame coherent (drawn ▸ fresh.order)
      fresh.delivery rfl constraints
    exact ⟨_, _, .placed, frame, Or.inr rfl, .placed order _ absent undelivered placed pending balanced
      rfl rfl rfl rfl⟩

end
end GaonOne
