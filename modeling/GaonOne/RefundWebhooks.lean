import GaonOne.RefundFinality

/-! Which refund a provider event closes. An event is matched to a row by the
provider's refund id, and failing that by the payment alone; the amount is never
looked at. So an event closes another refund's obligation exactly when the row it is
matched to is open and the event is about something else. -/
namespace GaonOne
open Relational UnitOfWork Transitions System

variable {env : Environment} {world later : World} {tables : Tables} {file next : OrderFile}

/-! ## What an event is about -/

/-- The amount of a provider object, in subunits. -/
def entityAmount (entity : List (String × Json)) : Option ℚ :=
  match Json.get entity "amount" with
  | .num value _ => some value
  | _ => none

/-- The provider's refund object is that of this row. -/
structure PaymentRefund.NamedBy (env : Environment) (refund : PaymentRefund)
    (entity : List (String × Json)) : Prop where
  refundId : configured refund.providerRefundId = none ∨
    (Json.get entity "id").text env.print = refund.providerRefundId
  paymentId : (Json.get entity "payment_id").text env.print = refund.providerPaymentId
  amount : entityAmount entity = some (amountToSubunits (Decimal.ofCents refund.amount) : ℚ)

/-- The refund object of a signed delivery. -/
def refundEntity (env : Environment) (settings : Settings) (request : WebhookRequest) :
    Option (List (String × Json)) :=
  (readWebhook env settings request).toOption.bind fun payload =>
    (eventEntity payload "refund").toOption

/-- What a refund row's order owed is closed: the row is confirmed, the order refunded,
or the settlement voided. -/
inductive World.Closes (world later : World) (refund : PaymentRefund) : Prop where
  | confirmed (open_ : refund.status ≠ .succeeded) (after : closed ∈ later.tables.paymentRefunds)
      (same : closed.id = refund.id) (status : closed.status = .succeeded)
  | refunded (held : order ∈ world.tables.orders) (own : order.id = refund.orderId)
      (open_ : order.paymentStatus ≠ .refunded) (after : closed ∈ later.tables.orders)
      (same : closed.id = order.id) (status : closed.paymentStatus = .refunded)
  | voided (held : entry ∈ world.tables.settlementEntries) (own : entry.orderId = refund.orderId)
      (open_ : entry.status ≠ .voided) (after : closed ∈ later.tables.settlementEntries)
      (same : closed.orderId = entry.orderId) (status : closed.status = .voided)

/-- A delivery closes only the refunds that its refund object names. -/
def World.ClosesOnlyNamed (env : Environment) (world : World) (settings : Settings)
    (request : WebhookRequest) (draws : Draws) : Prop :=
  ∀ refund ∈ world.tables.paymentRefunds,
    world.Closes (world.step env (.request settings (.webhook request) draws)) refund →
    ∃ entity, refundEntity env settings request = some entity ∧ refund.NamedBy env entity

/-- The row that a processed event is matched to is confirmed already, or it was matched
by its refund id and payment and amount are its own, or it was matched by its payment,
has no refund id yet, and the amount is its own. -/
def World.matchesOwn (env : Environment) (world : World) (settings : Settings)
    (request : WebhookRequest) (draws : Draws) : Prop :=
  ∀ refund entity, world.reported env (.request settings (.webhook request) draws) =
      some (refund, .ok entity) →
    (Json.get entity "status").text env.print = some "processed" →
    refund.status = .succeeded ∨
      entityAmount entity = some (amountToSubunits (Decimal.ofCents refund.amount) : ℚ) ∧
        if (Json.get entity "id").text env.print = refund.providerRefundId then
          (Json.get entity "payment_id").text env.print = refund.providerPaymentId
        else configured refund.providerRefundId = none

/-! ## Matching -/

theorem matchedRefund_key (found : matchedRefund tables refundId paymentId = some refund) :
    refund.providerRefundId = refundId ∨ refund.providerPaymentId = paymentId := by
  simp only [matchedRefund, Option.or_eq_some_iff, Option.bind_eq_some_iff] at found
  rcases found with ⟨id, sent, byId⟩ | ⟨-, id, sent, byPayment⟩
  · exact Or.inl ((lookup_col byId).trans sent.symm)
  · exact Or.inr ((mem_belonging.mp (latest_mem byPayment)).2.trans sent.symm)

/-- How a row was matched tells which of its identifiers are still to be compared. -/
theorem namedBy_iff {refund : PaymentRefund}
    (found : matchedRefund tables ((Json.get entity "id").text env.print)
      ((Json.get entity "payment_id").text env.print) = some refund) :
    refund.NamedBy env entity ↔
      entityAmount entity = some (amountToSubunits (Decimal.ofCents refund.amount) : ℚ) ∧
        if (Json.get entity "id").text env.print = refund.providerRefundId then
          (Json.get entity "payment_id").text env.print = refund.providerPaymentId
        else configured refund.providerRefundId = none := by
  split
  · next byId => exact ⟨fun named => ⟨named.amount, named.paymentId⟩,
      fun ⟨amount, payment⟩ => ⟨Or.inr byId, payment, amount⟩⟩
  · next other =>
    have payment := (matchedRefund_key found).resolve_left fun same => other same.symm
    exact ⟨fun named => ⟨named.amount, named.refundId.resolve_right other⟩,
      fun ⟨amount, unset⟩ => ⟨Or.inl unset, payment.symm, amount⟩⟩

/-- A row that will take an event's report is the one the event's object is matched to. -/
theorem refundSignal_some
    (signal : refundSignal env settings tables request = some (refund, entity)) :
    refundEntity env settings request = some entity ∧
      matchedRefund tables ((Json.get entity "id").text env.print)
        ((Json.get entity "payment_id").text env.print) = some refund ∧
      ∃ payload, readWebhook env settings request = .ok payload ∧
        lookup PaymentWebhookEvent.eventKey (webhookEventKey env request)
          tables.paymentWebhookEvents = none ∧
        isRefundEvent (eventName env payload) = true ∧
        readRefundEvent env tables payload = .ok (some (refund, entity)) := by
  simp only [refundSignal, Option.bind_eq_some_iff] at signal
  obtain ⟨payload, delivered, signal⟩ := signal
  split at signal
  · next refunding =>
    cases reading : readRefundEvent env tables payload with
    | error raised => simp [reading, Except.toOption] at signal
    | ok found =>
      simp only [reading, Except.toOption, Option.join_some] at signal
      subst signal
      unfold newEvent at delivered
      split at delivered
      · next signed =>
        split at delivered
        · next unseen =>
          cases delivered
          refine ⟨?_, readRefundEvent_ok reading, payload, signed, unseen, refunding, reading⟩
          rw [readRefundEvent, bind_ok] at reading
          obtain ⟨object, named, matched⟩ := reading
          simp only [pure_ok, Option.map_eq_some_iff, Prod.mk.injEq] at matched
          obtain ⟨_, -, -, rfl⟩ := matched
          simp [refundEntity, signed, named, Except.toOption]
        · cases delivered
      · cases delivered
  · cases signal

/-! ## What a delivery does -/

section
variable (coherent : tables.Coherent)
include coherent

/-- The event a delivery carries is folded into the row it is matched to. -/
theorem hardenedRazorpayWebhook_folds (fresh : draws.Fresh tables)
    (signal : refundSignal env settings tables request = some (refund, entity)) :
    ∃ result next,
      hardenedRazorpayWebhook env settings (Session.start tables) request draws = .ok result ∧
      Frame tables refund.orderId result.pending next ∧
      FileStep (.refundReported ((Json.get entity "status").text env.print))
        (tables.file refund.orderId) next := by
  obtain ⟨-, -, payload, signed, unseen, refunding, reading⟩ := refundSignal_some signal
  have recorded := coherent.addWebhookEvent (webhookEvent env request payload draws)
    fresh.webhookEvent unseen
  obtain ⟨next, frame, step⟩ := foldRefundEvent_frame recorded reading fresh.adjustment
  let folded := applyProviderRefundResult env
    ⟨tables, tables.addWebhookEvent (webhookEvent env request payload draws),
      tables.addWebhookEvent (webhookEvent env request payload draws)⟩ refund entity draws
  refine ⟨folded.write (·.putWebhookEvent
      { webhookEvent env request payload draws with processedAt := some draws.now }), next, ?_,
    frame.eventProcessed fresh.webhookEvent (some draws.now), step⟩
  have again : readRefundEvent env (tables.addWebhookEvent (webhookEvent env request payload draws))
      payload = .ok (some (refund, entity)) := reading
  have found : lookup PaymentWebhookEvent.eventKey (webhookEventKey env request)
      (Session.start tables).flushed.paymentWebhookEvents = none := unseen
  rw [hardenedRazorpayWebhook, bind_ok]
  refine ⟨payload, signed, ?_⟩
  simp only [found]
  rw [flushOrRollback_coherent ((Session.start tables).write
      (·.addWebhookEvent (webhookEvent env request payload draws))) recorded, bind_ok]
  refine ⟨folded, ?_, rfl⟩
  rw [processEvent, if_pos refunding, bind_ok]
  refine ⟨(folded, true), ?_, rfl⟩
  rw [processRefundEvent, bind_ok]
  exact ⟨some (refund, entity), again, rfl⟩

end

/-- A delivery moves one file: not at all, by a payment event, or by the report it
folds in. -/
theorem World.webhook_moves (env : Environment) (coherent : world.tables.Coherent) (settings : Settings)
    (request : WebhookRequest) (draws : Draws) :
    Moves (fun orderId event => event = .unchanged ∨ event = .paymentFailed ∨
        (∃ paymentId, event = .captured paymentId) ∨
        ∃ refund entity, world.reported env (.request settings (.webhook request) draws) =
            some (refund, .ok entity) ∧ refund.orderId = orderId ∧
          event = .refundReported ((Json.get entity "status").text env.print))
      world.tables (world.request env settings (.webhook request) draws).tables := by
  unfold World.request
  split
  case isFalse => exact Moves.unchanged coherent fun _ => Or.inl rfl
  case isTrue fresh =>
  split
  case h_2 => exact Moves.unchanged coherent fun _ => Or.inl rfl
  case h_1 result ran =>
  refine World.commit_moves coherent (fun _ => Or.inl rfl) fun _ => ?_
  refine (hardenedRazorpayWebhook_moves coherent fresh ran).mono fun orderId event taken => ?_
  rcases taken with rfl | rfl | ⟨_, _, paymentId, -, -, rfl⟩ | ⟨refund, entity, signal, own, rfl⟩
  · exact Or.inl rfl
  · exact Or.inr (Or.inl rfl)
  · exact Or.inr (Or.inr (Or.inl ⟨paymentId, rfl⟩))
  · exact Or.inr (Or.inr (Or.inr ⟨refund, entity, by simp [World.reported, fresh, signal], own, rfl⟩))

/-- A report that is folded in reaches the row's file. -/
theorem World.webhook_folds {request : WebhookRequest} (coherent : world.tables.Coherent)
    (folding : world.reported env (.request settings (.webhook request) draws) =
      some (refund, .ok entity)) :
    FileStep (.refundReported ((Json.get entity "status").text env.print))
      (world.tables.file refund.orderId)
      ((world.step env (.request settings (.webhook request) draws)).tables.file refund.orderId) := by
  simp only [World.reported] at folding
  split at folding
  · next fresh =>
    simp only [Option.map_eq_some_iff, Prod.mk.injEq] at folding
    obtain ⟨⟨_, _⟩, signal, rfl, same⟩ := folding
    cases same
    obtain ⟨result, next, ran, frame, step⟩ := hardenedRazorpayWebhook_folds coherent fresh signal
    have committed : (world.step env (.request settings (.webhook request) draws)).tables =
        result.pending := by
      simp only [World.step, World.request, if_pos fresh, Request.handle, ran, World.commit,
        World.tables, Database.commit, dif_pos frame.coherent.toConstraints]
    rw [committed, frame.here]
    exact step
  · cases folding

/-! ## What closes a file -/

/-- A confirmed obligation belongs to a refunded order. -/
def OrderFile.ConfirmedClosed (file : OrderFile) : Prop :=
  ∀ order, file.order = some order → file.Confirmed → order.paymentStatus = .refunded

theorem RefundEnsured.confirmed_of_next (ensured : RefundEnsured attempt file next)
    (confirmed : next.Confirmed) : file.Confirmed := by
  cases ensured with
  | notOwed | onRecord => exact confirmed
  | recorded =>
    obtain ⟨refund, same, status⟩ := confirmed
    cases same
    cases status

/-- A refunded order stays refunded. -/
theorem FileStep.stays_refunded (step : FileStep event file next) (sound : file.Sound)
    (held : file.order = some order) (refunded : order.paymentStatus = .refunded) :
    ∃ later, next.order = some later ∧ later.paymentStatus = .refunded := by
  obtain ⟨later, current, same | move⟩ := step.payment sound held
  · exact ⟨later, current, same.trans refunded⟩
  · cases moved : later.paymentStatus <;> rw [moved] at move <;> cases move <;> simp_all

/-- A step confirms an obligation that was confirmed before, or refunds the order. -/
theorem FileStep.confirmedClosed (step : FileStep event file next) (sound : file.Sound)
    (closed : file.ConfirmedClosed) : next.ConfirmedClosed := by
  intro later current confirmed
  have before : file.Confirmed ∨ later.paymentStatus = .refunded := by
    have unconfirmed : ∀ {refund : PaymentRefund}, next.refund = some refund →
        refund.status ≠ .succeeded → file.Confirmed ∨ later.paymentStatus = .refunded :=
      fun owed status => absurd confirmed (not_confirmed_of_status owed status)
    cases step with
    | unchanged | placed | advanced | assigned | assignedUnclaimed | released | pickedUp | failed
    | proofChanged | collected | resumed | intended | capturedLate | paymentFailed | paidOut =>
      exact Or.inl (confirmed.of_same rfl)
    | cancelled _ _ _ ensured => exact Or.inl ((ensured.confirmed_of_next confirmed).of_same rfl)
    | returned _ _ _ _ _ _ voided ensured =>
      exact Or.inl ((ensured.confirmed_of_next confirmed).of_same voided.keptRefund.symm)
    | completed _ _ _ _ _ _ _ _ _ ensured => exact Or.inl (confirmed.of_same ensured.keptRefund.symm)
    | captured _ _ _ _ ensured => exact Or.inl (confirmed.of_same ensured.keptRefund.symm)
    | capturedAfterCancellation _ _ _ _ _ ensured =>
      exact Or.inl ((ensured.confirmed_of_next confirmed).of_same rfl)
    | settlementChecked _ _ ensured => exact Or.inl (confirmed.of_same ensured.keptRefund.symm)
    | refundClaimed | refundPending => exact unconfirmed rfl (by simp)
    | refundGivenUp | refundErrored | refundFailed => exact unconfirmed rfl (by simp [failedRefund])
    | refundRepeated _ held closed =>
      cases held.symm.trans current
      exact Or.inr closed
    | refundSucceeded _ _ _ _ _ voided =>
      rw [voided.keptOrder] at current
      cases current
      exact Or.inr rfl
    | refundCleared owed =>
      obtain ⟨_, same, status⟩ := confirmed
      cases same
      exact Or.inl ⟨_, owed, status⟩
  rcases before with earlier | refunded
  · obtain ⟨refund, owed, -⟩ := id earlier
    obtain ⟨order, held, -⟩ := sound.order_of_refund owed
    obtain ⟨other, same, refunded⟩ := step.stays_refunded sound held (closed order held earlier)
    cases same.symm.trans current
    exact refunded
  · exact refunded

theorem reachable_confirmedClosed (reached : Reachable (system env) world) (orderId : UUID) :
    (world.tables.file orderId).ConfirmedClosed := by
  refine file_invariant reached (fun order held => by cases held) ?_ orderId
  intro state action orderId event next before closed _ _ step
  exact step.confirmedClosed (reachable_sound before orderId) (closed orderId)

/-- Nothing on file is closed that was not closed before. -/
structure OrderFile.NothingClosed (file next : OrderFile) : Prop where
  confirmed : next.Confirmed → file.Confirmed
  refunded : ∀ order later, file.order = some order → next.order = some later →
    later.paymentStatus = .refunded → order.paymentStatus = .refunded
  voided : ∀ entry later, file.settlement = some entry → next.settlement = some later →
    later.status = .voided → entry.status = .voided

/-- A provider event closes something only when it confirms what was not confirmed. -/
theorem FileStep.nothingClosed (step : FileStep event file next) (closed : file.ConfirmedClosed)
    (delivered : event = .unchanged ∨ event = .paymentFailed ∨
      (∃ paymentId, event = .captured paymentId) ∨ ∃ status, event = .refundReported status)
    (again : event = .refundReported (some "processed") → file.Confirmed) :
    file.NothingClosed next := by
  have sameOrder : next.order = file.order → ∀ order later, file.order = some order →
      next.order = some later → later.paymentStatus = .refunded → order.paymentStatus = .refunded :=
    fun same order later held current refunded => by
      rw [same, held] at current
      cases current
      exact refunded
  have sameEntry : next.settlement = file.settlement → ∀ entry later, file.settlement = some entry →
      next.settlement = some later → later.status = .voided → entry.status = .voided :=
    fun same entry later held current voided => by
      rw [same, held] at current
      cases current
      exact voided
  have reopened : ∀ {refund : PaymentRefund}, next.refund = some refund → refund.status ≠ .succeeded →
      next.Confirmed → file.Confirmed :=
    fun owed status confirmed => absurd confirmed (not_confirmed_of_status owed status)
  cases step with
  | unchanged | capturedLate => exact ⟨id, sameOrder rfl, sameEntry rfl⟩
  | captured held attempted onTime now ensured =>
    refine ⟨fun confirmed => confirmed.of_same ensured.keptRefund.symm,
      fun order later _ current paid => ?_, fun entry later entered current => ?_⟩
    · rw [ensured.keptOrder] at current
      cases current
      cases paid
    · cases ensured with
      | onRecord | withheld =>
        cases entered.symm.trans current
        exact id
      | entered _ _ _ _ missing => cases entered.symm.trans missing
  | capturedAfterCancellation held attempted cancelled unrefunded now ensured =>
    refine ⟨fun confirmed => (ensured.confirmed_of_next confirmed).of_same rfl,
      fun order later _ current refunded => ?_, sameEntry (by cases ensured <;> rfl)⟩
    cases ensured with
    | notOwed | onRecord =>
      cases current
      cases refunded
    | recorded held' =>
      cases held'
      cases current
      cases refunded
  | paymentFailed =>
    refine ⟨fun confirmed => confirmed.of_same rfl, fun order later _ current failed => ?_, sameEntry rfl⟩
    cases current
    cases failed
  | refundFailed => exact ⟨reopened rfl (by simp [failedRefund]), sameOrder rfl, sameEntry rfl⟩
  | refundPending => exact ⟨reopened rfl (by simp), sameOrder rfl, sameEntry rfl⟩
  | refundRepeated => exact ⟨fun _ => again rfl, sameOrder rfl, sameEntry rfl⟩
  | refundSucceeded owed held first => exact absurd (closed _ held (again rfl)) first
  | _ => simp at delivered

/-! ## Deliveries -/

theorem FileStep.processed (step : FileStep (.refundReported (some "processed")) file next) :
    next.Confirmed := by
  generalize event_eq : FileEvent.refundReported (some "processed") = event at step
  cases step with
  | refundFailed => exact absurd event_eq (by decide)
  | refundPending _ _ unprocessed =>
    cases event_eq
    exact absurd rfl unprocessed
  | refundRepeated => exact ⟨_, rfl, rfl⟩
  | refundSucceeded _ _ _ _ _ voided => exact ⟨_, voided.keptRefund, rfl⟩
  | _ => cases event_eq

/-- What a step closes of a row shows in its order's file. -/
theorem World.Closes.not_nothing (closes : world.Closes later refund)
    (coherent : world.tables.Coherent) (after : later.tables.Coherent)
    (recorded : refund ∈ world.tables.paymentRefunds)
    (step : FileStep event (world.tables.file refund.orderId) (later.tables.file refund.orderId)) :
    ¬(world.tables.file refund.orderId).NothingClosed (later.tables.file refund.orderId) := by
  intro nothing
  have owed := coherent.file_refund recorded
  cases closes with
  | confirmed open_ member same status =>
    obtain ⟨kept, current, kind⟩ := step.obligation owed
    have sole := unique_eq after.refundIds member (file_refund_mem current).1 (same.trans kind.id.symm)
    subst sole
    exact not_confirmed_of_status owed open_ (nothing.confirmed ⟨_, current, status⟩)
  | refunded held own open_ member same status =>
    exact open_ (nothing.refunded _ _ (own ▸ order_file coherent held)
      (own ▸ same ▸ order_file after member) status)
  | voided held own open_ member same status =>
    exact open_ (nothing.voided _ _ (own ▸ coherent.file_settlement held)
      (own ▸ same ▸ after.file_settlement member) status)

/-- A delivery closes only what its refund object names exactly when the row that its
event is matched to was confirmed before, or is the row it names. -/
theorem deliveries_close_named_iff (reached : Reachable (system env) world) (settings : Settings)
    (request : WebhookRequest) (draws : Draws) :
    world.ClosesOnlyNamed env settings request draws ↔
      world.matchesOwn env settings request draws := by
  have coherent := reachable_coherent reached
  have after := reachable_coherent (reached.step (.request settings (.webhook request) draws))
  have named : ∀ {refund entity}, world.reported env (.request settings (.webhook request) draws) =
      some (refund, .ok entity) → refundEntity env settings request = some entity ∧
        matchedRefund world.tables ((Json.get entity "id").text env.print)
          ((Json.get entity "payment_id").text env.print) = some refund := by
    intro refund entity folding
    simp only [World.reported] at folding
    split at folding
    · simp only [Option.map_eq_some_iff, Prod.mk.injEq] at folding
      obtain ⟨⟨_, _⟩, signal, rfl, same⟩ := folding
      cases same
      obtain ⟨carried, matched, -⟩ := refundSignal_some signal
      exact ⟨carried, matched⟩
    · cases folding
  constructor
  · intro only refund entity folding processed
    obtain ⟨carried, matched⟩ := named folding
    by_cases open_ : refund.status = .succeeded
    · exact Or.inl open_
    · right
      have step := World.webhook_folds coherent folding
      have recorded := World.reported_mem folding
      obtain ⟨kept, current, kind⟩ := step.obligation (coherent.file_refund recorded)
      rw [processed] at step
      obtain ⟨confirmed, current', status⟩ := step.processed
      cases current.symm.trans current'
      obtain ⟨other, carried', own⟩ := only refund recorded
        (.confirmed open_ (file_refund_mem current).1 kind.id status)
      cases carried.symm.trans carried'
      exact (namedBy_iff matched).mp own
  · intro own refund recorded closes
    obtain ⟨event, delivered, step⟩ := (World.webhook_moves env coherent settings request
      draws).file (fun _ => Or.inl rfl) refund.orderId
    have closing := closes.not_nothing coherent after recorded step
    have again : ¬(event = .refundReported (some "processed") →
        (world.tables.file refund.orderId).Confirmed) := by
      refine mt (step.nothingClosed (reachable_confirmedClosed reached _) ?_) closing
      rcases delivered with same | failed | captured | ⟨_, entity, -, -, reported⟩
      · exact Or.inl same
      · exact Or.inr (Or.inl failed)
      · exact Or.inr (Or.inr (Or.inl captured))
      · exact Or.inr (Or.inr (Or.inr ⟨_, reported⟩))
    obtain ⟨rfl, open_⟩ := Classical.not_imp.mp again
    rcases delivered with same | failed | ⟨_, captured⟩ | ⟨matched, entity, folding, sameOrder, reported⟩
    · cases same
    · cases failed
    · cases captured
    · obtain ⟨carried, found⟩ := named folding
      have held := coherent.file_refund (World.reported_mem folding)
      rw [sameOrder] at held
      cases held.symm.trans (coherent.file_refund recorded)
      rcases own _ entity folding (FileEvent.refundReported.inj reported).symm with confirmed | mine
      · exact absurd ⟨_, held, confirmed⟩ open_
      · exact ⟨entity, carried, (namedBy_iff found).mpr mine⟩

theorem deliveries_close_named_iff_partial :
    (sampleWorld cancelledPaidOrder).ClosesOnlyNamed sampleEnvironment sampleSettings
        ⟨partialRefund.body, some partialRefund.digest, some "evt_partial"⟩ (sampleDraws 5) ↔
      (sampleWorld cancelledPaidOrder).matchesOwn sampleEnvironment sampleSettings
        ⟨partialRefund.body, some partialRefund.digest, some "evt_partial"⟩ (sampleDraws 5) :=
  deliveries_close_named_iff (sampleWorld_reachable cancelledPaidOrder) _ _ _

/-- A refund of one rupee of the same payment, issued from the provider's dashboard,
closes the obligation for the whole order. -/
theorem dashboard_refund_closes_order :
    Reachable (system sampleEnvironment) (sampleWorld cancelledPaidOrder) ∧
      ¬(sampleWorld cancelledPaidOrder).ClosesOnlyNamed sampleEnvironment sampleSettings
        ⟨partialRefund.body, some partialRefund.digest, some "evt_partial"⟩ (sampleDraws 5) := by
  refine ⟨sampleWorld_reachable _, fun only => ?_⟩
  obtain ⟨refund, recorded, open_, total, closed, after, same, status⟩ :
      ∃ refund ∈ (sampleWorld cancelledPaidOrder).tables.paymentRefunds,
        refund.status ≠ .succeeded ∧ refund.amount = 12000 ∧
        ∃ closed ∈ (sampleWorld (cancelledPaidOrder ++
            [sampleWebhook 5 "evt_partial" partialRefund])).tables.paymentRefunds,
          closed.id = refund.id ∧ closed.status = .succeeded := by
    decide +kernel
  obtain ⟨entity, carried, named⟩ := only refund recorded (.confirmed open_ after same status)
  have amount : ((refundEntity sampleEnvironment sampleSettings
      ⟨partialRefund.body, some partialRefund.digest, some "evt_partial"⟩).bind entityAmount) =
        some 100 := by
    decide +kernel
  rw [carried, Option.bind_some, named.amount, total, amountToSubunits_ofCents] at amount
  exact absurd amount (by decide)

end GaonOne
