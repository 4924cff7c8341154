import GaonOne.Library.Answers
import GaonOne.Library.Executions
import GaonOne.RollbackBranches

/-! Deliveries of webhooks. The unlocked look for an event's key only saves work: a row
with the key is brought before the event is processed, so of several deliveries all but one
wait for it and then find the key taken. Everything that processing the event left pending is
committed with that row or not at all. -/
namespace GaonOne
open Relational UnitOfWork ReadCommitted Transitions

/-- The event is on record. -/
def EventRecorded (key : String) (db : Tables) : Prop := key ∈ db.paymentWebhookEvents.map (·.eventKey)

instance (key : String) (db : Tables) : Decidable (EventRecorded key db) :=
  inferInstanceAs (Decidable (_ ∈ _))

/-! ## What a request writes -/

/-- Neither an event row nor an event's effects. -/
structure KeepsEvents (change : Market → Market) : Prop where
  events : ∀ market, (change market).tables.paymentWebhookEvents = market.tables.paymentWebhookEvents
  applied : ∀ market, (change market).applied = market.applied

theorem KeepsEvents.nothing : KeepsEvents id := ⟨fun _ => rfl, fun _ => rfl⟩

theorem KeepsEvents.comp {later change : Market → Market} (second : KeepsEvents later)
    (first : KeepsEvents change) : KeepsEvents (later ∘ change) where
  events market := (second.events _).trans (first.events market)
  applied market := (second.applied _).trans (first.applied market)

variable {pending : Pending} {start change : Market → Market} {post : α → (Market → Market) → Prop}

theorem KeepsEvents.write {write : Tables → Tables} (kept : KeepsEvents pending.change)
    (same : ∀ db, (write db).paymentWebhookEvents = db.paymentWebhookEvents) :
    KeepsEvents (pending.write write).change where
  events market := (same _).trans (kept.events market)
  applied market := kept.applied market

/-- A helper's rollback. -/
def rollBack (value : UniqueValue) (market : Market) : Market :=
  { market with rolledBack := market.rolledBack ++ [value] }

theorem KeepsEvents.rollBack (value : UniqueValue) : KeepsEvents (rollBack value) :=
  ⟨fun _ => rfl, fun _ => rfl⟩

/-- What a helper leaves: its caller's changes and its own still pending, or a rollback. -/
def Outcome (start : Market → Market) : Option Pending → (Market → Market) → Prop
  | some pending, change => change = start ∧ KeepsEvents pending.change
  | none, change => ∃ value, change = GaonOne.rollBack value ∘ start

/-! ## Single statements -/

theorem yields_selectForUpdate {rowOf : ρ → Row} {find : Tables → Option ρ}
    {post : Option ρ → (Market → Market) → Prop} (rest : ∀ row, post row start) :
    (selectForUpdate rowOf find : Statements (Option ρ)).Yields post start := by
  unfold selectForUpdate
  refine Program.Yields.query fun seen => ?_
  cases seen with
  | none => exact rest none
  | some seen => exact fun db => rest _

theorem Yields.statement {read : Tables → Handler β} {next : β → Statements α}
    (rest : ∀ value db, read db = .ok value → (next value).Yields post start) :
    (GaonOne.statement read >>= next).Yields post start := by
  unfold GaonOne.statement
  rw [Program.yields_bind]
  refine Program.Yields.query fun db => ?_
  cases ran : read db with
  | ok value => exact rest value db ran
  | error error => trivial

theorem Yields.require {check : Prop} [Decidable check] {error : HTTPException} {next : Unit → Statements α}
    (rest : check → (next ()).Yields post start) :
    (Statement.require check error >>= next).Yields post start := by
  refine Program.Yields.check fun value passed => ?_
  exact rest (by simpa using passed)

theorem Yields.found {value : Option β} {error : HTTPException} {next : β → Statements α}
    (rest : ∀ held, value = some held → (next held).Yields post start) :
    (Statement.found value error >>= next).Yields post start :=
  Program.Yields.check fun held passed => rest held (by simpa using passed)

theorem yields_flushOrRollback {post : Bool → (Market → Market) → Prop} (through : post true start)
    (lost : ∀ value, post false (rollBack value ∘ start)) : pending.flushOrRollback.Yields post start := by
  unfold Pending.flushOrRollback
  refine Program.Yields.lockRows (Program.Yields.remember (Program.Yields.query fun violation => ?_))
  cases violation with
  | none => exact through
  | some value => exact lost value

theorem yields_flush {post : Unit → (Market → Market) → Prop} (through : post () start) :
    pending.flush.Yields post start := by
  unfold Pending.flush
  refine Program.Yields.lockRows (Program.Yields.query fun violation => ?_)
  by_cases free : violation = none
  · rw [Statement.require, UnitOfWork.require, if_pos free]
    exact through
  · rw [Statement.require, UnitOfWork.require, if_neg free]
    trivial

theorem yields_commit {post : Option String → (Market → Market) → Prop}
    (committed : post none (pending.change ∘ start)) : pending.commit.Yields post start := by
  unfold Pending.commit
  rw [Program.yields_bind]
  exact yields_flush committed

/-! ## The helpers -/

theorem yields_ensureRefundRequest (order : Order) (reason : String) (draws : Draws)
    (kept : KeepsEvents pending.change) :
    (Flushed.ensureRefundRequest pending order reason draws).Yields
      (fun result change => Outcome start (result.map (·.1)) change) start := by
  unfold Flushed.ensureRefundRequest
  refine Program.Yields.branch (fun _ => ?_) fun _ => ⟨rfl, kept⟩
  rw [Program.yields_bind]
  refine yields_selectForUpdate fun existing => ?_
  refine Program.Yields.branch (fun _ => ⟨rfl, kept⟩) fun _ => ?_
  refine Program.Yields.query fun attempt => ?_
  dsimp only
  rw [Program.yields_bind]
  refine yields_flushOrRollback ⟨rfl, ?_⟩ fun value => ⟨value, rfl⟩
  have refunded : KeepsEvents (Pending.write pending _).change := kept.write fun _ => rfl
  exact ⟨refunded.events, refunded.applied⟩

theorem yields_voidSettlementForRefund (order : Order) (reason : String) (draws : Draws)
    (kept : KeepsEvents pending.change) :
    (Flushed.voidSettlementForRefund pending order reason draws).Yields (Outcome start) start := by
  unfold Flushed.voidSettlementForRefund Flushed.lockedSettlement
  rw [Program.yields_bind]
  refine yields_selectForUpdate fun entry => ?_
  cases entry with
  | none => exact ⟨rfl, kept⟩
  | some entry =>
    dsimp only
    cases entry.status with
    | voided => exact ⟨rfl, kept⟩
    | pending => exact ⟨rfl, kept.write fun _ => rfl⟩
    | settled =>
      refine Program.Yields.query fun existing => ?_
      refine Program.Yields.branch (fun _ => ⟨rfl, kept⟩) fun _ => ?_
      rw [Program.yields_bind]
      exact yields_flushOrRollback ⟨rfl, kept.write fun _ => rfl⟩ fun value => ⟨value, rfl⟩

theorem yields_ensureSettlementEntry (order : Order) (draws : Draws) (kept : KeepsEvents pending.change) :
    (Flushed.ensureSettlementEntry pending order draws).Yields
      (fun pending change => change = start ∧ KeepsEvents pending.change) start := by
  unfold Flushed.ensureSettlementEntry Flushed.lockedSettlement
  rw [Program.yields_bind]
  refine yields_selectForUpdate fun existing => ?_
  refine Program.Yields.branch (fun _ => ⟨rfl, kept⟩) fun _ => ?_
  refine Program.Yields.query fun eligible => ?_
  refine Program.Yields.branch (fun _ => ?_) fun _ => ⟨rfl, kept⟩
  refine Program.Yields.query fun store => ?_
  refine Yields.found fun store _ => ?_
  rw [Program.yields_bind]
  exact yields_flush ⟨rfl, kept.write fun _ => rfl⟩

theorem yields_restoreOrderStockOnce (order : Order) (now : Instant) (kept : KeepsEvents pending.change) :
    (Flushed.restoreOrderStockOnce pending order now).Yields
      (fun result change => change = start ∧ KeepsEvents result.1.change) start := by
  unfold Flushed.restoreOrderStockOnce
  refine Yields.statement fun restored db _ => ⟨rfl, kept.write fun tables => ?_⟩
  split
  · next ran => exact (restoreOrderStockOnce_payments ran).1.events
  · rfl

/-- Whatever a helper answered is committed with it. -/
theorem yields_commitPending {outcome : Option Pending} {change : Market → Market} (kept : KeepsEvents start)
    (left : Outcome start outcome change) :
    (Flushed.commitPending outcome).Yields (fun answer change => answer = none ∧ KeepsEvents change) change := by
  cases outcome with
  | none =>
    obtain ⟨value, rfl⟩ := left
    exact ⟨rfl, (KeepsEvents.rollBack value).comp kept⟩
  | some pending =>
    obtain ⟨rfl, mine⟩ := left
    exact yields_commit ⟨rfl, mine.comp kept⟩

/-! ## Requests other than webhooks -/

/-- The request acknowledges no event, and commits none. -/
def Silent (answer : Option String) (change : Market → Market) : Prop := answer = none ∧ KeepsEvents change

theorem yields_silent (keptStart : KeepsEvents start) (kept : KeepsEvents pending.change) :
    pending.commit.Yields Silent start := yields_commit ⟨rfl, kept.comp keptStart⟩

theorem yields_cancelMyOrderSafely (subject orderId : UUID) (draws : Draws) :
    (Flushed.cancelMyOrderSafely subject orderId draws).Yields Silent id := by
  unfold Flushed.cancelMyOrderSafely Statement.lockedOrder
  refine Yields.statement fun user _ _ => ?_
  rw [Program.yields_bind]
  refine yields_selectForUpdate fun locked => ?_
  refine Yields.found fun order _ => Yields.require fun _ => ?_
  rw [Program.yields_bind]
  refine (yields_restoreOrderStockOnce order draws.now .nothing).mono ?_
  rintro ⟨pending, restored⟩ _ ⟨rfl, kept⟩
  refine Program.Yields.check fun cancelled _ => ?_
  rw [Program.yields_bind]
  refine Program.Yields.mono ?_ (yields_ensureRefundRequest _ _ draws (kept.write fun _ => rfl))
  rintro (_ | ⟨last, recorded⟩) change left
  · obtain ⟨value, rfl⟩ := left
    exact ⟨rfl, (KeepsEvents.rollBack value).comp .nothing⟩
  · obtain ⟨rfl, mine⟩ := left
    exact yields_silent .nothing mine

theorem yields_updateOrderStatusSafely (subject orderId : UUID) (status : OrderStatus) (draws : Draws) :
    (Flushed.updateOrderStatusSafely subject orderId status draws).Yields Silent id := by
  unfold Flushed.updateOrderStatusSafely Statement.lockedOrder
  refine Yields.statement fun user _ _ => Program.Yields.check fun _ _ => ?_
  rw [Program.yields_bind]
  refine yields_selectForUpdate fun locked => ?_
  refine Yields.found fun order _ => Yields.statement fun _ _ _ => ?_
  refine Yields.require fun _ => Yields.require fun _ => Yields.require fun _ => ?_
  refine Program.Yields.branch (fun _ => ?_) fun _ => ?_
  · refine Program.Yields.check fun _ _ => ?_
    rw [Program.yields_bind]
    refine (yields_restoreOrderStockOnce order draws.now .nothing).mono ?_
    rintro ⟨pending, restored⟩ _ ⟨rfl, kept⟩
    rw [Program.yields_bind]
    refine (yields_ensureRefundRequest restored _ draws kept).mono ?_
    rintro (_ | ⟨last, recorded⟩) change left
    · -- the rest goes on from the rollback
      obtain ⟨value, rfl⟩ := left
      refine Program.Yields.query fun order => Yields.found fun order _ => ?_
      refine Program.Yields.check fun cancelled _ => ?_
      exact yields_silent ((KeepsEvents.rollBack value).comp .nothing) (KeepsEvents.nothing.write fun _ => rfl)
    · obtain ⟨rfl, mine⟩ := left
      refine Program.Yields.check fun cancelled _ => ?_
      exact yields_silent .nothing (mine.write fun _ => rfl)
  · refine Program.Yields.check fun moved _ => ?_
    exact yields_silent .nothing (KeepsEvents.nothing.write fun _ => rfl)

theorem yields_returnToStore (admin : User) (delivery : Delivery) (order : Order) (draws : Draws) :
    (Flushed.returnToStore admin delivery order draws).Yields Silent id := by
  unfold Flushed.returnToStore
  refine Program.Yields.check fun _ _ => Program.Yields.check fun _ _ => Yields.require fun _ => ?_
  refine Program.Yields.query fun collection => Yields.require fun _ => ?_
  rw [Program.yields_bind]
  refine (yields_restoreOrderStockOnce order draws.now .nothing).mono ?_
  rintro ⟨pending, restored⟩ _ ⟨rfl, kept⟩
  refine Program.Yields.check fun returned _ => ?_
  rw [Program.yields_bind]
  refine Program.Yields.mono ?_ (yields_voidSettlementForRefund _ _ draws (kept.write fun _ => rfl))
  -- the refund is recorded in either case
  have refunded {begun : Market → Market} {pending : Pending} {order : Order}
      {next : Option (Pending × Order) → Statements (Option String)} (first : KeepsEvents begun)
      (kept : KeepsEvents pending.change) (lost : next none = pure none)
      (recorded : ∀ last order, next (some (last, order)) = last.commit) :
      (Flushed.ensureRefundRequest pending order refundReasonReturned draws >>= next).Yields Silent
        begun := by
    rw [Program.yields_bind]
    refine (yields_ensureRefundRequest order _ draws kept).mono ?_
    rintro (_ | ⟨last, owed⟩) change left
    · obtain ⟨value, rfl⟩ := left
      rw [lost]
      exact ⟨rfl, (KeepsEvents.rollBack value).comp first⟩
    · obtain ⟨rfl, mine⟩ := left
      rw [recorded]
      exact yields_silent first mine
  rintro (_ | last) change left
  · obtain ⟨value, rfl⟩ := left
    refine Program.Yields.query fun order => Yields.found fun order _ => ?_
    exact refunded ((KeepsEvents.rollBack value).comp .nothing) .nothing rfl fun _ _ => rfl
  · obtain ⟨rfl, mine⟩ := left
    exact refunded .nothing mine rfl fun _ _ => rfl

theorem yields_resolveFailedDelivery (subject deliveryId : UUID) (resolution : Resolution)
    (notes : Option String) (draws : Draws) :
    (Flushed.resolveFailedDelivery subject deliveryId resolution notes draws).Yields Silent id := by
  unfold Flushed.resolveFailedDelivery Statement.lockedDelivery Statement.lockedOrder
  refine Yields.statement fun admin _ _ => Yields.require fun _ => ?_
  rw [Program.yields_bind]
  refine yields_selectForUpdate fun found => Yields.found fun delivery _ => ?_
  rw [Program.yields_bind]
  refine yields_selectForUpdate fun locked => Yields.found fun order _ => Yields.require fun _ => ?_
  cases resolution with
  | returnToStore => exact yields_returnToStore admin delivery order draws
  | reassign =>
    refine Yields.require fun _ => Yields.require fun _ => Program.Yields.check fun released _ => ?_
    exact yields_silent .nothing (KeepsEvents.nothing.write fun _ => rfl)

/-! ## Captures -/

theorem yields_lockPaymentContext {identity : Tables → Option PaymentAttempt} {userId : Option UUID}
    {post : Option (PaymentAttempt × Order) × Bool → (Market → Market) → Prop}
    (rest : ∀ context, post context start) : (Flushed.lockPaymentContext identity userId).Yields post start := by
  unfold Flushed.lockPaymentContext
  refine Program.Yields.query fun known => ?_
  cases known with
  | none => exact rest (none, false)
  | some known =>
    dsimp only
    rw [Program.yields_bind]
    refine yields_selectForUpdate fun locked => ?_
    cases locked with
    | none => exact rest (none, true)
    | some order =>
      dsimp only
      rw [Program.yields_bind]
      exact yields_selectForUpdate fun attempt => rest _

theorem yields_applyPaid (attempt : PaymentAttempt) (order : Order) (providerPaymentId : Option String)
    (draws : Draws) :
    (Flushed.applyPaid attempt order providerPaymentId draws).Yields (Outcome start) start := by
  unfold Flushed.applyPaid
  refine Program.Yields.query fun unused => Yields.require fun _ => ?_
  have assigned (value : String → UniqueValue) (old new : Option String) (pending : Pending) :
      (pending.assign value attempt.id old new).change = pending.change := by
    unfold Pending.assign
    split <;> rfl
  obtain ⟨captured, made⟩ : ∃ captured, captured = capturedAttempt attempt providerPaymentId draws.now := ⟨_, rfl⟩
  dsimp only
  rw [← made]
  have kept : KeepsEvents ((Pending.write {} (·.putAttempt captured)).assign .paymentId attempt.id
      attempt.providerPaymentId captured.providerPaymentId).change := by
    rw [assigned]
    exact KeepsEvents.nothing.write fun _ => rfl
  refine Program.Yields.branch (fun _ => ?_) fun _ => ?_
  · refine Program.Yields.branch (fun _ => ?_) fun _ => ⟨rfl, kept⟩
    rw [Program.yields_bind]
    refine Program.Yields.mono ?_ (yields_ensureRefundRequest _ _ draws (kept.write fun _ => rfl))
    exact fun result change left => left
  · rw [Program.yields_bind]
    refine Program.Yields.mono ?_ (yields_ensureSettlementEntry _ draws (kept.write fun _ => rfl))
    exact fun result change left => left

theorem keeps_applyFailed (attempt : PaymentAttempt) (order : Order) (draws : Draws) :
    KeepsEvents (Flushed.applyFailed attempt order draws).change := by
  refine KeepsEvents.nothing.write fun db => ?_
  unfold GaonOne.applyFailed
  split
  · rfl
  · rfl

theorem yields_hardenedVerifyPayment (env : Environment) (settings : Settings) (subject : UUID)
    (payload : PaymentVerifyRequest) (draws : Draws) :
    (Flushed.hardenedVerifyPayment env settings subject payload draws).Yields Silent id := by
  unfold Flushed.hardenedVerifyPayment
  refine Yields.statement fun user _ _ => Yields.require fun _ => ?_
  rw [Program.yields_bind]
  refine yields_lockPaymentContext fun ⟨context, attemptExists⟩ => ?_
  refine Yields.require fun _ => Yields.found fun ⟨attempt, order⟩ _ => Yields.found fun providerOrderId _ => ?_
  refine Program.Yields.branch (fun _ => ?_) fun _ => ?_
  · refine Program.Yields.branch (fun _ => ⟨rfl, .nothing⟩) fun _ => ?_
    rw [Program.yields_bind]
    refine (yields_ensureSettlementEntry order draws .nothing).mono ?_
    rintro pending _ ⟨rfl, kept⟩
    exact yields_silent .nothing kept
  · refine Program.Yields.check fun valid _ => ?_
    refine Program.Yields.branch (fun _ => ?_) fun _ => yields_silent .nothing (keeps_applyFailed ..)
    rw [Program.yields_bind]
    exact (yields_applyPaid attempt order _ draws).mono fun outcome _ left => yields_commitPending .nothing left

/-! ## Refund results -/

theorem yields_applyProviderRefundResult (env : Environment) (refund : PaymentRefund)
    (payload : List (String × Json)) (draws : Draws) :
    (Flushed.applyProviderRefundResult env refund payload draws).Yields (Outcome start) start := by
  unfold Flushed.applyProviderRefundResult Statement.lockedOrder
  have assigned (old new : Option String) :
      KeepsEvents (Pending.assign {} .refundId refund.id old new).change := by
    unfold Pending.assign
    split <;> exact .nothing
  dsimp only
  refine Program.Yields.branch (fun _ => ?_) fun _ => Program.Yields.branch (fun _ => ?_) fun _ => ?_
  · rw [Program.yields_bind]
    refine yields_selectForUpdate fun locked => ?_
    cases locked with
    | none => exact ⟨rfl, (assigned ..).write fun _ => rfl⟩
    | some order =>
      refine Program.Yields.branch (fun _ => ⟨rfl, (assigned ..).write fun _ => rfl⟩) fun _ => ?_
      exact yields_voidSettlementForRefund _ _ draws
        (KeepsEvents.write (KeepsEvents.write (assigned ..) fun _ => rfl) fun _ => rfl)
  · exact ⟨rfl, (assigned ..).write fun _ => rfl⟩
  · exact ⟨rfl, (assigned ..).write fun _ => rfl⟩

theorem yields_claimRefund (settings : Settings) (refundId : UUID) (now : Instant) :
    (Flushed.claimRefund settings refundId now).Yields Silent id := by
  unfold Flushed.claimRefund Flushed.lockedRefund
  rw [Program.yields_bind]
  refine yields_selectForUpdate fun refund => ?_
  cases refund with
  | none => exact ⟨rfl, .nothing⟩
  | some refund =>
    refine yields_silent .nothing (KeepsEvents.nothing.write fun db => ?_)
    unfold GaonOne.claimRefund
    repeat' split
    all_goals rfl

theorem yields_recordRefund (env : Environment) (refundId : UUID) (result : ProviderResult) (draws : Draws) :
    (Flushed.recordRefund env refundId result draws).Yields Silent id := by
  unfold Flushed.recordRefund Flushed.lockedRefund
  rw [Program.yields_bind]
  refine yields_selectForUpdate fun refund => ?_
  cases refund with
  | none => exact ⟨rfl, .nothing⟩
  | some refund =>
    cases result with
    | error message => exact yields_silent .nothing (KeepsEvents.nothing.write fun _ => rfl)
    | ok payload =>
      dsimp only
      rw [Program.yields_bind]
      exact (yields_applyProviderRefundResult env refund payload draws).mono
        fun outcome _ left => yields_commitPending .nothing left

/-! ## Events -/

theorem yields_matchedRefund {providerRefundId refundPaymentId : Option String}
    {post : Option PaymentRefund → (Market → Market) → Prop} (rest : ∀ refund, post refund start) :
    (Flushed.matchedRefund providerRefundId refundPaymentId).Yields post start := by
  have newest : (Flushed.newestRefundPaidBy refundPaymentId).Yields post start := by
    cases refundPaymentId with
    | none => exact rest none
    | some text =>
      refine Program.Yields.query fun seen => Program.Yields.lockRows ?_
      exact fun db => rest _
  unfold Flushed.matchedRefund
  rw [Program.yields_bind]
  cases providerRefundId with
  | none => exact newest
  | some text =>
    unfold Flushed.refundNamed
    refine yields_selectForUpdate fun refund => ?_
    cases refund with
    | none => exact newest
    | some refund => exact rest (some refund)

theorem yields_processEvent (env : Environment) (payload : List (String × Json)) (draws : Draws) :
    (Flushed.processEvent env payload draws).Yields (Outcome start) start := by
  have nothing : Outcome start (some {}) start := ⟨rfl, .nothing⟩
  unfold Flushed.processEvent
  refine Program.Yields.branch (fun _ => ?_) fun _ => ?_
  · unfold Flushed.processRefundEvent
    refine Program.Yields.check fun entity _ => ?_
    rw [Program.yields_bind]
    refine yields_matchedRefund fun refund => ?_
    cases refund with
    | none => exact nothing
    | some refund => exact yields_applyProviderRefundResult env refund entity draws
  · unfold Flushed.processPaymentEvent
    refine Program.Yields.check fun payment _ => Program.Yields.check fun order _ => ?_
    dsimp only
    split
    · exact nothing
    · rw [Program.yields_bind]
      refine yields_lockPaymentContext fun ⟨context, flag⟩ => ?_
      cases context with
      | none => exact nothing
      | some known =>
        refine Program.Yields.branch (fun _ => yields_applyPaid known.1 known.2 _ draws) fun _ => ?_
        refine Program.Yields.branch (fun _ => ⟨rfl, ?_⟩) fun _ => nothing
        exact keeps_applyFailed known.1 known.2 draws

/-! ## Deliveries -/

/-- The effects on record are those of the events on record. -/
def recordDiscipline : Discipline Market RowLock Note where
  invariant market := market.tables.Constraints ∧
    market.applied = market.tables.paymentWebhookEvents.map (·.eventKey)
  guarantee _ _ := True
  rely _ _ before after := ∀ key, EventRecorded key before.tables → EventRecorded key after.tables
  refl _ _ _ _ recorded := recorded
  trans first second key recorded := second key (first key recorded)
  weaken kept := kept
  admits _ _ := True
  apart _ _ := True

/-- What a delivery that acknowledges an event commits: nothing, where the event is on
record already or its helper rolled back, or the event with its effects. -/
def Acknowledges (key : String) (change : Market → Market) (db : Tables) : Prop :=
  (∀ market, (change market).tables = market.tables ∧ (change market).applied = market.applied ∧
      (EventRecorded key db ∨ (change market).rolledBack ≠ market.rolledBack)) ∨
    ∃ event : PaymentWebhookEvent, event.eventKey = key ∧ ∀ market,
      (change market).tables.paymentWebhookEvents = market.tables.paymentWebhookEvents ++ [event] ∧
        (change market).applied = market.applied ++ [key]

/-- How a request ends. -/
def EndsDelivery : Except HTTPException (Option String) → Standing → Market → Prop
  | .ok (some key), footing, db => Acknowledges key footing.change db.tables
  | .ok none, footing, _ => KeepsEvents footing.change
  | .error _, _, _ => True

theorem endsDelivery_stable : recordDiscipline.Stable EndsDelivery := by
  intro result footing db now later delivered
  rcases result with _ | _ | key
  · trivial
  · exact delivered
  · refine delivered.imp_left fun idle market => ?_
    obtain ⟨tables, applied, known⟩ := idle market
    exact ⟨tables, applied, known.imp_left (later.1 key)⟩

variable {footing : Standing} {db : Market} {env : Environment}

/-- However a request ends, its commit keeps events and effects together. -/
theorem EndsDelivery.commits {answer : Option String} (delivered : EndsDelivery (.ok answer) footing db) :
    recordDiscipline.Commits (paymentService env).valid answer footing db := by
  intro now later _ valid
  have paired := later.2.2
  cases answer with
  | none =>
    refine ⟨⟨valid, ?_⟩, trivial, fun other _ key recorded => ?_⟩
    · rw [delivered.applied, delivered.events, paired]
    · unfold EventRecorded
      rwa [delivered.events]
  | some key =>
    rcases delivered with idle | ⟨event, rfl, brings⟩
    · obtain ⟨tables, applied, -⟩ := idle now
      refine ⟨⟨valid, by rw [tables, applied, paired]⟩, trivial, fun other _ key recorded => ?_⟩
      rwa [tables]
    · obtain ⟨events, applied⟩ := brings now
      refine ⟨⟨valid, ?_⟩, trivial, fun other _ key recorded => ?_⟩
      · rw [applied, events, paired, List.map_append]
        rfl
      · unfold EventRecorded
        rw [events, List.map_append]
        exact List.mem_append_left _ recorded

theorem holds_pendingCommit : recordDiscipline.Holds pending.commit
    (fun _ standing _ => standing.change = pending.change ∘ footing.change) footing db := by
  have commits : pending.commit.Yields (fun _ change => change = pending.change ∘ footing.change)
      footing.change := yields_commit rfl
  exact commits.holds

/-- Of a request other than a webhook. -/
theorem Silent.delivered {program : Statements (Option String)} (silent : program.Yields Silent id) :
    recordDiscipline.Holds program (fun answer => EndsDelivery (.ok answer)) {} db := by
  refine Discipline.Holds.mono ?_ silent.holds
  rintro _ standing now ⟨rfl, kept⟩
  exact kept

theorem delivered_hardenedRazorpayWebhook (settings : Settings) (request : WebhookRequest) (draws : Draws) :
    recordDiscipline.Holds (Flushed.hardenedRazorpayWebhook env settings request draws)
      (fun answer => EndsDelivery (.ok answer)) {} db := by
  have seen {footing : Standing} {now : Market} (blank : footing.change = id)
      (recorded : EventRecorded (webhookEventKey env request) now.tables) :
      EndsDelivery (.ok (some (webhookEventKey env request))) footing now := by
    refine .inl fun market => ?_
    rw [blank]
    exact ⟨rfl, rfl, .inl recorded⟩
  unfold Flushed.hardenedRazorpayWebhook
  refine Discipline.Holds.check fun payload _ => ?_
  refine Discipline.Holds.query fun first later => ?_
  refine Discipline.Holds.branch (fun existing => ?_) fun _ => ?_
  · obtain ⟨event, found⟩ := Option.isSome_iff_exists.mp existing
    exact seen rfl (List.mem_map.mpr ⟨event, lookup_mem found, lookup_col found⟩)
  dsimp only
  rw [Discipline.holds_bind]
  refine Discipline.holds_lockRows later.2 fun second since => ?_
  refine Discipline.Holds.query fun third next => ?_
  refine Discipline.Holds.branch (fun violation => ?_) fun _ => ?_
  · -- another row carries the key
    obtain ⟨value, broken⟩ := Option.isSome_iff_exists.mp violation
    obtain ⟨entry, found, -⟩ := Option.map_eq_some_iff.mp broken
    obtain ⟨other, carries, -⟩ : entry.1.Taken third.tables entry.2 := by simpa using List.find?_some found
    cases List.mem_singleton.mp (List.mem_of_find?_eq_some found)
    obtain ⟨row, listed, -, key⟩ := mem_carriers_eventKey.mp carries
    exact seen rfl (List.mem_map.mpr ⟨row, listed, key⟩)
  rw [Discipline.holds_bind]
  refine Discipline.Holds.mono ?_ (yields_processEvent env payload draws).holds
  rintro (_ | pending) standing now left
  · obtain ⟨value, rolled⟩ := left
    refine .inl fun market => ?_
    rw [rolled]
    exact ⟨rfl, rfl, .inr (by simp [rollBack])⟩
  · obtain ⟨same, mine⟩ := left
    rw [Discipline.holds_bind]
    refine holds_pendingCommit.mono fun _ last after ended => ?_
    refine .inr ⟨{ webhookEvent env request payload draws with processedAt := some draws.now }, rfl,
      fun market => ?_⟩
    rw [ended, same]
    exact ⟨congrArg (· ++ [_]) (mine.events market), congrArg (· ++ [_]) (mine.applied market)⟩

/-! ## Executions -/

/-- What processing an event leaves pending, under the lock on the event's key, with its
queries answered by databases among those seen. -/
def Processed (seen : Market → Prop) (env : Environment) (key : String) (payload : List (String × Json))
    (draws : Draws) (pending : Pending) : Prop :=
  ∃ last, (Flushed.processEvent env payload draws).Reaches seen
    { held := [(Row.value (.eventKey key)).forUpdate] } (some pending) last

/-- The commit writes what the event left pending, all of it, and the event row. -/
def RecordsEvent (env : Environment) (request : WebhookRequest) (payload : List (String × Json))
    (draws : Draws) (pending : Pending) (before after : Market) : Prop :=
  after.tables = (pending.change before).tables.addWebhookEvent
      { webhookEvent env request payload draws with processedAt := some draws.now } ∧
    after.applied = before.applied ++ [webhookEventKey env request]

/-- The commit writes nothing. -/
def Idle (before after : Market) : Prop := after.tables = before.tables ∧ after.applied = before.applied

theorem reaches_commit {seen : Market → Prop} {answer : Option String} {last : Standing}
    (reaches : pending.commit.Reaches seen footing answer last) :
    last.change = pending.change ∘ footing.change := by
  have yields : pending.commit.Yields (fun _ change => change = pending.change ∘ footing.change)
      footing.change := yields_commit rfl
  exact reaches.yields yields

/-- A delivery that ends acknowledges its event, and commits what it processed or nothing. -/
theorem reaches_hardenedRazorpayWebhook {seen : Market → Prop} {settings : Settings}
    {request : WebhookRequest} {draws : Draws} {answer : Option String} {last : Standing}
    (reaches : (Flushed.hardenedRazorpayWebhook env settings request draws).Reaches seen {} answer last) :
    answer = some (webhookEventKey env request) ∧
      ∃ payload, readWebhook env settings request = .ok payload ∧
        ((∀ market, Idle market (last.change market)) ∨
          ∃ pending, Processed seen env (webhookEventKey env request) payload draws pending ∧
            ∀ market, RecordsEvent env request payload draws pending market (last.change market)) := by
  unfold Flushed.hardenedRazorpayWebhook at reaches
  obtain ⟨payload, signed, reaches⟩ := reaches.check
  obtain ⟨first, -, reaches⟩ := reaches.query
  rcases reaches.branch with ⟨-, rfl, rfl⟩ | ⟨-, fresh⟩
  · exact ⟨rfl, payload, signed, .inl fun market => ⟨rfl, rfl⟩⟩
  obtain ⟨second, -, free⟩ := fresh.lockRows.query
  rcases free.branch with ⟨-, rfl, rfl⟩ | ⟨-, processes⟩
  · exact ⟨rfl, payload, signed, .inl fun market => ⟨rfl, rfl⟩⟩
  rw [Program.reaches_bind] at processes
  obtain ⟨outcome, middle, processed, rest⟩ := processes
  have left : Outcome id outcome middle.change := processed.yields (yields_processEvent env payload draws)
  cases outcome with
  | none =>
    obtain ⟨rfl, rfl⟩ := rest
    obtain ⟨value, rolled⟩ := left
    exact ⟨rfl, payload, signed, .inl fun market => by rw [rolled]; exact ⟨rfl, rfl⟩⟩
  | some pending =>
    rw [Program.reaches_bind] at rest
    obtain ⟨_, standing, commits, rfl, rfl⟩ := rest
    obtain ⟨same, mine⟩ := left
    have written := reaches_commit commits
    refine ⟨rfl, payload, signed, .inr ⟨pending, ⟨middle, processed⟩, fun market => ?_⟩⟩
    rw [written, same]
    exact ⟨rfl, congrArg (· ++ [_]) (mine.applied market)⟩

/-! ## Runs -/

/-- A database whose events were all processed. -/
def Market.processed (start : Tables) : Market :=
  { tables := start, applied := start.paymentWebhookEvents.map (·.eventKey) }

/-- The rest of the program writes no events. -/
def LeavesEvents (state : PaymentState) : ReadCommitted.Action Market PaymentRequest → Prop
  | .other after => after.tables.Constraints ∧ after.applied = state.database.applied ∧
      after.tables.paymentWebhookEvents = state.database.tables.paymentWebhookEvents
  | _ => True

instance (state : PaymentState) (action : ReadCommitted.Action Market PaymentRequest) :
    Decidable (LeavesEvents state action) :=
  match action with
  | .start _ | .abort _ | .advance _ => .isTrue trivial
  | .other _ => inferInstanceAs (Decidable (_ ∧ _ ∧ _))

/-- Every request but a webhook leaves events alone. -/
theorem silent_program (request : PaymentRequest)
    (other : ∀ settings delivery draws, request ≠ .webhook settings delivery draws) :
    (request.program env).Yields Silent id := by
  cases request with
  | cancelMyOrder subject orderId draws => exact yields_cancelMyOrderSafely subject orderId draws
  | updateOrderStatus subject orderId status draws =>
    exact yields_updateOrderStatusSafely subject orderId status draws
  | resolveFailedDelivery subject deliveryId resolution notes draws =>
    exact yields_resolveFailedDelivery subject deliveryId resolution notes draws
  | verifyPayment settings subject payload draws =>
    exact yields_hardenedVerifyPayment env settings subject payload draws
  | webhook settings request draws => exact absurd rfl (other settings request draws)
  | claimRefund settings refundId now => exact yields_claimRefund settings refundId now
  | recordRefund refundId result draws => exact yields_recordRefund env refundId result draws

theorem delivered_program (request : PaymentRequest) :
    recordDiscipline.Holds (request.program env) (fun answer => EndsDelivery (.ok answer)) {} db := by
  by_cases delivery : ∃ settings delivered draws, request = .webhook settings delivered draws
  · obtain ⟨settings, delivered, draws, rfl⟩ := delivery
    exact delivered_hardenedRazorpayWebhook settings delivered draws
  · refine Silent.delivered (silent_program request ?_)
    exact fun settings delivered draws same => delivery ⟨settings, delivered, draws, same⟩

theorem deliveries_upheld (env : Environment) :
    Discipline.Upheld (paymentService env) recordDiscipline LeavesEvents where
  starts state request _ _ := (delivered_program request).mono fun _ _ _ delivered => delivered.commits
  others := by
    rintro state after ⟨valid, applied, events⟩ kept
    refine ⟨⟨valid, by rw [applied, events]; exact kept.2⟩, fun _ _ key recorded => ?_⟩
    unfold EventRecorded
    rwa [events]
  admitted _ _ _ _ _ _ := trivial
  separated _ _ _ _ _ _ _ _ _ _ _ _ := trivial

/-- A delivery that writes nothing acknowledges an event on record, or rolled back. -/
theorem Acknowledges.known {key : String} {change : Market → Market}
    (acknowledges : Acknowledges key change db.tables) (idle : Idle db (change db)) :
    EventRecorded key db.tables ∨ (change db).rolledBack ≠ db.rolledBack := by
  rcases acknowledges with known | ⟨event, -, brings⟩
  · exact (known db).2.2
  · have longer := congrArg List.length ((brings db).2.symm.trans idle.2)
    simp at longer

/-- An event that is recorded was not on record, and is. -/
theorem RecordsEvent.recorded {request : WebhookRequest} {payload : List (String × Json)}
    {draws : Draws} {pending : Pending} {after : Market} (records : RecordsEvent env request payload draws pending db after)
    (keeps : KeepsEvents pending.change) (valid : after.tables.Constraints) :
    ¬EventRecorded (webhookEventKey env request) db.tables ∧
      EventRecorded (webhookEventKey env request) after.tables := by
  have events : after.tables.paymentWebhookEvents = db.tables.paymentWebhookEvents ++
      [{ webhookEvent env request payload draws with processedAt := some draws.now }] := by
    rw [records.1]
    exact congrArg (· ++ [_]) (keeps.events db)
  have keys := valid.webhookEventKeys
  rw [Relational.Unique, events, List.map_append, List.nodup_append] at keys
  refine ⟨fun recorded => keys.2.2 _ recorded _ (List.mem_singleton_self _) rfl, ?_⟩
  unfold EventRecorded
  rw [events, List.map_append]
  exact List.mem_append_right _ (List.mem_singleton_self _)

theorem Processed.keeps {seen : Market → Prop} {key : String} {payload : List (String × Json)}
    {draws : Draws} (processed : Processed seen env key payload draws pending) : KeepsEvents pending.change := by
  obtain ⟨last, reaches⟩ := processed
  have left : Outcome id (some pending) last.change := reaches.yields (yields_processEvent env payload draws)
  exact left.2

/-- The service from a database whose events were all processed. -/
abbrev deliveries (env : Environment) (start : Tables) :
    System PaymentState (ReadCommitted.Action Market PaymentRequest) :=
  (paymentService env).system (.processed start)

/-- What the commit of a request does with events. A delivery writes all that processing its
event left pending, with the row of an event that was not on record; or it writes nothing, and
then the event is on record already or its helper rolled back. Other requests leave the events
alone. -/
def CommitsEvents (seen : Market → Prop) (env : Environment) (before after : Market)
    (answer : Option String) : PaymentRequest → Prop
  | .webhook settings request draws =>
    answer = some (webhookEventKey env request) ∧
      ∃ payload, readWebhook env settings request = .ok payload ∧
        ((Idle before after ∧ (EventRecorded (webhookEventKey env request) before.tables ∨
            after.rolledBack ≠ before.rolledBack)) ∨
          (¬EventRecorded (webhookEventKey env request) before.tables ∧
            EventRecorded (webhookEventKey env request) after.tables ∧
            ∃ pending, Processed seen env (webhookEventKey env request) payload draws pending ∧
              RecordsEvent env request payload draws pending before after))
  | _ => answer = none ∧ after.applied = before.applied ∧
      after.tables.paymentWebhookEvents = before.tables.paymentWebhookEvents

/-- In every interleaving of deliveries and of the other requests that move money, with
crashes and errors anywhere, the effects of an event are committed at most once, and
exactly where the event is on record; a request that does not commit changes nothing; and
the session at the place of a delivery commits the whole of its processing and the event row,
or nothing. -/
theorem webhook_events_apply_once (env : Environment) (start : Tables) (valid : start.Constraints)
    (actions : List (ReadCommitted.Action Market PaymentRequest))
    (admitted : System.RunWhile (deliveries env start) LeavesEvents ⟨.processed start, []⟩ actions) :
    let state := (deliveries env start).run ⟨.processed start, []⟩ actions
    state.database.applied.Nodup ∧
    (∀ key, key ∈ state.database.applied ↔ EventRecorded key state.database.tables) ∧
    (∀ index action, action = .advance index ∨ action = .abort index →
      (∀ answer, ((paymentService env).step state action).sessions[index]? ≠ some (.committed answer)) →
        ((paymentService env).step state action).database = state.database) ∧
    ∀ index answer, let next := (paymentService env).step state (.advance index)
      state.sessions[index]?.bind Session.answer = none →
        next.sessions[index]?.bind Session.answer = some answer →
        ∃ asked, (requested actions)[index]? = some asked ∧
          CommitsEvents ((paymentService env).Passes ⟨.processed start, []⟩ actions) env state.database
            next.database answer asked := by
  intro state
  have initial : recordDiscipline.invariant (.processed start) := ⟨valid, rfl⟩
  have reached : System.ReachableWhile (deliveries env start) LeavesEvents state :=
    System.ReachableWhile.initial.run actions admitted
  obtain ⟨constraints, paired⟩ := ((deliveries_upheld env).safe initial reached).invariant
  have answers : recordDiscipline.Answers EndsDelivery state :=
    (deliveries_upheld env).answers initial endsDelivery_stable
      (fun request _ _ => (delivered_program request).ends fun _ _ _ => trivial) reached
  refine ⟨?_, fun key => ?_, fun index action own => Service.step_uncommitted own, ?_⟩
  · rw [paired]
    exact constraints.webhookEventKeys
  · rw [paired]
    exact Iff.rfl
  intro index answer next waits answered
  obtain ⟨footing, standing, valid, moved⟩ := Service.step_answer waits answered
  obtain ⟨asked, place, reaches⟩ := Service.run_reaches standing
  refine ⟨asked, place, ?_⟩
  rw [show next.database = _ from moved]
  unfold CommitsEvents
  split
  · next settings request draws =>
    obtain ⟨rfl, payload, signed, ends⟩ := reaches_hardenedRazorpayWebhook reaches
    refine ⟨rfl, payload, signed, ?_⟩
    rcases ends with idle | ⟨pending, processed, records⟩
    · have ended : EndsDelivery (.ok (some (webhookEventKey env request))) footing state.database :=
        (answers index _ footing standing).holds
      exact .inl ⟨idle state.database, Acknowledges.known ended (idle state.database)⟩
    · obtain ⟨fresh, known⟩ := (records state.database).recorded processed.keeps valid
      exact .inr ⟨fresh, known, pending, processed, records state.database⟩
  · next other =>
    obtain ⟨rfl, kept⟩ := reaches.yields (silent_program asked other)
    exact ⟨rfl, kept.applied _, kept.events _⟩

/-- Two deliveries of one event, and a third whose payment the first took. -/
def deliveredTwice : List (ReadCommitted.Action Market PaymentRequest) :=
  [.start (captureOf "evt_1" firstCapture 3), .start (captureOf "evt_1" firstCapture 4),
    .start (captureOf "evt_2" otherCapture 5)] ++
    [.advance 1] ++ List.replicate 20 (.advance 0) ++ List.replicate 4 (.advance 1) ++
    List.replicate 11 (.advance 2)

theorem webhook_events_apply_once_repeated :
    let initial := ⟨.processed cancelledAndOpen, []⟩
    let ended := (deliveries twiceEnvironment cancelledAndOpen).run initial deliveredTwice
    let first := (deliveries twiceEnvironment cancelledAndOpen).run initial (deliveredTwice.take 23)
    let next := (paymentService twiceEnvironment).step first (.advance 0)
    ended.database.tables.paymentRefunds.map (·.orderId) = [1] ∧
      ended.sessions.map (·.answer) = [some (some "evt_1"), some (some "evt_1"), none] ∧
      ended.database.applied = ["evt_1"] ∧ ended.database.applied.Nodup ∧
      (∀ key, key ∈ ended.database.applied ↔ EventRecorded key ended.database.tables) ∧
      -- the first delivery is about to commit
      next.database.tables.paymentRefunds.map (·.orderId) = [1] ∧
      ∃ payload pending, Processed
          ((paymentService twiceEnvironment).Passes initial (deliveredTwice.take 23)) twiceEnvironment "evt_1"
          payload (sampleDraws 3) pending ∧
        RecordsEvent twiceEnvironment ⟨firstCapture.body, some firstCapture.digest, some "evt_1"⟩ payload
          (sampleDraws 3) pending first.database next.database := by
  have valid : cancelledAndOpen.Constraints := by decide +kernel
  have admitted : System.RunWhile (deliveries twiceEnvironment cancelledAndOpen)
      LeavesEvents ⟨.processed cancelledAndOpen, []⟩ deliveredTwice := by decide +kernel
  have begun : System.RunWhile (deliveries twiceEnvironment cancelledAndOpen)
      LeavesEvents ⟨.processed cancelledAndOpen, []⟩ (deliveredTwice.take 23) := by decide +kernel
  obtain ⟨distinct, paired, -⟩ := webhook_events_apply_once twiceEnvironment cancelledAndOpen valid _ admitted
  obtain ⟨-, -, -, commits⟩ := webhook_events_apply_once twiceEnvironment cancelledAndOpen valid _ begun
  obtain ⟨asked, place, committed⟩ := commits 0 (some "evt_1") (by decide +kernel) (by decide +kernel)
  have first : (requested (deliveredTwice.take 23))[0]? = some (captureOf "evt_1" firstCapture 3) := rfl
  cases Option.some.inj (place.symm.trans first)
  obtain ⟨-, payload, -, idle | ⟨-, -, pending, processed, records⟩⟩ := committed
  · exact absurd idle.1.2 (by decide +kernel)
  · exact ⟨by decide +kernel, by decide +kernel, by decide +kernel, distinct, paired, by decide +kernel,
      payload, pending, processed, records⟩

end GaonOne
