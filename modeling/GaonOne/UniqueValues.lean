import GaonOne.OrderFile
import GaonOne.PaymentStatements

/-! Who may change what a row carries. The refund key of an order is brought under the
order's lock, the reversal key of an entry under the entry's, and the ids that the provider
draws under the locks of the attempt and the refund they are written to. -/
namespace GaonOne
open Relational UnitOfWork ReadCommitted

variable {before middle after : Tables} {held more : List RowLock}

/-- The rows a transaction holds that changes whether a row carries a value. -/
def UniqueValue.guards (value : UniqueValue) (rowId : UUID) : List Row :=
  .value value ::
    match value with
    | .eventKey _ => []
    | .refundKey orderId => [.order orderId]
    | .reversalKey entryId => [.settlement entryId]
    | .paymentId _ => [.attempt rowId]
    | .refundId _ => [.refund rowId]

/-- No refund row goes or changes its key, and no attempt goes. -/
structure RowsKept (before after : Tables) : Prop where
  refunds : ∀ row ∈ before.paymentRefunds, ∃ kept ∈ after.paymentRefunds,
    kept.id = row.id ∧ kept.idempotencyKey = row.idempotencyKey
  attempts : ∀ row ∈ before.paymentAttempts, ∃ kept ∈ after.paymentAttempts, kept.id = row.id

/-- Whoever holds one of a value's guards sees nobody else change who carries it. -/
structure ValuesKept (held : List RowLock) (before after : Tables) : Prop extends
    RowsKept before after where
  values : ∀ (value : UniqueValue) rowId, (∃ row ∈ value.guards rowId, row.forUpdate ∈ held) →
    (rowId ∈ value.carriers after ↔ rowId ∈ value.carriers before)

/-- A transaction changes who carries a value only where it holds all the guards. -/
structure ValuesMoved (held : List RowLock) (before after : Tables) : Prop extends
    RowsKept before after where
  values : ∀ (value : UniqueValue) rowId,
    (rowId ∈ value.carriers after ↔ rowId ∈ value.carriers before) ∨
      ∀ row ∈ value.guards rowId, row.forUpdate ∈ held

theorem RowsKept.refl (db : Tables) : RowsKept db db :=
  ⟨fun row listed => ⟨row, listed, rfl, rfl⟩, fun row listed => ⟨row, listed, rfl⟩⟩

theorem RowsKept.trans (first : RowsKept before middle) (second : RowsKept middle after) :
    RowsKept before after where
  refunds := by
    intro row listed
    obtain ⟨one, there, sameId, sameKey⟩ := first.refunds row listed
    obtain ⟨two, last, id, key⟩ := second.refunds one there
    exact ⟨two, last, id.trans sameId, key.trans sameKey⟩
  attempts := by
    intro row listed
    obtain ⟨one, there, sameId⟩ := first.attempts row listed
    obtain ⟨two, last, id⟩ := second.attempts one there
    exact ⟨two, last, id.trans sameId⟩

theorem ValuesMoved.trans (first : ValuesMoved held before middle) (second : ValuesMoved held middle after) :
    ValuesMoved held before after where
  toRowsKept := first.toRowsKept.trans second.toRowsKept
  values := by
    intro value rowId
    rcases second.values value rowId with same | guarded
    · rcases first.values value rowId with old | guarded
      · exact .inl (same.trans old)
      · exact .inr guarded
    · exact .inr guarded

/-- What moves under locks that another transaction does not share, it may rely on. -/
theorem ValuesMoved.kept (moved : ValuesMoved held before after)
    (apart : ∀ row ∈ held, ∀ other ∈ more, ¬RowLock.conflicts row other) : ValuesKept more before after where
  toRowsKept := moved.toRowsKept
  values := by
    rintro value rowId ⟨row, guard, theirs⟩
    rcases moved.values value rowId with same | mine
    · exact same
    · exact absurd ⟨rfl, rfl⟩ (apart _ (mine row guard) _ theirs)

/-- The tables whose rows carry unique values. -/
structure SamePayments (before after : Tables) : Prop where
  attempts : after.paymentAttempts = before.paymentAttempts
  refunds : after.paymentRefunds = before.paymentRefunds
  adjustments : after.settlementAdjustments = before.settlementAdjustments
  events : after.paymentWebhookEvents = before.paymentWebhookEvents

theorem SamePayments.trans (first : SamePayments before middle) (second : SamePayments middle after) :
    SamePayments before after :=
  ⟨second.attempts.trans first.attempts, second.refunds.trans first.refunds,
    second.adjustments.trans first.adjustments, second.events.trans first.events⟩

theorem SamePayments.moved (same : SamePayments before after) : ValuesMoved held before after where
  refunds row listed := ⟨row, same.refunds ▸ listed, rfl, rfl⟩
  attempts row listed := ⟨row, same.attempts ▸ listed, rfl⟩
  values value rowId := by
    have carriers : value.carriers after = value.carriers before := by
      cases value <;>
        simp only [UniqueValue.carriers, same.attempts, same.refunds, same.adjustments, same.events]
    exact .inl (by rw [carriers])

theorem creditItems_payments {db result : DbSession} (ran : creditItems storeId items db = .ok result) :
    SamePayments db.pending result.pending := by
  induction items generalizing db with
  | nil =>
    simp only [creditItems, pure_ok] at ran
    subst ran
    exact ⟨rfl, rfl, rfl, rfl⟩
  | cons item items ih =>
    simp only [creditItems, found_bind_ok] at ran
    obtain ⟨listing, -, ran⟩ := ran
    have rest := ih ran
    exact ⟨rest.attempts, rest.refunds, rest.adjustments, rest.events⟩

theorem restoreOrderStockOnce_payments {db result : DbSession} {order restored : Order}
    (ran : restoreOrderStockOnce db order now = .ok (result, restored)) :
    SamePayments db.pending result.pending ∧ restored.id = order.id := by
  unfold restoreOrderStockOnce at ran
  split at ran
  · simp only [pure_ok, Prod.mk.injEq] at ran
    obtain ⟨rfl, rfl⟩ := ran
    exact ⟨⟨rfl, rfl, rfl, rfl⟩, rfl⟩
  · rw [bind_ok] at ran
    obtain ⟨credited, loop, ran⟩ := ran
    simp only [pure_ok, Prod.mk.injEq] at ran
    obtain ⟨rfl, rfl⟩ := ran
    exact ⟨.trans (creditItems_payments loop) ⟨rfl, rfl, rfl, rfl⟩, rfl⟩

/-! ## Rows that carry values -/

theorem mem_carriers_refundKey : rowId ∈ (UniqueValue.refundKey orderId).carriers before ↔
    ∃ row ∈ before.paymentRefunds, row.id = rowId ∧ row.idempotencyKey = refundIdempotencyKey orderId := by
  simp only [UniqueValue.carriers, List.mem_map, mem_belonging]
  grind

theorem mem_carriers_paymentId : rowId ∈ (UniqueValue.paymentId text).carriers before ↔
    ∃ row ∈ before.paymentAttempts, row.id = rowId ∧ row.providerPaymentId = some text := by
  simp only [UniqueValue.carriers, List.mem_map, mem_belonging]
  grind

theorem mem_carriers_refundId : rowId ∈ (UniqueValue.refundId text).carriers before ↔
    ∃ row ∈ before.paymentRefunds, row.id = rowId ∧ row.providerRefundId = some text := by
  simp only [UniqueValue.carriers, List.mem_map, mem_belonging]
  grind

theorem mem_carriers_reversalKey : rowId ∈ (UniqueValue.reversalKey entryId).carriers before ↔
    ∃ row ∈ before.settlementAdjustments, row.id = rowId ∧
      row.idempotencyKey = settlementReversalKey entryId := by
  simp only [UniqueValue.carriers, List.mem_map, mem_belonging]
  grind

theorem mem_carriers_eventKey : rowId ∈ (UniqueValue.eventKey key).carriers before ↔
    ∃ row ∈ before.paymentWebhookEvents, row.id = rowId ∧ row.eventKey = key := by
  simp only [UniqueValue.carriers, List.mem_map, mem_belonging]
  grind

/-! ## Writes -/

section
variable {ρ α : Type} {key : ρ → UUID} {rows : List ρ} {old new : ρ}

/-- An update leaves every column of the other rows. -/
theorem carries_put_other {col : ρ → α} {value : α} (other : rowId ≠ key new) :
    (∃ row ∈ put key new rows, key row = rowId ∧ col row = value) ↔
      ∃ row ∈ rows, key row = rowId ∧ col row = value := by
  constructor
  · rintro ⟨row, inside, rfl, carries⟩
    rcases mem_put.mp inside with ⟨rfl, -⟩ | ⟨listed, -⟩
    · exact absurd rfl other
    · exact ⟨row, listed, rfl, carries⟩
  · rintro ⟨row, listed, rfl, carries⟩
    exact ⟨row, mem_put.mpr (.inr ⟨listed, other⟩), rfl, carries⟩

theorem carries_put_own {col : ρ → α} {value : α} (listed : old ∈ rows) (same : key old = key new) :
    (∃ row ∈ put key new rows, key row = key new ∧ col row = value) ↔ col new = value := by
  constructor
  · rintro ⟨row, inside, agree, carries⟩
    rcases mem_put.mp inside with ⟨rfl, -⟩ | ⟨-, differ⟩
    · exact carries
    · exact absurd agree differ
  · exact fun carries => ⟨new, mem_put.mpr (.inl ⟨rfl, old, listed, same⟩), rfl, carries⟩

theorem carries_own {col : ρ → α} {value : α} (keys : Relational.Unique key rows) (listed : old ∈ rows)
    (same : key old = key new) :
    (∃ row ∈ rows, key row = key new ∧ col row = value) ↔ col old = value := by
  constructor
  · rintro ⟨row, inside, agree, carries⟩
    rwa [← unique_eq keys inside listed (agree.trans same.symm)]
  · exact fun carries => ⟨old, listed, same, carries⟩

/-- An update changes who carries a text only for the texts its own row takes or gives up. -/
theorem carries_put {col : ρ → Option String} {guarded : String → Prop}
    (keys : Relational.Unique key rows) (listed : old ∈ rows) (same : key old = key new)
    (locked : col new ≠ col old → ∀ text, (col new = some text ∨ col old = some text) → guarded text)
    (text : String) (rowId : UUID) :
    ((∃ row ∈ put key new rows, key row = rowId ∧ col row = some text) ↔
        ∃ row ∈ rows, key row = rowId ∧ col row = some text) ∨
      rowId = key new ∧ guarded text := by
  by_cases own : rowId = key new
  · subst own
    rw [carries_put_own listed same, carries_own keys listed same]
    by_cases unchanged : col new = col old
    · rw [unchanged]
      exact .inl Iff.rfl
    · by_cases involved : col new = some text ∨ col old = some text
      · exact .inr ⟨rfl, locked unchanged text involved⟩
      · rw [not_or] at involved
        exact .inl (iff_of_false involved.1 involved.2)
  · exact .inl (carries_put_other own)

end

/-- A new obligation brings the refund key of its order. -/
theorem addRefund_moved (refund : PaymentRefund) (key : refund.idempotencyKey = refundIdempotencyKey orderId)
    (unnamed : refund.providerRefundId = none)
    (guarded : ∀ row ∈ (UniqueValue.refundKey orderId).guards refund.id, row.forUpdate ∈ held) :
    ValuesMoved held before (before.addRefund refund) where
  refunds row listed := ⟨row, List.mem_append_left _ listed, rfl, rfl⟩
  attempts row listed := ⟨row, listed, rfl⟩
  values value rowId := by
    cases value with
    | eventKey key => exact .inl Iff.rfl
    | reversalKey entryId => exact .inl Iff.rfl
    | paymentId text => exact .inl Iff.rfl
    | refundKey other =>
      by_cases same : other = orderId
      · subst same
        exact .inr guarded
      · apply Or.inl
        simp only [mem_carriers_refundKey, Tables.addRefund, List.mem_append, List.mem_singleton]
        constructor
        · rintro ⟨row, listed | rfl, own, carries⟩
          · exact ⟨row, listed, own, carries⟩
          · exact absurd (refundIdempotencyKey_injective (carries.symm.trans key)) same
        · rintro ⟨row, listed, own, carries⟩
          exact ⟨row, .inl listed, own, carries⟩
    | refundId text =>
      apply Or.inl
      simp only [mem_carriers_refundId, Tables.addRefund, List.mem_append, List.mem_singleton]
      constructor
      · rintro ⟨row, listed | rfl, own, carries⟩
        · exact ⟨row, listed, own, carries⟩
        · simp [unnamed] at carries
      · rintro ⟨row, listed, own, carries⟩
        exact ⟨row, .inl listed, own, carries⟩

/-- A reversal brings the key of its settlement entry. -/
theorem addAdjustment_moved (adjustment : SettlementAdjustment)
    (key : adjustment.idempotencyKey = settlementReversalKey entryId)
    (guarded : ∀ row ∈ (UniqueValue.reversalKey entryId).guards adjustment.id, row.forUpdate ∈ held) :
    ValuesMoved held before (before.addAdjustment adjustment) where
  refunds row listed := ⟨row, listed, rfl, rfl⟩
  attempts row listed := ⟨row, listed, rfl⟩
  values value rowId := by
    cases value with
    | eventKey key => exact .inl Iff.rfl
    | refundKey orderId => exact .inl Iff.rfl
    | paymentId text => exact .inl Iff.rfl
    | refundId text => exact .inl Iff.rfl
    | reversalKey other =>
      by_cases same : other = entryId
      · subst same
        exact .inr guarded
      · apply Or.inl
        simp only [mem_carriers_reversalKey, Tables.addAdjustment, List.mem_append, List.mem_singleton]
        constructor
        · rintro ⟨row, listed | rfl, own, carries⟩
          · exact ⟨row, listed, own, carries⟩
          · exact absurd (settlementReversalKey_injective (carries.symm.trans key)) same
        · rintro ⟨row, listed, own, carries⟩
          exact ⟨row, .inl listed, own, carries⟩

theorem addWebhookEvent_moved (event : PaymentWebhookEvent)
    (guarded : (Row.value (.eventKey event.eventKey)).forUpdate ∈ held) :
    ValuesMoved held before (before.addWebhookEvent event) where
  refunds row listed := ⟨row, listed, rfl, rfl⟩
  attempts row listed := ⟨row, listed, rfl⟩
  values value rowId := by
    cases value with
    | refundKey orderId => exact .inl Iff.rfl
    | reversalKey entryId => exact .inl Iff.rfl
    | paymentId text => exact .inl Iff.rfl
    | refundId text => exact .inl Iff.rfl
    | eventKey other =>
      by_cases same : other = event.eventKey
      · subst same
        exact .inr (by simpa [UniqueValue.guards] using guarded)
      · apply Or.inl
        simp only [mem_carriers_eventKey, Tables.addWebhookEvent, List.mem_append, List.mem_singleton]
        constructor
        · rintro ⟨row, listed | rfl, own, carries⟩
          · exact ⟨row, listed, own, carries⟩
          · exact absurd carries.symm same
        · rintro ⟨row, listed, own, carries⟩
          exact ⟨row, .inl listed, own, carries⟩

/-- An attempt is written by whoever holds it and the payment ids it takes and gives up. -/
theorem putAttempt_moved (ids : Unique PaymentAttempt.id before.paymentAttempts)
    (listed : old ∈ before.paymentAttempts) (same : old.id = new.id) (locked : (Row.attempt new.id).forUpdate ∈ held)
    (guarded : new.providerPaymentId ≠ old.providerPaymentId →
      ∀ text, (new.providerPaymentId = some text ∨ old.providerPaymentId = some text) →
        (Row.value (.paymentId text)).forUpdate ∈ held) :
    ValuesMoved held before (before.putAttempt new) where
  refunds row listed := ⟨row, listed, rfl, rfl⟩
  attempts := by
    intro row inside
    by_cases own : row.id = new.id
    · exact ⟨new, mem_put.mpr (.inl ⟨rfl, row, inside, own⟩), own.symm⟩
    · exact ⟨row, mem_put.mpr (.inr ⟨inside, own⟩), rfl⟩
  values value rowId := by
    cases value with
    | eventKey key => exact .inl Iff.rfl
    | refundKey orderId => exact .inl Iff.rfl
    | reversalKey entryId => exact .inl Iff.rfl
    | refundId text => exact .inl Iff.rfl
    | paymentId text =>
      simp only [mem_carriers_paymentId, Tables.putAttempt]
      rcases carries_put ids listed same guarded text rowId with kept | ⟨rfl, held⟩
      · exact .inl kept
      · exact .inr (by simpa [UniqueValue.guards] using ⟨held, locked⟩)

/-- A refund is written by whoever holds it and the provider id it takes or gives up. -/
theorem putRefund_moved (ids : Unique PaymentRefund.id before.paymentRefunds)
    (listed : old ∈ before.paymentRefunds) (same : old.id = new.id)
    (key : new.idempotencyKey = old.idempotencyKey) (locked : (Row.refund new.id).forUpdate ∈ held)
    (guarded : new.providerRefundId ≠ old.providerRefundId →
      ∀ text, (new.providerRefundId = some text ∨ old.providerRefundId = some text) →
        (Row.value (.refundId text)).forUpdate ∈ held) :
    ValuesMoved held before (before.putRefund new) where
  refunds := by
    intro row inside
    by_cases own : row.id = new.id
    · rw [unique_eq ids inside listed (own.trans same.symm)]
      exact ⟨new, mem_put.mpr (.inl ⟨rfl, old, listed, same⟩), same.symm, key⟩
    · exact ⟨row, mem_put.mpr (.inr ⟨inside, own⟩), rfl, rfl⟩
  attempts row inside := ⟨row, inside, rfl⟩
  values value rowId := by
    cases value with
    | eventKey key => exact .inl Iff.rfl
    | reversalKey entryId => exact .inl Iff.rfl
    | paymentId text => exact .inl Iff.rfl
    | refundKey orderId =>
      apply Or.inl
      simp only [mem_carriers_refundKey, Tables.putRefund]
      by_cases own : rowId = new.id
      · subst own
        rw [carries_put_own listed same, carries_own ids listed same, key]
      · exact carries_put_other own
    | refundId text =>
      simp only [mem_carriers_refundId, Tables.putRefund]
      rcases carries_put ids listed same guarded text rowId with kept | ⟨rfl, held⟩
      · exact .inl kept
      · exact .inr (by simpa [UniqueValue.guards] using ⟨held, locked⟩)

end GaonOne
