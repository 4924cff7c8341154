import GaonOne.PaymentSteps

/-! The dispatcher's own transactions, and from them one step of the running
system: whatever happens next, the tables stay coherent, and every order's file
takes one step of the lifecycle that the action accounts for. -/
namespace GaonOne
open Relational UnitOfWork Transitions

variable {tables : Tables} {world : World} {env : Environment}

/-! ## Claim and record -/

/-- What a granted claim says of the row it was granted on. -/
theorem claimRefund_some (ran : claimRefund settings db refundId now = (result, some claim)) :
    ∃ refund paymentId, db.flushed.refund? refundId = some refund ∧
      refund.status ∈ dispatchableRefundStatuses ∧ refund.attemptCount < maxRefundAttempts ∧
      configured refund.providerPaymentId = some paymentId ∧ razorpayEnabled settings ∧
      claim = ⟨refundId, paymentId, refund.amount, refund.idempotencyKey, uuidText refund.orderId⟩ ∧
      result = db.write (·.putRefund
        { refund with status := .processing, attemptCount := refund.attemptCount + 1 }) := by
  unfold claimRefund at ran
  split at ran
  · cases ran
  · next refund held =>
    split at ran
    · cases ran
    · next dispatchable =>
      split at ran
      · cases ran
      · next below =>
        split at ran
        · cases ran
        · next paymentId payment =>
          split at ran
          · next enabled =>
            cases ran
            exact ⟨refund, paymentId, held, not_not.mp dispatchable, Nat.lt_of_not_le below, payment,
              enabled, rfl, rfl⟩
          · cases ran

section
variable (coherent : tables.Coherent)
include coherent

theorem refund_frame (held : tables.refund? refundId = some refund) :
    Frame tables refund.orderId tables (tables.file refund.orderId) ∧
      (tables.file refund.orderId).refund = some refund :=
  ⟨Frame.refl coherent _, coherent.file_refund (lookup_mem held)⟩

theorem claimRefund_moves :
    Moves (fun _ event => event = .unchanged ∨ event = .refundClaimed ∨ event = .refundGivenUp)
      tables (claimRefund settings (Session.start tables) refundId now).1.pending := by
  unfold claimRefund
  split
  · exact Moves.unchanged coherent fun _ => Or.inl rfl
  · next refund held =>
    obtain ⟨start, owed⟩ := refund_frame coherent held
    have unused := ProviderRefundUnused.of_mem coherent (lookup_mem held)
    split
    · exact Moves.unchanged coherent fun _ => Or.inl rfl
    · next dispatchable =>
      split
      · exact Moves.unchanged coherent fun _ => Or.inl rfl
      · next below =>
        have open_ := not_not.mp dispatchable
        have under := Nat.lt_of_not_le below
        split
        · exact ⟨_, _, .refundGivenUp, start.putRefund owed rfl rfl rfl unused,
            Or.inr (Or.inr rfl), .refundGivenUp owed open_ under _ _ now⟩
        · next paymentId payment =>
          split
          · exact ⟨_, _, .refundClaimed, start.putRefund owed rfl rfl rfl unused,
              Or.inr (Or.inl rfl), .refundClaimed owed open_ under payment⟩
          · exact ⟨_, _, .refundGivenUp, start.putRefund owed rfl rfl rfl unused,
              Or.inr (Or.inr rfl), .refundGivenUp owed open_ under _ refund.attemptCount now⟩

/-- What recording a provider result does to a file. -/
def resultEvent (env : Environment) : ProviderResult → FileEvent
  | .error _ => .refundErrored
  | .ok payload => .refundReported ((Json.get payload "status").text env.print)

omit coherent in
/-- Voiding keeps the refund rows, or takes the whole transaction back. -/
theorem voidSettlementForRefund_refunds (db : DbSession) (order : Order) (reason : String)
    (draws : Draws) :
    (voidSettlementForRefund db order reason draws).pending.paymentRefunds =
        db.pending.paymentRefunds ∨
      (voidSettlementForRefund db order reason draws).pending = db.committed := by
  unfold voidSettlementForRefund
  split
  · exact Or.inl rfl
  · dsimp only
    split
    · exact Or.inl rfl
    · exact Or.inl rfl
    · split
      · exact Or.inl rfl
      · unfold flushOrRollback
        split
        · exact Or.inl rfl
        · exact Or.inr rfl

omit coherent in
/-- Folding a result in writes the one refund row, or takes everything back. -/
theorem applyProviderRefundResult_refunds (env : Environment) (db : DbSession)
    (refund : PaymentRefund) (payload : List (String × Json)) (draws : Draws) :
    (∃ saved : PaymentRefund, saved.id = refund.id ∧
      saved.providerRefundId = (reportedRefund refund ((Json.get payload "id").text env.print)
        ((Json.get payload "status").text env.print)).providerRefundId ∧
      (applyProviderRefundResult env db refund payload draws).pending.paymentRefunds =
        put PaymentRefund.id saved db.pending.paymentRefunds) ∨
      (applyProviderRefundResult env db refund payload draws).pending = db.committed := by
  unfold applyProviderRefundResult
  generalize (Json.get payload "id").text env.print = providerRefundId
  generalize (Json.get payload "status").text env.print = providerStatus
  have twice : ∀ saved : PaymentRefund, saved.id = refund.id →
      put PaymentRefund.id saved (put PaymentRefund.id
          (reportedRefund refund providerRefundId providerStatus) db.pending.paymentRefunds) =
        put PaymentRefund.id saved db.pending.paymentRefunds :=
    fun saved same => put_put (reportedRefund refund providerRefundId providerStatus) same.symm _
  let confirmed := succeededRefund (reportedRefund refund providerRefundId providerStatus)
    providerStatus draws.now
  dsimp only
  split
  · unfold markSucceeded
    dsimp only
    split
    · exact Or.inl ⟨confirmed, rfl, rfl, twice confirmed rfl⟩
    · split
      · exact Or.inl ⟨confirmed, rfl, rfl, twice confirmed rfl⟩
      · unfold settleRefundedOrder
        rcases voidSettlementForRefund_refunds _ _ voidReasonRefunded draws with kept | undone
        · exact Or.inl ⟨confirmed, rfl, rfl, kept.trans (twice confirmed rfl)⟩
        · exact Or.inr undone
  · split
    · exact Or.inl ⟨failedRefund (reportedRefund refund providerRefundId providerStatus)
        "Razorpay reported the refund as failed" draws.now, rfl, rfl, twice _ rfl⟩
    · exact Or.inl ⟨{ reportedRefund refund providerRefundId providerStatus with
        status := .processing }, rfl, rfl, twice _ rfl⟩

/-- An answer that names another row's refund cannot be committed. -/
theorem recordRefund_moves (fresh : result.isOk → draws.Fresh tables)
    (constraints : (recordRefund env (Session.start tables) claim result draws).pending.Constraints) :
    Moves (fun orderId event => event = .unchanged ∨ ∃ refund,
        tables.refund? claim.refundId = some refund ∧ refund.orderId = orderId ∧
          event = resultEvent env result)
      tables (recordRefund env (Session.start tables) claim result draws).pending := by
  unfold recordRefund at constraints ⊢
  cases held : tables.refund? claim.refundId with
  | none => simpa only [held] using Moves.unchanged coherent fun _ => Or.inl rfl
  | some refund =>
    obtain ⟨start, owed⟩ := refund_frame coherent held
    have member := lookup_mem held
    have unused := ProviderRefundUnused.of_mem coherent member
    simp only [held] at constraints ⊢
    cases result with
    | error message =>
      exact ⟨_, _, .refundErrored, start.putRefund owed rfl rfl rfl unused,
        Or.inr ⟨refund, rfl, rfl, rfl⟩, .refundErrored owed message draws.now⟩
    | ok payload =>
      rcases applyProviderRefundResult_refunds env (Session.start tables) refund payload draws with
        ⟨saved, sameId, sameRefund, refunds⟩ | undone
      · obtain ⟨order, placed, own⟩ := coherent.refundParents refund member
        have orderHeld : (tables.file refund.orderId).order = some order :=
          (lookup_eq_some_iff coherent.orderIds).mpr ⟨placed, own⟩
        have accepted := constraints.refundProviderRefunds
        rw [refunds] at accepted
        obtain ⟨next, last, step⟩ := applyProviderRefundResult_frame env
          (Session.start tables) payload draws start owed orderHeld ⟨rfl, rfl, rfl⟩
          (fun id set other inside clash => (unused_of_uniqueWhenSet_put member sameId.symm accepted
            (sameRefund.trans set) other inside clash).trans sameId)
          (fresh rfl).adjustment
        exact ⟨_, next, _, last, Or.inr ⟨refund, rfl, rfl, rfl⟩, step⟩
      · rw [undone]
        exact Moves.unchanged coherent fun _ => Or.inl rfl

theorem clearAttempts_moves :
    Moves (fun _ event => event = .unchanged ∨ event = .refundCleared) tables
      (clearAttempts (Session.start tables) refundId clears).pending := by
  unfold clearAttempts
  split
  · next refund held =>
    obtain ⟨start, owed⟩ := refund_frame coherent held
    have unused := ProviderRefundUnused.of_mem coherent (lookup_mem held)
    exact ⟨_, _, .refundCleared, start.putRefund owed rfl rfl rfl unused, Or.inr rfl,
      .refundCleared owed⟩
  · exact Moves.unchanged coherent fun _ => Or.inl rfl

theorem payOut_moves (entered : lookup SettlementEntry.id entryId tables.settlementEntries = some entry)
    (pending : entry.status = .pending) (now : Instant) :
    Moves (Takes .paidOut) tables
      (tables.putSettlement { entry with status := .settled, settledAt := some now }) := by
  have recorded := coherent.file_settlement (lookup_mem entered)
  exact ⟨_, _, .paidOut, (Frame.refl coherent entry.orderId).putSettlement recorded rfl rfl, rfl,
    .paidOut recorded pending now⟩

theorem editCatalogue_moves
    (constraints : Tables.Constraints { tables with catalogue := catalogue }) :
    Moves (Takes .unchanged) tables { tables with catalogue := catalogue } := by
  have edited : Tables.Coherent { tables with catalogue := catalogue } :=
    { constraints with
      refundKeysOf := coherent.refundKeysOf
      collectionOwners := coherent.collectionOwners
      adjustmentEntries := coherent.adjustmentEntries }
  exact ⟨0, _, .unchanged, (Frame.refl coherent 0).of_same edited (fun _ => rfl) rfl, rfl, .unchanged⟩

end
end GaonOne
