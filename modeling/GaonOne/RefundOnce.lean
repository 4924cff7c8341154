import GaonOne.RefundProcesses

/-! A refund is paid at most once. Whoever dispatches it, and however often, the provider
is asked with the key, the payment and the amount of the order's one obligation; the
key survives the provider's alphabet, so that it stays the order's own. -/
namespace GaonOne
open Relational UnitOfWork Transitions System

variable {env : Environment} {world : World} {tables : Tables}

/-! ## Keys -/

/-- The keys of two orders differ in the provider's alphabet too. -/
theorem providerIdempotencyKey_injective
    (same : providerIdempotencyKey (refundIdempotencyKey left) =
      providerIdempotencyKey (refundIdempotencyKey right)) : left = right := by
  have texts := congrArg String.toList same
  simp only [providerIdempotencyKey, refundIdempotencyKey] at texts
  rw [Text.replace_append_absent _ _ _ (colon_notMem_uuidText left),
    Text.replace_append_absent _ _ _ (colon_notMem_uuidText right)] at texts
  exact uuidText_injective (String.toList_inj.mp (List.append_cancel_left texts))

/-! ## Claims and calls of an obligation -/

/-- The claim was made on this obligation. -/
structure RefundClaim.Of (claim : RefundClaim) (refund : PaymentRefund) : Prop where
  refundId : claim.refundId = refund.id
  payment : configured refund.providerPaymentId = some claim.providerPaymentId
  amount : claim.amount = refund.amount
  key : claim.idempotencyKey = refund.idempotencyKey
  note : claim.orderNote = uuidText refund.orderId

/-- The call asks the provider for this obligation. -/
structure RefundCall.Of (call : RefundCall) (refund : PaymentRefund) : Prop where
  payment : configured refund.providerPaymentId = some call.providerPaymentId
  amount : call.amount = refund.amount
  key : call.idempotencyKey = providerIdempotencyKey refund.idempotencyKey
  note : call.orderNote = uuidText refund.orderId

theorem RefundClaim.Of.kept {refund kept : PaymentRefund} (claims : RefundClaim.Of claim refund)
    (same : SameObligation refund kept) : RefundClaim.Of claim kept where
  refundId := claims.refundId.trans same.id.symm
  payment := same.providerPaymentId ▸ claims.payment
  amount := claims.amount.trans same.amount.symm
  key := claims.key.trans same.idempotencyKey.symm
  note := same.orderId ▸ claims.note

theorem RefundCall.Of.kept {refund kept : PaymentRefund} (calls : RefundCall.Of call refund)
    (same : SameObligation refund kept) : RefundCall.Of call kept where
  payment := same.providerPaymentId ▸ calls.payment
  amount := calls.amount.trans same.amount.symm
  key := same.idempotencyKey ▸ calls.key
  note := same.orderId ▸ calls.note

/-- A call made with a claim is for the claim's obligation. -/
theorem RefundClaim.Of.called {refund : PaymentRefund} {call : RefundCall}
    (claims : RefundClaim.Of claim refund)
    (called : claim.call settings = some call) : RefundCall.Of call refund := by
  unfold RefundClaim.call refundCall at called
  split at called
  · cases called
    exact ⟨claims.payment, (amountToSubunits_ofCents _).trans claims.amount,
      congrArg providerIdempotencyKey claims.key, claims.note⟩
  · cases called

/-- A granted claim is on a row of record. -/
theorem claimRefund_of (granted : (claimRefund settings (Session.start tables) refundId now).2 =
    some claim) : ∃ refund ∈ tables.paymentRefunds, RefundClaim.Of claim refund := by
  obtain ⟨refund, paymentId, held, -, -, payment, -, rfl, -⟩ :=
    claimRefund_some (Prod.ext rfl granted)
  exact ⟨refund, lookup_mem held, (lookup_col held).symm, payment, rfl, rfl, rfl⟩

/-! ## Every reachable world -/

/-- An obligation on record is on record after every step. -/
theorem World.obligation_kept (reached : Reachable (system env) world) (action : Action)
    (recorded : refund ∈ world.tables.paymentRefunds) :
    ∃ kept ∈ (world.step env action).tables.paymentRefunds, SameObligation refund kept := by
  obtain ⟨event, -, step⟩ := step_file reached action refund.orderId
  obtain ⟨kept, owed, same⟩ := step.obligation ((reachable_coherent reached).file_refund recorded)
  exact ⟨kept, (file_refund_mem owed).1, same⟩

/-- Everything that is or was asked of the provider is asked for an obligation on record,
and no key is carried out twice. -/
structure World.Obliged (world : World) : Prop where
  claims : ∀ index claim, world.HoldsAt index claim →
    ∃ refund ∈ world.tables.paymentRefunds, RefundClaim.Of claim refund
  calls : ∀ call ∈ world.provider.calls,
    ∃ refund ∈ world.tables.paymentRefunds, RefundCall.Of call refund
  executed : world.provider.executed ⊆ world.provider.calls
  once : world.provider.executed.Pairwise fun earlier later =>
    earlier.idempotencyKey ≠ later.idempotencyKey

theorem Provider.receive_calls (provider : Provider) (call : RefundCall) (accepts : Bool) :
    (provider.receive call accepts).calls = provider.calls ++ [call] := rfl

/-- What a call adds to the refunds carried out is itself, under a key of its own. -/
theorem Provider.receive_executed (provider : Provider) (call : RefundCall) (accepts : Bool) :
    (provider.receive call accepts).executed = provider.executed ∨
      ((provider.receive call accepts).executed = provider.executed ++ [call] ∧
        ∀ earlier ∈ provider.executed, earlier.idempotencyKey ≠ call.idempotencyKey) := by
  unfold Provider.receive
  dsimp only
  split
  · next taken => exact Or.inr ⟨rfl, taken.2⟩
  · exact Or.inl rfl

theorem reachable_obliged (reached : Reachable (system env) world) : world.Obliged := by
  refine reached.invariant_given (Q := Reachable (system env)) ?_ (fun _ held => held) ?_
  · refine ⟨?_, by simp [system, World.empty], by simp [system, World.empty],
      by simp [system, World.empty]⟩
    rintro index claim ⟨process, found, -⟩
    simp [system, World.empty] at found
  · intro world action before obliged _
    have keeps : ∀ {claim}, (∃ refund ∈ world.tables.paymentRefunds, RefundClaim.Of claim refund) →
        ∃ refund ∈ (world.step env action).tables.paymentRefunds, RefundClaim.Of claim refund := by
      rintro claim ⟨refund, recorded, claims⟩
      obtain ⟨kept, still, same⟩ := World.obligation_kept before action recorded
      exact ⟨kept, still, claims.kept same⟩
    have called : ∀ {call}, (∃ refund ∈ world.tables.paymentRefunds, RefundCall.Of call refund) →
        ∃ refund ∈ (world.step env action).tables.paymentRefunds, RefundCall.Of call refund := by
      rintro call ⟨refund, recorded, calls⟩
      obtain ⟨kept, still, same⟩ := World.obligation_kept before action recorded
      exact ⟨kept, still, calls.kept same⟩
    have claims : ∀ index claim, (world.step env action).HoldsAt index claim →
        ∃ refund ∈ (world.step env action).tables.paymentRefunds, RefundClaim.Of claim refund := by
      intro index claim holds
      rcases World.step_holds env world action holds with held | ⟨_, _, _, _, -, -, granted⟩
      · exact keeps (obliged.claims index claim held)
      · exact keeps (claimRefund_of granted)
    change World.Obliged (world.step env action)
    rcases World.step_provider env world action with same |
      ⟨index, settings, rest, claim, accepts, response, call, -, standing, calling, -, received⟩
    · refine ⟨claims, ?_, ?_, ?_⟩
      · rw [same]
        exact fun call member => called (obliged.calls call member)
      · rw [same]
        exact obliged.executed
      · rw [same]
        exact obliged.once
    · refine ⟨claims, ?_, ?_, ?_⟩
      · rw [received, Provider.receive_calls]
        intro other member
        rcases List.mem_append.mp member with earlier | last
        · exact called (obliged.calls other earlier)
        · rw [List.mem_singleton.mp last]
          obtain ⟨refund, recorded, of⟩ := obliged.claims index claim ⟨_, standing, rfl⟩
          exact called ⟨refund, recorded, of.called calling⟩
      · rw [received, Provider.receive_calls]
        rcases Provider.receive_executed world.provider call accepts with none | ⟨added, -⟩
        · rw [none]
          exact fun other member => List.mem_append_left _ (obliged.executed member)
        · rw [added]
          exact List.append_subset.mpr ⟨fun other member =>
            List.mem_append_left _ (obliged.executed member), List.subset_append_right _ _⟩
      · rw [received]
        rcases Provider.receive_executed world.provider call accepts with none | ⟨added, apart⟩
        · rw [none]
          exact obliged.once
        · rw [added, List.pairwise_append]
          exact ⟨obliged.once, List.pairwise_singleton _ _, fun earlier member last only => by
            rw [List.mem_singleton.mp only]
            exact apart earlier member⟩

/-! ## One refund for one order -/

/-- The calls that name an order. -/
def World.callsFor (world : World) (orderId : UUID) : List RefundCall :=
  world.provider.calls.filter fun call => call.orderNote = uuidText orderId

/-- The refunds that were carried out for an order. -/
def World.executedFor (world : World) (orderId : UUID) : List RefundCall :=
  world.provider.executed.filter fun call => call.orderNote = uuidText orderId

/-- One refund row for an order, one key, payment and amount in all calls for it, and at
most one of them carried out. -/
structure World.RefundsOnce (world : World) : Prop where
  rows : ∀ orderId, (belonging PaymentRefund.orderId orderId world.tables.paymentRefunds).length ≤ 1
  named : ∀ call ∈ world.provider.calls, ∃ order ∈ world.tables.orders, call ∈ world.callsFor order.id
  key : ∀ orderId, ∀ call ∈ world.callsFor orderId,
    call.idempotencyKey = providerIdempotencyKey (refundIdempotencyKey orderId)
  payment : ∀ orderId, ∀ call ∈ world.callsFor orderId, ∀ other ∈ world.callsFor orderId,
    other.providerPaymentId = call.providerPaymentId
  amount : ∀ order ∈ world.tables.orders, ∀ call ∈ world.callsFor order.id, call.amount = order.total
  apart : ∀ left right, left ≠ right → ∀ call ∈ world.callsFor left, ∀ other ∈ world.callsFor right,
    call.idempotencyKey ≠ other.idempotencyKey
  executed : ∀ orderId, (world.executedFor orderId).length ≤ 1

/-- A list whose entries differ by a value they all share has one entry at most. -/
theorem length_le_one_of_pairwise_ne {rows : List α} (col : α → β) (value : β)
    (apart : rows.Pairwise fun first second => col first ≠ col second)
    (same : ∀ row ∈ rows, col row = value) : rows.length ≤ 1 := by
  cases rows with
  | nil => simp
  | cons first rest =>
    cases rest with
    | nil => simp
    | cons second rest =>
      have differ := (List.pairwise_cons.mp apart).1 second List.mem_cons_self
      refine absurd ?_ differ
      rw [same first List.mem_cons_self, same second (by simp)]

/-- A call for an order is made for the order's obligation. -/
theorem World.Obliged.callsFor (obliged : world.Obliged) (member : call ∈ world.callsFor orderId) :
    ∃ refund ∈ world.tables.paymentRefunds, refund.orderId = orderId ∧ RefundCall.Of call refund := by
  obtain ⟨made, note⟩ := List.mem_filter.mp member
  obtain ⟨refund, recorded, of⟩ := obliged.calls call made
  exact ⟨refund, recorded, uuidText_injective (of.note.symm.trans (of_decide_eq_true note)), of⟩

/-- However refunds are dispatched, retried and reported, an order is refunded once. -/
theorem orders_are_refunded_once (reached : Reachable (system env) world) : world.RefundsOnce := by
  have coherent := reachable_coherent reached
  have obliged := reachable_obliged reached
  have key : ∀ orderId, ∀ call ∈ world.callsFor orderId,
      call.idempotencyKey = providerIdempotencyKey (refundIdempotencyKey orderId) := by
    intro orderId call member
    obtain ⟨refund, recorded, rfl, of⟩ := obliged.callsFor member
    rw [of.key, coherent.refundKeysOf refund recorded]
  refine ⟨fun orderId => ?_, fun call made => ?_, key, fun orderId call member other second => ?_,
    fun order held call member => ?_, fun left right differ call member other second same => ?_,
    fun orderId => ?_⟩
  · refine length_le_one_of_pairwise_ne PaymentRefund.orderId orderId ?_ fun refund member =>
      (mem_belonging.mp member).2
    have orders := coherent.refundOrders
    rw [Relational.Unique, List.Nodup, List.pairwise_map] at orders
    exact orders.sublist List.filter_sublist
  · obtain ⟨refund, recorded, of⟩ := obliged.calls call made
    obtain ⟨order, held, own⟩ := coherent.refundParents refund recorded
    exact ⟨order, held, List.mem_filter.mpr ⟨made, decide_eq_true (own ▸ of.note)⟩⟩
  · obtain ⟨refund, recorded, rfl, of⟩ := obliged.callsFor member
    obtain ⟨again, recorded', parent, of'⟩ := obliged.callsFor second
    have sole := unique_eq coherent.refundOrders recorded' recorded parent
    subst sole
    exact Option.some.inj (of'.payment.symm.trans of.payment)
  · obtain ⟨refund, recorded, own, of⟩ := obliged.callsFor member
    have owed := own ▸ coherent.file_refund recorded
    rw [of.amount, ((order_sound reached held).refund refund owed).2]
  · rw [key left call member, key right other second] at same
    exact differ (providerIdempotencyKey_injective same)
  · refine length_le_one_of_pairwise_ne RefundCall.idempotencyKey _ (obliged.once.sublist
      List.filter_sublist) fun call member => key orderId call ?_
    obtain ⟨done, note⟩ := List.mem_filter.mp member
    exact List.mem_filter.mpr ⟨obliged.executed done, note⟩

/-- The dispatcher's first attempt times out at the provider's side of a refund that was
carried out; the administrator's retry asks again. -/
def retriedRefund : List Action :=
  cancelledPaidOrder ++ [.dispatchDueRefunds sampleSettings 10 none, .claimNext 0 5000,
    .callProvider 0 true .unreachable, .recordAnswer 0 (sampleDraws 5),
    .retryRefund sampleSettings 3 4, .commitRetry 1, .claimNext 1 6000,
    .callProvider 1 true (.answered 200 refundAnswer.body), .recordAnswer 1 (sampleDraws 6)]

theorem orders_are_refunded_once_retried :
    (sampleWorld retriedRefund).provider.calls.length = 2 ∧
      (sampleWorld retriedRefund).RefundsOnce :=
  ⟨by decide +kernel, orders_are_refunded_once (sampleWorld_reachable retriedRefund)⟩

end GaonOne
