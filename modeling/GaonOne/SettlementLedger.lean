import GaonOne.RefundFinality

/-! The settlement ledger over whole runs. A pending entry is owed as long as nobody
cancels the order under it; a reversal happens once, and closes the books of the order. -/
namespace GaonOne
open Relational Transitions System

variable {env : Environment} {world : World} {tables : Tables} {file next : OrderFile}

theorem RefundEnsured.keptLedger (ensured : RefundEnsured attempt file next) :
    next.settlement = file.settlement ∧ next.adjustments = file.adjustments := by
  cases ensured <;> exact ⟨rfl, rfl⟩

/-! ## Pending entries -/

/-- The order of a pending entry is paid, not cancelled, and owes no refund. -/
def OrderFile.PendingOwed (file : OrderFile) : Prop :=
  ∀ entry, file.settlement = some entry → entry.status = .pending → ∃ order,
    file.order = some order ∧ order.paymentStatus = .paid ∧ order.status ≠ .cancelled ∧
      file.refund = none

theorem SettlementEnsured.pendingOwed (ensured : SettlementEnsured file next)
    (owed : file.PendingOwed) : next.PendingOwed := by
  cases ensured with
  | onRecord | withheld => exact owed
  | entered held paid live free =>
    intro entry entered pending
    exact ⟨_, held, paid, live, free⟩

/-- No entry is left pending where the money went back. -/
theorem SettlementVoided.unpending (voided : SettlementVoided file next)
    (entered : next.settlement = some entry) : entry.status ≠ .pending := by
  cases voided with
  | absent missing => simp [missing] at entered
  | kept held void =>
    cases held.symm.trans entered
    simp [void]
  | voided held pending reason now =>
    cases entered
    simp
  | repeated held settled | reversed held settled =>
    cases held.symm.trans entered
    simp [settled]

/-- Every step keeps pending entries owed, but for the cancellation of an order that has one. -/
theorem FileStep.pendingOwed (step : FileStep event file next) (sound : file.Sound)
    (owed : file.PendingOwed)
    (spared : event = .cancelled → ∀ entry, file.settlement = some entry → entry.status ≠ .pending) :
    next.PendingOwed := by
  have unrefunded : ∀ {refund}, file.refund = some refund → ∀ entry, file.settlement = some entry →
      entry.status ≠ .pending := by
    intro refund recorded entry entered pending
    obtain ⟨_, -, -, -, free⟩ := owed entry entered pending
    simp [free] at recorded
  have repaid : ∀ {order later : Order}, file.order = some order → next.settlement = file.settlement →
      next.refund = file.refund → next.order = some later →
      (order.paymentStatus = .paid → order.status ≠ .cancelled →
        later.paymentStatus = .paid ∧ later.status ≠ .cancelled) → next.PendingOwed := by
    intro order later held sameEntry sameRefund current kept entry entered pending
    obtain ⟨order', held', paid, live, free⟩ := owed entry (sameEntry ▸ entered) pending
    cases held.symm.trans held'
    exact ⟨later, current, (kept paid live).1, (kept paid live).2, sameRefund.trans free⟩
  cases step with
  | unchanged | assigned | assignedUnclaimed | released | failed | proofChanged | collected
  | resumed | intended | capturedLate => exact owed
  | placed order delivery absent =>
    have empty := sound.unplaced absent
    subst empty
    intro entry entered
    cases entered
  | @advanced order status _ held target =>
    refine repaid held rfl rfl rfl fun paid _ => ⟨paid, fun cancelled => ?_⟩
    simp [show status = .cancelled from cancelled] at target
  | cancelled held allowed restoredAt ensured =>
    intro entry entered pending
    rw [ensured.keptLedger.1] at entered
    exact absurd pending (spared rfl entry entered)
  | pickedUp held =>
    exact repaid held rfl rfl rfl fun paid _ => ⟨paid, by simp⟩
  | returned held carried failed out uncollected restoredAt voided ensured =>
    intro entry entered pending
    rw [ensured.keptLedger.1] at entered
    exact absurd pending (voided.unpending entered)
  | completed held carried custody out gate proved verified collected now ensured =>
    refine ensured.pendingOwed fun entry entered pending => ?_
    obtain ⟨_, -, -, -, free⟩ := owed entry entered pending
    exact ⟨_, rfl, rfl, by simp, free⟩
  | captured held attempted onTime now ensured =>
    refine ensured.pendingOwed fun entry entered pending => ?_
    obtain ⟨order, held', -, live, free⟩ := owed entry entered pending
    cases held.symm.trans held'
    exact ⟨_, rfl, rfl, live, free⟩
  | capturedAfterCancellation held attempted cancelled unrefunded now ensured =>
    intro entry entered pending
    rw [ensured.keptLedger.1] at entered
    obtain ⟨order, held', -, live, -⟩ := owed entry entered pending
    cases held.symm.trans held'
    exact absurd cancelled live
  | settlementChecked held onTime ensured => exact ensured.pendingOwed owed
  | paymentFailed held attempted live unpaid now =>
    intro entry entered pending
    obtain ⟨order, held', paid, -, -⟩ := owed entry entered pending
    cases held.symm.trans held'
    rcases unpaid with unpaid | unpaid <;> simp [unpaid] at paid
  | refundClaimed recorded | refundGivenUp recorded | refundErrored recorded | refundFailed recorded
  | refundPending recorded | refundRepeated recorded | refundCleared recorded =>
    exact fun entry entered pending => absurd pending (unrefunded recorded entry entered)
  | refundSucceeded recorded held first providerRefundId now voided =>
    exact fun entry entered pending => absurd pending (voided.unpending entered)
  | paidOut entered' pending' now =>
    intro entry entered pending
    cases entered
    cases pending

/-- The order that is about to be cancelled has no pending entry. -/
def World.sparesPending (world : World) (action : Action) : Prop :=
  ∀ order ∈ world.cancelling action, ∀ entry ∈ world.tables.settlementEntries,
    entry.orderId = order.id → entry.status ≠ .pending

instance (world : World) (action : Action) : Decidable (world.sparesPending action) :=
  inferInstanceAs (Decidable (∀ _ ∈ _, _))

/-- A payout over the pending entries pays for eligible orders only. -/
def World.PendingOwed (world : World) : Prop :=
  ∀ entry ∈ world.tables.settlementEntries, entry.status = .pending →
    ∃ order ∈ world.tables.orders, order.id = entry.orderId ∧
      settlementIsEligible (UnitOfWork.Session.start world.tables) order

/-- While no order with a pending entry is cancelled, every pending entry is owed. -/
theorem pending_settlements_are_owed
    (reached : ReachableWhile (system env) World.sparesPending world) : world.PendingOwed := by
  have files : ∀ orderId, (world.tables.file orderId).PendingOwed := by
    refine reached.invariant_given (P := fun world => ∀ orderId, (world.tables.file orderId).PendingOwed)
      (Q := Reachable (system env)) (fun _ entry entered => by cases entered) (fun _ held => held) ?_
    intro state action before owed spared orderId
    obtain ⟨event, caused, step⟩ := step_cause before action orderId
    refine step.pendingOwed (reachable_sound before orderId) (owed orderId) fun cancelled entry entered => ?_
    obtain ⟨order, cancels, own⟩ := caused.cancelled cancelled
    exact spared order cancels entry (lookup_mem entered) ((lookup_col entered).trans own.symm)
  have coherent := reachable_coherent reached.reachable
  intro entry recorded pending
  obtain ⟨order, held, paid, live, free⟩ :=
    files entry.orderId entry (coherent.file_settlement recorded) pending
  have own : order.id = entry.orderId := lookup_col held
  exact ⟨order, lookup_mem held, own, paid, live, own ▸ free⟩

theorem pending_settlements_are_owed_paid :
    (∃ entry ∈ (sampleWorld paidOrder).tables.settlementEntries, entry.status = .pending) ∧
      (sampleWorld paidOrder).PendingOwed := by
  have spared : RunWhile (system sampleEnvironment) World.sparesPending World.empty paidOrder := by
    decide +kernel
  exact ⟨by decide +kernel, pending_settlements_are_owed (ReachableWhile.initial.run _ spared)⟩

/-- The customer cancels a paid order, and its merchant stays queued to be paid. -/
theorem cancellation_keeps_payable :
    Reachable (system sampleEnvironment) (sampleWorld cancelledPaidOrder) ∧
      ¬(sampleWorld cancelledPaidOrder).PendingOwed := by
  refine ⟨sampleWorld_reachable _, fun owed => ?_⟩
  have payable : ∃ entry ∈ (sampleWorld cancelledPaidOrder).tables.settlementEntries,
      entry.status = .pending ∧
        ∀ order ∈ (sampleWorld cancelledPaidOrder).tables.orders, order.status = .cancelled := by
    decide +kernel
  obtain ⟨entry, recorded, pending, cancelled⟩ := payable
  obtain ⟨order, held, -, -, live, -⟩ := owed entry recorded pending
  exact live (cancelled order held)

/-! ## Reversals -/

/-- The money of an order went back to its customer, or its goods to the store. -/
def Order.Undone (order : Order) : Prop := order.paymentStatus = .refunded ∨ order.status = .returned

/-- The books of an order: an adjustment reverses the entry that was paid out, once, and
an undone order keeps no claim on an entry that could still be, or was, paid out. -/
structure OrderFile.Booked (file : OrderFile) : Prop where
  adjusted : ∀ adjustment ∈ file.adjustments, ∃ entry, file.settlement = some entry ∧
    entry.status = .settled ∧ adjustment.idempotencyKey = settlementReversalKey entry.id ∧
    adjustment.amount = -entry.merchantAmount
  undone : file.adjustments ≠ [] → ∃ order, file.order = some order ∧ order.Undone
  once : file.adjustments.length ≤ 1
  reversed : ∀ order, file.order = some order → order.Undone → ∀ entry, file.settlement = some entry →
    entry.status ≠ .pending ∧ (entry.status = .settled → file.adjustments ≠ [])

/-- The books look at nothing but the ledger and at whether the order is undone. -/
theorem OrderFile.Booked.of_kept (booked : file.Booked) (settlement : next.settlement = file.settlement)
    (adjustments : next.adjustments = file.adjustments)
    (orders : ∀ order, file.order = some order → ∃ later, next.order = some later ∧
      (later.Undone ↔ order.Undone))
    (placed : next.settlement ≠ none → file.order ≠ none) : next.Booked where
  adjusted := by
    rw [adjustments, settlement]
    exact booked.adjusted
  undone := by
    rw [adjustments]
    intro made
    obtain ⟨order, held, undone⟩ := booked.undone made
    obtain ⟨later, current, same⟩ := orders order held
    exact ⟨later, current, same.mpr undone⟩
  once := adjustments ▸ booked.once
  reversed := by
    intro later current undone entry entered
    obtain ⟨order, held⟩ := Option.ne_none_iff_exists'.mp (placed (by simp [entered]))
    obtain ⟨later', current', same⟩ := orders order held
    cases current.symm.trans current'
    rw [adjustments]
    exact booked.reversed order held (same.mp undone) entry (settlement ▸ entered)

theorem RefundEnsured.keptUndone (ensured : RefundEnsured attempt file next)
    (held : file.order = some order) :
    ∃ later, next.order = some later ∧ (later.Undone ↔ order.Undone) := by
  cases ensured with
  | notOwed | onRecord => exact ⟨order, held, Iff.rfl⟩
  | recorded held' owes =>
    cases held.symm.trans held'
    refine ⟨_, rfl, ?_⟩
    rcases List.mem_pair.mp owes.2 with paid | pending
    · simp [Order.Undone, refundOwedStatus, paid]
    · simp [Order.Undone, refundOwedStatus, pending]

/-- Nothing is booked for an order that was never placed. -/
theorem OrderFile.Sound.placed_of_settlement (sound : file.Sound) (entered : file.settlement ≠ none) :
    file.order ≠ none := by
  intro absent
  rw [sound.unplaced absent] at entered
  exact entered rfl

/-- A new entry is for an order that stands. -/
theorem SettlementEnsured.booked (ensured : SettlementEnsured file next) (booked : file.Booked)
    (standing : ∀ order, file.order = some order → order.paymentStatus = .paid → ¬order.Undone) :
    next.Booked := by
  cases ensured with
  | onRecord | withheld => exact booked
  | entered held paid live free fresh store draws =>
    have unadjusted : file.adjustments = [] := by
      rw [List.eq_nil_iff_forall_not_mem]
      intro adjustment made
      obtain ⟨entry, entered, -⟩ := booked.adjusted adjustment made
      simp [fresh] at entered
    refine ⟨by simp [unadjusted], by simp [unadjusted], by simp [unadjusted], ?_⟩
    intro order held' undone
    cases held.symm.trans held'
    exact absurd undone (standing _ held paid)

/-- Taking the entitlement of an undone order away closes its books. -/
theorem SettlementVoided.booked (voided : SettlementVoided file next) (held : file.order = some order)
    (undone : order.Undone)
    (adjusted : ∀ adjustment ∈ file.adjustments, ∃ entry, file.settlement = some entry ∧
      entry.status = .settled ∧ adjustment.idempotencyKey = settlementReversalKey entry.id ∧
      adjustment.amount = -entry.merchantAmount)
    (once : file.adjustments.length ≤ 1) : next.Booked := by
  cases voided with
  | absent missing =>
    exact ⟨adjusted, fun _ => ⟨order, held, undone⟩, once, by simp [missing]⟩
  | kept held' void =>
    refine ⟨adjusted, fun _ => ⟨order, held, undone⟩, once, fun _ _ _ other entered => ?_⟩
    cases held'.symm.trans entered
    simp [void]
  | voided held' pending reason now =>
    have unadjusted : file.adjustments = [] := by
      rw [List.eq_nil_iff_forall_not_mem]
      intro adjustment made
      obtain ⟨other, entered, settled, -⟩ := adjusted adjustment made
      cases held'.symm.trans entered
      simp [pending] at settled
    refine ⟨by simp [unadjusted], by simp [unadjusted], once, fun _ _ _ other entered => ?_⟩
    cases entered
    simp
  | repeated held' settled recorded key =>
    refine ⟨adjusted, fun _ => ⟨order, held, undone⟩, once, fun _ _ _ other entered => ?_⟩
    cases held'.symm.trans entered
    exact ⟨by simp [settled], fun _ => List.ne_nil_of_mem recorded⟩
  | reversed held' settled first order' reason draws =>
    have unadjusted : file.adjustments = [] := by
      rw [List.eq_nil_iff_forall_not_mem]
      intro adjustment made
      obtain ⟨other, entered, -, key, -⟩ := adjusted adjustment made
      cases held'.symm.trans entered
      exact first adjustment made key
    refine ⟨?_, fun _ => ⟨order, held, undone⟩, by simp [unadjusted], fun _ _ _ other entered => ?_⟩
    · intro adjustment made
      rw [unadjusted, List.nil_append, List.mem_singleton] at made
      subst made
      exact ⟨_, held', settled, rfl, rfl⟩
    · cases held'.symm.trans entered
      exact ⟨by simp [settled], fun _ => by simp⟩

/-- Every step keeps the books. -/
theorem FileStep.booked (step : FileStep event file next) (sound : file.Sound) (booked : file.Booked) :
    next.Booked := by
  have placed := sound.placed_of_settlement
  cases step with
  | unchanged | assigned | assignedUnclaimed | released | failed | proofChanged | collected
  | resumed | intended | capturedLate | refundClaimed | refundGivenUp | refundErrored
  | refundFailed | refundPending | refundRepeated | refundCleared =>
    exact booked.of_kept rfl rfl (fun order held => ⟨order, held, Iff.rfl⟩) placed
  | placed order delivery absent =>
    have empty := sound.unplaced absent
    subst empty
    exact ⟨by simp, by simp, by simp, by simp⟩
  | @advanced order status _ held target allowed =>
    refine booked.of_kept rfl rfl (fun other held' => ⟨_, rfl, ?_⟩) placed
    cases held.symm.trans held'
    have before : order.status ≠ .returned := by
      rintro returned
      simp [returned, canTransitionOrder, orderTransitions] at allowed
    have after : status ≠ .returned := by
      rintro rfl
      simp at target
    simp [Order.Undone, before, after]
  | @cancelled order _ _ held allowed restoredAt ensured =>
    refine booked.of_kept ensured.keptLedger.1 ensured.keptLedger.2 (fun other held' => ?_)
      (fun entered => placed (ensured.keptLedger.1 ▸ entered))
    cases held.symm.trans held'
    obtain ⟨later, current, same⟩ := ensured.keptUndone rfl
    refine ⟨later, current, same.trans ?_⟩
    rcases canTransitionOrder_cancelled.mp allowed with early | early <;> simp [Order.Undone, early]
  | @pickedUp order _ _ held carried assigned ready =>
    refine booked.of_kept rfl rfl (fun other held' => ⟨_, rfl, ?_⟩) placed
    cases held.symm.trans held'
    simp [Order.Undone, ready]
  | returned held carried failed out uncollected restoredAt voided ensured =>
    have reversed := voided.booked rfl (Or.inr rfl) booked.adjusted booked.once
    refine reversed.of_kept ensured.keptLedger.1 ensured.keptLedger.2
      (fun other held' => ensured.keptUndone held') fun entered => ?_
    simp [voided.keptOrder]
  | @completed order _ _ _ _ held carried custody out gate proved verified collected now ensured =>
    have base := sound.placed order held
    have standing : ¬order.Undone := by
      rintro (refunded | returned)
      · rcases gate with cash | paid
        · simp [base.cash cash, out] at refunded
        · simp [paid] at refunded
      · simp [out] at returned
    refine ensured.booked (booked.of_kept rfl rfl (fun other held' => ⟨_, rfl, ?_⟩) fun entered => ?_) ?_
    · cases held.symm.trans held'
      simp only [standing, iff_false]
      simp [Order.Undone]
    · simp [held]
    · rintro _ ⟨⟩ -
      simp [Order.Undone]
  | @captured order _ _ _ _ held attempted onTime now ensured =>
    have base := sound.placed order held
    have unreturned : order.status ≠ .returned := by
      intro returned
      have back := base.broughtBack returned (base.online _ attempted)
      simp only [captureIsLate, List.mem_cons, List.not_mem_nil, or_false] at onTime back
      exact onTime (Or.inr back.symm)
    have unrefunded : order.paymentStatus ≠ .refunded := by
      intro refunded
      simp [captureIsLate, refunded] at onTime
    refine ensured.booked (booked.of_kept rfl rfl (fun other held' => ⟨_, rfl, ?_⟩) fun entered => ?_) ?_
    · cases held.symm.trans held'
      simp [Order.Undone, unreturned, unrefunded]
    · simp [held]
    · rintro _ ⟨⟩ -
      simp [Order.Undone, unreturned]
  | @capturedAfterCancellation order _ _ _ _ held attempted cancelled unrefunded now ensured =>
    refine booked.of_kept ensured.keptLedger.1 ensured.keptLedger.2 (fun other held' => ?_)
      (fun entered => placed (ensured.keptLedger.1 ▸ entered))
    cases held.symm.trans held'
    obtain ⟨later, current, same⟩ := ensured.keptUndone rfl
    refine ⟨later, current, same.trans ?_⟩
    simp [Order.Undone, cancelled, unrefunded.1]
  | @settlementChecked order _ _ held onTime ensured =>
    have base := sound.placed order held
    refine ensured.booked booked ?_
    intro other held' paid undone
    cases held.symm.trans held'
    rcases undone with refunded | returned
    · simp [paid] at refunded
    · cases method : order.paymentMethod with
      | cod => simp [base.cash method, returned] at paid
      | upi => simpa [paid] using base.broughtBack returned method
  | @paymentFailed order _ _ held attempted live unpaid now =>
    refine booked.of_kept rfl rfl (fun other held' => ⟨_, rfl, ?_⟩) placed
    cases held.symm.trans held'
    rcases unpaid with unpaid | unpaid <;> simp [Order.Undone, unpaid]
  | @refundSucceeded refund order _ _ owed held first providerRefundId now voided =>
    exact voided.booked rfl (Or.inl rfl) booked.adjusted booked.once
  | @paidOut entry _ entered pending now =>
    have unadjusted : file.adjustments = [] := by
      rw [List.eq_nil_iff_forall_not_mem]
      intro adjustment made
      obtain ⟨other, entered', settled, -⟩ := booked.adjusted adjustment made
      cases entered.symm.trans entered'
      simp [pending] at settled
    refine ⟨by simp [unadjusted], by simp [unadjusted], by simp [unadjusted], ?_⟩
    intro order held undone
    exact absurd pending (booked.reversed order held undone entry entered).1

/-! ## Closed books -/

/-- An undone order was given up, and whatever is captured for it comes too late. -/
theorem OrderSound.undone (sound : OrderSound order file) (undone : order.Undone) :
    order.status ∈ [OrderStatus.cancelled, .returned] := by
  rcases undone with refunded | returned
  · obtain ⟨refund, recorded⟩ := Option.isSome_iff_exists.mp (sound.owed.mp (by simp [refunded]))
    exact (sound.refund refund recorded).1
  · simp [returned]

theorem OrderSound.undone_unpaid (sound : OrderSound order file) (undone : order.Undone)
    (online : order.paymentMethod = .upi) :
    order.paymentStatus ∈ [PaymentStatus.refundPending, .refunded] := by
  rcases undone with refunded | returned
  · simp [refunded]
  · exact sound.broughtBack returned online

/-- No step touches the ledger of an order that is undone. -/
theorem FileStep.closed (step : FileStep event file next) (sound : file.Sound) (booked : file.Booked)
    (held : file.order = some order) (undone : order.Undone) :
    next.settlement = file.settlement ∧ next.adjustments = file.adjustments ∧
      ∃ later, next.order = some later ∧ later.Undone := by
  have base := sound.placed order held
  have ended := base.undone undone
  have sole : ∀ {other}, file.order = some other → other = order := fun same =>
    Option.some.inj (same.symm.trans held)
  cases step with
  | unchanged | assigned | assignedUnclaimed | released | failed | proofChanged | collected
  | resumed | intended | capturedLate | refundClaimed | refundGivenUp | refundErrored
  | refundFailed | refundPending | refundRepeated | refundCleared =>
    exact ⟨rfl, rfl, order, held, undone⟩
  | placed _ _ absent => simp [absent] at held
  | advanced held' target allowed =>
    cases sole held'
    rcases List.mem_pair.mp ended with cancelled | returned
    · simp [cancelled, canTransitionOrder, orderTransitions] at allowed
    · simp [returned, canTransitionOrder, orderTransitions] at allowed
  | cancelled held' allowed =>
    cases sole held'
    rcases canTransitionOrder_cancelled.mp allowed with early | early <;> simp [early] at ended
  | pickedUp held' carried assigned ready =>
    cases sole held'
    simp [ready] at ended
  | returned held' carried failed out =>
    cases sole held'
    simp [out] at ended
  | completed held' carried custody out =>
    cases sole held'
    simp [out] at ended
  | captured held' attempted onTime now ensured =>
    cases sole held'
    have unpaid := base.undone_unpaid undone (base.online _ attempted)
    exact absurd (Or.inr (List.mem_pair.mpr (List.mem_pair.mp unpaid).symm)) onTime
  | capturedAfterCancellation held' attempted cancelled unrefunded =>
    cases sole held'
    rcases undone with refunded | returned
    · exact absurd refunded unrefunded.1
    · simp [cancelled] at returned
  | settlementChecked held' onTime ensured =>
    cases ensured with
    | onRecord | withheld => exact ⟨rfl, rfl, order, held, undone⟩
    | entered held'' paid live =>
      cases sole held''
      have returned := (List.mem_pair.mp ended).resolve_left live
      cases method : order.paymentMethod with
      | cod => simp [base.cash method, returned] at paid
      | upi => simpa [paid] using base.broughtBack returned method
  | paymentFailed held' attempted live unpaid =>
    cases sole held'
    have given := base.undone_unpaid undone (base.online _ attempted)
    rcases unpaid with unpaid | unpaid <;> simp [unpaid] at given
  | refundSucceeded owed held' first providerRefundId now voided =>
    cases sole held'
    have kept : next.order = some { order with paymentStatus := .refunded } := voided.keptOrder
    cases voided with
    | absent | kept | repeated => exact ⟨rfl, rfl, _, kept, Or.inl rfl⟩
    | voided entered pending =>
      exact absurd pending (booked.reversed order held undone _ entered).1
    | reversed entered settled unreversed =>
      obtain ⟨adjustment, made⟩ := List.exists_mem_of_ne_nil _
        ((booked.reversed order held undone _ entered).2 settled)
      obtain ⟨other, entered', -, key, -⟩ := booked.adjusted adjustment made
      cases entered.symm.trans entered'
      exact absurd key (unreversed adjustment made)
  | paidOut entered pending =>
    exact absurd pending (booked.reversed order held undone _ entered).1

/-- An entry that is no longer pending stays as it is. -/
theorem FileStep.settled (step : FileStep event file next) (entered : file.settlement = some entry)
    (closed : entry.status ≠ .pending) : next.settlement = some entry := by
  have ensured_kept : ∀ {start}, SettlementEnsured start next → start.settlement = file.settlement →
      next.settlement = some entry := by
    intro start ensured same
    cases ensured with
    | onRecord | withheld => exact same.trans entered
    | entered _ _ _ _ fresh => simp [same, entered] at fresh
  have voided_kept : ∀ {start after}, SettlementVoided start after →
      start.settlement = file.settlement → after.settlement = some entry := by
    intro start after voided same
    cases voided with
    | absent | kept | repeated | reversed => exact same.trans entered
    | voided held pending =>
      cases held.symm.trans (same.trans entered)
      exact absurd pending closed
  cases step with
  | unchanged | placed | advanced | assigned | assignedUnclaimed | released | pickedUp | failed
  | proofChanged | collected | resumed | intended | capturedLate | paymentFailed | refundClaimed
  | refundGivenUp | refundErrored | refundFailed | refundPending | refundRepeated | refundCleared =>
    exact entered
  | cancelled _ _ _ ensured => exact ensured.keptLedger.1.trans entered
  | returned _ _ _ _ _ _ voided ensured => exact ensured.keptLedger.1.trans (voided_kept voided rfl)
  | completed _ _ _ _ _ _ _ _ _ ensured => exact ensured_kept ensured rfl
  | captured _ _ _ _ ensured => exact ensured_kept ensured rfl
  | capturedAfterCancellation _ _ _ _ _ ensured => exact ensured.keptLedger.1.trans entered
  | settlementChecked _ _ ensured => exact ensured_kept ensured rfl
  | refundSucceeded _ _ _ _ _ voided => exact voided_kept voided rfl
  | paidOut held pending =>
    cases held.symm.trans entered
    exact absurd pending closed

/-! ## Every run -/

/-- The entries of an order. -/
def World.entriesOf (world : World) (orderId : UUID) : List SettlementEntry :=
  belonging SettlementEntry.orderId orderId world.tables.settlementEntries

/-- The adjustments of an order. -/
def World.adjustmentsOf (world : World) (orderId : UUID) : List SettlementAdjustment :=
  belonging SettlementAdjustment.orderId orderId world.tables.settlementAdjustments

/-- The adjustments that correct an entry. -/
def World.corrections (world : World) (entry : SettlementEntry) : List SettlementAdjustment :=
  world.tables.settlementAdjustments.filter fun adjustment => adjustment.settlementEntryId = entry.id

/-- One entry for an order; an undone order's entry is voided, or was settled and has the
one adjustment; a settled or voided entry stays, and the books of an undone order are closed. -/
structure World.ReversedOnce (env : Environment) (world : World) : Prop where
  entries : ∀ orderId, (world.entriesOf orderId).length ≤ 1
  reversed : ∀ order ∈ world.tables.orders, order.Undone → ∀ entry ∈ world.entriesOf order.id,
    entry.status = .voided ∨ (entry.status = .settled ∧ ∃ adjustment,
      world.corrections entry = [adjustment] ∧ adjustment.amount = -entry.merchantAmount)
  settled : ∀ entry ∈ world.tables.settlementEntries, entry.status ≠ .pending → ∀ actions,
    entry ∈ ((system env).run world actions).tables.settlementEntries
  closed : ∀ order ∈ world.tables.orders, order.Undone → ∀ actions,
    ((system env).run world actions).entriesOf order.id = world.entriesOf order.id ∧
      ((system env).run world actions).adjustmentsOf order.id = world.adjustmentsOf order.id

theorem World.entriesOf_eq (coherent : world.tables.Coherent) (orderId : UUID) :
    world.entriesOf orderId = (world.tables.file orderId).settlement.toList :=
  belonging_eq_toList coherent.settlementOrders orderId

/-- The adjustments that name an entry are those that name its order. -/
theorem World.corrections_eq (coherent : world.tables.Coherent)
    (recorded : entry ∈ world.tables.settlementEntries) :
    world.corrections entry = (world.tables.file entry.orderId).adjustments := by
  refine List.filter_congr fun adjustment made => ?_
  obtain ⟨other, inside, sameEntry, sameOrder, -⟩ := coherent.adjustmentEntries adjustment made
  rw [decide_eq_decide]
  constructor
  · intro names
    rw [← sameOrder, unique_eq coherent.settlementIds inside recorded (sameEntry.trans names)]
  · intro names
    rw [← sameEntry, unique_eq coherent.settlementOrders inside recorded (sameOrder.trans names)]

theorem reachable_booked (reached : Reachable (system env) world) (orderId : UUID) :
    (world.tables.file orderId).Booked := by
  refine file_invariant (P := OrderFile.Booked) reached ⟨by simp, by simp, by simp, by simp⟩ ?_ orderId
  intro state action orderId event next before booked _ _ step
  exact step.booked (reachable_sound before orderId) (booked orderId)

/-- However captures, refunds, returns, cancellations and payouts are ordered and repeated,
an entitlement is reversed once. -/
theorem settlements_are_reversed_once (reached : Reachable (system env) world) :
    world.ReversedOnce env := by
  have coherent := reachable_coherent reached
  refine ⟨fun orderId => ?_, fun order held undone entry entered => ?_,
    fun entry recorded standing actions => ?_, fun order held undone actions => ?_⟩
  · rw [World.entriesOf_eq coherent]
    cases (world.tables.file orderId).settlement <;> simp
  · obtain ⟨recorded, own⟩ := mem_belonging.mp entered
    have booked := reachable_booked reached order.id
    have current := own ▸ coherent.file_settlement recorded
    obtain ⟨unpending, settled⟩ := booked.reversed order (order_file coherent held) undone entry current
    cases status : entry.status with
    | pending => exact absurd status unpending
    | voided => exact Or.inl rfl
    | settled =>
      refine Or.inr ⟨rfl, ?_⟩
      obtain ⟨adjustment, sole⟩ := List.length_eq_one_iff.mp (Nat.le_antisymm booked.once
        (List.length_pos_iff.mpr (settled status)))
      obtain ⟨other, entered', -, -, amount⟩ := booked.adjusted adjustment (by simp [sole])
      cases current.symm.trans entered'
      exact ⟨adjustment, by rw [World.corrections_eq coherent recorded, own, sole], amount⟩
  · have kept := reached.persists (P := fun state =>
      (state.tables.file entry.orderId).settlement = some entry)
      (coherent.file_settlement recorded) ?_ actions (RunWhile.of_forall (fun _ _ _ => trivial) _)
    · exact lookup_mem kept
    · intro state action before current _
      obtain ⟨event, -, step⟩ := step_file before action entry.orderId
      exact step.settled current standing
  · have kept := reached.persists (P := fun state =>
      (state.tables.file order.id).settlement = (world.tables.file order.id).settlement ∧
      (state.tables.file order.id).adjustments = (world.tables.file order.id).adjustments ∧
      ∃ later, (state.tables.file order.id).order = some later ∧ later.Undone)
      ⟨rfl, rfl, order, order_file coherent held, undone⟩ ?_ actions
      (RunWhile.of_forall (fun _ _ _ => trivial) _)
    · rw [World.entriesOf_eq (reachable_coherent (reached.run actions)), World.entriesOf_eq coherent]
      exact ⟨congrArg Option.toList kept.1, kept.2.1⟩
    · rintro state action before ⟨sameEntry, sameAdjustments, later, current, still⟩ _
      obtain ⟨event, -, step⟩ := step_file before action order.id
      obtain ⟨entry, adjustments, after⟩ := step.closed (reachable_sound before order.id)
        (reachable_booked before order.id) current still
      exact ⟨entry.trans sameEntry, adjustments.trans sameAdjustments, after⟩

/-- The merchant is paid out before the customer cancels and is refunded. -/
def reversedPayout : List Action :=
  paidOrder ++ [.payOut 3 3500, sampleRequest 4 (.cancelMyOrder 1 1),
    .dispatchDueRefunds sampleSettings 10 none, .claimNext 0 5000,
    .callProvider 0 true (.answered 200 refundAnswer.body), .recordAnswer 0 (sampleDraws 5)]

theorem settlements_are_reversed_once_settled :
    (∃ entry ∈ (sampleWorld reversedPayout).tables.settlementEntries, entry.status = .settled ∧
      ((sampleWorld reversedPayout).corrections entry).length = 1) ∧
      (sampleWorld reversedPayout).ReversedOnce sampleEnvironment :=
  ⟨by decide +kernel, settlements_are_reversed_once (sampleWorld_reachable reversedPayout)⟩

end GaonOne
