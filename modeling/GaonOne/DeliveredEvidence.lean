import GaonOne.PaymentProgress

/-! A delivered order is paid for, proved, collected where it was cash, and settled.
The evidence is gathered by separate requests; nothing takes a piece of it away, and
only the completion, which checks all of it, makes an order delivered. -/
namespace GaonOne
open Relational Transitions System

variable {env : Environment} {world : World} {file next : OrderFile}

/-- The evidence on file only grows. -/
structure EvidenceKept (file next : OrderFile) : Prop where
  proof : (∃ proof, file.proof = some proof ∧ proof.verifiedAt.isSome) →
    ∃ proof, next.proof = some proof ∧ proof.verifiedAt.isSome
  collection : file.collection.isSome → next.collection.isSome
  settlement : file.settlement.isSome → next.settlement.isSome

theorem EvidenceKept.trans (first : EvidenceKept file middle) (second : EvidenceKept middle next) :
    EvidenceKept file next where
  proof := second.proof ∘ first.proof
  collection := second.collection ∘ first.collection
  settlement := second.settlement ∘ first.settlement

theorem EvidenceKept.of_same (proof : next.proof = file.proof)
    (collection : next.collection = file.collection)
    (settlement : next.settlement = file.settlement) : EvidenceKept file next where
  proof := fun held => by rwa [proof]
  collection := fun held => by rwa [collection]
  settlement := fun held => by rwa [settlement]

theorem RefundEnsured.evidence (ensured : RefundEnsured attempt file next) :
    EvidenceKept file next := by
  cases ensured <;> exact .of_same rfl rfl rfl

theorem SettlementEnsured.evidence (ensured : SettlementEnsured file next) :
    EvidenceKept file next := by
  cases ensured with
  | onRecord | withheld => exact .of_same rfl rfl rfl
  | entered => exact ⟨id, id, fun _ => rfl⟩

theorem SettlementVoided.evidence (voided : SettlementVoided file next) :
    EvidenceKept file next := by
  cases voided with
  | absent | kept | repeated | reversed => exact .of_same rfl rfl rfl
  | voided => exact ⟨id, id, fun _ => rfl⟩

/-- No step takes evidence away. -/
theorem FileStep.evidence (step : FileStep event file next) : EvidenceKept file next := by
  cases step with
  | unchanged | placed | advanced | assigned | assignedUnclaimed | released | pickedUp | failed
  | resumed | intended | capturedLate | paymentFailed | refundClaimed | refundGivenUp
  | refundErrored | refundFailed | refundPending | refundRepeated | refundCleared =>
    exact .of_same rfl rfl rfl
  | cancelled held allowed restoredAt ensured => exact EvidenceKept.trans (.of_same (by rfl) (by rfl) (by rfl)) ensured.evidence
  | returned held carried failed out uncollected restoredAt voided ensured =>
    exact EvidenceKept.trans (.of_same (by rfl) (by rfl) (by rfl)) (voided.evidence.trans ensured.evidence)
  | proofChanged carried proof kept =>
    exact ⟨fun ⟨old, held, verified⟩ => ⟨proof, rfl, kept old held verified⟩, id, id⟩
  | collected => exact ⟨id, fun _ => rfl, id⟩
  | completed held carried custody out gate proved verified collected now ensured =>
    exact EvidenceKept.trans (.of_same (by rfl) (by rfl) (by rfl)) ensured.evidence
  | captured held attempted onTime now ensured => exact EvidenceKept.trans (.of_same (by rfl) (by rfl) (by rfl)) ensured.evidence
  | capturedAfterCancellation held attempted cancelled unrefunded now ensured =>
    exact EvidenceKept.trans (.of_same (by rfl) (by rfl) (by rfl)) ensured.evidence
  | settlementChecked held onTime ensured => exact ensured.evidence
  | refundSucceeded owed held first providerRefundId now voided =>
    exact EvidenceKept.trans (.of_same (by rfl) (by rfl) (by rfl)) voided.evidence
  | paidOut => exact ⟨id, id, fun _ => rfl⟩

/-- An order that is delivered after a step was delivered before, or was completed. -/
theorem FileStep.delivered (step : FileStep event file next) (held : next.order = some later)
    (delivered : later.status = .delivered) :
    event = .completed ∨ ∃ order, file.order = some order ∧ order.status = .delivered ∧
      order.paymentMethod = later.paymentMethod := by
  cases step with
  | unchanged | assigned | assignedUnclaimed | released | failed | proofChanged | collected
  | resumed | intended | capturedLate | refundClaimed | refundGivenUp | refundErrored
  | refundFailed | refundPending | refundRepeated | refundCleared | paidOut =>
    exact Or.inr ⟨later, held, delivered, rfl⟩
  | placed order _ _ _ placed =>
    cases held
    simp [placed] at delivered
  | @advanced _ status _ held' target =>
    cases held
    simp [show status = .delivered from delivered] at target
  | cancelled held' allowed restoredAt ensured =>
    have status := (ensured.keptStatus rfl held).1
    simp [delivered] at status
  | pickedUp =>
    cases held
    cases delivered
  | returned held' carried failed out uncollected restoredAt voided ensured =>
    have status := (ensured.keptStatus voided.keptOrder held).1
    simp [delivered] at status
  | completed => exact Or.inl rfl
  | captured held' attempted onTime now ensured =>
    cases held.symm.trans ensured.keptOrder
    exact Or.inr ⟨_, held', delivered, rfl⟩
  | capturedAfterCancellation held' attempted cancelled unrefunded now ensured =>
    have status := (ensured.keptStatus rfl held).1
    rw [delivered] at status
    exact absurd (cancelled.symm.trans status.symm) (by decide)
  | settlementChecked held' onTime ensured =>
    exact Or.inr ⟨later, ensured.keptOrder ▸ held, delivered, rfl⟩
  | paymentFailed held' =>
    cases held
    exact Or.inr ⟨_, held', delivered, rfl⟩
  | refundSucceeded owed held' first providerRefundId now voided =>
    cases held.symm.trans voided.keptOrder
    exact Or.inr ⟨_, held', delivered, rfl⟩

/-! ## The invariant -/

/-- What the completion checked is still on file. -/
structure OrderFile.Evidenced (file : OrderFile) : Prop where
  sound : file.Sound
  proved : ∀ order, file.order = some order → order.status = .delivered →
    ∃ proof, file.proof = some proof ∧ proof.verifiedAt.isSome
  collected : ∀ order, file.order = some order → order.status = .delivered →
    order.paymentMethod = .cod → file.collection.isSome
  settled : ∀ order, file.order = some order → order.status = .delivered → file.settlement.isSome

/-- The completion leaves an entitlement: the order is paid and owes no refund. -/
theorem SettlementEnsured.settled (ensured : SettlementEnsured file next)
    (held : file.order = some order) (paid : order.paymentStatus = .paid)
    (live : order.status ≠ .cancelled) (unrefunded : file.refund = none) :
    next.settlement.isSome := by
  cases ensured with
  | onRecord recorded => simp [recorded]
  | withheld held' refused =>
    cases held.symm.trans held'
    exact absurd ⟨paid, live, unrefunded⟩ refused
  | entered => rfl

theorem FileStep.evidenced (step : FileStep event file next) (evidenced : file.Evidenced) :
    next.Evidenced := by
  have kept := step.evidence
  have completion : event = .completed →
      (∃ proof, next.proof = some proof ∧ proof.verifiedAt.isSome) ∧
        (∀ later, next.order = some later → later.paymentMethod = .cod → next.collection.isSome) ∧
        next.settlement.isSome := by
    intro completing
    cases step with
    | completed held carried custody out gate proved verified collected now ensured =>
      refine ⟨kept.proof ⟨_, proved, verified⟩, fun later current cash => ?_, ?_⟩
      · cases current.symm.trans ensured.keptOrder
        obtain ⟨collection, recorded, -⟩ := collected cash
        exact kept.collection (by simp [recorded])
      · refine ensured.settled rfl rfl (by simp) ?_
        cases recorded : file.refund with
        | none => rfl
        | some refund =>
          have ended := ((evidenced.sound.placed _ held).refund refund recorded).1
          simp [out] at ended
    | _ => cases completing
  refine ⟨step.sound evidenced.sound, fun later current delivered => ?_,
    fun later current delivered cash => ?_, fun later current delivered => ?_⟩
  all_goals rcases step.delivered current delivered with completing | ⟨order, held, before, method⟩
  · exact (completion completing).1
  · exact kept.proof (evidenced.proved order held before)
  · exact (completion completing).2.1 later current cash
  · exact kept.collection (evidenced.collected order held before (method.trans cash))
  · exact (completion completing).2.2
  · exact kept.settlement (evidenced.settled order held before)

theorem reachable_evidenced (reached : Reachable (system env) world) (orderId : UUID) :
    (world.tables.file orderId).Evidenced :=
  file_always reached ⟨.of_empty, by simp, by simp, by simp⟩
    (fun _ _ _ evidenced step => step.evidenced evidenced) orderId

/-! ## Delivered orders -/

/-- Everything a delivered order is evidenced and balanced by. -/
structure DeliveryEvidence (tables : Tables) (order : Order) : Prop where
  paid : order.paymentStatus = .paid
  delivery : ∃ delivery ∈ tables.deliveries, delivery.orderId = order.id ∧
    (∃ proof ∈ tables.deliveryProofs, proof.deliveryId = delivery.id ∧ proof.verifiedAt.isSome) ∧
    (order.paymentMethod = .cod → ∃ collection,
      belonging CodCollection.orderId order.id tables.codCollections = [collection] ∧
        collection.deliveryId = delivery.id ∧ collection.amount = order.total)
  settlement : ∃ entry, belonging SettlementEntry.orderId order.id tables.settlementEntries = [entry] ∧
    entry.grossAmount = order.total ∧ entry.merchantAmount = order.subtotal ∧
    entry.deliveryFeeAmount = order.deliveryFee ∧
    entry.grossAmount = entry.merchantAmount + entry.deliveryFeeAmount

theorem delivered_order_evidenced (reached : Reachable (system env) world)
    (held : order ∈ world.tables.orders) (delivered : order.status = .delivered) :
    DeliveryEvidence world.tables order := by
  have coherent := reachable_coherent reached
  have placed := order_file coherent held
  have evidenced := reachable_evidenced reached order.id
  have base := evidenced.sound.placed order placed
  have paid : order.paymentStatus = .paid := by
    rcases base.gate (by simp [delivered]) with cash | paid
    · simpa [delivered] using base.cash cash
    · exact paid
  obtain ⟨proof, proved, verified⟩ := evidenced.proved order placed delivered
  obtain ⟨delivery, carried, recorded⟩ := Option.bind_eq_some_iff.mp proved
  refine ⟨paid, ⟨delivery, lookup_mem carried, lookup_col carried,
    ⟨proof, lookup_mem recorded, lookup_col recorded, verified⟩, fun cash => ?_⟩, ?_⟩
  · obtain ⟨collection, collected⟩ :=
      Option.isSome_iff_exists.mp (evidenced.collected order placed delivered cash)
    obtain ⟨own, amount⟩ := base.collection collection collected
    rw [Tables.file_collection carried] at collected
    refine ⟨collection, ?_, lookup_col collected, amount⟩
    rw [← own]
    exact belonging_of_unique coherent.collectionOrders (lookup_mem collected)
  · obtain ⟨entry, entered⟩ := Option.isSome_iff_exists.mp (evidenced.settled order placed delivered)
    obtain ⟨gross, merchant, fee⟩ := base.entry entry entered
    refine ⟨entry, ?_, gross, merchant, fee, by rw [gross, merchant, fee, base.balanced]⟩
    rw [← lookup_col entered]
    exact belonging_of_unique coherent.settlementOrders (lookup_mem entered)

/-- The rider carries the order from the store to the customer. -/
def handover (first : Nat) : List Action :=
  [sampleRequest first (.claimDelivery 4 1),
    sampleRequest (first + 1) (.updateDeliveryStatus 4 1 .pickedUp),
    sampleRequest (first + 2) (.issueProofChallenge 4 1 "123456" true),
    sampleRequest (first + 3) (.verifyDeliveryProof 4 1 ⟨"123456", none, none, none⟩ true)]

/-- A cash order that is delivered. -/
def deliveredOrder : List Action :=
  placement .cod ++ preparation 2 ++ handover 5 ++
    [sampleRequest 9 (.recordCodCollection 4 1 12000), sampleRequest 10 (.completeDelivery 4 1)]

theorem delivered_order_evidenced_cash :
    ∃ order ∈ (sampleWorld deliveredOrder).tables.orders,
      (order.status = .delivered ∧ order.paymentMethod = .cod) ∧
        DeliveryEvidence (sampleWorld deliveredOrder).tables order := by
  obtain ⟨order, held, delivered, cash⟩ :
      ∃ order ∈ (sampleWorld deliveredOrder).tables.orders,
        order.status = .delivered ∧ order.paymentMethod = .cod := by
    decide +kernel
  exact ⟨order, held, ⟨delivered, cash⟩,
    delivered_order_evidenced (sampleWorld_reachable _) held delivered⟩

end GaonOne
