import GaonOne.Refunds

/-! The file of an order: every row that belongs to it. A statement of one request
changes one order's file, and a frame says so: what the file has become, and that
every other order's file is as it was. Coherence is what every table keeps
throughout: the declared constraints, and the two facts that hold of the keys this
code computes. -/
namespace GaonOne
open Relational UnitOfWork

/-- The rows of one order. -/
@[ext]
structure OrderFile where
  order : Option Order := none
  delivery : Option Delivery := none
  proof : Option DeliveryProof := none
  collection : Option CodCollection := none
  attempts : List PaymentAttempt := []
  refund : Option PaymentRefund := none
  settlement : Option SettlementEntry := none
  adjustments : List SettlementAdjustment := []
  deriving DecidableEq

/-- The file of an order in a database. -/
def Tables.file (db : Tables) (orderId : UUID) : OrderFile where
  order := lookup Order.id orderId db.orders
  delivery := lookup Delivery.orderId orderId db.deliveries
  proof := (lookup Delivery.orderId orderId db.deliveries).bind fun delivery =>
    lookup DeliveryProof.deliveryId delivery.id db.deliveryProofs
  collection := (lookup Delivery.orderId orderId db.deliveries).bind fun delivery =>
    lookup CodCollection.deliveryId delivery.id db.codCollections
  attempts := belonging PaymentAttempt.orderId orderId db.paymentAttempts
  refund := lookup PaymentRefund.orderId orderId db.paymentRefunds
  settlement := lookup SettlementEntry.orderId orderId db.settlementEntries
  adjustments := belonging SettlementAdjustment.orderId orderId db.settlementAdjustments

/-- The declared constraints, the keys of refunds, that a cash collection names the order
of its delivery, and that an adjustment names the order of its entry. -/
structure Tables.Coherent (db : Tables) : Prop extends db.Constraints where
  refundKeysOf : ∀ refund ∈ db.paymentRefunds,
    refund.idempotencyKey = refundIdempotencyKey refund.orderId
  collectionOwners : ∀ collection ∈ db.codCollections, ∃ delivery ∈ db.deliveries,
    delivery.id = collection.deliveryId ∧ delivery.orderId = collection.orderId
  adjustmentEntries : ∀ adjustment ∈ db.settlementAdjustments, ∃ entry ∈ db.settlementEntries,
    entry.id = adjustment.settlementEntryId ∧ entry.orderId = adjustment.orderId ∧
      adjustment.idempotencyKey = settlementReversalKey entry.id

/-- A key of one kind tells whose it is. -/
theorem key_injective {kind : String} (same : kind ++ uuidText left = kind ++ uuidText right) :
    left = right := by
  have texts := congrArg String.toList same
  simp only [String.toList_append] at texts
  exact uuidText_injective (String.toList_inj.mp (List.append_cancel_left texts))

theorem refundIdempotencyKey_injective
    (same : refundIdempotencyKey left = refundIdempotencyKey right) : left = right :=
  key_injective same

theorem settlementReversalKey_injective
    (same : settlementReversalKey left = settlementReversalKey right) : left = right :=
  key_injective same

namespace Tables

theorem Coherent.of_empty : Tables.Coherent {} where
  toConstraints := Database.empty.constraints
  refundKeysOf := by simp
  collectionOwners := by simp
  adjustmentEntries := by simp

/-! ## What a lookup by key says of a file -/

theorem file_proof {db : Tables} (carried : (db.file orderId).delivery = some delivery) :
    (db.file orderId).proof = lookup DeliveryProof.deliveryId delivery.id db.deliveryProofs := by
  simp only [file] at carried ⊢
  rw [carried, Option.bind_some]

theorem file_collection {db : Tables} (carried : (db.file orderId).delivery = some delivery) :
    (db.file orderId).collection = lookup CodCollection.deliveryId delivery.id db.codCollections := by
  simp only [file] at carried ⊢
  rw [carried, Option.bind_some]

section
variable {db : Tables} (coherent : db.Coherent)
include coherent

/-- One refund row per order: its key is unique, and the key names the order. -/
theorem Coherent.refundOrders : Relational.Unique PaymentRefund.orderId db.paymentRefunds := by
  have keys := coherent.refundKeys
  unfold Relational.Unique at keys ⊢
  rw [List.Nodup, List.pairwise_map] at keys ⊢
  refine keys.imp_of_mem fun {first second} left right differ same => differ ?_
  rw [coherent.refundKeysOf first left, coherent.refundKeysOf second right, same]

theorem Coherent.file_delivery (held : db.delivery? deliveryId = some delivery) :
    (db.file delivery.orderId).delivery = some delivery :=
  (lookup_eq_some_iff coherent.deliveryOrders).mpr ⟨lookup_mem held, rfl⟩

theorem Coherent.file_refund (held : refund ∈ db.paymentRefunds) :
    (db.file refund.orderId).refund = some refund :=
  (lookup_eq_some_iff coherent.refundOrders).mpr ⟨held, rfl⟩

omit coherent in
theorem file_attempt (held : attempt ∈ db.paymentAttempts) :
    attempt ∈ (db.file attempt.orderId).attempts :=
  mem_belonging.mpr ⟨held, rfl⟩

/-- The key of an entry's reversal is found among the adjustments of the entry's order. -/
theorem Coherent.adjustment_by_key (held : entry ∈ db.settlementEntries)
    (found : lookup SettlementAdjustment.idempotencyKey (settlementReversalKey entry.id)
      db.settlementAdjustments = some adjustment) :
    adjustment ∈ (db.file entry.orderId).adjustments := by
  have recorded := lookup_mem found
  obtain ⟨other, inside, -, parent, key⟩ := coherent.adjustmentEntries adjustment recorded
  have sole := unique_eq coherent.settlementIds inside held
    (settlementReversalKey_injective (key.symm.trans (lookup_col found)))
  subst sole
  exact mem_belonging.mpr ⟨recorded, parent.symm⟩

/-- The refund of an order is what its key finds. -/
theorem Coherent.refund_by_key (orderId : UUID) :
    lookup PaymentRefund.idempotencyKey (refundIdempotencyKey orderId) db.paymentRefunds =
      (db.file orderId).refund := by
  ext refund
  rw [lookup_eq_some_iff coherent.refundKeys]
  simp only [file, lookup_eq_some_iff coherent.refundOrders]
  constructor
  · rintro ⟨member, key⟩
    exact ⟨member, refundIdempotencyKey_injective ((coherent.refundKeysOf _ member).symm.trans key)⟩
  · rintro ⟨member, rfl⟩
    exact ⟨member, coherent.refundKeysOf _ member⟩

theorem Coherent.file_settlement (held : entry ∈ db.settlementEntries) :
    (db.file entry.orderId).settlement = some entry :=
  (lookup_eq_some_iff coherent.settlementOrders).mpr ⟨held, rfl⟩

/-- Deliveries of different orders are different deliveries. -/
theorem Coherent.delivery_ne (left : (db.file orderId).delivery = some delivery)
    (right : (db.file other).delivery = some second) (differ : other ≠ orderId) :
    second.id ≠ delivery.id := by
  intro same
  have equal := unique_eq coherent.deliveryIds (lookup_mem right) (lookup_mem left) same
  exact differ ((lookup_col right).symm.trans ((congrArg _ equal).trans (lookup_col left)))

end

/-! ## Statements that keep coherence -/

section
variable {db : Tables} (coherent : db.Coherent)
include coherent

theorem Coherent.putOrder (held : old ∈ db.orders) (sameId : new.id = old.id)
    (sameNumber : new.orderNumber = old.orderNumber) (sameUser : new.userId = old.userId)
    (sameKey : new.idempotencyKey = old.idempotencyKey) : (db.putOrder new).Coherent := by
  have ids := coherent.orderIds
  exact
    { coherent with
      orderIds := unique_put (kept_of_key ids held sameId sameId) ids
      orderNumbers := unique_put (kept_of_key ids held sameId sameNumber) coherent.orderNumbers
      orderKeys := uniqueWhenSet_put_kept
        (kept_of_key ids held sameId (by simp only [sameUser, sameKey])) coherent.orderKeys
      deliveryParents := references_put_parent new coherent.deliveryParents
      attemptParents := references_put_parent new coherent.attemptParents
      refundParents := references_put_parent new coherent.refundParents
      settlementParents := references_put_parent new coherent.settlementParents }

theorem Coherent.putDelivery (held : old ∈ db.deliveries) (sameId : new.id = old.id)
    (sameOrder : new.orderId = old.orderId) : (db.putDelivery new).Coherent := by
  have ids := coherent.deliveryIds
  refine
    { coherent with
      deliveryIds := unique_put (kept_of_key ids held sameId sameId) ids
      deliveryOrders := unique_put (kept_of_key ids held sameId sameOrder) coherent.deliveryOrders
      deliveryParents := references_put_child ⟨old, held, sameOrder.symm⟩ coherent.deliveryParents
      proofParents := references_put_parent new coherent.proofParents
      collectionOwners := fun collection member => ?_ }
  obtain ⟨owner, inside, sameDelivery, sameParent⟩ := coherent.collectionOwners collection member
  by_cases replaced : owner.id = new.id
  · have owned : owner = old := unique_eq ids inside held (replaced.trans sameId)
    subst owned
    exact ⟨new, mem_put.mpr (Or.inl ⟨rfl, owner, held, replaced⟩), sameId.trans sameDelivery,
      sameOrder.trans sameParent⟩
  · exact ⟨owner, mem_put.mpr (Or.inr ⟨inside, replaced⟩), sameDelivery, sameParent⟩

theorem Coherent.putProof (held : old ∈ db.deliveryProofs) (sameId : new.id = old.id)
    (sameDelivery : new.deliveryId = old.deliveryId) : (db.putProof new).Coherent :=
  { coherent with
    proofIds := unique_put (kept_of_key coherent.proofIds held sameId sameId) coherent.proofIds
    proofDeliveries := unique_put (kept_of_key coherent.proofIds held sameId sameDelivery)
      coherent.proofDeliveries
    proofParents := references_put_child ⟨old, held, sameDelivery.symm⟩ coherent.proofParents }

theorem Coherent.addProof (freshId : lookup DeliveryProof.id row.id db.deliveryProofs = none)
    (freshDelivery : lookup DeliveryProof.deliveryId row.deliveryId db.deliveryProofs = none)
    (parent : ∃ delivery ∈ db.deliveries, delivery.id = row.deliveryId) :
    (db.addProof row).Coherent :=
  { coherent with
    proofIds := unique_append.mpr ⟨coherent.proofIds, lookup_eq_none_iff.mp freshId⟩
    proofDeliveries :=
      unique_append.mpr ⟨coherent.proofDeliveries, lookup_eq_none_iff.mp freshDelivery⟩
    proofParents := references_append parent coherent.proofParents }

/-- A second collection for the order would be one for its delivery. -/
theorem Coherent.addCollection (freshId : lookup CodCollection.id row.id db.codCollections = none)
    (freshDelivery : lookup CodCollection.deliveryId row.deliveryId db.codCollections = none)
    (owner : delivery ∈ db.deliveries) (sameDelivery : delivery.id = row.deliveryId)
    (sameOrder : delivery.orderId = row.orderId) : (db.addCollection row).Coherent := by
  refine
    { coherent with
      collectionIds := unique_append.mpr ⟨coherent.collectionIds, lookup_eq_none_iff.mp freshId⟩
      collectionDeliveries :=
        unique_append.mpr ⟨coherent.collectionDeliveries, lookup_eq_none_iff.mp freshDelivery⟩
      collectionOrders := unique_append.mpr ⟨coherent.collectionOrders, fun old member same => ?_⟩
      collectionOwners := fun collection member => ?_ }
  · obtain ⟨other, inside, otherDelivery, otherOrder⟩ := coherent.collectionOwners old member
    have equal : other = delivery :=
      unique_eq coherent.deliveryOrders inside owner (otherOrder.trans (same.trans sameOrder.symm))
    exact lookup_eq_none_iff.mp freshDelivery old member
      (otherDelivery.symm.trans (equal ▸ sameDelivery))
  · rcases List.mem_append.mp member with inside | last
    · exact coherent.collectionOwners collection inside
    · rw [List.mem_singleton.mp last]
      exact ⟨delivery, owner, sameDelivery, sameOrder⟩

theorem Coherent.putAttempt (held : old ∈ db.paymentAttempts) (sameId : new.id = old.id)
    (sameOrder : new.orderId = old.orderId) (sameProvider : new.providerOrderId = old.providerOrderId)
    (unused : ∀ paymentId, new.providerPaymentId = some paymentId →
      ∀ other ∈ db.paymentAttempts, other.providerPaymentId = some paymentId → other.id = new.id) :
    (db.putAttempt new).Coherent := by
  have ids := coherent.attemptIds
  exact
    { coherent with
      attemptIds := unique_put (kept_of_key ids held sameId sameId) ids
      attemptProviderOrders := uniqueWhenSet_put_kept (kept_of_key ids held sameId sameProvider)
        coherent.attemptProviderOrders
      attemptProviderPayments := uniqueWhenSet_put ids
        (fun other member differ paymentId set same =>
          differ (unused paymentId set other member same)) coherent.attemptProviderPayments
      attemptParents := references_put_child ⟨old, held, sameOrder.symm⟩ coherent.attemptParents }

theorem Coherent.putRefund (held : old ∈ db.paymentRefunds) (sameId : new.id = old.id)
    (sameOrder : new.orderId = old.orderId) (sameKey : new.idempotencyKey = old.idempotencyKey)
    (unused : ∀ refundId, new.providerRefundId = some refundId →
      ∀ other ∈ db.paymentRefunds, other.providerRefundId = some refundId → other.id = new.id) :
    (db.putRefund new).Coherent := by
  have ids := coherent.refundIds
  refine
    { coherent with
      refundIds := unique_put (kept_of_key ids held sameId sameId) ids
      refundKeys := unique_put (kept_of_key ids held sameId sameKey) coherent.refundKeys
      refundProviderRefunds := uniqueWhenSet_put ids
        (fun other member differ refundId set same =>
          differ (unused refundId set other member same)) coherent.refundProviderRefunds
      refundParents := references_put_child ⟨old, held, sameOrder.symm⟩ coherent.refundParents
      refundKeysOf := fun refund member => ?_ }
  rcases mem_put.mp member with ⟨rfl, _⟩ | ⟨inside, _⟩
  · rw [sameKey, sameOrder]
    exact coherent.refundKeysOf old held
  · exact coherent.refundKeysOf refund inside

theorem Coherent.addRefund (freshId : lookup PaymentRefund.id row.id db.paymentRefunds = none)
    (freshKey : lookup PaymentRefund.idempotencyKey row.idempotencyKey db.paymentRefunds = none)
    (unset : row.providerRefundId = none) (parent : ∃ order ∈ db.orders, order.id = row.orderId)
    (key : row.idempotencyKey = refundIdempotencyKey row.orderId) : (db.addRefund row).Coherent := by
  refine
    { coherent with
      refundIds := unique_append.mpr ⟨coherent.refundIds, lookup_eq_none_iff.mp freshId⟩
      refundKeys := unique_append.mpr ⟨coherent.refundKeys, lookup_eq_none_iff.mp freshKey⟩
      refundProviderRefunds := uniqueWhenSet_append.mpr ⟨coherent.refundProviderRefunds,
        fun refundId set => by rw [unset] at set; cases set⟩
      refundParents := references_append parent coherent.refundParents
      refundKeysOf := fun refund member => ?_ }
  rcases List.mem_append.mp member with inside | last
  · exact coherent.refundKeysOf refund inside
  · rw [List.mem_singleton.mp last]
    exact key

theorem Coherent.putSettlement (held : old ∈ db.settlementEntries) (sameId : new.id = old.id)
    (sameOrder : new.orderId = old.orderId) : (db.putSettlement new).Coherent := by
  have ids := coherent.settlementIds
  refine
    { coherent with
      settlementIds := unique_put (kept_of_key ids held sameId sameId) ids
      settlementOrders := unique_put (kept_of_key ids held sameId sameOrder)
        coherent.settlementOrders
      settlementParents :=
        references_put_child ⟨old, held, sameOrder.symm⟩ coherent.settlementParents
      adjustmentEntries := fun adjustment member => ?_ }
  obtain ⟨entry, inside, sameEntry, sameParent, key⟩ := coherent.adjustmentEntries adjustment member
  by_cases replaced : entry.id = new.id
  · have owned : entry = old := unique_eq ids inside held (replaced.trans sameId)
    subst owned
    exact ⟨new, mem_put.mpr (Or.inl ⟨rfl, entry, held, replaced⟩), sameId.trans sameEntry,
      sameOrder.trans sameParent, sameId ▸ key⟩
  · exact ⟨entry, mem_put.mpr (Or.inr ⟨inside, replaced⟩), sameEntry, sameParent, key⟩

theorem Coherent.addSettlement
    (freshId : lookup SettlementEntry.id row.id db.settlementEntries = none)
    (freshOrder : lookup SettlementEntry.orderId row.orderId db.settlementEntries = none)
    (parent : ∃ order ∈ db.orders, order.id = row.orderId) : (db.addSettlement row).Coherent :=
  { coherent with
    settlementIds := unique_append.mpr ⟨coherent.settlementIds, lookup_eq_none_iff.mp freshId⟩
    settlementOrders :=
      unique_append.mpr ⟨coherent.settlementOrders, lookup_eq_none_iff.mp freshOrder⟩
    settlementParents := references_append parent coherent.settlementParents
    adjustmentEntries := fun adjustment member => by
      obtain ⟨entry, inside, same⟩ := coherent.adjustmentEntries adjustment member
      exact ⟨entry, List.mem_append_left _ inside, same⟩ }

theorem Coherent.addAdjustment
    (freshId : lookup SettlementAdjustment.id row.id db.settlementAdjustments = none)
    (freshKey : lookup SettlementAdjustment.idempotencyKey row.idempotencyKey
      db.settlementAdjustments = none) (held : entry ∈ db.settlementEntries)
    (sameEntry : entry.id = row.settlementEntryId) (sameParent : entry.orderId = row.orderId)
    (key : row.idempotencyKey = settlementReversalKey entry.id) : (db.addAdjustment row).Coherent := by
  refine
    { coherent with
      adjustmentIds := unique_append.mpr ⟨coherent.adjustmentIds, lookup_eq_none_iff.mp freshId⟩
      adjustmentKeys := unique_append.mpr ⟨coherent.adjustmentKeys, lookup_eq_none_iff.mp freshKey⟩
      adjustmentEntries := fun adjustment member => ?_ }
  rcases List.mem_append.mp member with inside | last
  · exact coherent.adjustmentEntries adjustment inside
  · rw [List.mem_singleton.mp last]
    exact ⟨entry, held, sameEntry, sameParent, key⟩

theorem Coherent.putListing (held : old ∈ db.catalogue.storeProducts) (sameId : new.id = old.id)
    (sameStore : new.storeId = old.storeId) (sameProduct : new.productId = old.productId) :
    (db.putListing new).Coherent := by
  have ids := coherent.listingIds
  exact
    { coherent with
      listingIds := unique_put (kept_of_key ids held sameId sameId) ids
      listingProducts := unique_put
        (kept_of_key ids held sameId (by simp only [sameStore, sameProduct]))
        coherent.listingProducts }

theorem Coherent.addWebhookEvent (row : PaymentWebhookEvent)
    (freshId : lookup PaymentWebhookEvent.id row.id db.paymentWebhookEvents = none)
    (freshKey : lookup PaymentWebhookEvent.eventKey row.eventKey db.paymentWebhookEvents = none) :
    (db.addWebhookEvent row).Coherent :=
  { coherent with
    webhookEventIds := unique_append.mpr ⟨coherent.webhookEventIds, lookup_eq_none_iff.mp freshId⟩
    webhookEventKeys :=
      unique_append.mpr ⟨coherent.webhookEventKeys, lookup_eq_none_iff.mp freshKey⟩ }

theorem Coherent.putWebhookEvent (new : PaymentWebhookEvent)
    (held : old ∈ db.paymentWebhookEvents) (sameId : new.id = old.id)
    (sameKey : new.eventKey = old.eventKey) : (db.putWebhookEvent new).Coherent := by
  have ids := coherent.webhookEventIds
  exact
    { coherent with
      webhookEventIds := unique_put (kept_of_key ids held sameId sameId) ids
      webhookEventKeys := unique_put (kept_of_key ids held sameId sameKey)
        coherent.webhookEventKeys }

end

end Tables

/-! ## Frames -/

/-- Between two states of the tables only one order's file changed, and this is
what it became. -/
structure Frame (before : Tables) (orderId : UUID) (after : Tables) (file : OrderFile) : Prop where
  coherent : after.Coherent
  here : after.file orderId = file
  elsewhere : ∀ other, other ≠ orderId → after.file other = before.file other
  /-- No service touches the record of webhook deliveries. -/
  events : before.paymentWebhookEvents ⊆ after.paymentWebhookEvents

namespace Frame

variable {before db after : Tables} {orderId : UUID} {file : OrderFile}

theorem refl (coherent : db.Coherent) (orderId : UUID) : Frame db orderId db (db.file orderId) where
  coherent := coherent
  here := rfl
  elsewhere := fun _ _ => rfl
  events := List.Subset.refl _

theorem order_eq (frame : Frame before orderId db file) :
    lookup Order.id orderId db.orders = file.order :=
  congrArg OrderFile.order frame.here

theorem delivery_eq (frame : Frame before orderId db file) :
    lookup Delivery.orderId orderId db.deliveries = file.delivery :=
  congrArg OrderFile.delivery frame.here

theorem refund_eq (frame : Frame before orderId db file) :
    lookup PaymentRefund.orderId orderId db.paymentRefunds = file.refund :=
  congrArg OrderFile.refund frame.here

theorem settlement_eq (frame : Frame before orderId db file) :
    lookup SettlementEntry.orderId orderId db.settlementEntries = file.settlement :=
  congrArg OrderFile.settlement frame.here

theorem attempts_eq (frame : Frame before orderId db file) :
    belonging PaymentAttempt.orderId orderId db.paymentAttempts = file.attempts :=
  congrArg OrderFile.attempts frame.here

/-- A statement that changes every file in the same way only where it is the order's. -/
private theorem of_files (frame : Frame before orderId db file) (changed : OrderFile → OrderFile)
    (coherent : after.Coherent) (here : after.file orderId = changed (db.file orderId))
    (elsewhere : ∀ other, other ≠ orderId → after.file other = db.file other)
    (events : after.paymentWebhookEvents = db.paymentWebhookEvents) :
    Frame before orderId after (changed file) where
  coherent := coherent
  here := here.trans (congrArg changed frame.here)
  elsewhere := fun other differ => (elsewhere other differ).trans (frame.elsewhere other differ)
  events := events ▸ frame.events

/-- A statement on tables that hold no row of any order. -/
theorem of_same (frame : Frame before orderId db file) (coherent : after.Coherent)
    (same : ∀ other, after.file other = db.file other)
    (events : after.paymentWebhookEvents = db.paymentWebhookEvents) :
    Frame before orderId after file where
  coherent := coherent
  here := (same orderId).trans frame.here
  elsewhere := fun other differ => (same other).trans (frame.elsewhere other differ)
  events := events ▸ frame.events

theorem putOrder (frame : Frame before orderId db file) (new : Order) (held : file.order = some old)
    (sameId : new.id = old.id) (sameNumber : new.orderNumber = old.orderNumber)
    (sameUser : new.userId = old.userId) (sameKey : new.idempotencyKey = old.idempotencyKey) :
    Frame before orderId (db.putOrder new) { file with order := some new } := by
  have coherent := frame.coherent
  have found := frame.order_eq.trans held
  have looked := fun other => lookup_put other (lookup_mem found) sameId.symm sameId.symm
    coherent.orderIds coherent.orderIds
  have own : new.id = orderId := sameId.trans (lookup_col found)
  refine frame.of_files (fun file => { file with order := some new })
    (coherent.putOrder (lookup_mem found) sameId sameNumber sameUser sameKey) ?_ ?_ rfl
  · simp [Tables.file, Tables.putOrder, looked, own]
  · intro other differ
    simp [Tables.file, Tables.putOrder, looked, own, differ.symm]

theorem putDelivery (frame : Frame before orderId db file) (new : Delivery)
    (held : file.delivery = some old)
    (sameId : new.id = old.id) (sameOrder : new.orderId = old.orderId) :
    Frame before orderId (db.putDelivery new) { file with delivery := some new } := by
  have coherent := frame.coherent
  have found := frame.delivery_eq.trans held
  have looked := fun other => lookup_put other (lookup_mem found) sameId.symm
    sameOrder.symm coherent.deliveryIds coherent.deliveryOrders
  have own : new.orderId = orderId := sameOrder.trans (lookup_col found)
  refine frame.of_files (fun file => { file with delivery := some new })
    (coherent.putDelivery (lookup_mem found) sameId sameOrder) ?_ ?_ rfl
  · simp [Tables.file, Tables.putDelivery, looked, own, found, sameId]
  · intro other differ
    simp [Tables.file, Tables.putDelivery, looked, own, differ.symm]

theorem putProof (frame : Frame before orderId db file) (carried : file.delivery = some delivery)
    (held : file.proof = some old) (sameId : new.id = old.id)
    (sameDelivery : new.deliveryId = old.deliveryId) :
    Frame before orderId (db.putProof new) { file with proof := some new } := by
  have coherent := frame.coherent
  have found := frame.delivery_eq.trans carried
  have proved : lookup DeliveryProof.deliveryId delivery.id db.deliveryProofs = some old := by
    have := (congrArg OrderFile.proof frame.here).trans held
    simpa [Tables.file, found] using this
  have looked := fun other => lookup_put other (lookup_mem proved) sameId.symm
    sameDelivery.symm coherent.proofIds coherent.proofDeliveries
  have own : new.deliveryId = delivery.id := sameDelivery.trans (lookup_col proved)
  refine frame.of_files (fun file => { file with proof := some new })
    (coherent.putProof (lookup_mem proved) sameId sameDelivery) ?_ ?_ rfl
  · simp [Tables.file, Tables.putProof, looked, own, found]
  · intro other differ
    cases second : lookup Delivery.orderId other db.deliveries with
    | none => simp [Tables.file, Tables.putProof, second]
    | some row =>
      have apart := coherent.delivery_ne found second differ
      simp [Tables.file, Tables.putProof, second, looked, own, apart.symm]

theorem addProof (frame : Frame before orderId db file) (carried : file.delivery = some delivery)
    (held : file.proof = none) (sameDelivery : row.deliveryId = delivery.id)
    (freshId : lookup DeliveryProof.id row.id db.deliveryProofs = none) :
    Frame before orderId (db.addProof row) { file with proof := some row } := by
  have coherent := frame.coherent
  have found := frame.delivery_eq.trans carried
  have proved : lookup DeliveryProof.deliveryId delivery.id db.deliveryProofs = none := by
    have := (congrArg OrderFile.proof frame.here).trans held
    simpa [Tables.file, found] using this
  refine frame.of_files (fun file => { file with proof := some row })
    (coherent.addProof freshId (sameDelivery ▸ proved)
      ⟨delivery, lookup_mem found, sameDelivery.symm⟩) ?_ ?_ rfl
  · simp [Tables.file, Tables.addProof, found, lookup_append, proved, sameDelivery]
  · intro other differ
    cases second : lookup Delivery.orderId other db.deliveries with
    | none => simp [Tables.file, Tables.addProof, second]
    | some held =>
      have apart := coherent.delivery_ne found second differ
      simp [Tables.file, Tables.addProof, second, lookup_append, sameDelivery, apart.symm]

theorem addCollection (frame : Frame before orderId db file)
    (carried : file.delivery = some delivery) (held : file.collection = none)
    (sameDelivery : row.deliveryId = delivery.id) (sameOrder : row.orderId = orderId)
    (freshId : lookup CodCollection.id row.id db.codCollections = none) :
    Frame before orderId (db.addCollection row) { file with collection := some row } := by
  have coherent := frame.coherent
  have found := frame.delivery_eq.trans carried
  have collected : lookup CodCollection.deliveryId delivery.id db.codCollections = none := by
    have := (congrArg OrderFile.collection frame.here).trans held
    simpa [Tables.file, found] using this
  refine frame.of_files (fun file => { file with collection := some row })
    (coherent.addCollection freshId (sameDelivery ▸ collected) (lookup_mem found) sameDelivery.symm
      ((lookup_col found).trans sameOrder.symm)) ?_ ?_ rfl
  · simp [Tables.file, Tables.addCollection, found, lookup_append, collected, sameDelivery]
  · intro other differ
    cases second : lookup Delivery.orderId other db.deliveries with
    | none => simp [Tables.file, Tables.addCollection, second]
    | some held =>
      have apart := coherent.delivery_ne found second differ
      simp [Tables.file, Tables.addCollection, second, lookup_append, sameDelivery, apart.symm]

theorem putAttempt (frame : Frame before orderId db file) (held : old ∈ file.attempts)
    (sameId : new.id = old.id) (sameOrder : new.orderId = old.orderId)
    (sameProvider : new.providerOrderId = old.providerOrderId)
    (unused : ∀ paymentId, new.providerPaymentId = some paymentId →
      ∀ other ∈ db.paymentAttempts, other.providerPaymentId = some paymentId → other.id = new.id) :
    Frame before orderId (db.putAttempt new)
      { file with attempts := put PaymentAttempt.id new file.attempts } := by
  have coherent := frame.coherent
  obtain ⟨member, parent⟩ := mem_belonging.mp (frame.attempts_eq ▸ held)
  have belongs := fun other => belonging_put other
    (kept_of_key coherent.attemptIds member sameId sameOrder)
  have own : new.orderId = orderId := sameOrder.trans parent
  refine frame.of_files
    (fun file => { file with attempts := put PaymentAttempt.id new file.attempts })
    (coherent.putAttempt member sameId sameOrder sameProvider unused) ?_ ?_ rfl
  · simp [Tables.file, Tables.putAttempt, belongs, own]
  · intro other differ
    simp [Tables.file, Tables.putAttempt, belongs, own, differ.symm]

/-- The new attempt's provider order is whatever the provider answered, so that the
constraints hold is for the commit to check. -/
theorem addAttempt (frame : Frame before orderId db file) (own : row.orderId = orderId)
    (constraints : (db.addAttempt row).Constraints) :
    Frame before orderId (db.addAttempt row) { file with attempts := file.attempts ++ [row] } := by
  have coherent := frame.coherent
  refine frame.of_files (fun file => { file with attempts := file.attempts ++ [row] })
    { constraints with
      refundKeysOf := coherent.refundKeysOf
      collectionOwners := coherent.collectionOwners
      adjustmentEntries := coherent.adjustmentEntries } ?_ ?_ rfl
  · simp [Tables.file, Tables.addAttempt, belonging_append, own]
  · intro other differ
    simp [Tables.file, Tables.addAttempt, belonging_append, own, differ.symm]

theorem putRefund (frame : Frame before orderId db file) (held : file.refund = some old)
    (sameId : new.id = old.id) (sameOrder : new.orderId = old.orderId)
    (sameKey : new.idempotencyKey = old.idempotencyKey)
    (unused : ∀ refundId, new.providerRefundId = some refundId →
      ∀ other ∈ db.paymentRefunds, other.providerRefundId = some refundId → other.id = new.id) :
    Frame before orderId (db.putRefund new) { file with refund := some new } := by
  have coherent := frame.coherent
  have found := frame.refund_eq.trans held
  have looked := fun other => lookup_put other (lookup_mem found) sameId.symm
    sameOrder.symm coherent.refundIds coherent.refundOrders
  have own : new.orderId = orderId := sameOrder.trans (lookup_col found)
  refine frame.of_files (fun file => { file with refund := some new })
    (coherent.putRefund (lookup_mem found) sameId sameOrder sameKey unused) ?_ ?_ rfl
  · simp [Tables.file, Tables.putRefund, looked, own]
  · intro other differ
    simp [Tables.file, Tables.putRefund, looked, own, differ.symm]

theorem addRefund (frame : Frame before orderId db file) (row : PaymentRefund)
    (parent : file.order = some order)
    (held : file.refund = none) (own : row.orderId = orderId)
    (key : row.idempotencyKey = refundIdempotencyKey row.orderId) (unset : row.providerRefundId = none)
    (freshId : lookup PaymentRefund.id row.id db.paymentRefunds = none) :
    Frame before orderId (db.addRefund row) { file with refund := some row } := by
  have coherent := frame.coherent
  have placed := frame.order_eq.trans parent
  have absent := frame.refund_eq.trans held
  have freshKey : lookup PaymentRefund.idempotencyKey row.idempotencyKey db.paymentRefunds = none := by
    rw [key, own, coherent.refund_by_key]
    exact absent
  refine frame.of_files (fun file => { file with refund := some row })
    (coherent.addRefund freshId freshKey unset
      ⟨order, lookup_mem placed, (lookup_col placed).trans own.symm⟩ key) ?_ ?_ rfl
  · simp [Tables.file, Tables.addRefund, lookup_append, absent, own]
  · intro other differ
    simp [Tables.file, Tables.addRefund, lookup_append, own, differ.symm]

theorem putSettlement (frame : Frame before orderId db file) (held : file.settlement = some old)
    (sameId : new.id = old.id) (sameOrder : new.orderId = old.orderId) :
    Frame before orderId (db.putSettlement new) { file with settlement := some new } := by
  have coherent := frame.coherent
  have found := frame.settlement_eq.trans held
  have looked := fun other => lookup_put other (lookup_mem found) sameId.symm
    sameOrder.symm coherent.settlementIds coherent.settlementOrders
  have own : new.orderId = orderId := sameOrder.trans (lookup_col found)
  refine frame.of_files (fun file => { file with settlement := some new })
    (coherent.putSettlement (lookup_mem found) sameId sameOrder) ?_ ?_ rfl
  · simp [Tables.file, Tables.putSettlement, looked, own]
  · intro other differ
    simp [Tables.file, Tables.putSettlement, looked, own, differ.symm]

theorem addSettlement (frame : Frame before orderId db file) (row : SettlementEntry)
    (parent : file.order = some order) (held : file.settlement = none) (own : row.orderId = orderId)
    (freshId : lookup SettlementEntry.id row.id db.settlementEntries = none) :
    Frame before orderId (db.addSettlement row) { file with settlement := some row } := by
  have coherent := frame.coherent
  have placed := frame.order_eq.trans parent
  have absent := frame.settlement_eq.trans held
  refine frame.of_files (fun file => { file with settlement := some row })
    (coherent.addSettlement freshId (own ▸ absent)
      ⟨order, lookup_mem placed, (lookup_col placed).trans own.symm⟩) ?_ ?_ rfl
  · simp [Tables.file, Tables.addSettlement, lookup_append, absent, own]
  · intro other differ
    simp [Tables.file, Tables.addSettlement, lookup_append, own, differ.symm]

theorem addAdjustment (frame : Frame before orderId db file) (row : SettlementAdjustment)
    (own : row.orderId = orderId) (held : file.settlement = some entry)
    (sameEntry : row.settlementEntryId = entry.id)
    (key : row.idempotencyKey = settlementReversalKey entry.id)
    (freshId : lookup SettlementAdjustment.id row.id db.settlementAdjustments = none)
    (freshKey : lookup SettlementAdjustment.idempotencyKey row.idempotencyKey
      db.settlementAdjustments = none) :
    Frame before orderId (db.addAdjustment row)
      { file with adjustments := file.adjustments ++ [row] } := by
  have entered := frame.settlement_eq.trans held
  refine frame.of_files (fun file => { file with adjustments := file.adjustments ++ [row] })
    (frame.coherent.addAdjustment freshId freshKey (lookup_mem entered) sameEntry.symm
      ((lookup_col entered).trans own.symm) key) ?_ ?_ rfl
  · simp [Tables.file, Tables.addAdjustment, belonging_append, own]
  · intro other differ
    simp [Tables.file, Tables.addAdjustment, belonging_append, own, differ.symm]

end Frame
end GaonOne
