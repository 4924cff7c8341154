import GaonOne.LoneRequests

/-! Cancellations and returns with nobody else about: the statements that put stock back,
record a refund and take a settlement back leave what the handlers leave. -/
namespace GaonOne
open Relational UnitOfWork ReadCommitted

/-! ## Stock -/

/-- The listings of a store that are written, as a lookup by product finds them. -/
structure Written (base : Tables) (storeId : UUID) (listings : List StoreProduct) : Prop where
  ids : Relational.Unique StoreProduct.id listings
  products : Relational.Unique StoreProduct.productId listings
  rowIds : Relational.Unique StoreProduct.id (base.putListings listings).catalogue.storeProducts
  rowKeys : Relational.Unique (fun listing : StoreProduct => (listing.storeId, listing.productId))
    (base.putListings listings).catalogue.storeProducts
  stored : ∀ listing ∈ listings, listing ∈ (base.putListings listings).catalogue.storeProducts ∧
    listing.storeId = storeId

theorem Tables.putListings_put {base : Tables} {listings : List StoreProduct} {old new : StoreProduct}
    (ids : Relational.Unique StoreProduct.id listings) (held : old ∈ listings) (same : old.id = new.id) :
    base.putListings (put StoreProduct.id new listings) = (base.putListings listings).putListing new := by
  rw [putListings_eq, putListings_eq, putListing, foldl_put_put ids held same]

theorem Written.credit {base : Tables} {listings : List StoreProduct} {listing : StoreProduct}
    (written : Written base storeId listings) (held : listing ∈ listings) (quantity : Int) :
    Written base storeId (put StoreProduct.id (creditListing listing quantity) listings) := by
  obtain ⟨here, own⟩ := written.stored listing held
  have shelves : (base.putListings
      (put StoreProduct.id (creditListing listing quantity) listings)).catalogue.storeProducts =
        put StoreProduct.id (creditListing listing quantity)
          (base.putListings listings).catalogue.storeProducts := by
    rw [Tables.putListings_put written.ids held (by rfl)]
    rfl
  refine ⟨?_, ?_, ?_, ?_, fun other inside => ?_⟩
  · exact unique_put (kept_of_key written.ids held rfl rfl) written.ids
  · exact unique_put (kept_of_key written.ids held rfl rfl) written.products
  · rw [shelves]
    exact unique_put (kept_of_key written.rowIds here rfl rfl) written.rowIds
  · rw [shelves]
    exact unique_put (kept_of_key written.rowIds here rfl rfl) written.rowKeys
  · rw [shelves]
    rcases mem_put.mp inside with ⟨rfl, -⟩ | ⟨there, apart⟩
    · exact ⟨mem_put.mpr (.inl ⟨rfl, listing, here, rfl⟩), own⟩
    · exact ⟨mem_put.mpr (.inr ⟨(written.stored other there).1, apart⟩), (written.stored other there).2⟩

/-- The loop on the session's rows is the loop on the listings that were locked. -/
theorem creditItems_listings {base : Tables} {items : List OrderItem} {listings : List StoreProduct}
    {db : DbSession} (pending : db.pending = base.putListings listings)
    (written : Written base storeId listings)
    (agree : ∀ item ∈ items, listingFor (base.putListings listings) storeId item.productId =
      lookup StoreProduct.productId item.productId listings) :
    creditItems storeId items db =
      (fun credited => { db with pending := base.putListings credited }) <$>
        creditListings items listings := by
  induction items generalizing listings db with
  | nil =>
    rw [creditItems, creditListings, map_pure, ← pending]
  | cons item items ih =>
    rw [creditItems, creditListings, pending, agree item List.mem_cons_self, map_bind]
    refine bind_congr_ok fun listing passed => ?_
    have found := (found_ok ..).mp passed
    have held := lookup_mem found
    obtain ⟨here, own⟩ := written.stored listing held
    refine (ih ?_ (written.credit held item.quantity) fun other inside => ?_).trans rfl
    · rw [Session.write_pending, pending, Tables.putListings_put written.ids held (by rfl)]
    · rw [Tables.putListings_put written.ids held (by rfl)]
      have shown := agree other (List.mem_cons_of_mem _ inside)
      have product : lookup StoreProduct.productId other.productId
          (put StoreProduct.id (creditListing listing item.quantity) listings) = _ :=
        lookup_put other.productId held (by rfl) (by rfl) written.ids written.products
      have row : lookup (fun listing : StoreProduct => (listing.storeId, listing.productId))
          (storeId, other.productId) (put StoreProduct.id (creditListing listing item.quantity)
            (base.putListings listings).catalogue.storeProducts) = _ :=
        lookup_put (storeId, other.productId) here (by rfl) (by rfl) written.rowIds written.rowKeys
      refine row.trans ?_
      rw [product, ← shown]
      simp only [Prod.mk.injEq, creditListing, own, true_and]
      rfl

/-- Locked listings written back as they are. -/
theorem putListings_self {tables : Tables} {listings : List StoreProduct}
    (ids : Relational.Unique StoreProduct.id tables.catalogue.storeProducts)
    (distinct : Relational.Unique StoreProduct.id listings)
    (held : ∀ listing ∈ listings, listing ∈ tables.catalogue.storeProducts) :
    tables.putListings listings = tables := by
  rw [Tables.putListings_eq, foldl_put_self ids distinct held]

/-- The listings of an order's items are what a lookup by product finds. -/
theorem restoreLocks_written {tables : Tables} (constraints : tables.Constraints) (order : Order)
    (items : List OrderItem) :
    Written tables order.storeId (restoreLocks tables order items) ∧
      tables.putListings (restoreLocks tables order items) = tables ∧
      ∀ item ∈ items, listingFor tables order.storeId item.productId =
        lookup StoreProduct.productId item.productId (restoreLocks tables order items) := by
  have member : ∀ listing, listing ∈ restoreLocks tables order items ↔
      listing ∈ tables.catalogue.storeProducts ∧ listing.storeId = order.storeId ∧
        listing.productId ∈ items.map (·.productId) := by
    intro listing
    rw [restoreLocks, List.mem_insertionSort, List.mem_filter, decide_eq_true_iff]
  have sorted : (restoreLocks tables order items).Perm
      (tables.catalogue.storeProducts.filter fun listing =>
        listing.storeId = order.storeId ∧ listing.productId ∈ items.map (·.productId)) :=
    List.perm_insertionSort _ _
  have ids : Relational.Unique StoreProduct.id (restoreLocks tables order items) :=
    (sorted.map _).nodup_iff.mpr (constraints.listingIds.sublist (List.filter_sublist.map _))
  have keys : Relational.Unique (fun listing : StoreProduct => (listing.storeId, listing.productId))
      (restoreLocks tables order items) :=
    (sorted.map _).nodup_iff.mpr (constraints.listingProducts.sublist (List.filter_sublist.map _))
  have products : Relational.Unique StoreProduct.productId (restoreLocks tables order items) := by
    refine List.Nodup.of_map (fun productId => (order.storeId, productId)) ?_
    have own : (restoreLocks tables order items).map (fun listing => (listing.storeId, listing.productId)) =
        ((restoreLocks tables order items).map (·.productId)).map (order.storeId, ·) := by
      rw [List.map_map]
      refine List.map_congr_left fun listing inside => ?_
      rw [((member listing).mp inside).2.1]
      rfl
    rw [← own]
    exact keys
  have same := putListings_self constraints.listingIds ids fun listing inside =>
    ((member listing).mp inside).1
  refine ⟨⟨ids, products, ?_, ?_, ?_⟩, same, fun item inside => ?_⟩
  · rw [same]
    exact constraints.listingIds
  · rw [same]
    exact constraints.listingProducts
  · intro listing inside
    rw [same]
    obtain ⟨stored, own, -⟩ := (member listing).mp inside
    exact ⟨stored, own⟩
  · ext listing
    rw [listingFor, lookup_eq_some_iff constraints.listingProducts, lookup_eq_some_iff products, member,
      Prod.mk.injEq]
    constructor
    · rintro ⟨stored, own, product⟩
      exact ⟨⟨stored, own, product ▸ List.mem_map_of_mem inside⟩, product⟩
    · rintro ⟨⟨stored, own, -⟩, product⟩
      exact ⟨stored, own, product⟩

/-- What restoring an order's stock leaves before the order's own row is written. -/
def Market.restocked (market : Market) (order : Order) (db : DbSession) : Market :=
  { market with
    tables := { market.tables with catalogue.storeProducts := db.pending.catalogue.storeProducts }
    restored := if order.stockRestoredAt.isSome then market.restored else market.restored ++ [order.id] }

/-- The loop of the session, on the listings that a locking query returns. -/
theorem creditItems_restoreLocks {tables : Tables} (constraints : tables.Constraints) (order : Order) :
    creditItems order.storeId (orderedItems tables order) (Session.start tables) =
      (fun credited => { Session.start tables with pending := tables.putListings credited }) <$>
        creditListings (orderedItems tables order)
          (restoreLocks tables order (orderedItems tables order)) := by
  obtain ⟨written, same, agree⟩ := restoreLocks_written constraints order (orderedItems tables order)
  refine creditItems_listings same.symm written fun item inside => ?_
  rw [same]
  exact agree item inside

theorem restore_alone {market : Market} {next : Order → Statements α}
    (constraints : market.tables.Constraints) (order : Order) (now : Instant) :
    leaves (Statement.restoreOrderStockOnce order now >>= next) market =
      restoreOrderStockOnce (Session.start market.tables) order now >>= fun ended =>
        leaves (next ended.2) (market.restocked order ended.1) := by
  unfold Statement.restoreOrderStockOnce restoreOrderStockOnce Market.restocked
  by_cases set : order.stockRestoredAt.isSome
  · rw [if_pos set, if_pos set]
    simp only [if_pos set]
    rfl
  · rw [if_neg set, if_neg set, creditItems_restoreLocks constraints]
    simp only [Program.bind_assoc, leaves_query, leaves_lockListings, leaves_check, leaves_flush, pure_bind,
      bind_assoc, bind_map_left, if_neg set]
    refine bind_congr_ok fun credited _ => ?_
    rw [Tables.putListings_eq]
    rfl

theorem Tables.putOrder_putOrder (db : Tables) {first second : Order} (same : first.id = second.id) :
    (db.putOrder first).putOrder second = db.putOrder second := by
  simp only [putOrder, put_put _ same]

/-- An order's row written back as it is. -/
theorem Tables.putOrder_self {db : Tables} (ids : Relational.Unique Order.id db.orders)
    (held : order ∈ db.orders) :
    db.putOrder order = db := by
  have same : put Order.id order db.orders = db.orders :=
    foldl_put_self ids (by simp [Relational.Unique]) fun row inside => List.mem_singleton.mp inside ▸ held
  rw [putOrder, same]

/-- Restoring stock writes listings and the order's row. -/
theorem restore_rows {market : Market} {db : DbSession} {order restored : Order} {now : Instant}
    (constraints : market.tables.Constraints)
    (ran : restoreOrderStockOnce (Session.start market.tables) order now = .ok (db, restored)) :
    restored.id = order.id ∧ ∀ new : Order, new.id = order.id →
      db.pending.putOrder new = (market.restocked order db).tables.putOrder new := by
  unfold restoreOrderStockOnce at ran
  split at ran
  · simp only [pure_ok, Prod.mk.injEq] at ran
    obtain ⟨rfl, rfl⟩ := ran
    exact ⟨rfl, fun _ _ => rfl⟩
  · rw [creditItems_restoreLocks constraints, bind_map_left, bind_ok] at ran
    obtain ⟨credited, -, ran⟩ := ran
    simp only [pure_ok, Prod.mk.injEq] at ran
    obtain ⟨rfl, rfl⟩ := ran
    refine ⟨rfl, fun new same => ?_⟩
    rw [Session.write_pending, Tables.putOrder_putOrder _ (by exact same.symm), Tables.putListings_eq]
    rfl

/-! ## Refunds and cancellations -/

/-- The obligation of an order, where nothing stands against its row. -/
def obligation (attempt : Option PaymentAttempt) (order : Order) (reason : String) (draws : Draws)
    (db : Tables) : Tables × Order :=
  if owesRefund order ∧
      lookup PaymentRefund.idempotencyKey (refundIdempotencyKey order.id) db.paymentRefunds = none then
    let owed := { order with paymentStatus := refundOwedStatus order.paymentStatus }
    ((db.addRefund (refundRequest order attempt reason draws)).putOrder owed, owed)
  else (db, order)

/-- With the payment that is on record as captured. -/
def owing (order : Order) (reason : String) (draws : Draws) (db : Tables) : Tables × Order :=
  obligation (latestCapturedAttempt (Session.start db) order.id) order reason draws db

/-- It changes no more of the order than its payment. -/
theorem owing_order (order : Order) (reason : String) (draws : Draws) (db : Tables) :
    { order with paymentStatus := (owing order reason draws db).2.paymentStatus } =
      (owing order reason draws db).2 := by
  unfold owing obligation
  split <;> rfl

/-- The order's own row plays no part. -/
theorem owing_putOrder (order row : Order) (reason : String) (draws : Draws) (db : Tables) :
    (owing order reason draws (db.putOrder row)).2 = (owing order reason draws db).2 := by
  unfold owing obligation
  rw [show (db.putOrder row).paymentRefunds = db.paymentRefunds from rfl]
  split <;> rfl

theorem putOrder_owing (order : Order) (reason : String) (draws : Draws) (db : Tables) {row last : Order}
    (same : row.id = order.id) (own : last.id = order.id) :
    (owing order reason draws (db.putOrder row)).1.putOrder last =
      (owing order reason draws db).1.putOrder last := by
  unfold owing obligation
  rw [show (db.putOrder row).paymentRefunds = db.paymentRefunds from rfl]
  split
  · rw [Tables.putOrder_putOrder _ (by exact own.symm), Tables.putOrder_putOrder _ (by exact own.symm)]
    exact Tables.putOrder_putOrder (db.addRefund _) (same.trans own.symm)
  · exact Tables.putOrder_putOrder db (same.trans own.symm)

theorem ensureRefundRequest_obligation (db : DbSession) (order : Order) (reason : String) (draws : Draws)
    (frame : Frame before orderId db.pending file) (held : file.order = some row) (own : order.id = row.id)
    (refunds : db.flushed.paymentRefunds = db.pending.paymentRefunds)
    (fresh : lookup PaymentRefund.id draws.refundId db.pending.paymentRefunds = none) :
    ((ensureRefundRequest db order reason draws).1.pending, (ensureRefundRequest db order reason draws).2.1) =
      obligation (latestCapturedAttempt db order.id) order reason draws db.pending := by
  have here : order.id = orderId := own.trans (lookup_col (frame.order_eq.trans held))
  subst here
  unfold ensureRefundRequest obligation
  by_cases owes : owesRefund order
  · rw [if_pos owes, refunds, frame.coherent.refund_by_key, congrArg OrderFile.refund frame.here]
    cases recorded : file.refund with
    | some refund => simp [owes]
    | none =>
      have next := frame.addRefund (refundRequest order (latestCapturedAttempt db order.id) reason
        draws) held recorded rfl rfl rfl fresh
      simp only
      rw [flushOrRollback_coherent _ (by exact next.coherent)]
      simp [owes]
  · rw [if_neg owes, if_neg fun both => owes both.1]

theorem ensureRefundRequest_owing (db : DbSession) (order : Order) (reason : String) (draws : Draws)
    (frame : Frame before orderId db.pending file) (held : file.order = some row) (own : order.id = row.id)
    (refunds : db.flushed.paymentRefunds = db.pending.paymentRefunds)
    (attempts : db.flushed.paymentAttempts = db.pending.paymentAttempts)
    (fresh : lookup PaymentRefund.id draws.refundId db.pending.paymentRefunds = none) :
    (ensureRefundRequest db order reason draws).1.pending = (owing order reason draws db.pending).1 ∧
      (ensureRefundRequest db order reason draws).2.1 = (owing order reason draws db.pending).2 := by
  have captured : latestCapturedAttempt db order.id =
      latestCapturedAttempt (Session.start db.pending) order.id := by
    rw [latestCapturedAttempt, attempts]
    rfl
  have same := ensureRefundRequest_obligation db order reason draws frame held own refunds fresh
  rw [captured] at same
  exact Prod.ext_iff.mp same

/-- And so it is on record. -/
theorem recordRefund_owing {db : Tables} (reason : String) (frame : Frame before orderId db file)
    (held : file.order = some row) (own : order.id = row.id)
    (fresh : lookup PaymentRefund.id draws.refundId db.paymentRefunds = none) :
    Statement.recordRefund order reason draws db = (owing order reason draws db).1 :=
  (ensureRefundRequest_owing (Session.start db) order reason draws frame held own rfl rfl fresh).1

/-- A settlement taken back, where nothing stands against its rows. -/
def takenBack (order : Order) (reason : String) (draws : Draws) (db : Tables) : Tables :=
  match lookup SettlementEntry.orderId order.id db.settlementEntries with
  | none => db
  | some entry =>
    match entry.status with
    | .voided => db
    | .pending =>
      db.putSettlement { entry with status := .voided, voidedAt := some draws.now, voidReason := some reason }
    | .settled =>
      match lookup SettlementAdjustment.idempotencyKey (settlementReversalKey entry.id)
          db.settlementAdjustments with
      | some _ => db
      | none => db.addAdjustment (settlementReversal entry order reason draws)

/-- It writes the ledger only. -/
theorem takenBack_ledger (order : Order) (reason : String) (draws : Draws) (db : Tables) :
    ∃ entries adjustments, takenBack order reason draws db =
      { db with settlementEntries := entries, settlementAdjustments := adjustments } := by
  unfold takenBack
  cases lookup SettlementEntry.orderId order.id db.settlementEntries with
  | none => exact ⟨_, _, rfl⟩
  | some entry =>
    dsimp only
    cases entry.status with
    | voided => exact ⟨_, _, rfl⟩
    | pending => exact ⟨_, _, rfl⟩
    | settled =>
      cases lookup SettlementAdjustment.idempotencyKey (settlementReversalKey entry.id)
        db.settlementAdjustments <;> exact ⟨_, _, rfl⟩

theorem voidSettlementForRefund_takenBack (db : DbSession) (order : Order) (reason : String)
    (frame : Frame before orderId db.pending file) (own : order.id = orderId)
    (entries : db.flushed.settlementEntries = db.pending.settlementEntries)
    (adjustments : db.flushed.settlementAdjustments = db.pending.settlementAdjustments)
    (fresh : lookup SettlementAdjustment.id draws.adjustmentId db.pending.settlementAdjustments = none) :
    (voidSettlementForRefund db order reason draws).pending = takenBack order reason draws db.pending := by
  unfold takenBack voidSettlementForRefund
  rw [entries, adjustments, own, frame.settlement_eq]
  cases recorded : file.settlement with
  | none => rfl
  | some entry =>
    have member := lookup_mem (frame.settlement_eq.trans recorded)
    simp only [tracked_eq frame.coherent.settlementIds member]
    cases status : entry.status with
    | voided => rfl
    | pending => rfl
    | settled =>
      dsimp only
      cases missing : lookup SettlementAdjustment.idempotencyKey (settlementReversalKey entry.id)
          db.pending.settlementAdjustments with
      | some adjustment => rfl
      | none =>
        have next := frame.addAdjustment (settlementReversal entry order reason draws) own recorded
          rfl rfl fresh missing
        exact congrArg (fun ended : DbSession × Bool => ended.1.pending)
          (flushOrRollback_coherent _ (by exact next.coherent))

/-- An order whose stock is back, moved on: what the session holds of it. -/
structure Moved (market : Market) (orderId : UUID) (db : DbSession) (row : Order) (file : OrderFile) :
    Prop where
  id : row.id = orderId
  frame : Frame market.tables orderId (db.pending.putOrder row) file
  current : file.order = some row
  attempts : db.pending.paymentAttempts = market.tables.paymentAttempts
  refunds : db.pending.paymentRefunds = market.tables.paymentRefunds
  entries : db.pending.settlementEntries = market.tables.settlementEntries
  adjustments : db.pending.settlementAdjustments = market.tables.settlementAdjustments

theorem exists_moved {market : Market} {orderId : UUID} {order restored row : Order} {status : OrderStatus}
    {db : DbSession} (coherent : market.tables.Coherent) (held : market.tables.order? orderId = some order)
    (ran : restoreOrderStockOnce (Session.start market.tables) order now = .ok (db, restored))
    (moves : transitionOrder restored status = .ok row) : ∃ file, Moved market orderId db row file := by
  obtain ⟨restoredAt, rfl, stocked, -, -, attempts, refunds, entries, adjustments⟩ :=
    restoreOrderStockOnce_frame (Frame.refl coherent orderId) held ran
  have here : order.id = orderId := lookup_col held
  obtain ⟨-, rfl⟩ := transitionOrder_ok.mp moves
  exact ⟨_, here, stocked.putOrder _ rfl rfl rfl rfl rfl, rfl, attempts, refunds, entries, adjustments⟩

namespace Moved

variable {market : Market} {orderId : UUID} {db : DbSession} {row : Order} {file : OrderFile} {draws : Draws}

theorem flushes (moved : Moved market orderId db row file) :
    flushRows (db.write (·.putOrder row)) = .ok (db.write (·.putOrder row)).flush :=
  flushRows_kept moved.frame.coherent.toConstraints

/-- The obligation recorded behind the order's own row. -/
theorem recorded (moved : Moved market orderId db row file) (fresh : draws.Fresh market.tables)
    (reason : String) :
    (ensureRefundRequest (db.write (·.putOrder row)).flush row reason draws).1.pending =
        (owing row reason draws (db.pending.putOrder row)).1 ∧
      Statement.recordRefund row reason draws (db.pending.putOrder row) =
        (owing row reason draws (db.pending.putOrder row)).1 := by
  have free : lookup PaymentRefund.id draws.refundId (db.pending.putOrder row).paymentRefunds = none :=
    moved.refunds ▸ fresh.refund
  exact ⟨(ensureRefundRequest_owing (db.write (·.putOrder row)).flush row reason draws moved.frame
    moved.current rfl rfl rfl free).1, recordRefund_owing reason moved.frame moved.current rfl free⟩

/-- The obligation recorded behind the settlement that was taken back. -/
theorem returned (moved : Moved market orderId db row file) (fresh : draws.Fresh market.tables) :
    let session := voidSettlementForRefund (db.write (·.putOrder row)).flush row voidReasonReturned draws
    let rows := takenBack row voidReasonReturned draws (db.pending.putOrder row)
    (ensureRefundRequest session (tracked Order.id row session.pending.orders) refundReasonReturned
        draws).1.pending = (owing row refundReasonReturned draws rows).1 ∧
      Statement.recordRefund row refundReasonReturned draws
          (Statement.takeBackSettlement row voidReasonReturned draws (db.pending.putOrder row)) =
        (owing row refundReasonReturned draws rows).1 := by
  intro session rows
  have freeAdjustment : lookup SettlementAdjustment.id draws.adjustmentId
      (db.pending.putOrder row).settlementAdjustments = none := moved.adjustments ▸ fresh.adjustment
  obtain ⟨next, voided, -, ledger⟩ := voidSettlementForRefund_frame (db.write (·.putOrder row)).flush row
    voidReasonReturned draws moved.frame moved.id rfl rfl freeAdjustment
  have taken : session.pending = rows := voidSettlementForRefund_takenBack
    (db.write (·.putOrder row)).flush row voidReasonReturned moved.frame moved.id rfl rfl freeAdjustment
  have stated : Statement.takeBackSettlement row voidReasonReturned draws (db.pending.putOrder row) = rows :=
    voidSettlementForRefund_takenBack (Session.start (db.pending.putOrder row)) row voidReasonReturned
      moved.frame moved.id rfl rfl freeAdjustment
  have current : next.order = some row := by
    rw [← voided.order_eq, ledger.orders]
    exact moved.frame.order_eq.trans moved.current
  have free : lookup PaymentRefund.id draws.refundId session.pending.paymentRefunds = none := by
    rw [ledger.refunds]
    exact moved.refunds ▸ fresh.refund
  have object : tracked Order.id row session.pending.orders = row :=
    tracked_eq voided.coherent.orderIds (lookup_mem (voided.order_eq.trans current))
  rw [object, stated, ← taken]
  exact ⟨(ensureRefundRequest_owing session row refundReasonReturned draws voided current rfl
    (ledger.refundsFlushed rfl) (ledger.attemptsFlushed rfl) free).1,
    recordRefund_owing refundReasonReturned voided current rfl free⟩

end Moved

section
variable {market : Market} {subject orderId : UUID} {draws : Draws} (coherent : market.tables.Coherent)
  (fresh : draws.Fresh market.tables)
include coherent fresh

theorem cancelMyOrderSafely_alone :
    leaves (Statement.cancelMyOrderSafely subject orderId draws) market =
      (·.1.pending) <$> cancelMyOrderSafely (Session.start market.tables) subject orderId draws := by
  simp only [Statement.cancelMyOrderSafely, cancelMyOrderSafely, Statement.lockedOrder, leaves_statement,
    leaves_selectForUpdate, leaves_found, leaves_require, leaves_check, leaves_flushTables, leaves_pure,
    restore_alone coherent.toConstraints, map_bind, map_pure]
  refine bind_congr_ok fun user _ => bind_congr_ok fun order read => bind_congr_ok fun _ _ =>
    bind_congr_ok fun ended ran => bind_congr_ok fun cancelled moves => ?_
  obtain ⟨db, restored⟩ := ended
  have held : market.tables.order? orderId = some order :=
    (Option.filter_eq_some_iff.mp ((found_ok ..).mp read)).1
  obtain ⟨file, moved⟩ := exists_moved coherent held ran moves
  obtain ⟨owed, recorded⟩ := moved.recorded fresh refundReasonCancelled
  have rows := (restore_rows coherent.toConstraints ran).2 cancelled (moved.id.trans (lookup_col held).symm)
  rw [moved.flushes]
  change (.ok (Statement.recordRefund cancelled refundReasonCancelled draws
    ((market.restocked order db).tables.putOrder cancelled)) : Handler Tables) =
      .ok (ensureRefundRequest (db.write (·.putOrder cancelled)).flush cancelled refundReasonCancelled
        draws).1.pending
  rw [owed, ← rows, recorded]

omit coherent fresh in
/-- The status changes on the object that the obligation was recorded on. -/
theorem cancelled_owing {db : DbSession} {order restored : Order} (coherent : market.tables.Coherent)
    (fresh : draws.Fresh market.tables) (held : market.tables.order? orderId = some order)
    (ran : restoreOrderStockOnce (Session.start market.tables) order now = .ok (db, restored)) :
    (do
      let order ← transitionOrder (ensureRefundRequest db restored refundReasonCancelled draws).2.1 .cancelled
      let db ← flushRows ((ensureRefundRequest db restored refundReasonCancelled draws).1.write
        (·.putOrder order))
      pure db.pending : Handler Tables) =
      (transitionOrder (owing restored refundReasonCancelled draws db.pending).2 .cancelled >>= fun order =>
        .ok ((owing restored refundReasonCancelled draws db.pending).1.putOrder order)) := by
  obtain ⟨restoredAt, -, stocked, -, flushed, attempts, refunds, -, -⟩ :=
    restoreOrderStockOnce_frame (Frame.refl coherent orderId) held ran
  have free : lookup PaymentRefund.id draws.refundId db.pending.paymentRefunds = none :=
    refunds ▸ fresh.refund
  have owed := ensureRefundRequest_owing db restored refundReasonCancelled draws stocked rfl rfl
    (flushed ▸ refunds.symm) (flushed ▸ attempts.symm) free
  obtain ⟨next, recorded, -, current⟩ := ensureRefundRequest_frame db restored refundReasonCancelled draws
    stocked rfl (flushed ▸ refunds.symm) free
  rw [← owed.1, ← owed.2]
  refine bind_congr_ok fun last moves => ?_
  obtain ⟨-, cancelled⟩ := transitionOrder_ok.mp moves
  have written := recorded.putOrder last current (by rw [← cancelled]) (by rw [← cancelled])
    (by rw [← cancelled]) (by rw [← cancelled])
  rw [flushRows_kept (by exact written.coherent.toConstraints)]
  rfl

/-- The cancelling branch of the status screen. -/
theorem cancelOrderForStore_alone {user : User} {order : Order}
    (held : market.tables.order? orderId = some order) :
    leaves (do
        ensureAdminCapability user .refundWrite
        let order ← Statement.restoreOrderStockOnce order draws.now
        let owed ← Program.query fun market : Market =>
          (ensureRefundRequest (Session.start market.tables) order refundReasonCancelled draws).2.1
        flushTables (Statement.recordRefund order refundReasonCancelled draws)
        let order ← transitionOrder { order with paymentStatus := owed.paymentStatus } .cancelled
        flushTables (·.putOrder order)
        pure none : Statements (Option Order)) market =
      (·.1.pending) <$> cancelOrderForStore (Session.start market.tables) user order draws := by
  simp only [cancelOrderForStore, leaves_check, leaves_query, leaves_flushTables, leaves_pure,
    restore_alone coherent.toConstraints, map_bind, map_pure]
  refine bind_congr_ok fun _ _ => bind_congr_ok fun ended ran => ?_
  obtain ⟨db, restored⟩ := ended
  obtain ⟨same, rows⟩ := restore_rows coherent.toConstraints ran
  obtain ⟨restoredAt, becomes, stocked, -⟩ :=
    restoreOrderStockOnce_frame (Frame.refl coherent orderId) held ran
  have keeps : restored.orderNumber = order.orderNumber ∧ restored.userId = order.userId ∧
      restored.idempotencyKey = order.idempotencyKey := by
    rw [becomes]
    exact ⟨rfl, rfl, rfl⟩
  obtain ⟨number, owner, key⟩ := keeps
  -- the statements have not written the order's row yet
  have unwritten : (market.restocked order db).tables = db.pending.putOrder order := by
    rw [rows order rfl]
    have ids : Relational.Unique Order.id (market.restocked order db).tables.orders := coherent.orderIds
    exact (Tables.putOrder_self ids (lookup_mem held)).symm
  have base := stocked.putOrder order rfl same.symm number.symm owner.symm key.symm
  rw [← unwritten] at base
  have stated := ensureRefundRequest_owing (Session.start (market.restocked order db).tables) restored
    refundReasonCancelled draws base rfl same rfl rfl fresh.refund
  have object : { restored with
      paymentStatus := (ensureRefundRequest (Session.start (market.restocked order db).tables) restored
        refundReasonCancelled draws).2.1.paymentStatus } =
      (owing restored refundReasonCancelled draws db.pending).2 := by
    rw [stated.2, Session.start, unwritten, owing_putOrder]
    exact owing_order restored refundReasonCancelled draws db.pending
  refine Eq.trans ?_ (cancelled_owing coherent fresh held ran).symm
  change transitionOrder { restored with paymentStatus := _ } .cancelled >>= _ = _
  rw [object]
  refine bind_congr_ok fun last moves => congrArg Except.ok ?_
  obtain ⟨-, cancelled⟩ := transitionOrder_ok.mp moves
  have own : last.id = restored.id := by
    rw [← cancelled, ← owing_order]
  change (Statement.recordRefund restored refundReasonCancelled draws
    (market.restocked order db).tables).putOrder last = _
  rw [recordRefund_owing refundReasonCancelled base rfl same fresh.refund, unwritten,
    putOrder_owing _ _ _ _ same.symm own]

theorem updateOrderStatusSafely_alone {status : OrderStatus} :
    leaves (Statement.updateOrderStatusSafely subject orderId status draws) market =
      (·.1.pending) <$>
        updateOrderStatusSafely (Session.start market.tables) subject orderId status draws := by
  simp only [Statement.updateOrderStatusSafely, updateOrderStatusSafely, Statement.lockedOrder,
    leaves_statement, leaves_selectForUpdate, leaves_found, leaves_require, leaves_check, map_bind]
  refine bind_congr_ok fun user _ => bind_congr_ok fun _ _ => bind_congr_ok fun order read =>
    bind_congr_ok fun _ _ => bind_congr_ok fun _ _ => bind_congr_ok fun _ _ => bind_congr_ok fun _ _ => ?_
  have held : market.tables.order? orderId = some order := (found_ok ..).mp read
  split
  · exact cancelOrderForStore_alone coherent fresh held
  · simp only [leaves_check, leaves_flushTables, leaves_pure, map_bind, map_pure]
    refine bind_congr_ok fun next moves => ?_
    obtain ⟨-, becomes⟩ := transitionOrder_ok.mp moves
    have kept : (market.tables.putOrder next).Coherent := coherent.putOrder (lookup_mem held)
      (by rw [← becomes]) (by rw [← becomes]) (by rw [← becomes]) (by rw [← becomes])
    rw [flushRows_kept (by exact kept.toConstraints)]
    rfl

/-! ## Returns -/

theorem resolveFailedDelivery_alone {deliveryId : UUID} {resolution : Resolution} {notes : Option String} :
    leaves (Statement.resolveFailedDelivery subject deliveryId resolution notes draws) market =
      (·.1.pending) <$>
        resolveFailedDelivery (Session.start market.tables) subject deliveryId resolution notes draws := by
  simp only [Statement.resolveFailedDelivery, resolveFailedDelivery, lockedDeliveryOrder,
    Statement.lockedOrder, Statement.lockedDelivery, leaves_statement, leaves_selectForUpdate, leaves_found,
    leaves_require, map_bind, bind_assoc, pure_bind]
  refine bind_congr_ok fun admin _ => bind_congr_ok fun _ _ => bind_congr_ok fun delivery carried =>
    bind_congr_ok fun order read => bind_congr_ok fun _ _ => ?_
  cases resolution with
  | reassign =>
    simp only [leaves_require, leaves_check, leaves_flushTables, leaves_pure, map_bind]
    refine bind_congr_ok fun _ _ => bind_congr_ok fun _ _ => bind_congr_ok fun moved moves => ?_
    obtain ⟨-, becomes⟩ := releasedDelivery_ok.mp moves
    have kept : (market.tables.putDelivery moved).Coherent :=
      coherent.putDelivery (lookup_mem ((found_ok ..).mp carried)) (by rw [← becomes]) (by rw [← becomes])
    rw [flushRows_kept (by exact kept.toConstraints)]
    rfl
  | returnToStore =>
    have held : market.tables.order? delivery.orderId = some order := (found_ok ..).mp read
    simp only [returnToStore, leaves_require, leaves_check, leaves_flushTables, leaves_query, leaves_pure,
      restore_alone coherent.toConstraints, map_bind, map_pure]
    refine bind_congr_ok fun _ _ => bind_congr_ok fun _ _ => bind_congr_ok fun _ _ => bind_congr_ok fun _ _ =>
      bind_congr_ok fun ended ran => bind_congr_ok fun returned moves => ?_
    obtain ⟨db, restored⟩ := ended
    obtain ⟨file, moved⟩ := exists_moved coherent held ran moves
    obtain ⟨owed, recorded⟩ := moved.returned fresh
    have rows := (restore_rows coherent.toConstraints ran).2 returned (moved.id.trans (lookup_col held).symm)
    rw [moved.flushes]
    refine Eq.trans ?_ (congrArg Except.ok owed.symm)
    rw [← recorded, rows]
    rfl

end

/-! ## With their flushes -/

section
variable {market : Market} {pending : Pending}

/-- No other row carries what is still to be flushed. -/
def Pending.Untaken (pending : Pending) (market : Market) : Prop :=
  ∀ value rowId, (value, rowId) ∈ pending.values → ¬value.Taken market.tables rowId

theorem Pending.untaken_of_clean (clean : pending.values = []) : pending.Untaken market := by
  intro value rowId inside
  rw [clean] at inside
  cases inside

theorem Pending.Untaken.violation (untaken : pending.Untaken market) :
    pending.violation market.tables = none := by
  rw [Pending.violation, Option.map_eq_none_iff, List.find?_eq_none]
  exact fun pair inside taken => untaken pair.1 pair.2 inside (of_decide_eq_true taken)

theorem not_taken_of_unused {value : UniqueValue} (unused : value.carriers market.tables = [])
    (rowId : UUID) : ¬value.Taken market.tables rowId := by
  rintro ⟨id, carried, -⟩
  rw [unused] at carried
  cases carried

theorem leaves_flush_untaken {next : Unit → Statements α} (untaken : pending.Untaken market) :
    leaves (pending.flush >>= next) market = leaves (next ()) market := by
  unfold Pending.flush
  simp only [Program.bind_assoc, leaves_lockRows, leaves_query, leaves_require, untaken.violation]
  rfl

theorem leaves_commit_untaken {next : Option String → Statements α} (untaken : pending.Untaken market) :
    leaves (pending.commit >>= next) market = leaves (next none) (pending.change market) := by
  unfold Pending.commit
  simp only [Program.bind_assoc, leaves_flush_untaken untaken]
  rfl

theorem leaves_commit (untaken : pending.Untaken market) :
    leaves pending.commit market = .ok (pending.change market).tables := by
  unfold Pending.commit
  rw [leaves_flush_untaken untaken]
  rfl

/-- A flush that nothing stands against goes through. -/
theorem leaves_flushOrRollback {next : Bool → Statements α} (untaken : pending.Untaken market) :
    leaves (pending.flushOrRollback >>= next) market = leaves (next true) market := by
  unfold Pending.flushOrRollback
  simp only [Program.bind_assoc, leaves_lockRows, leaves_remember, leaves_query, untaken.violation]
  rfl

/-- One more value, which no row carries. -/
theorem Pending.Untaken.bring {value : UniqueValue} (untaken : pending.Untaken market)
    (unused : value.carriers market.tables = []) (rowId : UUID) :
    (pending.bring value rowId).Untaken market := by
  intro other otherId inside
  rcases List.mem_append.mp inside with earlier | added
  · exact untaken other otherId earlier
  · cases List.mem_singleton.mp added
    exact not_taken_of_unused unused rowId

/-- The obligation, flushed where it is new. -/
theorem leaves_ensureRefundRequest {next : Option (Pending × Order) → Statements α} (order : Order)
    (reason : String) (draws : Draws) (untaken : pending.Untaken market)
    (refunds : (pending.change market).tables.paymentRefunds = market.tables.paymentRefunds) :
    let owed := obligation (latestCapturedAttempt
      ⟨market.tables, market.tables, (pending.change market).tables⟩ order.id) order reason draws
      (pending.change market).tables
    ∃ after : Pending, after.Untaken market ∧ (after.change market).tables = owed.1 ∧
      leaves (Flushed.ensureRefundRequest pending order reason draws >>= next) market =
        leaves (next (some (after, owed.2))) market := by
  unfold Flushed.ensureRefundRequest obligation
  rw [refunds]
  by_cases owes : owesRefund order
  · rw [if_pos owes]
    simp only [Program.bind_assoc, leaves_selectForUpdate]
    cases recorded : lookup PaymentRefund.idempotencyKey (refundIdempotencyKey order.id)
        market.tables.paymentRefunds with
    | some refund =>
      rw [if_neg (fun both => by cases both.2), if_pos (Option.isSome_some)]
      exact ⟨pending, untaken, rfl, rfl⟩
    | none =>
      have unused : UniqueValue.carriers market.tables (.refundKey order.id) = [] := by
        rw [UniqueValue.carriers, belonging_of_missing recorded]
        rfl
      rw [if_pos ⟨owes, rfl⟩]
      simp only [Option.isSome_none, Bool.false_eq_true, if_false, Program.bind_assoc, leaves_query]
      rw [leaves_flushOrRollback (by exact Pending.Untaken.bring untaken unused _)]
      exact ⟨_, Pending.untaken_of_clean rfl, rfl, rfl⟩
  · rw [if_neg owes, if_neg fun both => owes both.1]
    exact ⟨pending, untaken, rfl, rfl⟩

/-- The query for the captured payment, where no attempt was written. -/
theorem obligation_owing {order : Order} {reason : String} {draws : Draws}
    (attempts : (pending.change market).tables.paymentAttempts = market.tables.paymentAttempts) :
    obligation (latestCapturedAttempt ⟨market.tables, market.tables, (pending.change market).tables⟩
        order.id) order reason draws (pending.change market).tables =
      owing order reason draws (pending.change market).tables := by
  rw [owing, latestCapturedAttempt, ← attempts]
  rfl

/-- A request that ends with the obligation, flushed and committed. -/
theorem leaves_refundCommitted {order : Order} {reason : String} {draws : Draws}
    (untaken : pending.Untaken market)
    (refunds : (pending.change market).tables.paymentRefunds = market.tables.paymentRefunds)
    (attempts : (pending.change market).tables.paymentAttempts = market.tables.paymentAttempts) :
    leaves (do
        match ← Flushed.ensureRefundRequest pending order reason draws with
        | none => pure none
        | some (pending, _) => pending.commit) market =
      .ok (owing order reason draws (pending.change market).tables).1 := by
  obtain ⟨after, done, effect, goes⟩ := leaves_ensureRefundRequest order reason draws untaken refunds
  rw [goes, ← obligation_owing attempts, ← effect]
  exact leaves_commit done

/-- A settlement taken back, flushed where its reversal is new. -/
theorem leaves_voidSettlementForRefund {next : Option Pending → Statements α} {order : Order}
    {reason : String} {draws : Draws} (untaken : pending.Untaken market)
    (entries : (pending.change market).tables.settlementEntries = market.tables.settlementEntries)
    (adjustments : (pending.change market).tables.settlementAdjustments =
      market.tables.settlementAdjustments) :
    ∃ after : Pending, after.Untaken market ∧
      (after.change market).tables = takenBack order reason draws (pending.change market).tables ∧
      leaves (Flushed.voidSettlementForRefund pending order reason draws >>= next) market =
        leaves (next (some after)) market := by
  unfold Flushed.voidSettlementForRefund Flushed.lockedSettlement takenBack
  simp only [Program.bind_assoc, leaves_selectForUpdate]
  rw [entries, adjustments]
  cases lookup SettlementEntry.orderId order.id market.tables.settlementEntries with
  | none => exact ⟨pending, untaken, rfl, rfl⟩
  | some entry =>
    dsimp only
    cases entry.status with
    | voided => exact ⟨pending, untaken, rfl, rfl⟩
    | pending => exact ⟨pending.write (·.putSettlement _), untaken, rfl, rfl⟩
    | settled =>
      simp only [Program.bind_assoc, leaves_query]
      cases missing : lookup SettlementAdjustment.idempotencyKey (settlementReversalKey entry.id)
          market.tables.settlementAdjustments with
      | some _ => exact ⟨pending, untaken, rfl, rfl⟩
      | none =>
        have unused : UniqueValue.carriers market.tables (.reversalKey entry.id) = [] := by
          rw [UniqueValue.carriers, belonging_of_missing missing]
          rfl
        simp only [Option.isSome_none, Bool.false_eq_true, if_false, Program.bind_assoc]
        rw [leaves_flushOrRollback (by exact Pending.Untaken.bring untaken unused _)]
        exact ⟨_, Pending.untaken_of_clean rfl, rfl, rfl⟩

/-- Restored stock, still to be flushed. -/
theorem leaves_restoreOrderStockOnce {next : Pending × Order → Statements α} (order : Order) (now : Instant) :
    ∃ restocked : Pending, restocked.values = [] ∧
      (∀ ended, restoreOrderStockOnce (Session.start market.tables) order now = .ok ended →
        (restocked.change market).tables = ended.1.pending) ∧
      leaves (Flushed.restoreOrderStockOnce {} order now >>= next) market =
        restoreOrderStockOnce (Session.start market.tables) order now >>= fun ended =>
          leaves (next (restocked, ended.2)) market := by
  unfold Flushed.restoreOrderStockOnce
  simp only [Program.bind_assoc, leaves_statement]
  refine ⟨Pending.write {} fun db => ((restoreOrderStockOnce (Session.start db) order now).toOption.map
    (·.1.pending)).getD db, rfl, fun ended ran => ?_, ?_⟩
  · simp only [Pending.write, Function.comp_apply, Market.change_tables, id_eq, ran]
    rfl
  · change ((·.2) <$> restoreOrderStockOnce (Session.start market.tables) order now) >>= _ = _
    rw [bind_map_left]
    refine bind_congr_ok fun ended _ => congrArg (fun credit =>
      leaves (next (Pending.write {} credit, ended.2)) market) (funext fun db => ?_)
    cases restoreOrderStockOnce (Session.start db) order now <;> rfl

end

section
variable {market : Market} {subject orderId : UUID} {draws : Draws} (coherent : market.tables.Coherent)
  (fresh : draws.Fresh market.tables)
include coherent fresh

theorem flushed_cancelMyOrderSafely_alone :
    leaves (Flushed.cancelMyOrderSafely subject orderId draws) market =
      (·.1.pending) <$> cancelMyOrderSafely (Session.start market.tables) subject orderId draws := by
  simp only [Flushed.cancelMyOrderSafely, cancelMyOrderSafely, Statement.lockedOrder, leaves_statement,
    leaves_selectForUpdate, leaves_found, leaves_require, map_bind, map_pure]
  refine bind_congr_ok fun user _ => bind_congr_ok fun order read => bind_congr_ok fun _ _ => ?_
  have held : market.tables.order? orderId = some order :=
    (Option.filter_eq_some_iff.mp ((found_ok ..).mp read)).1
  obtain ⟨restocked, clean, credited, stated⟩ := leaves_restoreOrderStockOnce order draws.now
  rw [stated]
  refine bind_congr_ok fun ended ran => ?_
  simp only [leaves_ofExcept]
  refine bind_congr_ok fun cancelled moves => ?_
  obtain ⟨db, restored⟩ := ended
  obtain ⟨file, moved⟩ := exists_moved coherent held ran moves
  have rows : ((restocked.write (·.putOrder cancelled)).change market).tables =
      db.pending.putOrder cancelled := congrArg (Tables.putOrder cancelled) (credited _ ran)
  have untaken : (restocked.write (·.putOrder cancelled)).Untaken market := Pending.untaken_of_clean clean
  rw [moved.flushes]
  refine (leaves_refundCommitted untaken ?_ ?_).trans (congrArg Except.ok ?_)
  · rw [rows]
    exact moved.refunds
  · rw [rows]
    exact moved.attempts
  · rw [rows]
    exact (moved.recorded fresh refundReasonCancelled).1.symm

theorem flushed_updateOrderStatusSafely_alone {status : OrderStatus} :
    leaves (Flushed.updateOrderStatusSafely subject orderId status draws) market =
      (·.1.pending) <$>
        updateOrderStatusSafely (Session.start market.tables) subject orderId status draws := by
  simp only [Flushed.updateOrderStatusSafely, updateOrderStatusSafely, Statement.lockedOrder,
    leaves_statement, leaves_ofExcept, leaves_selectForUpdate, leaves_found, leaves_require, map_bind]
  refine bind_congr_ok fun user _ => bind_congr_ok fun _ _ => bind_congr_ok fun order read =>
    bind_congr_ok fun _ _ => bind_congr_ok fun _ _ => bind_congr_ok fun _ _ => bind_congr_ok fun _ _ => ?_
  have held : market.tables.order? orderId = some order := (found_ok ..).mp read
  split
  · simp only [cancelOrderForStore, leaves_ofExcept, map_bind]
    refine bind_congr_ok fun _ _ => ?_
    obtain ⟨restocked, clean, credited, stated⟩ := leaves_restoreOrderStockOnce order draws.now
    rw [stated]
    refine bind_congr_ok fun ended ran => ?_
    obtain ⟨db, restored⟩ := ended
    obtain ⟨restoredAt, -, -, -, -, attempts, refunds, -, -⟩ :=
      restoreOrderStockOnce_frame (Frame.refl coherent orderId) held ran
    have rows : (restocked.change market).tables = db.pending := credited _ ran
    refine Eq.trans ?_ (cancelled_owing coherent fresh held ran).symm
    obtain ⟨after, done, effect, goes⟩ := leaves_ensureRefundRequest restored refundReasonCancelled draws
      (Pending.untaken_of_clean clean) (rows ▸ refunds)
    rw [goes, ← rows, ← obligation_owing (rows ▸ attempts), ← effect]
    simp only [leaves_ofExcept]
    exact bind_congr_ok fun last _ => leaves_commit done
  · simp only [leaves_ofExcept, map_bind, map_pure]
    refine bind_congr_ok fun next moves => ?_
    obtain ⟨-, becomes⟩ := transitionOrder_ok.mp moves
    have kept : (market.tables.putOrder next).Coherent := coherent.putOrder (lookup_mem held)
      (by rw [← becomes]) (by rw [← becomes]) (by rw [← becomes]) (by rw [← becomes])
    rw [flushRows_kept (by exact kept.toConstraints)]
    exact leaves_commit (Pending.untaken_of_clean rfl)

theorem flushed_resolveFailedDelivery_alone {deliveryId : UUID} {resolution : Resolution}
    {notes : Option String} :
    leaves (Flushed.resolveFailedDelivery subject deliveryId resolution notes draws) market =
      (·.1.pending) <$>
        resolveFailedDelivery (Session.start market.tables) subject deliveryId resolution notes draws := by
  simp only [Flushed.resolveFailedDelivery, resolveFailedDelivery, lockedDeliveryOrder,
    Statement.lockedOrder, Statement.lockedDelivery, leaves_statement, leaves_selectForUpdate, leaves_found,
    leaves_require, map_bind, bind_assoc, pure_bind]
  refine bind_congr_ok fun admin _ => bind_congr_ok fun _ _ => bind_congr_ok fun delivery carried =>
    bind_congr_ok fun order read => bind_congr_ok fun _ _ => ?_
  cases resolution with
  | reassign =>
    simp only [leaves_require, leaves_ofExcept, map_bind, map_pure]
    refine bind_congr_ok fun _ _ => bind_congr_ok fun _ _ => bind_congr_ok fun moved moves => ?_
    obtain ⟨-, becomes⟩ := releasedDelivery_ok.mp moves
    have kept : (market.tables.putDelivery moved).Coherent :=
      coherent.putDelivery (lookup_mem ((found_ok ..).mp carried)) (by rw [← becomes]) (by rw [← becomes])
    rw [flushRows_kept (by exact kept.toConstraints)]
    exact leaves_commit (Pending.untaken_of_clean rfl)
  | returnToStore =>
    have held : market.tables.order? delivery.orderId = some order := (found_ok ..).mp read
    simp only [Flushed.returnToStore, returnToStore, leaves_require, leaves_ofExcept, leaves_query, map_bind,
      map_pure]
    refine bind_congr_ok fun _ _ => bind_congr_ok fun _ _ => bind_congr_ok fun _ _ =>
      bind_congr_ok fun _ _ => ?_
    obtain ⟨restocked, clean, credited, stated⟩ := leaves_restoreOrderStockOnce order draws.now
    rw [stated]
    refine bind_congr_ok fun ended ran => ?_
    simp only [leaves_ofExcept]
    refine bind_congr_ok fun returned moves => ?_
    obtain ⟨db, restored⟩ := ended
    obtain ⟨file, moved⟩ := exists_moved coherent held ran moves
    have rows : ((restocked.write (·.putOrder returned)).change market).tables =
        db.pending.putOrder returned := congrArg (Tables.putOrder returned) (credited _ ran)
    have entries : ((restocked.write (·.putOrder returned)).change market).tables.settlementEntries =
        market.tables.settlementEntries := rows ▸ moved.entries
    have adjustments : ((restocked.write (·.putOrder returned)).change market).tables.settlementAdjustments =
        market.tables.settlementAdjustments := rows ▸ moved.adjustments
    have untaken : (restocked.write (·.putOrder returned)).Untaken market := Pending.untaken_of_clean clean
    obtain ⟨after, done, effect, goes⟩ := leaves_voidSettlementForRefund untaken entries adjustments
    obtain ⟨_, _, ledger⟩ := takenBack_ledger returned voidReasonReturned draws (db.pending.putOrder returned)
    rw [goes, moved.flushes]
    refine (leaves_refundCommitted done ?_ ?_).trans (congrArg Except.ok ?_)
    · rw [effect, rows, ledger]
      exact moved.refunds
    · rw [effect, rows, ledger]
      exact moved.attempts
    · rw [effect, rows]
      exact (moved.returned fresh).1.symm

end

end GaonOne
