import GaonOne.CartRules
import GaonOne.Listings
import GaonOne.PaymentProgress

/-! How listings are priced. Stock moves keep a listing's price and never take its stock
below zero. An edit may leave a price that rounds to nothing, or a price above the MRP. -/
namespace GaonOne
open Relational UnitOfWork Transitions

variable {mrp : UUID → Option Paise} {db result : DbSession} {tables : Tables}

/-! ## Rounding -/

theorem quantizeCentsHalfUp_nonneg (value : ℚ) (positive : 0 ≤ value) :
    Decimal.quantizeCentsHalfUp value = ⌊value * 100 + 1 / 2⌋ := by
  rw [Decimal.quantizeCentsHalfUp, if_pos positive]
  rfl

/-- Rounding keeps the order of amounts. -/
theorem quantizeCentsHalfUp_mono {less more : ℚ} (positive : 0 ≤ less) (ordered : less ≤ more) :
    Decimal.quantizeCentsHalfUp less ≤ Decimal.quantizeCentsHalfUp more := by
  rw [quantizeCentsHalfUp_nonneg less positive, quantizeCentsHalfUp_nonneg more (positive.trans ordered)]
  exact Int.floor_le_floor (by linarith)

/-! ## Listings as they should be -/

/-- The price is at least one paisa and not above the MRP, and the stock is not negative. -/
structure ListingFine (mrp : UUID → Option Paise) (listing : StoreProduct) : Prop where
  priced : 1 ≤ listing.price
  reduced : ∀ most ∈ mrp listing.id, listing.price ≤ most
  stocked : 0 ≤ listing.stockQuantity

theorem ListingFine.debit {listing : StoreProduct} (fine : ListingFine mrp listing) {quantity : Int}
    (enough : quantity ≤ listing.stockQuantity) : ListingFine mrp (debitListing listing quantity) where
  priced := fine.priced
  reduced := fine.reduced
  stocked := by
    change 0 ≤ listing.stockQuantity - quantity
    omega

theorem ListingFine.credit {listing : StoreProduct} (fine : ListingFine mrp listing) {quantity : Int}
    (some : 0 ≤ quantity) : ListingFine mrp (creditListing listing quantity) where
  priced := fine.priced
  reduced := fine.reduced
  stocked := by
    change 0 ≤ listing.stockQuantity + quantity
    have := fine.stocked
    omega

/-- Every listing is as it should be, and no order or cart has a negative quantity. -/
structure ShelvesFine (mrp : UUID → Option Paise) (db : Tables) : Prop where
  listings : ∀ listing ∈ db.catalogue.storeProducts, ListingFine mrp listing
  ordered : ∀ item ∈ db.orderItems, 0 ≤ item.quantity
  wanted : ∀ item ∈ db.catalogue.cartItems, 0 ≤ item.quantity

namespace ShelvesFine

theorem of_same {before after : Tables} (fine : ShelvesFine mrp before)
    (items : after.orderItems = before.orderItems) (catalogue : after.catalogue = before.catalogue) :
    ShelvesFine mrp after where
  listings := by
    rw [catalogue]
    exact fine.listings
  ordered := by
    rw [items]
    exact fine.ordered
  wanted := by
    rw [catalogue]
    exact fine.wanted

theorem putListing {listing : StoreProduct} (fine : ShelvesFine mrp tables) (new : ListingFine mrp listing) :
    ShelvesFine mrp (tables.putListing listing) where
  listings := by
    intro row inside
    rcases mem_put.mp inside with ⟨rfl, -⟩ | ⟨there, -⟩
    · exact new
    · exact fine.listings row there
  ordered := fine.ordered
  wanted := fine.wanted

theorem addItem {item : OrderItem} (fine : ShelvesFine mrp tables) (amount : 0 ≤ item.quantity) :
    ShelvesFine mrp { tables with orderItems := tables.orderItems ++ [item] } where
  listings := fine.listings
  ordered := by
    intro line inside
    rcases List.mem_append.mp inside with old | new
    · exact fine.ordered line old
    · rw [List.mem_singleton.mp new]
      exact amount
  wanted := fine.wanted

end ShelvesFine

/-- Both what a session has and what a rollback would leave. -/
structure SessionFine (mrp : UUID → Option Paise) (db : DbSession) : Prop where
  committed : ShelvesFine mrp db.committed
  pending : ShelvesFine mrp db.pending

namespace SessionFine

theorem start (fine : ShelvesFine mrp tables) : SessionFine mrp (Session.start tables) := ⟨fine, fine⟩

/-- A statement on neither items nor catalogue. -/
theorem write (fine : SessionFine mrp db) {change : Tables → Tables}
    (items : (change db.pending).orderItems = db.pending.orderItems)
    (catalogue : (change db.pending).catalogue = db.pending.catalogue) :
    SessionFine mrp (db.write change) :=
  ⟨fine.committed, fine.pending.of_same items catalogue⟩

theorem flush (fine : SessionFine mrp db) : SessionFine mrp db.flush := ⟨fine.1, fine.2⟩

theorem flushOrRollback (fine : SessionFine mrp db) : SessionFine mrp (flushOrRollback db).1 := by
  rcases flushOrRollback_cases db with kept | refused
  · rw [kept]
    exact fine.flush
  · rw [refused]
    exact ⟨fine.committed, fine.committed⟩

theorem voidSettlementForRefund (fine : SessionFine mrp db) (order : Order) (reason : String)
    (draws : Draws) : SessionFine mrp (voidSettlementForRefund db order reason draws) := by
  unfold GaonOne.voidSettlementForRefund
  split
  · exact fine
  · dsimp only
    split
    · exact fine
    · exact fine.write rfl rfl
    · split
      · exact fine
      · exact (fine.write rfl rfl).flushOrRollback

theorem ensureRefundRequest (fine : SessionFine mrp db) (order : Order) (reason : String) (draws : Draws) :
    SessionFine mrp (ensureRefundRequest db order reason draws).1 := by
  unfold GaonOne.ensureRefundRequest
  split
  · split
    · exact fine
    · next missing =>
      have added : SessionFine mrp (GaonOne.flushOrRollback (db.write (·.addRefund
          (refundRequest order (latestCapturedAttempt db order.id) reason draws)))).1 :=
        (fine.write rfl rfl).flushOrRollback
      dsimp only
      split
      · next refused =>
        rw [refused] at added
        exact added
      · next flushed =>
        rw [flushed] at added
        exact added.write rfl rfl
  · exact fine

/-! ## Stock -/

theorem creditItems (fine : SessionFine mrp db) (amounts : ∀ item ∈ items, 0 ≤ item.quantity)
    (ran : creditItems storeId items db = .ok result) : SessionFine mrp result := by
  induction items generalizing db with
  | nil =>
    simp only [GaonOne.creditItems, pure_ok] at ran
    exact ran ▸ fine
  | cons item items ih =>
    simp only [GaonOne.creditItems, found_bind_ok] at ran
    obtain ⟨listing, found, ran⟩ := ran
    have credited : SessionFine mrp (db.write (·.putListing (creditListing listing item.quantity))) :=
      ⟨fine.committed, fine.pending.putListing
        ((fine.pending.listings listing (lookup_mem found)).credit (amounts item List.mem_cons_self))⟩
    exact ih credited (fun other inside => amounts other (List.mem_cons_of_mem _ inside)) ran

theorem restoreOrderStockOnce (fine : SessionFine mrp db) (items : ∀ item ∈ db.flushed.orderItems, 0 ≤ item.quantity)
    (ran : restoreOrderStockOnce db order now = .ok (result, restored)) : SessionFine mrp result := by
  unfold GaonOne.restoreOrderStockOnce at ran
  split at ran
  · cases ran
    exact fine
  · rw [bind_ok] at ran
    obtain ⟨credited, crediting, ran⟩ := ran
    cases ran
    refine (fine.creditItems (fun item inside => ?_) crediting).write rfl rfl
    rw [orderedItems, List.mem_insertionSort, mem_belonging] at inside
    exact items item inside.1

end SessionFine

/-! ## Requests that move stock -/

/-- The loop over items takes from each listing no more than it has. -/
theorem recordItems_fine {db : DbSession} {validated : List (CartItem × StoreProduct)} {order : Order}
    {itemId : Nat → UUID} (before : ShelvesFine mrp db.pending)
    (sells : ∀ pair ∈ validated, ListingFine mrp pair.2 ∧ 0 ≤ pair.1.quantity ∧
      pair.1.quantity ≤ pair.2.stockQuantity)
    (ran : recordItems order itemId validated db = .ok result) : ShelvesFine mrp result.pending := by
  induction validated generalizing db with
  | nil =>
    simp only [recordItems, pure_ok] at ran
    exact ran ▸ before
  | cons pair validated ih =>
    obtain ⟨item, listing⟩ := pair
    simp only [recordItems, found_bind_ok] at ran
    obtain ⟨product, -, ran⟩ := ran
    obtain ⟨fresh, amount, enough⟩ := sells (item, listing) List.mem_cons_self
    refine ih ?_ (fun other inside => sells other (List.mem_cons_of_mem _ inside)) ran
    exact (before.addItem amount).putListing (fresh.debit enough)

section
variable (fine : ShelvesFine mrp tables)
include fine

theorem cancelMyOrderSafely_fine
    (ran : cancelMyOrderSafely (Session.start tables) subject orderId draws = .ok (result, refund)) :
    ShelvesFine mrp result.pending := by
  simp only [cancelMyOrderSafely, getCurrentUser_bind_ok, found_bind_ok, require_bind_ok] at ran
  obtain ⟨user, -, order, -, -, ran⟩ := ran
  rw [bind_ok] at ran
  obtain ⟨⟨db, restored⟩, restoring, ran⟩ := ran
  simp only [transitionOrder_bind_ok, flushRows_bind_ok, pure_ok, Prod.mk.injEq] at ran
  obtain ⟨-, -, rfl, -⟩ := ran
  have stocked := (SessionFine.start fine).restoreOrderStockOnce fine.ordered restoring
  exact ((stocked.write rfl rfl).flush.ensureRefundRequest ..).pending

theorem updateOrderStatusSafely_fine
    (ran : updateOrderStatusSafely (Session.start tables) subject orderId status draws =
      .ok (result, refund)) : ShelvesFine mrp result.pending := by
  simp only [updateOrderStatusSafely, getCurrentUser_bind_ok, requireRoles_bind_ok, found_bind_ok] at ran
  obtain ⟨user, -, -, order, -, ran⟩ := ran
  rw [bind_ok] at ran
  obtain ⟨_, -, ran⟩ := ran
  simp only [require_bind_ok] at ran
  obtain ⟨-, -, -, ran⟩ := ran
  split at ran
  · simp only [cancelOrderForStore, ensureAdminCapability_bind_ok] at ran
    obtain ⟨-, ran⟩ := ran
    rw [bind_ok] at ran
    obtain ⟨⟨db, restored⟩, restoring, ran⟩ := ran
    simp only [transitionOrder_bind_ok, flushRows_bind_ok, pure_ok, Prod.mk.injEq] at ran
    obtain ⟨-, -, rfl, -⟩ := ran
    have stocked := (SessionFine.start fine).restoreOrderStockOnce fine.ordered restoring
    exact ((stocked.ensureRefundRequest ..).write rfl rfl).flush.pending
  · simp only [transitionOrder_bind_ok, flushRows_bind_ok, pure_ok, Prod.mk.injEq] at ran
    obtain ⟨-, -, rfl, -⟩ := ran
    exact ((SessionFine.start fine).write rfl rfl).flush.pending

theorem resolveFailedDelivery_fine
    (ran : resolveFailedDelivery (Session.start tables) subject deliveryId resolution notes draws =
      .ok (result, refund)) : ShelvesFine mrp result.pending := by
  simp only [resolveFailedDelivery, requireCapability_bind_ok, require_bind_ok,
    lockedDeliveryOrder_bind_ok] at ran
  obtain ⟨admin, -, -, -, delivery, -, order, -, -, ran⟩ := ran
  cases resolution with
  | reassign =>
    simp only [require_bind_ok, releasedDelivery_bind_ok, flushRows_bind_ok, pure_ok,
      Prod.mk.injEq] at ran
    obtain ⟨-, -, -, -, rfl, -⟩ := ran
    exact ((SessionFine.start fine).write rfl rfl).flush.pending
  | returnToStore =>
    simp only [returnToStore, ensureCapability_bind_ok, require_bind_ok] at ran
    obtain ⟨-, -, -, -, ran⟩ := ran
    rw [bind_ok] at ran
    obtain ⟨⟨db, restored⟩, restoring, ran⟩ := ran
    simp only [transitionOrder_bind_ok, flushRows_bind_ok, pure_ok, Prod.mk.injEq] at ran
    obtain ⟨-, -, rfl, -⟩ := ran
    have stocked := (SessionFine.start fine).restoreOrderStockOnce fine.ordered restoring
    exact (((stocked.write rfl rfl).flush.voidSettlementForRefund ..).ensureRefundRequest ..).pending

theorem safeCheckout_fine
    (ran : safeCheckout env settings (Session.start tables) subject payload key number draws =
      .ok (result, order)) : ShelvesFine mrp result.pending := by
  simp only [safeCheckout, getCurrentUser_bind_ok, require_bind_ok] at ran
  obtain ⟨user, -, -, ran⟩ := ran
  split at ran
  · cases ran
    exact fine
  · simp only [placeOrder, found_bind_ok, require_bind_ok] at ran
    obtain ⟨address, -, cart, -, storeId, -, -, store, -, merchant, -, -, -, -, serviceAreaId, -, place, -, -,
      -, ran⟩ := ran
    rw [bind_ok] at ran
    obtain ⟨⟨subtotal, validated⟩, validates, ran⟩ := ran
    simp only [require_bind_ok, flushRows_bind_ok] at ran
    obtain ⟨-, -, ran⟩ := ran
    rw [bind_ok] at ran
    obtain ⟨recorded, recording, ran⟩ := ran
    cases ran
    obtain ⟨rest, same, all, whole⟩ := validateItems_ok.mp validates
    rw [List.nil_append, Prod.mk.injEq] at whole
    obtain ⟨-, rfl⟩ := whole
    have sells : ∀ pair ∈ validated, ListingFine mrp pair.2 ∧ 0 ≤ pair.1.quantity ∧
        pair.1.quantity ≤ pair.2.stockQuantity := by
      intro pair inside
      have valid := all pair inside
      have listed := (List.mem_filter.mp (lookup_mem valid.listed)).1
      have wanted : pair.1 ∈ validated.map Prod.fst := List.mem_map_of_mem inside
      rw [same, List.mem_insertionSort, mem_belonging] at wanted
      exact ⟨fine.listings pair.2 listed, fine.wanted pair.1 wanted.1, valid.stocked⟩
    have sold := recordItems_fine (fine.of_same rfl rfl) sells recording
    exact ⟨sold.listings, sold.ordered, fun item inside => sold.wanted item (List.mem_filter.mp inside).1⟩

end

/-! ## Edits -/

theorem optionally_ok {α β : Type} {value : Option α} {store : α → Handler β} {stored : Option β} :
    optionally value store = .ok stored ↔
      (value = none ∧ stored = none) ∨
        ∃ held written, value = some held ∧ store held = .ok written ∧ stored = some written := by
  cases value with
  | none =>
    simp only [optionally, pure_ok]
    simp [eq_comm]
  | some held =>
    simp only [optionally, bind_ok, pure_ok]
    grind

theorem storedAmount_ok : storedAmount value = .ok amount ↔
    fitsNumeric (Decimal.quantizeCentsHalfUp value) ∧ Decimal.quantizeCentsHalfUp value = amount := by
  simp only [storedAmount, require_bind_ok, pure_ok]

theorem storedInteger_ok : storedInteger value = .ok stored ↔ value.natAbs < 2 ^ 31 ∧ value = stored := by
  simp only [storedInteger, require_bind_ok, pure_ok]

/-- An MRP is stored rounded. -/
theorem storedMrp_ok {mrp : Option ℚ} (stores : optionally mrp storedAmount = .ok stored) :
    stored = mrp.map Decimal.quantizeCentsHalfUp := by
  rcases optionally_ok.mp stores with ⟨rfl, rfl⟩ | ⟨held, written, rfl, rounds, rfl⟩
  · rfl
  · rw [storedAmount_ok] at rounds
    rw [← rounds.2]
    rfl

theorem storeProductCreate_edit {payload : StoreProductCreate} {edit : ListingEdit} (edits : payload.edit = .ok edit) :
    edit = ⟨some (Decimal.quantizeCentsHalfUp payload.price),
      some (payload.mrp.map Decimal.quantizeCentsHalfUp), some payload.stockQuantity,
      some payload.isAvailable⟩ := by
  simp only [StoreProductCreate.edit, bind_ok, pure_ok, storedAmount_ok, storedInteger_ok] at edits
  obtain ⟨price, ⟨-, rfl⟩, mrp, stores, stock, ⟨-, rfl⟩, rfl⟩ := edits
  rw [storedMrp_ok stores]

/-- Null is refused for every column but the MRP. -/
theorem storeProductUpdate_edit {payload : StoreProductUpdate} {edit : ListingEdit} (edits : payload.edit = .ok edit) :
    edit = ⟨payload.price.join.map Decimal.quantizeCentsHalfUp,
      payload.mrp.map (Option.map Decimal.quantizeCentsHalfUp), payload.stockQuantity.join,
      payload.isAvailable.join⟩ := by
  simp only [StoreProductUpdate.edit, bind_ok, pure_ok] at edits
  obtain ⟨price, priced, mrp, reduced, stock, stocked, shown, available, rfl⟩ := edits
  have prices : price = payload.price.join.map Decimal.quantizeCentsHalfUp := by
    rcases optionally_ok.mp priced with ⟨none, rfl⟩ | ⟨held, written, given, stores, rfl⟩
    · rw [none]
      rfl
    · simp only [found_bind_ok, storedAmount_ok] at stores
      obtain ⟨value, rfl, -, rfl⟩ := stores
      rw [given]
      rfl
  have mrps : mrp = payload.mrp.map (Option.map Decimal.quantizeCentsHalfUp) := by
    rcases optionally_ok.mp reduced with ⟨none, rfl⟩ | ⟨held, written, given, stores, rfl⟩
    · rw [none]
      rfl
    · rw [given, storedMrp_ok stores]
      rfl
  have stocks : stock = payload.stockQuantity.join := by
    rcases optionally_ok.mp stocked with ⟨none, rfl⟩ | ⟨held, written, given, stores, rfl⟩
    · rw [none]
      rfl
    · simp only [found_bind_ok, storedInteger_ok] at stores
      obtain ⟨value, rfl, -, rfl⟩ := stores
      rw [given]
      rfl
  have decisions : shown = payload.isAvailable.join := by
    rcases optionally_ok.mp available with ⟨none, rfl⟩ | ⟨held, written, given, stores, rfl⟩
    · rw [none]
      rfl
    · rw [found_ok] at stores
      rw [given, stores]
      rfl
  rw [prices, mrps, stocks, decisions]

/-- The price and the MRP that an edit leaves: as given, rounded, or as they are. -/
def LeavesPriced (shop : Shop) (listing : StoreProduct) (price : Option ℚ) (mrp : Option (Option ℚ)) : Prop :=
  let price := (price.map Decimal.quantizeCentsHalfUp).getD listing.price
  let mrp := (mrp.map (Option.map Decimal.quantizeCentsHalfUp)).getD (shop.mrp listing.id)
  1 ≤ price ∧ ∀ most ∈ mrp, price ≤ most

instance (shop : Shop) (listing : StoreProduct) (price : Option ℚ) (mrp : Option (Option ℚ)) :
    Decidable (LeavesPriced shop listing price mrp) := inferInstanceAs (Decidable (_ ∧ _))

/-- The listing is left with a price of at least one paisa, and not above its MRP. -/
def ShopRequest.PricesWell (shop : Shop) : ShopRequest → Prop
  | .createListing _ _ payload _ => 1 ≤ Decimal.quantizeCentsHalfUp payload.price
  | .upsertListing _ _ payload _ =>
    let price := Decimal.quantizeCentsHalfUp payload.price
    1 ≤ price ∧ ∀ most ∈ payload.mrp, price ≤ Decimal.quantizeCentsHalfUp most
  | .updateListing _ _ listingId payload =>
    ∀ listing ∈ shop.listings, listing.id = listingId → LeavesPriced shop listing payload.price.join payload.mrp
  | _ => True

/-- Every edit that is accepted prices its listing well. Other requests write no listings,
nor negative quantities. -/
def PricesWell (env : Environment) (collation : Collation) (shop : Shop) : ShopAction → Prop
  | .request request => (request.handle env collation shop).isOk → request.PricesWell shop
  | .other after => after.listings = shop.listings ∧
      (∀ listing ∈ shop.listings, after.mrp listing.id = shop.mrp listing.id) ∧
      (∀ item ∈ after.tables.orderItems, 0 ≤ item.quantity) ∧
        ∀ item ∈ after.tables.catalogue.cartItems, 0 ≤ item.quantity

instance (shop : Shop) (request : ShopRequest) : Decidable (request.PricesWell shop) :=
  match request with
  | .createListing _ _ _ _ => inferInstanceAs (Decidable (_ ≤ _))
  | .upsertListing _ _ _ _ => inferInstanceAs (Decidable (_ ∧ _))
  | .updateListing _ _ _ _ => inferInstanceAs (Decidable (∀ listing ∈ shop.listings, _))
  | .checkout _ _ _ _ _ _ | .cancelMyOrder _ _ _ | .updateOrderStatus _ _ _ _
  | .resolveFailedDelivery _ _ _ _ _ => .isTrue trivial

instance (shop : Shop) (action : ShopAction) : Decidable (PricesWell env collation shop action) :=
  match action with
  | .request _ => inferInstanceAs (Decidable (_ → _))
  | .other _ => inferInstanceAs (Decidable (_ ∧ _ ∧ _ ∧ _))

/-- What every reached shop keeps. -/
abbrev Shop.Fine (shop : Shop) : Prop := ShelvesFine shop.mrp shop.tables

/-- A new row does not touch the columns of the others. -/
theorem ShelvesFine.addListing {shop : Shop} {listing : StoreProduct} {most : Option Paise}
    (fine : shop.Fine) (distinct : Relational.Unique StoreProduct.id (shop.addListing listing most).listings)
    (priced : 1 ≤ listing.price) (reduced : ∀ limit ∈ most, listing.price ≤ limit)
    (stocked : 0 ≤ listing.stockQuantity) : (shop.addListing listing most).Fine where
  listings := by
    rw [Shop.listings, Shop.addListing, unique_append] at distinct
    intro row inside
    rcases List.mem_append.mp inside with old | new
    · have kept := fine.listings row old
      refine ⟨kept.priced, ?_, kept.stocked⟩
      change ∀ limit ∈ Function.update shop.mrp listing.id most row.id, row.price ≤ limit
      rw [Function.update_of_ne (distinct.2 row old)]
      exact kept.reduced
    · cases List.mem_singleton.mp new
      refine ⟨priced, ?_, stocked⟩
      change ∀ limit ∈ Function.update shop.mrp listing.id most listing.id, listing.price ≤ limit
      rwa [Function.update_self]
  ordered := fine.ordered
  wanted := fine.wanted

theorem ShelvesFine.editListing {shop : Shop} {listing : StoreProduct} {edit : ListingEdit}
    (fine : shop.Fine) (listed : listing ∈ shop.listings) (priced : 1 ≤ (edit.row listing).price)
    (reduced : ∀ limit ∈ edit.mrp.getD (shop.mrp listing.id), (edit.row listing).price ≤ limit)
    (stocked : ∀ stock ∈ edit.stockQuantity, 0 ≤ stock) : (shop.editListing listing edit).Fine where
  listings := by
    intro row inside
    rcases mem_put.mp inside with ⟨rfl, -⟩ | ⟨old, differ⟩
    · refine ⟨priced, ?_, ?_⟩
      · change ∀ limit ∈ Function.update shop.mrp listing.id _ listing.id, _ ≤ limit
        rwa [Function.update_self]
      · change 0 ≤ edit.stockQuantity.getD listing.stockQuantity
        cases given : edit.stockQuantity with
        | none => exact (fine.listings listing listed).stocked
        | some stock => exact stocked stock given
    · have kept := fine.listings row old
      have other : row.id ≠ listing.id := differ
      refine ⟨kept.priced, ?_, kept.stocked⟩
      change ∀ limit ∈ Function.update shop.mrp listing.id _ row.id, row.price ≤ limit
      rw [Function.update_of_ne other]
      exact kept.reduced
  ordered := fine.ordered
  wanted := fine.wanted

section
variable {shop after : Shop}

theorem createMerchantProductListing_fine {payload : MerchantProductListingCreate} (fine : shop.Fine)
    (valid : after.Constraints) (well : 1 ≤ Decimal.quantizeCentsHalfUp payload.price)
    (ran : createMerchantProductListing collation shop subject storeId payload draws = .ok after) :
    after.Fine := by
  simp only [createMerchantProductListing, getCurrentUser_bind_ok, requireRoles_bind_ok, require_bind_ok,
    found_bind_ok] at ran
  obtain ⟨user, -, -, sound, store, -, ran⟩ := ran
  rw [bind_ok] at ran
  obtain ⟨merchant, -, ran⟩ := ran
  simp only [require_bind_ok] at ran
  obtain ⟨-, -, ordered, -, ran⟩ := ran
  rw [bind_ok] at ran
  obtain ⟨⟨placed, categoryId⟩, categorized, ran⟩ := ran
  simp only [require_bind_ok] at ran
  obtain ⟨-, ran⟩ := ran
  simp only [bind_ok, pure_ok, storedAmount_ok, storedInteger_ok] at ran
  obtain ⟨price, ⟨-, rfl⟩, most, stores, stock, ⟨-, rfl⟩, rfl⟩ := ran
  have kept : placed.tables = shop.tables ∧ placed.mrp = shop.mrp := by
    unfold categoryFor at categorized
    split at categorized
    · cases categorized
      exact ⟨rfl, rfl⟩
    · simp only [require_bind_ok, pure_ok, Prod.mk.injEq] at categorized
      obtain ⟨-, rfl, -⟩ := categorized
      exact ⟨rfl, rfl⟩
  obtain ⟨-, -, -, -, -, positive, -, stocked⟩ := sound
  refine ShelvesFine.addListing ?_ valid.1.listingIds well ?_ stocked
  · refine ⟨?_, ?_, ?_⟩
    · change ∀ listing ∈ placed.tables.catalogue.storeProducts, ListingFine placed.mrp listing
      rw [kept.1, kept.2]
      exact fine.listings
    · change ∀ item ∈ placed.tables.orderItems, _
      rw [kept.1]
      exact fine.ordered
    · change ∀ item ∈ placed.tables.catalogue.cartItems, _
      rw [kept.1]
      exact fine.wanted
  · -- the check was made before rounding
    intro limit held
    rw [storedMrp_ok stores] at held
    obtain ⟨given, present, rfl⟩ := Option.mem_map.mp held
    exact quantizeCentsHalfUp_mono positive.le (ordered given present)

theorem editableStore_valid {db : Tables} {checks : Prop} [Decidable checks]
    (ran : editableStore db subject storeId checks model = .ok store) : checks := by
  simp only [editableStore, getCurrentUser_bind_ok, requireRoles_bind_ok, require_bind_ok] at ran
  obtain ⟨-, -, -, sound, -⟩ := ran
  exact sound

theorem upsertStoreProduct_fine {payload : StoreProductCreate} (fine : shop.Fine) (valid : after.Constraints)
    (well : 1 ≤ Decimal.quantizeCentsHalfUp payload.price ∧ ∀ most ∈ payload.mrp,
      Decimal.quantizeCentsHalfUp payload.price ≤ Decimal.quantizeCentsHalfUp most)
    (ran : upsertStoreProduct shop subject storeId payload draws = .ok after) : after.Fine := by
  unfold upsertStoreProduct at ran
  rw [bind_ok] at ran
  obtain ⟨store, edits, ran⟩ := ran
  have sound := editableStore_valid edits
  simp only [found_bind_ok] at ran
  obtain ⟨product, -, ran⟩ := ran
  rw [bind_ok] at ran
  obtain ⟨edit, edits, ran⟩ := ran
  cases storeProductCreate_edit edits
  have reduced : ∀ limit ∈ payload.mrp.map Decimal.quantizeCentsHalfUp,
      Decimal.quantizeCentsHalfUp payload.price ≤ limit := by
    intro limit held
    obtain ⟨given, present, rfl⟩ := Option.mem_map.mp held
    exact well.2 given present
  split at ran
  · next listing found =>
    cases ran
    refine fine.editListing (lookup_mem found) well.1 reduced fun stock given => ?_
    cases given
    exact sound.2.2
  · cases ran
    exact fine.addListing valid.1.listingIds well.1 reduced sound.2.2

theorem updateStoreProduct_fine {payload : StoreProductUpdate} (fine : shop.Fine)
    (well : ∀ listing ∈ shop.listings, listing.id = listingId →
      LeavesPriced shop listing payload.price.join payload.mrp)
    (ran : updateStoreProduct shop subject storeId listingId payload = .ok after) : after.Fine := by
  unfold updateStoreProduct at ran
  rw [bind_ok] at ran
  obtain ⟨store, edits, ran⟩ := ran
  have sound := editableStore_valid edits
  simp only [found_bind_ok] at ran
  obtain ⟨listing, found, ran⟩ := ran
  rw [bind_ok] at ran
  obtain ⟨edit, edits, ran⟩ := ran
  cases storeProductUpdate_edit edits
  cases ran
  have listed := (Option.filter_eq_some_iff.mp found).1
  obtain ⟨priced, reduced⟩ := well listing (lookup_mem listed) (lookup_col listed)
  exact fine.editListing (lookup_mem listed) priced reduced sound.2.2

end

/-! ## Runs -/

theorem Shop.Fine.step {shop : Shop} {action : ShopAction} (fine : shop.Fine)
    (well : PricesWell env collation shop action) : (shop.step env collation action).Fine := by
  have keep {after : Shop} (new : after.Constraints → after.Fine) : (shop.commit after).Fine := by
    unfold Shop.commit
    split
    · next valid => exact new valid
    · exact fine
  cases action with
  | other after =>
    obtain ⟨listings, mrps, ordered, wanted⟩ := well
    refine keep fun _ => ⟨?_, ordered, wanted⟩
    change ∀ listing ∈ after.listings, ListingFine after.mrp listing
    rw [listings]
    intro listing listed
    have kept := fine.listings listing listed
    refine ⟨kept.priced, ?_, kept.stocked⟩
    rw [mrps listing listed]
    exact kept.reduced
  | request request =>
    unfold Shop.step
    dsimp only
    split
    · next after ran =>
      refine keep fun valid => ?_
      have well : request.PricesWell shop := well (by rw [ran]; rfl)
      cases request with
      | createListing => exact createMerchantProductListing_fine fine valid well ran
      | upsertListing => exact upsertStoreProduct_fine fine valid well ran
      | updateListing => exact updateStoreProduct_fine fine well ran
      | checkout =>
        rw [ShopRequest.handle, bind_ok] at ran
        obtain ⟨⟨db, order⟩, ran, same⟩ := ran
        cases same
        exact safeCheckout_fine fine ran
      | cancelMyOrder =>
        rw [ShopRequest.handle, bind_ok] at ran
        obtain ⟨⟨db, refund⟩, ran, same⟩ := ran
        cases same
        exact cancelMyOrderSafely_fine fine ran
      | updateOrderStatus =>
        rw [ShopRequest.handle, bind_ok] at ran
        obtain ⟨⟨db, refund⟩, ran, same⟩ := ran
        cases same
        exact updateOrderStatusSafely_fine fine ran
      | resolveFailedDelivery =>
        rw [ShopRequest.handle, bind_ok] at ran
        obtain ⟨⟨db, refund⟩, ran, same⟩ := ran
        cases same
        exact resolveFailedDelivery_fine fine ran
    · exact fine

/-- In every run whose accepted edits price their listings well, every listing is priced at
one paisa or more and at most at its MRP, and has no negative stock. -/
theorem listings_well_priced
    (reached : System.ReachableWhile (shopSystem env collation) (PricesWell env collation) shop) :
    ∀ listing ∈ shop.listings, 1 ≤ listing.price ∧ (∀ most ∈ shop.mrp listing.id, listing.price ≤ most) ∧
      0 ≤ listing.stockQuantity := by
  have fine : shop.Fine := by
    induction reached with
    | initial => exact ⟨List.forall_mem_nil _, List.forall_mem_nil _, List.forall_mem_nil _⟩
    | next _ well ih => exact ih.step well
  intro listing listed
  obtain ⟨priced, reduced, stocked⟩ := fine.listings listing listed
  exact ⟨priced, reduced, stocked⟩

/-- A collation of Latin letters. -/
def latin : Collation where
  casefold := fun text => String.ofList (text.toList.map Char.toLower)
  ilike := fun left right => left.toList.map Char.toLower = right.toList.map Char.toLower

/-- A store without listings, and a customer who wants two of what will be its first. -/
def openedStore : ShopAction := .other
  { tables := { catalogue := { sampleCatalogue with storeProducts := [] } }
    categories := [⟨1, "Grains", "grains", true⟩] }

def riceAt (price : ℚ) (mrp : Option ℚ) : ShopAction := .request
  (.upsertListing 2 1 ⟨1, price, mrp, 10, true⟩ ⟨1, 1, 1⟩)

/-- The listing is sold from, credited again, and gets another price. -/
def wellPriced : List ShopAction :=
  [openedStore, riceAt 50 (some 60),
    .request (.checkout sampleSettings 1 ⟨1, .cod⟩ none "GO-1" (sampleDraws 1)),
    .request (.cancelMyOrder 1 1 (sampleDraws 2)),
    .request (.updateListing 2 1 1 { price := some (some (111/2)) })]

theorem listings_well_priced_sold :
    let ended := (shopSystem sampleEnvironment latin).run {} wellPriced
    ended.tables.orders.map (·.status) = [.cancelled] ∧
      ended.listings.map (fun listing => (listing.price, ended.mrp listing.id, listing.stockQuantity)) =
        [(5550, some 6000, 10)] ∧
      ∀ listing ∈ ended.listings, 1 ≤ listing.price ∧ (∀ most ∈ ended.mrp listing.id, listing.price ≤ most) ∧
        0 ≤ listing.stockQuantity := by
  have admitted : System.RunWhile (shopSystem sampleEnvironment latin) (PricesWell sampleEnvironment latin)
      {} wellPriced := by decide +kernel
  refine ⟨by decide +kernel, by decide +kernel, ?_⟩
  exact listings_well_priced (System.ReachableWhile.initial.run wellPriced admitted)

/-- The price alone is raised above the MRP; then it is lowered to less than half a paisa. -/
theorem listing_priced_above_mrp :
    let raised := (shopSystem sampleEnvironment latin).run {}
      [openedStore, riceAt 50 (some 60), .request (.updateListing 2 1 1 { price := some (some 70) })]
    let lowered := (shopSystem sampleEnvironment latin).run {}
      [openedStore, riceAt (1/250) none]
    raised.listings.map (fun listing => (listing.price, raised.mrp listing.id)) = [(7000, some 6000)] ∧
      lowered.listings.map (·.price) = [0] := by
  decide +kernel

end GaonOne
