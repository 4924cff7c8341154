import GaonOne.PaymentProgress
import GaonOne.Shelves

/-! Stock is conserved. A checkout takes from a listing what its order's lines add, since
it holds the listing's row from its check to its commit; a cancellation or a return gives
back what the order's items took, and the order's own row, held throughout, lets only one
of them do so. -/
namespace GaonOne
open Relational UnitOfWork ReadCommitted Transitions

/-! ## Putting an order back -/

/-- A listing as some items leave it that were put back. -/
def Credited (items : List OrderItem) (credited listing : StoreProduct) : Prop :=
  SameListing credited listing ∧
    credited.stockQuantity = listing.stockQuantity + demand items listing.productId

/-- The loop over items gives every listing back what they took of it. -/
theorem creditListings_ok {items : List OrderItem} {listings credited : List StoreProduct}
    (ids : Relational.Unique StoreProduct.id listings)
    (products : Relational.Unique StoreProduct.productId listings)
    (credits : creditListings items listings = .ok credited) :
    credited.map StoreProduct.id = listings.map StoreProduct.id ∧
      (∀ now ∈ credited, ∃ listing ∈ listings, Credited items now listing) ∧
        ∀ item ∈ items, ∃ listing ∈ listings, listing.productId = item.productId := by
  induction items generalizing listings with
  | nil =>
    simp only [creditListings, pure_ok] at credits
    subst credits
    exact ⟨rfl, fun listing inside => ⟨listing, inside, .refl listing, by simp [demand]⟩, by simp⟩
  | cons item items ih =>
    simp only [creditListings, found_bind_ok] at credits
    obtain ⟨listing, found, credits⟩ := credits
    have held := lookup_mem found
    have same : listing.productId = item.productId := lookup_col found
    have stays : ∀ old ∈ listings, old.id = (creditListing listing item.quantity).id →
        old.productId = (creditListing listing item.quantity).productId :=
      fun old inside agree => by rw [unique_eq ids inside held agree]; rfl
    have first : ∀ now ∈ put StoreProduct.id (creditListing listing item.quantity) listings,
        ∃ old ∈ listings, SameListing now old ∧ now.stockQuantity = old.stockQuantity +
          if item.productId = old.productId then item.quantity else 0 := by
      intro now inside
      rcases mem_put.mp inside with ⟨rfl, -⟩ | ⟨there, differ⟩
      · exact ⟨listing, held, ⟨rfl, rfl, rfl⟩, by rw [if_pos same.symm]; rfl⟩
      · refine ⟨now, there, .refl now, ?_⟩
        have apart : ¬item.productId = now.productId := fun agree => by
          cases unique_eq products there held (agree.symm.trans same.symm)
          exact differ rfl
        rw [if_neg apart, Int.add_zero]
    obtain ⟨sameIds, rest, listed⟩ :=
      ih (unique_put (fun _ _ same => same) ids) (unique_put stays products) credits
    refine ⟨sameIds.trans (map_put fun _ _ same => same), fun now inside => ?_, ?_⟩
    · obtain ⟨between, there, again, stock⟩ := rest now inside
      obtain ⟨old, before, same, earlier⟩ := first between there
      refine ⟨old, before, again.trans same, ?_⟩
      rw [stock, earlier, same.product, demand, demand, List.map_cons, List.sum_cons]
      omega
    · rintro other (_ | ⟨_, inside⟩)
      · exact ⟨listing, held, same⟩
      · obtain ⟨now, there, agree⟩ := listed other inside
        obtain ⟨old, before, same, -⟩ := first now there
        exact ⟨old, before, same.product.symm.trans agree⟩

/-- Writes that put an order's row, with the marker it has by then, and leave shelves,
carts and items alone. -/
def WritesOrder (order : Order) (writes : Tables → Tables) : Prop :=
  ∀ db, ∃ row, row.id = order.id ∧ row.storeId = order.storeId ∧
    row.stockRestoredAt = order.stockRestoredAt ∧
      (writes db).orders = put Order.id row db.orders ∧ (writes db).orderItems = db.orderItems ∧
        (writes db).catalogue = db.catalogue

theorem putOrder_putOrder (first second : Order) (same : first.id = second.id) (db : Tables) :
    put Order.id second (put Order.id first db.orders) = put Order.id second db.orders :=
  put_put first same db.orders

/-- An order's row, and then what it owes. -/
theorem writesOrder_put (order : Order) : WritesOrder order (·.putOrder order) :=
  fun _ => ⟨order, rfl, rfl, rfl, rfl, rfl, rfl⟩

theorem writesOrder_refund (order : Order) (reason : String) (draws : Draws) :
    WritesOrder order fun db => Statement.recordRefund order reason draws (db.putOrder order) := by
  intro db
  dsimp only
  rcases recordRefund_cases order reason draws (db.putOrder order) with same | ⟨refund, owed, same⟩
  · rw [same]
    exact ⟨order, rfl, rfl, rfl, rfl, rfl, rfl⟩
  · rw [same]
    refine ⟨{ order with paymentStatus := owed }, rfl, rfl, rfl, ?_, rfl, rfl⟩
    exact putOrder_putOrder order { order with paymentStatus := owed } rfl db

/-- What it owes, and then the row. -/
theorem writesOrder_after_refund (order : Order) (reason : String) (draws : Draws)
    (row : Order) (id : row.id = order.id) (store : row.storeId = order.storeId)
    (marker : row.stockRestoredAt = order.stockRestoredAt) :
    WritesOrder order fun db => (Statement.recordRefund order reason draws db).putOrder row := by
  intro db
  dsimp only
  rcases recordRefund_cases order reason draws db with same | ⟨refund, owed, same⟩
  · rw [same]
    exact ⟨row, id, store, marker, rfl, rfl, rfl⟩
  · rw [same]
    refine ⟨row, id, store, marker, ?_, rfl, rfl⟩
    exact putOrder_putOrder { order with paymentStatus := owed } row id.symm db

theorem writesOrder_return (order : Order) (why reason : String) (draws : Draws) :
    WritesOrder order fun db => Statement.recordRefund order reason draws
      (Statement.takeBackSettlement order why draws (db.putOrder order)) := by
  intro db
  dsimp only
  obtain ⟨entries, adjustments, taken⟩ := takeBackSettlement_eq order why draws (db.putOrder order)
  rw [taken]
  rcases recordRefund_cases order reason draws { db.putOrder order with
      settlementEntries := entries, settlementAdjustments := adjustments } with same | ⟨refund, owed, same⟩
  · rw [same]
    exact ⟨order, rfl, rfl, rfl, rfl, rfl, rfl⟩
  · rw [same]
    refine ⟨{ order with paymentStatus := owed }, rfl, rfl, rfl, ?_, rfl, rfl⟩
    exact putOrder_putOrder order { order with paymentStatus := owed } rfl db

/-- Which orders hold stock after one of them is written. -/
theorem holdsStock_put {before after : Tables} {row old : Order} {storeId orderId : UUID}
    (ids : Relational.Unique Order.id before.orders)
    (orders : after.orders = put Order.id row before.orders) (held : old ∈ before.orders)
    (same : old.id = row.id) :
    holdsStock after storeId orderId ↔ if row.id = orderId then row.storeId = storeId ∧
      row.stockRestoredAt = none else holdsStock before storeId orderId := by
  unfold holdsStock
  rw [Tables.order?, orders, lookup_put orderId held same same ids ids]
  split
  · simp
  · rfl

/-! ## An order whose row is held -/

/-- A request has read an order under its lock, and its row is still that. -/
structure OrderHeld (order : Order) (held : List RowLock) (db : Market) : Prop where
  locked : (Row.order order.id).forUpdate ∈ held
  row : ∃ row ∈ db.tables.orders, row.id = order.id ∧ row.storeId = order.storeId ∧
    row.stockRestoredAt = order.stockRestoredAt

theorem OrderHeld.later (held : OrderHeld order footing.held db)
    (later : stockDiscipline.Later footing db now) : OrderHeld order footing.held now := by
  obtain ⟨locked, row, inside, id, store, marker⟩ := held
  obtain ⟨current, there, same, kept, stays⟩ := later.1.orders row inside
  refine ⟨locked, current, there, same.trans id, kept.trans store, ?_⟩
  exact (stays (id.symm ▸ locked)).trans marker

theorem OrderHeld.mono (held : OrderHeld order locks db) (more : ∀ row ∈ locks, row ∈ others) :
    OrderHeld order others db :=
  ⟨more _ held.locked, held.row⟩

/-- Listings that give back what an order's items took, as they are under their locks. -/
structure Gives (order : Order) (credited : List StoreProduct) (held : List RowLock) (db : Tables) :
    Prop where
  distinct : Relational.Unique StoreProduct.id credited
  own : ∀ now ∈ credited, ∃ listing ∈ db.catalogue.storeProducts, listing.storeId = order.storeId ∧
    (Row.listing listing.id).forUpdate ∈ held ∧
      Credited (belonging OrderItem.orderId order.id db.orderItems) now listing
  all : ∀ item ∈ belonging OrderItem.orderId order.id db.orderItems,
    ∃ now ∈ credited, now.productId = item.productId

theorem Gives.later (gives : Gives order credited held before)
    (rely : ShelvesRely held before after) (row : ∃ row ∈ before.orders, row.id = order.id) :
    Gives order credited held after := by
  obtain ⟨row, inside, id⟩ := row
  have items := rely.items row inside
  rw [id] at items
  refine ⟨gives.distinct, fun now member => ?_, by rw [items]; exact gives.all⟩
  obtain ⟨listing, there, store, locked, same, stock⟩ := gives.own now member
  obtain ⟨current, listed, again, stays⟩ := rely.listings listing there
  refine ⟨current, listed, again.store.trans store, again.id.symm ▸ locked, same.trans again.symm, ?_⟩
  rw [items, again.product, stays locked]
  exact stock

/-- What the listings are once they are written back. -/
theorem Gives.stock {db : Tables} (gives : Gives order credited held db) (kept : db.Constraints)
    (inside : row ∈ db.catalogue.storeProducts) :
    SameListing (tracked StoreProduct.id row credited) row ∧
      (tracked StoreProduct.id row credited).stockQuantity = row.stockQuantity +
        if row.storeId = order.storeId then
          demand (belonging OrderItem.orderId order.id db.orderItems) row.productId
        else 0 := by
  unfold tracked
  cases found : lookup StoreProduct.id row.id credited with
  | some now =>
    obtain ⟨listing, there, store, -, same, stock⟩ := gives.own now (lookup_mem found)
    have agree : listing.id = row.id := same.id.symm.trans (lookup_col found)
    cases unique_eq kept.listingIds there inside agree
    rw [if_pos store]
    exact ⟨same, stock⟩
  | none =>
    refine ⟨.refl row, ?_⟩
    split
    · next store =>
      rw [demand_eq_zero fun item taken agree => ?_]
      · exact (Int.add_zero _).symm
      · obtain ⟨now, member, product⟩ := gives.all item taken
        obtain ⟨listing, there, own, -, same, -⟩ := gives.own now member
        have here : listing = row := unique_eq kept.listingProducts there inside
          (Prod.ext (own.trans store.symm) ((same.product.symm.trans product).trans agree))
        exact lookup_eq_none_iff.mp found now member (same.id.trans (congrArg StoreProduct.id here))
    · exact (Int.add_zero _).symm

/-- The loop over an order's items, run on the listings that its query returned. -/
theorem gives_credits {order : Order} {db : Tables} (kept : db.Constraints)
    (sorted : items.Perm (belonging OrderItem.orderId order.id db.orderItems))
    (credits : creditListings items ((restoreLocks db order items).filter fun listing =>
      listing.id ∈ seen.map (·.id)) = .ok credited) :
    Gives order credited (listingLocks seen ++ held) db := by
  have part : ∀ listing ∈ (restoreLocks db order items).filter
      (fun listing => listing.id ∈ seen.map (·.id)), listing ∈ db.catalogue.storeProducts ∧
        listing.storeId = order.storeId ∧ listing.id ∈ seen.map (·.id) := by
    intro listing member
    rw [List.mem_filter, restoreLocks, List.mem_insertionSort, List.mem_filter, decide_eq_true_iff,
      decide_eq_true_iff] at member
    exact ⟨member.1.1, member.1.2.1, member.2⟩
  have ids : Relational.Unique StoreProduct.id ((restoreLocks db order items).filter fun listing =>
      listing.id ∈ seen.map (·.id)) := by
    refine (List.filter_sublist.map _).nodup ?_
    refine ((List.perm_insertionSort _ _).map StoreProduct.id).nodup_iff.mpr ?_
    exact (List.filter_sublist.map _).nodup kept.listingIds
  have products : Relational.Unique StoreProduct.productId ((restoreLocks db order items).filter
      fun listing => listing.id ∈ seen.map (·.id)) := by
    refine List.Nodup.map_on (fun left one right two agree => ?_) (List.Nodup.of_map _ ids)
    obtain ⟨here, store, -⟩ := part left one
    obtain ⟨there, other, -⟩ := part right two
    exact unique_eq kept.listingProducts here there (Prod.ext (store.trans other.symm) agree)
  obtain ⟨same, given, all⟩ := creditListings_ok ids products credits
  refine ⟨?_, fun current member => ?_, fun item taken => ?_⟩
  · rw [Relational.Unique, same]
    exact ids
  · obtain ⟨listing, member, agree, stock⟩ := given current member
    obtain ⟨here, store, named⟩ := part listing member
    refine ⟨listing, here, store, List.mem_append_left _ (List.mem_reverse.mpr ?_), agree, ?_⟩
    · obtain ⟨locked, inside, id⟩ := List.mem_map.mp named
      exact List.mem_map.mpr ⟨locked, inside, by rw [id]⟩
    · rw [stock, demand_perm sorted]
  · obtain ⟨listing, member, product⟩ := all item (sorted.symm.subset taken)
    have named : listing.id ∈ credited.map StoreProduct.id := same ▸ List.mem_map_of_mem member
    obtain ⟨current, inside, id⟩ := List.mem_map.mp named
    obtain ⟨origin, started, agree, -⟩ := given current inside
    cases unique_eq ids started member (agree.id.symm.trans id)
    exact ⟨current, inside, agree.product.trans product⟩

/-- Restoring stock under the order's lock: nothing if it has its marker, else what its
items took is given back. -/
theorem holds_restore {post : Order → Standing → Market → Prop} {order : Order}
    (fresh : footing.change = id) (held : OrderHeld order footing.held db)
    (already : order.stockRestoredAt ≠ none → post order footing db)
    (credit : order.stockRestoredAt = none → ∀ locks credited now, stockDiscipline.Later footing db now →
      Gives order credited (locks ++ footing.held) now.tables →
      post { order with stockRestoredAt := some moment }
        { footing with
          held := locks ++ footing.held
          change := fun market =>
            { market with
              tables := market.tables.putListings credited
              restored := market.restored ++ [order.id] } } now) :
    stockDiscipline.Holds (Statement.restoreOrderStockOnce order moment) post footing db := by
  obtain ⟨locks, notes, change⟩ := footing
  subst fresh
  refine holds_restoreOrderStockOnce (fun set => already (Option.isSome_iff_ne_none.mp set)) ?_
  intro unset first reading second seen selecting same fetched locking now later credited credits
  have since := (selecting.trans locking).trans (later.release _)
  refine credit unset _ credited now (reading.trans since) ?_
  refine gives_credits later.2.1.carts.declared ?_ credits
  -- the items are those of the first query, since the order was there then
  obtain ⟨row, inside, own, -⟩ := held.row
  obtain ⟨parent, there, alike, -⟩ := reading.1.orders row inside
  have unchanged := since.1.items parent there
  rw [alike, own] at unchanged
  rw [unchanged]
  exact List.perm_insertionSort _ _

/-! ## Commits -/

/-- A commit that puts an order's row with the marker it has. -/
theorem OrderHeld.commits (held : OrderHeld order locks db) (wrote : WritesOrder moved writes)
    (same : moved.id = order.id ∧ moved.storeId = order.storeId ∧
      moved.stockRestoredAt = order.stockRestoredAt)
    (locking : footing.held = locks) (change : footing.change = Market.change writes)
    (value : Option Order) :
    stockDiscipline.Commits (fun market => ShelfConstraints market.tables) value footing db := by
  subst locking
  rintro now later - constraints
  obtain ⟨rely, kept, sound⟩ := later
  obtain ⟨locked, old, inside, id, store, marker⟩ := held.later ⟨rely, kept, sound⟩
  obtain ⟨row, sameId, sameStore, sameMarker, orders, items, catalogue⟩ := wrote now.tables
  rw [same.1] at sameId
  rw [same.2.1] at sameStore
  rw [same.2.2] at sameMarker
  rw [change] at constraints ⊢
  have ids := kept.carts.declared.orderIds
  have agree : old.id = row.id := id.trans sameId.symm
  have holds : ∀ storeId orderId, holdsStock (writes now.tables) storeId orderId ↔
      holdsStock now.tables storeId orderId := by
    intro storeId orderId
    rw [holdsStock_put ids orders inside agree]
    split
    · next same =>
      have found : now.tables.order? orderId = some old :=
        (lookup_eq_some_iff ids).mpr ⟨inside, agree.trans same⟩
      rw [holdsStock, found, Option.any_some, decide_eq_true_iff, store, marker, sameStore, sameMarker]
    · rfl
  have known : ∀ other ∈ now.tables.orders, ∃ current ∈ (writes now.tables).orders,
      current.id = other.id ∧ current.storeId = other.storeId ∧
        current.stockRestoredAt = other.stockRestoredAt := by
    intro other there
    rw [orders]
    by_cases own : other.id = row.id
    · cases unique_eq ids there inside (own.trans agree.symm)
      exact ⟨row, mem_put.mpr (.inl ⟨rfl, _, inside, agree⟩), own.symm, sameStore.trans store.symm,
        sameMarker.trans marker.symm⟩
    · exact ⟨other, mem_put.mpr (.inr ⟨there, own⟩), rfl, rfl, rfl⟩
  refine ⟨⟨constraints, ?_⟩, ?_, fun other _ => ?_⟩
  · refine ⟨?_, ?_, ?_, sound.once, ?_, ?_⟩
    · rw [Market.change_tables, catalogue]
      exact sound.stocked
    · rw [Market.change_tables, items]
      exact sound.ordered
    · rw [Market.change_tables, catalogue]
      exact sound.wanted
    · intro orderId restored
      obtain ⟨other, there, same⟩ := sound.known orderId restored
      obtain ⟨current, written, alike, -⟩ := known other there
      exact ⟨current, written, alike.trans same⟩
    · intro current written
      rw [Market.change_tables, orders] at written
      rcases mem_put.mp written with ⟨rfl, -⟩ | ⟨there, -⟩
      · rw [sameMarker, ← marker, ← agree]
        exact sound.marked old inside
      · exact sound.marked current there
  · intro listing shelved
    rw [Market.change_tables, catalogue]
    refine ⟨listing, shelved, .refl listing, ?_⟩
    rw [accounted, accounted, outstanding_congr items fun item _ => holds _ _]
  · refine ⟨fun listing shelved => ⟨listing, ?_, .refl listing, fun _ => rfl⟩, ?_, ?_⟩
    · rw [Market.change_tables, catalogue]
      exact shelved
    · intro order there
      obtain ⟨current, written, alike, kept, stays⟩ := known order there
      exact ⟨current, written, alike, kept, fun _ => stays⟩
    · intro order _
      rw [Market.change_tables, items]

/-- What a commit did that put an order back. -/
structure PutBack (order : Order) (credited : List StoreProduct) (locks : List RowLock)
    (before after : Tables) (old row : Order) : Prop where
  gives : Gives order credited locks before
  locked : (Row.order order.id).forUpdate ∈ locks
  held : old ∈ before.orders
  own : old.id = order.id
  store : old.storeId = order.storeId
  unset : old.stockRestoredAt = none
  sameId : row.id = order.id
  sameStore : row.storeId = order.storeId
  set : row.stockRestoredAt ≠ none
  orders : after.orders = put Order.id row before.orders
  items : after.orderItems = before.orderItems
  cartItems : after.catalogue.cartItems = before.catalogue.cartItems
  listings : after.catalogue.storeProducts =
    before.catalogue.storeProducts.map fun row => tracked StoreProduct.id row credited

namespace PutBack
variable (back : PutBack order credited locks before after old row)
include back

theorem mem_orders : now ∈ after.orders ↔ now = row ∨ (now ∈ before.orders ∧ now.id ≠ order.id) := by
  rw [back.orders, mem_put, back.sameId]
  exact or_congr_left ⟨fun both => both.1, fun same => ⟨same, old, back.held, back.own⟩⟩

theorem released (storeId : UUID) (ids : Relational.Unique Order.id before.orders) :
    ¬holdsStock after storeId order.id := by
  rw [holdsStock_put ids back.orders back.held (back.own.trans back.sameId.symm), if_pos back.sameId]
  exact fun holding => back.set holding.2

theorem others (storeId : UUID) (ids : Relational.Unique Order.id before.orders) (differ : orderId ≠ order.id) :
    holdsStock after storeId orderId ↔ holdsStock before storeId orderId := by
  rw [holdsStock_put ids back.orders back.held (back.own.trans back.sameId.symm),
    if_neg fun same => differ (same.symm.trans back.sameId)]

theorem holding (storeId : UUID) (ids : Relational.Unique Order.id before.orders) :
    holdsStock before storeId order.id ↔ order.storeId = storeId := by
  have there : before.order? order.id = some old := (lookup_eq_some_iff ids).mpr ⟨back.held, back.own⟩
  rw [holdsStock, there, Option.any_some, decide_eq_true_iff, back.store]
  exact and_iff_left back.unset

/-- What the shelf gains, orders no longer take. -/
theorem conserves (kept : before.Constraints) : Conserves before after := by
  intro listing inside
  obtain ⟨same, stock⟩ := back.gives.stock kept inside
  refine ⟨tracked StoreProduct.id listing credited, ?_, same, ?_⟩
  · rw [back.listings]
    exact List.mem_map_of_mem inside
  · rw [accounted, accounted, same.store, same.product, stock]
    split
    · next here =>
      have taken : outstanding after listing.storeId listing.productId + demand
          (belonging OrderItem.orderId order.id before.orderItems) listing.productId =
            outstanding before listing.storeId listing.productId :=
        outstanding_released back.items (fun id differ => back.others _ kept.orderIds differ)
          ((back.holding _ kept.orderIds).mpr here.symm) (back.released _ kept.orderIds)
      omega
    · next elsewhere =>
      have still : outstanding after listing.storeId listing.productId =
          outstanding before listing.storeId listing.productId := by
        refine outstanding_congr back.items fun item _ => ?_
        by_cases own : item.orderId = order.id
        · rw [own]
          refine iff_of_false (back.released _ kept.orderIds) fun holds => ?_
          exact elsewhere ((back.holding _ kept.orderIds).mp holds).symm
        · exact back.others _ kept.orderIds own
      omega

theorem sound {market : Market} (kept : before.Constraints) (sound : StockSound market)
    (same : market.tables = before) :
    StockSound { market with tables := after, restored := market.restored ++ [order.id] } := by
  subst same
  have fresh : order.id ∉ market.restored := by
    rw [← back.own, sound.marked old back.held]
    exact fun set => set back.unset
  refine ⟨fun now inside => ?_, ?_, ?_, ?_, fun orderId inside => ?_, fun now inside => ?_⟩
  · change now ∈ after.catalogue.storeProducts at inside
    rw [back.listings] at inside
    obtain ⟨listing, there, rfl⟩ := List.mem_map.mp inside
    rw [(back.gives.stock kept there).2]
    have stocked := sound.stocked listing there
    split
    · have taken : 0 ≤ demand (belonging OrderItem.orderId order.id market.tables.orderItems)
          listing.productId :=
        demand_nonneg (fun item member => sound.ordered item (mem_belonging.mp member).1) _
      omega
    · omega
  · change ∀ item ∈ after.orderItems, _
    rw [back.items]
    exact sound.ordered
  · change ∀ item ∈ after.catalogue.cartItems, _
    rw [back.cartItems]
    exact sound.wanted
  · exact List.nodup_append.mpr ⟨sound.once, List.nodup_singleton _, by
      rintro id inside _ (_ | ⟨_, ⟨⟩⟩) rfl
      exact fresh inside⟩
  · change ∃ order ∈ after.orders, _
    by_cases own : orderId = order.id
    · exact ⟨row, back.mem_orders.mpr (.inl rfl), back.sameId.trans own.symm⟩
    · rcases List.mem_append.mp inside with already | last
      · obtain ⟨other, there, same⟩ := sound.known orderId already
        exact ⟨other, back.mem_orders.mpr (.inr ⟨there, same ▸ own⟩), same⟩
      · exact absurd (List.mem_singleton.mp last) own
  · change now.id ∈ market.restored ++ [order.id] ↔ _
    rw [List.mem_append, List.mem_singleton]
    rcases back.mem_orders.mp inside with rfl | ⟨there, differ⟩
    · exact iff_of_true (.inr back.sameId) back.set
    · rw [or_iff_left differ]
      exact sound.marked now there

/-- Whoever holds neither the order's row nor a credited listing's sees nothing of it. -/
theorem relies (kept : before.Constraints)
    (apart : ∀ row ∈ locks, ∀ lock ∈ theirs, ¬row.conflicts lock) : ShelvesRely theirs before after where
  listings listing inside := by
    refine ⟨tracked StoreProduct.id listing credited, ?_, (back.gives.stock kept inside).1, fun locked => ?_⟩
    · rw [back.listings]
      exact List.mem_map_of_mem inside
    · unfold tracked
      cases found : lookup StoreProduct.id listing.id credited with
      | none => rfl
      | some now =>
        obtain ⟨origin, there, -, taken, same, -⟩ := back.gives.own now (lookup_mem found)
        have agree : origin.id = listing.id := same.id.symm.trans (lookup_col found)
        exact absurd (RowLock.update_conflicts _ _) (apart _ (agree ▸ taken) _ locked)
  orders other inside := by
    by_cases own : other.id = order.id
    · refine ⟨row, back.mem_orders.mpr (.inl rfl), back.sameId.trans own.symm, ?_, fun locked => ?_⟩
      · have same : other = old := unique_eq kept.orderIds inside back.held (own.trans back.own.symm)
        rw [same, back.store, back.sameStore]
      · exact absurd (RowLock.update_conflicts _ _) (apart _ back.locked _ (own ▸ locked))
    · exact ⟨other, back.mem_orders.mpr (.inr ⟨inside, own⟩), rfl, rfl, fun _ => rfl⟩
  items other _ := by rw [back.items]

end PutBack

/-- What the restoration of an order's stock writes. -/
def putBack (order : Order) (credited : List StoreProduct) (market : Market) : Market :=
  { market with
    tables := market.tables.putListings credited
    restored := market.restored ++ [order.id] }

/-- A commit that gives back what an order's items took, and marks it. -/
theorem OrderHeld.gives_back (held : OrderHeld order locks db) (unset : order.stockRestoredAt = none)
    (gives : Gives order credited locks db.tables) (wrote : WritesOrder restored writes)
    (id : restored.id = order.id) (store : restored.storeId = order.storeId)
    (set : restored.stockRestoredAt ≠ none) (locking : footing.held = locks)
    (change : footing.change = Market.change writes ∘ putBack order credited) (value : Option Order) :
    stockDiscipline.Commits (fun market => ShelfConstraints market.tables) value footing db := by
  subst locking
  rintro now later - constraints
  obtain ⟨rely, kept, sound⟩ := later
  obtain ⟨locked, old, inside, own, sameStore, marker⟩ := held.later ⟨rely, kept, sound⟩
  obtain ⟨row, rowId, rowStore, rowMarker, orders, items, catalogue⟩ :=
    wrote (now.tables.putListings credited)
  have shelved := Tables.putListings_eq credited now.tables
  have back : PutBack order credited footing.held now.tables
      (writes (now.tables.putListings credited)) old row :=
    { gives := gives.later rely (by obtain ⟨row, inside, own, -⟩ := held.row; exact ⟨row, inside, own⟩)
      locked, held := inside, own, store := sameStore, unset := marker.trans unset
      sameId := rowId.trans id, sameStore := rowStore.trans store
      set := fun cleared => set (rowMarker.symm.trans cleared)
      orders := by rw [orders, shelved]
      items := by rw [items, shelved]
      cartItems := by rw [catalogue, shelved]
      listings := by
        rw [catalogue, shelved]
        exact foldl_put gives.distinct _ }
  rw [change] at constraints ⊢
  exact ⟨⟨constraints, back.sound kept.carts.declared sound rfl⟩, back.conserves kept.carts.declared,
    fun other apart => back.relies kept.carts.declared apart⟩

/-- A commit that touches no shelf, no order and no quantity but those it checked. -/
theorem commits_off_shelf (writes : Tables → Tables)
    (elsewhere : ∀ db, (writes db).catalogue.storeProducts =
      db.catalogue.storeProducts ∧ (writes db).orders = db.orders ∧ (writes db).orderItems = db.orderItems)
    (wanted : ∀ db, (∀ item ∈ db.catalogue.cartItems, 0 ≤ item.quantity) →
      ∀ item ∈ (writes db).catalogue.cartItems, 0 ≤ item.quantity)
    (change : footing.change = Market.change writes) (value : Option Order) :
    stockDiscipline.Commits (fun market => ShelfConstraints market.tables) value footing db := by
  rintro now ⟨-, -, sound⟩ - constraints
  rw [change] at constraints ⊢
  obtain ⟨listings, orders, items⟩ := elsewhere now.tables
  have holds : ∀ storeId orderId, holdsStock (writes now.tables) storeId orderId ↔
      holdsStock now.tables storeId orderId := by
    intro storeId orderId
    rw [holdsStock, holdsStock, Tables.order?, orders, Tables.order?]
  refine ⟨⟨constraints, ?_, ?_, wanted _ sound.wanted, sound.once, ?_, ?_⟩, fun listing inside => ?_,
    fun other _ => ⟨fun listing inside => ?_, fun order inside => ?_, fun order _ => ?_⟩⟩
  · rw [Market.change_tables, listings]
    exact sound.stocked
  · rw [Market.change_tables, items]
    exact sound.ordered
  · rw [Market.change_tables, orders]
    exact sound.known
  · rw [Market.change_tables, orders]
    exact sound.marked
  · rw [Market.change_tables, listings]
    refine ⟨listing, inside, .refl listing, ?_⟩
    rw [accounted, accounted, outstanding_congr items fun item _ => holds _ _]
  · rw [Market.change_tables, listings]
    exact ⟨listing, inside, .refl listing, fun _ => rfl⟩
  · rw [Market.change_tables, orders]
    exact ⟨order, inside, rfl, rfl, fun _ => rfl⟩
  · rw [Market.change_tables, items]

/-! ## Cart requests -/

/-- A row after an upsert has the new quantity, or was there. -/
theorem quantity_upsert {db : Tables} (inside : row ∈
      (upsert cartId storeProductId quantity draws item db).catalogue.cartItems) :
    row.quantity = quantity ∨ row ∈ db.catalogue.cartItems := by
  cases item with
  | none =>
    rcases List.mem_append.mp inside with there | fresh
    · exact .inr there
    · exact .inl (congrArg CartItem.quantity (List.mem_singleton.mp fresh))
  | some item =>
    simp only [upsert] at inside
    split at inside
    · exact .inr inside
    · obtain ⟨old, there, rfl⟩ := List.mem_map.mp inside
      split
      · exact .inl rfl
      · exact .inr there

theorem AdditionRun.conserves (run : AdditionRun stockDiscipline quantity draws start)
    (value : Option Order) :
    stockDiscipline.Commits (fun market => ShelfConstraints market.tables) value run.standing run.last := by
  refine commits_off_shelf run.write (fun db => ?_) (fun db wanted item inside => ?_) rfl value
  · obtain ⟨_, _, same⟩ := run.touches db
    rw [same]
    exact ⟨rfl, rfl, rfl⟩
  · have amount := run.amount
    rcases quantity_upsert inside with set | there
    · omega
    · rw [assignment_cartItems, run.cartRead.cartItems] at there
      exact wanted item there

theorem RemovalRun.conserves (run : RemovalRun stockDiscipline draws start) (value : Option Order) :
    stockDiscipline.Commits (fun market => ShelfConstraints market.tables) value run.standing run.last := by
  refine commits_off_shelf run.write (fun db => ?_) (fun db wanted item inside => ?_) rfl value
  · obtain ⟨_, _, same⟩ := run.touches db
    rw [same]
    exact ⟨rfl, rfl, rfl⟩
  · rw [run.write_cartItems] at inside
    exact wanted item (List.mem_filter.mp inside).1

/-! ## Checkout -/

/-- What the lines of an order take, by the rows it was made from. -/
theorem demand_lines (lined : List.Forall₂ (LineOf order) validated lines) (productId : UUID) :
    demand lines productId = (validated.map fun pair =>
      if pair.2.productId = productId then pair.1.quantity else 0).sum := by
  induction lined with
  | nil => rfl
  | cons lineOf _ ih =>
    simp only [demand, List.map_cons, List.sum_cons] at ih ⊢
    rw [ih, lineOf.product, lineOf.quantity]

namespace CheckoutRun
variable (run : CheckoutRun stockDiscipline customer key draws start)

/-- A listing that a checkout sells from is, at its commit, what it was when it was
checked. -/
theorem sells (later : ShelvesRely run.standing.held run.last.tables now) (inside : pair ∈ run.validated) :
    ∃ row ∈ now.catalogue.storeProducts, SameListing row pair.2 ∧
      row.stockQuantity = pair.2.stockQuantity := by
  have locks : ShelvesRely (listingLocks run.seen) run.fetched.tables run.last.tables :=
    (run.clearing.1.trans run.ending.1).mono fun lock held => List.mem_append_left _ held
  have since := locks.trans (later.mono fun lock held =>
    List.mem_append_right _ (List.mem_append_left _ held))
  obtain ⟨listed, -, locked⟩ := run.mem_listings inside
  obtain ⟨row, there, same, stays⟩ := since.listings pair.2 listed
  exact ⟨row, there, same, stays locked⟩

theorem order_storeId : run.order.storeId = run.storeId := by
  obtain ⟨_, _, _, _, same⟩ := run.placed
  rw [same]
  rfl

theorem order_unset : run.order.stockRestoredAt = none := by
  obtain ⟨_, _, _, _, same⟩ := run.placed
  rw [same]
  rfl

/-- What a listing is after the sale: less what the order's lines take, and no less than
nothing. -/
theorem sold (later : ShelvesRely run.standing.held run.last.tables now) (kept : now.Constraints)
    (stocked : 0 ≤ row.stockQuantity) (there : row ∈ now.catalogue.storeProducts) :
    SameListing (tracked StoreProduct.id row run.debited) row ∧
      0 ≤ (tracked StoreProduct.id row run.debited).stockQuantity ∧
        (tracked StoreProduct.id row run.debited).stockQuantity +
          (if run.order.storeId = row.storeId then demand run.lines row.productId else 0) =
            row.stockQuantity := by
  have rows := run.reading.2.1.carts.declared.cartRows
  have store : ∀ pair ∈ run.validated, pair.2.storeId = run.storeId := fun pair inside =>
    (run.validated_items.2.1 pair inside).store
  have taken : (if run.order.storeId = row.storeId then demand run.lines row.productId else 0) =
      (lookup (fun pair : CartItem × StoreProduct => pair.2.id) row.id run.validated).elim 0
        fun pair => pair.1.quantity := by
    rw [← sum_lookup (run.listings_distinct rows), run.order_storeId]
    split
    · next own =>
      rw [demand_lines run.lined]
      refine congrArg List.sum (List.map_congr_left fun pair inside => ?_)
      obtain ⟨current, here, same, -⟩ := run.sells later inside
      have agree : pair.2.productId = row.productId ↔ pair.2.id = row.id := by
        constructor
        · intro product
          rw [← same.id, unique_eq kept.listingProducts here there
            (Prod.ext ((same.store.trans (store pair inside)).trans own) (same.product.trans product))]
        · intro id
          rw [← same.product, unique_eq kept.listingIds here there (same.id.trans id)]
      simp only [agree]
    · next differ =>
      refine (List.sum_eq_zero fun amount inside => ?_).symm
      obtain ⟨pair, bought, rfl⟩ := List.mem_map.mp inside
      obtain ⟨current, here, same, -⟩ := run.sells later bought
      refine if_neg fun id => differ ?_
      rw [← store pair bought, ← same.store, unique_eq kept.listingIds here there (same.id.trans id)]
  rw [taken]
  have found : lookup StoreProduct.id row.id run.debited =
      (lookup (fun pair : CartItem × StoreProduct => pair.2.id) row.id run.validated).map
        fun pair => debitListing pair.2 pair.1.quantity := by
    rw [debited, lookup, List.find?_map]
    rfl
  unfold tracked
  rw [found]
  cases sale : lookup (fun pair : CartItem × StoreProduct => pair.2.id) row.id run.validated with
  | none => exact ⟨.refl row, stocked, Int.add_zero _⟩
  | some pair =>
    have bought := lookup_mem sale
    have id : pair.2.id = row.id := by simpa using List.find?_some sale
    obtain ⟨current, here, same, stock⟩ := run.sells later bought
    cases unique_eq kept.listingIds here there (same.id.trans id)
    have enough := (run.validated_items.2.1 pair bought).stocked
    refine ⟨⟨same.id.symm, same.store.symm, same.product.symm⟩, ?_, ?_⟩
    · change 0 ≤ pair.2.stockQuantity - pair.1.quantity
      omega
    · change pair.2.stockQuantity - pair.1.quantity + pair.1.quantity = _
      omega

/-- A commit of a checkout. -/
theorem conserves (value : Option Order) :
    stockDiscipline.Commits (fun market => ShelfConstraints market.tables) value run.standing run.last := by
  rintro now ⟨rely, kept, sound⟩ - constraints
  change ShelfConstraints (run.change now).tables at constraints
  have rows := run.reading.2.1.carts.declared.cartRows
  have declared := kept.carts.declared
  have written := run.change_storeProducts rows now
  have ids := constraints.carts.declared.orderIds
  have fresh : ∀ old ∈ now.tables.orders, old.id ≠ run.order.id := by
    rw [run.change_orders, unique_append] at ids
    exact ids.2
  have own : ∀ line ∈ run.lines, line.orderId = run.order.id ∧ 0 ≤ line.quantity := by
    intro line inside
    obtain ⟨pair, bought, lineOf⟩ := exists_origin run.lined inside
    refine ⟨lineOf.order, ?_⟩
    have read : pair.1 ∈ run.items := run.validated_items.1 ▸ List.mem_map_of_mem bought
    rw [lineOf.quantity]
    exact run.reading.2.2.wanted pair.1 (run.mem_items.mp read).1
  change (ShelfConstraints (run.change now).tables ∧ StockSound (run.change now)) ∧
    Conserves now.tables (run.change now).tables ∧
      ∀ other : Standing, _ → ShelvesRely other.held now.tables (run.change now).tables
  refine ⟨⟨constraints, ?_, ?_, ?_, sound.once, ?_, ?_⟩, ?_, fun other apart => ⟨?_, ?_, ?_⟩⟩
  · intro listing inside
    rw [written] at inside
    obtain ⟨row, there, rfl⟩ := List.mem_map.mp inside
    exact (run.sold rely declared (sound.stocked row there) there).2.1
  · intro item inside
    rw [run.change_orderItems] at inside
    rcases List.mem_append.mp inside with there | new
    · exact sound.ordered item there
    · exact (own item new).2
  · intro item inside
    rw [run.change_cartItems] at inside
    exact sound.wanted item (List.mem_filter.mp inside).1
  · intro orderId restored
    obtain ⟨order, there, same⟩ := sound.known orderId restored
    refine ⟨order, ?_, same⟩
    rw [run.change_orders]
    exact List.mem_append_left _ there
  · intro order inside
    rw [run.change_orders] at inside
    rcases List.mem_append.mp inside with there | new
    · exact sound.marked order there
    · cases List.mem_singleton.mp new
      refine iff_of_false (fun restored => ?_) fun set => set run.order_unset
      obtain ⟨order, there, same⟩ := sound.known _ restored
      exact fresh order there same
  · intro row there
    obtain ⟨same, -, stock⟩ := run.sold rely declared (sound.stocked row there) there
    refine ⟨tracked StoreProduct.id row run.debited, ?_, same, ?_⟩
    · rw [written]
      exact List.mem_map_of_mem there
    · rw [accounted, accounted, same.store, same.product,
        outstanding_placed kept.itemOrders ids (run.change_orders now) (run.change_orderItems now)
          (fun line inside => (own line inside).1) run.order_unset]
      omega
  · intro row there
    obtain ⟨same, -⟩ := run.sold rely declared (sound.stocked row there) there
    refine ⟨tracked StoreProduct.id row run.debited, ?_, same, fun locked => ?_⟩
    · rw [written]
      exact List.mem_map_of_mem there
    · unfold tracked
      cases found : lookup StoreProduct.id row.id run.debited with
      | none => rfl
      | some now =>
        obtain ⟨pair, bought, rfl⟩ := List.mem_map.mp (lookup_mem found)
        have id : (debitListing pair.2 pair.1.quantity).id = row.id := lookup_col found
        have taken := (run.mem_listings bought).2.2
        refine absurd (RowLock.update_conflicts _ _) (apart _ ?_ _ locked)
        exact List.mem_append_right _ (List.mem_append_left _ (id ▸ taken))
  · intro order there
    refine ⟨order, ?_, rfl, rfl, fun _ => rfl⟩
    rw [run.change_orders]
    exact List.mem_append_left _ there
  · intro order there
    rw [run.change_orderItems, belonging, List.filter_append]
    have none : run.lines.filter (fun line => line.orderId = order.id) = [] := by
      refine List.filter_eq_nil_iff.mpr fun line inside => ?_
      rw [decide_eq_true_iff, (own line inside).1]
      exact fun same => fresh order there same.symm
    rw [none, List.append_nil]
    rfl

end CheckoutRun

/-! ## Cancellations and returns -/

theorem lookup_order {db : Market} (found : db.tables.order? orderId = some order)
    (locked : (Row.order order.id).forUpdate ∈ held) : OrderHeld order held db :=
  ⟨locked, order, lookup_mem found, rfl, rfl, rfl⟩

theorem cancelMyOrderSafely_conserves :
    stockDiscipline.Holds (Statement.cancelMyOrderSafely subject orderId draws)
      (stockDiscipline.Commits fun market => ShelfConstraints market.tables) {} db := by
  unfold Statement.cancelMyOrderSafely
  refine Holds.statement fun _ _ user _ => ?_
  refine Holds.locked rfl fun order read _ found held same => ?_
  obtain ⟨same, -⟩ := Option.filter_eq_some_iff.mp same
  cases same
  have mine : OrderHeld order [(Row.order order.id).forUpdate] read :=
    lookup_order found (List.mem_singleton_self _)
  refine Holds.require fun _ => ?_
  rw [Discipline.holds_bind]
  refine holds_restore rfl mine (fun _ => ?_) fun unset locks credited now later gives => ?_
  · refine Discipline.Holds.check fun moved transition => ?_
    obtain ⟨-, rfl⟩ := transitionOrder_ok.mp transition
    exact mine.commits (writesOrder_refund { order with status := .cancelled } _ draws)
      ⟨rfl, rfl, rfl⟩ rfl rfl none
  · refine Discipline.Holds.check fun moved transition => ?_
    obtain ⟨-, rfl⟩ := transitionOrder_ok.mp transition
    exact ((mine.later later).mono fun _ => List.mem_append_right _).gives_back unset gives
      (writesOrder_refund { order with stockRestoredAt := some draws.now, status := .cancelled } _ draws)
      rfl rfl nofun rfl rfl none

theorem updateOrderStatusSafely_conserves :
    stockDiscipline.Holds (Statement.updateOrderStatusSafely subject orderId status draws)
      (stockDiscipline.Commits fun market => ShelfConstraints market.tables) {} db := by
  unfold Statement.updateOrderStatusSafely
  refine Holds.statement fun _ _ user _ => Discipline.Holds.check fun _ _ => ?_
  refine Holds.locked rfl fun order read _ found held same => ?_
  cases same
  have mine : OrderHeld order [(Row.order order.id).forUpdate] read :=
    lookup_order found (List.mem_singleton_self _)
  refine Holds.statement fun checked checking _ _ => Holds.require fun _ => Holds.require fun _ => ?_
  refine Holds.require fun _ => Discipline.Holds.branch (fun _ => ?_) fun _ => ?_
  · refine Discipline.Holds.check fun _ _ => ?_
    rw [Discipline.holds_bind]
    refine holds_restore rfl (mine.later checking) (fun _ => ?_) fun unset locks credited now later gives => ?_
    · refine Discipline.Holds.query fun asked asking => ?_
      refine Discipline.Holds.flush (Discipline.Holds.check fun moved transition => ?_)
      obtain ⟨-, same⟩ := transitionOrder_ok.mp transition
      have kept : moved.id = order.id ∧ moved.storeId = order.storeId ∧
          moved.stockRestoredAt = order.stockRestoredAt := by
        rw [← same]
        exact ⟨rfl, rfl, rfl⟩
      refine ((mine.later checking).later asking).commits (writesOrder_after_refund order
        refundReasonCancelled draws moved kept.1 kept.2.1 kept.2.2) ⟨rfl, rfl, rfl⟩ ?_ ?_ none
      · rfl
      · rfl
    · refine Discipline.Holds.query fun asked asking => ?_
      refine Discipline.Holds.flush (Discipline.Holds.check fun moved transition => ?_)
      obtain ⟨-, same⟩ := transitionOrder_ok.mp transition
      have kept : moved.id = order.id ∧ moved.storeId = order.storeId ∧
          moved.stockRestoredAt = some draws.now := by
        rw [← same]
        exact ⟨rfl, rfl, rfl⟩
      have still := ((mine.later checking).later later).mono fun _ => List.mem_append_right locks
      obtain ⟨row, inside, own, -⟩ := still.row
      refine (still.later asking).gives_back unset
        (gives.later asking.1 ⟨row, inside, own⟩)
        (writesOrder_after_refund { order with stockRestoredAt := some draws.now } refundReasonCancelled
          draws moved kept.1 kept.2.1 kept.2.2)
        rfl rfl nofun ?_ ?_ none
      · rfl
      · rfl
  · refine Discipline.Holds.check fun moved transition => ?_
    obtain ⟨-, rfl⟩ := transitionOrder_ok.mp transition
    have ordered := mine.later checking
    refine ordered.commits (writesOrder_put { order with status }) ⟨rfl, rfl, rfl⟩ ?_ ?_ none
    · rfl
    · rfl

theorem resolveFailedDelivery_conserves :
    stockDiscipline.Holds (Statement.resolveFailedDelivery subject deliveryId resolution notes draws)
      (stockDiscipline.Commits fun market => ShelfConstraints market.tables) {} db := by
  unfold Statement.resolveFailedDelivery
  refine Holds.statement fun _ _ _ _ => Holds.require fun _ => ?_
  refine Holds.locked rfl fun delivery first _ _ _ same => ?_
  cases same
  refine Holds.locked rfl fun order read _ found held same => Holds.require fun _ => ?_
  cases same
  have mine : OrderHeld order [(Row.order order.id).forUpdate, (Row.delivery delivery.id).forUpdate] read :=
    lookup_order found List.mem_cons_self
  cases resolution with
  | reassign =>
    refine Holds.require fun _ => Holds.require fun _ => ?_
    refine Discipline.Holds.check fun released _ => ?_
    exact commits_off_shelf (·.putDelivery released) (fun db => ⟨rfl, rfl, rfl⟩)
      (fun db wanted => wanted) rfl none
  | returnToStore =>
    refine Discipline.Holds.check fun _ _ => Discipline.Holds.check fun _ _ => Holds.require fun _ => ?_
    refine Discipline.Holds.query fun collected collecting => Holds.require fun _ => ?_
    rw [Discipline.holds_bind]
    refine holds_restore rfl (mine.later collecting) (fun _ => ?_) fun unset locks credited now later gives => ?_
    · refine Discipline.Holds.check fun moved transition => ?_
      obtain ⟨-, rfl⟩ := transitionOrder_ok.mp transition
      have ordered := mine.later collecting
      refine ordered.commits (writesOrder_return { order with status := .returned } voidReasonReturned
        refundReasonReturned draws)
        ⟨rfl, rfl, rfl⟩ ?_ ?_ none
      · rfl
      · rfl
    · refine Discipline.Holds.check fun moved transition => ?_
      obtain ⟨-, rfl⟩ := transitionOrder_ok.mp transition
      exact (((mine.later collecting).later later).mono fun _ => List.mem_append_right _).gives_back unset
        gives (writesOrder_return
          { order with stockRestoredAt := some draws.now, status := .returned } _ _ draws)
        rfl rfl nofun rfl rfl none

/-! ## Runs -/

/-- The rest of the program, as far as shelves go: it edits no stock, takes no listing
down, places no order and puts none back. -/
@[mk_iff]
structure LeavesShelves (before after : Market) : Prop where
  constraints : ShelfConstraints after.tables
  listings : ∀ listing ∈ before.tables.catalogue.storeProducts,
    ∃ now ∈ after.tables.catalogue.storeProducts,
      SameListing now listing ∧ now.stockQuantity = listing.stockQuantity
  stocked : ∀ listing ∈ after.tables.catalogue.storeProducts, 0 ≤ listing.stockQuantity
  wanted : ∀ item ∈ after.tables.catalogue.cartItems, 0 ≤ item.quantity
  orders : after.tables.orders.map (fun order => (order.id, order.storeId, order.stockRestoredAt)) =
    before.tables.orders.map fun order => (order.id, order.storeId, order.stockRestoredAt)
  items : after.tables.orderItems = before.tables.orderItems
  restored : after.restored = before.restored

instance : DecidableRel LeavesShelves := fun before after =>
  decidable_of_iff _ (leavesShelves_iff before after).symm

/-- Nobody but these requests touches stock. -/
def StockUnedited (state : State Market RowLock Note HTTPException (Option Order)) :
    ReadCommitted.Action Market ShelfRequest → Prop
  | .other after => LeavesShelves state.database after
  | _ => True

theorem LeavesShelves.keeps (leaves : LeavesShelves before after) (sound : StockSound before) :
    StockSound after := by
  have known : ∀ order ∈ after.tables.orders, ∃ old ∈ before.tables.orders, old.id = order.id ∧
      old.storeId = order.storeId ∧ old.stockRestoredAt = order.stockRestoredAt := by
    intro order inside
    have same := leaves.orders ▸ List.mem_map_of_mem
      (f := fun order : Order => (order.id, order.storeId, order.stockRestoredAt)) inside
    obtain ⟨old, there, agree⟩ := List.mem_map.mp same
    simp only [Prod.mk.injEq] at agree
    exact ⟨old, there, agree⟩
  refine ⟨leaves.stocked, ?_, leaves.wanted, ?_, ?_, ?_⟩
  · rw [leaves.items]
    exact sound.ordered
  · rw [leaves.restored]
    exact sound.once
  · rw [leaves.restored]
    intro orderId restored
    obtain ⟨order, inside, own⟩ := sound.known orderId restored
    have same := leaves.orders.symm ▸ List.mem_map_of_mem
      (f := fun order : Order => (order.id, order.storeId, order.stockRestoredAt)) inside
    obtain ⟨now, there, agree⟩ := List.mem_map.mp same
    exact ⟨now, there, (congrArg Prod.fst agree).trans own⟩
  · rw [leaves.restored]
    intro order inside
    obtain ⟨old, there, id, -, marker⟩ := known order inside
    rw [← id, ← marker]
    exact sound.marked old there

theorem LeavesShelves.holds (leaves : LeavesShelves before after) (storeId orderId : UUID) :
    holdsStock after.tables storeId orderId ↔ holdsStock before.tables storeId orderId := by
  have seen : ∀ db : Tables, holdsStock db storeId orderId ↔
      ((lookup Prod.fst orderId (db.orders.map fun order =>
        (order.id, order.storeId, order.stockRestoredAt))).any fun row =>
          row.2.1 = storeId ∧ row.2.2 = none) = true := by
    intro db
    rw [holdsStock, Tables.order?, lookup, lookup, List.find?_map, Option.any_map]
    rfl
  rw [seen, seen, leaves.orders]

theorem LeavesShelves.conserves (leaves : LeavesShelves before after) :
    Conserves before.tables after.tables := by
  intro listing inside
  obtain ⟨now, there, same, stock⟩ := leaves.listings listing inside
  refine ⟨now, there, same, ?_⟩
  rw [accounted, accounted, same.store, same.product, stock,
    outstanding_congr leaves.items fun item _ => leaves.holds _ _]

theorem LeavesShelves.relies (leaves : LeavesShelves before after) (held : List RowLock) :
    ShelvesRely held before.tables after.tables where
  listings listing inside := by
    obtain ⟨now, there, same, stock⟩ := leaves.listings listing inside
    exact ⟨now, there, same, fun _ => stock⟩
  orders order inside := by
    have same := leaves.orders.symm ▸ List.mem_map_of_mem
      (f := fun order : Order => (order.id, order.storeId, order.stockRestoredAt)) inside
    obtain ⟨now, there, agree⟩ := List.mem_map.mp same
    simp only [Prod.mk.injEq] at agree
    exact ⟨now, there, agree.1, agree.2.1, fun _ => agree.2.2⟩
  items order _ := by rw [leaves.items]

theorem stock_upheld (env : Environment) (settings : Settings) :
    Discipline.Upheld (shelfService env settings) stockDiscipline StockUnedited where
  starts := by
    intro state request _ kept
    cases request with
    | cancelMyOrder => exact cancelMyOrderSafely_conserves
    | updateOrderStatus => exact updateOrderStatusSafely_conserves
    | resolveFailedDelivery => exact resolveFailedDelivery_conserves
    | cart request =>
      cases request with
      | addCartItem => exact holds_addCartItem fun run => run.conserves none
      | removeCartItem => exact holds_removeCartItem fun run => run.conserves none
      | clearCart => exact holds_clearCart fun run => run.conserves none
      | safeCheckout =>
        refine holds_safeCheckout (fun _ order held now _ _ _ => ?_) fun _ _ run =>
          run.conserves (some run.order)
        exact commits_off_shelf id (fun db => ⟨rfl, rfl, rfl⟩) (fun db wanted => wanted) rfl
          (some order)
  others _ _ leaves kept :=
    ⟨⟨leaves.constraints, leaves.keeps kept.2⟩, fun held _ => leaves.relies held⟩
  admitted _ _ _ _ _ _ := trivial
  separated _ _ _ _ _ _ _ _ _ _ _ apart := apart

theorem step_conserves (env : Environment) (settings : Settings)
    (safe : Discipline.Safe (shelfService env settings) stockDiscipline state)
    (admitted : StockUnedited state action) :
    Conserves state.database.tables ((shelfService env settings).step state action).database.tables := by
  cases action with
  | start request => exact .refl _
  | abort index => exact .refl _
  | advance index =>
    rcases safe.advance (stock_upheld env settings) admitted with same | done
    · rw [same]
      exact .refl _
    · exact done
  | other after => exact admitted.conserves

/-- However checkouts, cancellations and returns interleave, no listing's stock is ever
negative, no order is put back twice, and what a listing has on the shelf and in orders
that were not put back stays the same. -/
theorem stock_conserved (env : Environment) (settings : Settings) {start : Market}
    (constraints : ShelfConstraints start.tables) (sound : StockSound start)
    (reached : System.ReachableWhile ((shelfService env settings).system start) StockUnedited state) :
    (∀ listing ∈ state.database.tables.catalogue.storeProducts, 0 ≤ listing.stockQuantity) ∧
      state.database.restored.Nodup ∧
      ∀ actions, System.RunWhile ((shelfService env settings).system start) StockUnedited state actions →
        Conserves state.database.tables
          (((shelfService env settings).system start).run state actions).database.tables := by
  have upheld := stock_upheld env settings
  obtain ⟨-, kept⟩ := (upheld.safe ⟨constraints, sound⟩ reached).invariant
  refine ⟨kept.stocked, kept.once, reached.persists (P := fun later =>
    Conserves state.database.tables later.database.tables) (.refl _) ?_⟩
  intro later action there conserved admitted
  exact conserved.trans (step_conserves env settings (upheld.safe ⟨constraints, sound⟩ there) admitted)

/-- A run in which nobody else commits. -/
theorem unedited_of_own {system : System (State Market RowLock Note HTTPException (Option Order))
      (ReadCommitted.Action Market ShelfRequest)} {actions : List (ReadCommitted.Action Market ShelfRequest)}
    (own : actions.all (fun action => !action matches .other _) = true)
    (state : State Market RowLock Note HTTPException (Option Order)) :
    System.RunWhile system StockUnedited state actions := by
  refine .of_forall (fun action inside _ => ?_) state
  have mine := List.all_eq_true.mp own action inside
  cases action with
  | other after => cases mine
  | _ => trivial

/-! Two customers order rice at once; one of them cancels twice at once. -/
def riceShop : Market where
  tables := { catalogue := { sampleCatalogue with
    users := sampleCatalogue.users ++ [⟨5, .customer, false, true, true⟩]
    addresses := sampleCatalogue.addresses ++ [⟨2, 5, 1, some "Ravi", none, none, "Well", none, none, none, none⟩]
    carts := sampleCatalogue.carts ++ [⟨2, 5, some 1⟩]
    cartItems := sampleCatalogue.cartItems ++ [⟨2, 2, 1, 3⟩] } }

def twoOrders : List (ReadCommitted.Action Market ShelfRequest) :=
  [.start (.cart (.safeCheckout 1 ⟨1, .cod⟩ none "GO-1" (sampleDraws 1))),
    .start (.cart (.safeCheckout 5 ⟨2, .cod⟩ none "GO-2" (sampleDraws 2)))] ++
    (List.replicate 40 [.advance 0, .advance 1]).flatten

def twoCancellations : List (ReadCommitted.Action Market ShelfRequest) :=
  [.start (.cancelMyOrder 1 1 (sampleDraws 3)), .start (.cancelMyOrder 1 1 (sampleDraws 4))] ++
    (List.replicate 20 [.advance 2, .advance 3]).flatten

def afterOrders : State Market RowLock Note HTTPException (Option Order) :=
  ((shelfService sampleEnvironment sampleSettings).system riceShop).run ⟨riceShop, []⟩ twoOrders

def afterCancellations : State Market RowLock Note HTTPException (Option Order) :=
  ((shelfService sampleEnvironment sampleSettings).system riceShop).run afterOrders twoCancellations

/-- Ten bags, of which the two orders take two and three; the two come back once. -/
theorem stock_conserved_cancelled :
    afterOrders.database.tables.catalogue.storeProducts.map (·.stockQuantity) = [5] ∧
      outstanding afterOrders.database.tables 1 1 = 5 ∧
      afterCancellations.database.restored = [1] ∧
      afterCancellations.database.tables.catalogue.storeProducts.map (·.stockQuantity) = [7] ∧
      Conserves afterOrders.database.tables afterCancellations.database.tables := by
  have constraints : ShelfConstraints riceShop.tables := by decide +kernel
  have sound : StockSound riceShop :=
    ⟨by decide, by decide, by decide, List.nodup_nil, fun _ inside => absurd inside List.not_mem_nil,
      fun _ inside => absurd inside List.not_mem_nil⟩
  have placed : System.RunWhile ((shelfService sampleEnvironment sampleSettings).system riceShop)
      StockUnedited ⟨riceShop, []⟩ twoOrders :=
    unedited_of_own rfl _
  have cancelled : System.RunWhile ((shelfService sampleEnvironment sampleSettings).system riceShop)
      StockUnedited afterOrders twoCancellations :=
    unedited_of_own rfl _
  have sold : afterOrders.database.tables.catalogue.storeProducts.map (·.stockQuantity) = [5] := by
    decide +kernel
  have taken : outstanding afterOrders.database.tables 1 1 = 5 := by decide +kernel
  have once : afterCancellations.database.restored = [1] := by decide +kernel
  have back : afterCancellations.database.tables.catalogue.storeProducts.map (·.stockQuantity) = [7] := by
    decide +kernel
  have reached : System.ReachableWhile ((shelfService sampleEnvironment sampleSettings).system riceShop)
      StockUnedited afterOrders := by
    unfold afterOrders
    exact .run .initial twoOrders placed
  have conserved : Conserves afterOrders.database.tables afterCancellations.database.tables := by
    unfold afterCancellations
    exact (stock_conserved sampleEnvironment sampleSettings constraints sound reached).2.2 twoCancellations
      cancelled
  exact And.intro sold (And.intro taken (And.intro once (And.intro back conserved)))

end GaonOne
