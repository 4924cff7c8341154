import GaonOne.CartRules

/-! What the requests on a cart may rely on. A cart whose row is held for update gets no
new items, since an insert checks the foreign key; the quantities of its rows may change
and its rows may go. Nothing else about a cart is protected between two statements. -/
namespace GaonOne
open Relational UnitOfWork ReadCommitted

/-- What the database enforces of carts. -/
structure CartConstraints (db : Tables) : Prop where
  declared : db.Constraints
  itemCarts : References CartItem.cartId Cart.id db.catalogue.cartItems db.catalogue.carts
  itemListings :
    References CartItem.storeProductId StoreProduct.id db.catalogue.cartItems db.catalogue.storeProducts

instance (db : Tables) : Decidable (CartConstraints db) :=
  decidable_of_iff (db.Constraints ∧
      References CartItem.cartId Cart.id db.catalogue.cartItems db.catalogue.carts ∧
      References CartItem.storeProductId StoreProduct.id db.catalogue.cartItems
        db.catalogue.storeProducts)
    ⟨fun ⟨declared, carts, listings⟩ => ⟨declared, carts, listings⟩,
      fun ⟨declared, carts, listings⟩ => ⟨declared, carts, listings⟩⟩

/-- The requests on carts, under the database's constraints. -/
def cartService (env : Environment) (settings : Settings) :
    Service Market RowLock Note HTTPException (Option Order) CartRequest where
  program := CartRequest.program env settings
  conflicts := RowLock.conflicts
  symmetric := RowLock.conflicts_symm
  valid market := CartConstraints market.tables
  decideConflicts := inferInstance
  decideValid := fun _ => inferInstanceAs (Decidable (CartConstraints _))

/-- A listing stays its store's listing of its product. -/
@[mk_iff]
structure SameListing (left right : StoreProduct) : Prop where
  id : left.id = right.id
  store : left.storeId = right.storeId
  product : left.productId = right.productId

instance : DecidableRel SameListing := fun left right =>
  decidable_of_iff _ (sameListing_iff left right).symm

theorem SameListing.refl (listing : StoreProduct) : SameListing listing listing := ⟨rfl, rfl, rfl⟩

theorem SameListing.symm (same : SameListing left right) : SameListing right left :=
  ⟨same.id.symm, same.store.symm, same.product.symm⟩

theorem SameListing.trans (first : SameListing left middle) (second : SameListing middle right) :
    SameListing left right :=
  ⟨first.id.trans second.id, first.store.trans second.store, first.product.trans second.product⟩

/-- No listing goes, or changes hands. -/
def ListingsKept (before after : Tables) : Prop :=
  ∀ listing ∈ before.catalogue.storeProducts, ∃ now ∈ after.catalogue.storeProducts,
    SameListing now listing

instance : DecidableRel ListingsKept := fun _ _ =>
  inferInstanceAs (Decidable (∀ _ ∈ _, ∃ _ ∈ _, _))

/-- An order stays its customer's order under its key. -/
@[mk_iff]
structure SameOrder (left right : Order) : Prop where
  id : left.id = right.id
  user : left.userId = right.userId
  key : left.idempotencyKey = right.idempotencyKey

instance : DecidableRel SameOrder := fun left right =>
  decidable_of_iff _ (sameOrder_iff left right).symm

theorem SameOrder.refl (order : Order) : SameOrder order order := ⟨rfl, rfl, rfl⟩

theorem SameOrder.trans (first : SameOrder left middle) (second : SameOrder middle right) :
    SameOrder left right :=
  ⟨first.id.trans second.id, first.user.trans second.user, first.key.trans second.key⟩

/-- No order goes, or changes its key. -/
def OrdersKept (before after : Tables) : Prop :=
  ∀ order ∈ before.orders, ∃ now ∈ after.orders, SameOrder now order

instance : DecidableRel OrdersKept := fun _ _ =>
  inferInstanceAs (Decidable (∀ _ ∈ _, ∃ _ ∈ _, _))

/-- What a session may rely on for the locks it holds. -/
structure CartsRely (held : List RowLock) (before after : Market) : Prop where
  carts : ∀ cart ∈ before.tables.catalogue.carts, ∃ now ∈ after.tables.catalogue.carts, now.id = cart.id
  listings : ListingsKept before.tables after.tables
  orders : OrdersKept before.tables after.tables
  rows : ∀ cartId, (Row.cart cartId).forUpdate ∈ held → ∀ item ∈ after.tables.catalogue.cartItems,
    item.cartId = cartId → ∃ quantity, { item with quantity } ∈ before.tables.catalogue.cartItems
  ordered : ∀ cartId, (Row.cart cartId).forUpdate ∈ held → ∀ entry ∈ after.ordered,
    entry.2.cartId = cartId → entry ∈ before.ordered

theorem ListingsKept.refl (db : Tables) : ListingsKept db db :=
  fun listing inside => ⟨listing, inside, .refl listing⟩

theorem ListingsKept.of_eq (same : after.catalogue.storeProducts = before.catalogue.storeProducts) :
    ListingsKept before after :=
  fun listing inside => ⟨listing, same ▸ inside, .refl listing⟩

theorem ListingsKept.trans (first : ListingsKept before middle) (second : ListingsKept middle after) :
    ListingsKept before after := by
  intro listing inside
  obtain ⟨between, there, same⟩ := first listing inside
  obtain ⟨now, last, again⟩ := second between there
  exact ⟨now, last, again.trans same⟩

theorem OrdersKept.refl (db : Tables) : OrdersKept db db :=
  fun order inside => ⟨order, inside, .refl order⟩

theorem OrdersKept.of_eq (same : after.orders = before.orders) : OrdersKept before after :=
  fun order inside => ⟨order, same ▸ inside, .refl order⟩

theorem OrdersKept.trans (first : OrdersKept before middle) (second : OrdersKept middle after) :
    OrdersKept before after := by
  intro order inside
  obtain ⟨between, there, same⟩ := first order inside
  obtain ⟨now, last, again⟩ := second between there
  exact ⟨now, last, again.trans same⟩

/-- Nothing happens to customers, to carts, or to what listings and orders are. -/
@[mk_iff]
structure LeavesCarts (before after : Market) : Prop where
  constraints : CartConstraints after.tables
  users : after.tables.catalogue.users = before.tables.catalogue.users
  carts : after.tables.catalogue.carts = before.tables.catalogue.carts
  items : after.tables.catalogue.cartItems = before.tables.catalogue.cartItems
  listings : ListingsKept before.tables after.tables
  orders : OrdersKept before.tables after.tables
  ordered : after.ordered = before.ordered

instance : DecidableRel LeavesCarts := fun before after =>
  decidable_of_iff _ (leavesCarts_iff before after).symm

theorem LeavesCarts.relies (leaves : LeavesCarts before after) (held : List RowLock) :
    CartsRely held before after where
  carts cart inside := ⟨cart, leaves.carts ▸ inside, rfl⟩
  listings := leaves.listings
  orders := leaves.orders
  rows _ _ item inside _ := ⟨item.quantity, leaves.items ▸ inside⟩
  ordered _ _ _ inside _ := leaves.ordered ▸ inside

theorem CartsRely.refl (held : List RowLock) (market : Market) : CartsRely held market market where
  carts cart inside := ⟨cart, inside, rfl⟩
  listings := .refl _
  orders := .refl _
  rows _ _ item inside _ := ⟨item.quantity, inside⟩
  ordered _ _ _ inside _ := inside

theorem CartsRely.trans (first : CartsRely held before middle) (second : CartsRely held middle after) :
    CartsRely held before after where
  carts cart inside := by
    obtain ⟨between, there, same⟩ := first.carts cart inside
    obtain ⟨now, last, again⟩ := second.carts between there
    exact ⟨now, last, again.trans same⟩
  listings := first.listings.trans second.listings
  orders := first.orders.trans second.orders
  rows cartId locked item inside own := by
    obtain ⟨quantity, there⟩ := second.rows cartId locked item inside own
    obtain ⟨earlier, origin⟩ := first.rows cartId locked _ there own
    exact ⟨earlier, origin⟩
  ordered cartId locked entry inside own :=
    first.ordered cartId locked entry (second.ordered cartId locked entry inside own) own

/-- Fewer locks, less to rely on. -/
theorem CartsRely.mono (rely : CartsRely held before after) (fewer : ∀ row ∈ less, row ∈ held) :
    CartsRely less before after where
  carts := rely.carts
  listings := rely.listings
  orders := rely.orders
  rows cartId locked := rely.rows cartId (fewer _ locked)
  ordered cartId locked := rely.ordered cartId (fewer _ locked)

/-- A discipline for carts: an invariant, what a commit may do, and a condition on runs. -/
def cartDiscipline (invariant : Market → Prop) (guarantee : Market → Market → Prop)
    (admits : Standing → Market → Prop) : Discipline Market RowLock Note where
  invariant market := CartConstraints market.tables ∧ invariant market
  guarantee := guarantee
  rely held _ := CartsRely held
  refl held _ := .refl held
  trans := .trans
  weaken rely := rely.mono fun _ => List.mem_cons_of_mem _
  admits := admits
  apart first second := ∀ row ∈ first.held, ∀ other ∈ second.held, ¬row.conflicts other

variable {invariant : Market → Prop} {guarantee : Market → Market → Prop}
  {admits : Standing → Market → Prop}

/-! ## What the writes leave -/

/-- Listings written back as what they were, but for stock and availability, are kept. -/
theorem listingsKept_tracked {listings : List StoreProduct} (writes : after.catalogue.storeProducts =
      before.catalogue.storeProducts.map fun row => tracked StoreProduct.id row listings)
    (same : ∀ listing ∈ listings, ∀ row ∈ before.catalogue.storeProducts, row.id = listing.id →
      SameListing listing row) : ListingsKept before after := by
  intro row inside
  refine ⟨tracked StoreProduct.id row listings, ?_, ?_⟩
  · rw [writes]
    exact List.mem_map_of_mem inside
  · unfold tracked
    cases found : lookup StoreProduct.id row.id listings with
    | none => exact .refl row
    | some listing => exact same listing (lookup_mem found) row inside (lookup_col found).symm

/-- Assigning a store keeps the carts that there are. -/
theorem mem_assigned {cart : Cart} {carts : List Cart} (inside : cart ∈ carts) (cartId : UUID)
    (storeId : Option UUID) :
    ∃ now ∈ carts.map fun cart => if cart.id = cartId then { cart with storeId } else cart,
      now.id = cart.id := by
  refine ⟨_, List.mem_map_of_mem inside, ?_⟩
  split <;> rfl

namespace CheckoutRun
variable (run : CheckoutRun (cartDiscipline invariant guarantee admits) customer key draws start)

/-- What a checkout puts back on the shelf is what it took, but for the stock. -/
theorem listings_kept (later : ListingsKept run.last.tables now)
    (ids : Unique StoreProduct.id now.catalogue.storeProducts) (inside : pair ∈ run.validated) :
    ∃ row ∈ now.catalogue.storeProducts, SameListing row pair.2 ∧
      ∀ other ∈ now.catalogue.storeProducts, other.id = pair.2.id → other = row := by
  have since := (run.clearing.1.listings.trans run.ending.1.listings).trans later
  obtain ⟨row, there, same⟩ := since pair.2 (run.mem_listings inside).1
  exact ⟨row, there, same, fun other held agree => unique_eq ids held there (agree.trans same.id.symm)⟩

/-- The cart's row is held from the reading of its items to the end. -/
theorem since_read : CartsRely [(Row.cart run.cart.id).forUpdate] run.read run.last := by
  have read := run.noting.1.trans (run.listing.1.trans run.fetching.1)
  have locked := run.clearing.1.trans run.ending.1
  exact read.trans (locked.mono (by simp [listingsHeld, cartHeld]))

/-- While the cart's row is held, its rows are rows that were read. -/
theorem rows_read (inside : item ∈ run.last.tables.catalogue.cartItems)
    (own : item.cartId = run.cart.id) : ∃ quantity, { item with quantity } ∈ run.items := by
  obtain ⟨quantity, read⟩ := run.since_read.rows run.cart.id (List.mem_singleton_self _) item inside own
  exact ⟨quantity, run.mem_items.mpr ⟨read, own⟩⟩

theorem change_listings (later : ListingsKept run.last.tables now.tables)
    (kept : CartConstraints now.tables) : ListingsKept now.tables (run.change now).tables := by
  refine listingsKept_tracked (run.change_storeProducts run.reading.2.1.declared.cartRows now) ?_
  intro listing inside row there agree
  obtain ⟨pair, bought, rfl⟩ := List.mem_map.mp inside
  obtain ⟨own, -, same, sole⟩ := run.listings_kept later kept.declared.listingIds bought
  have here := sole row there agree
  exact ⟨agree.symm, here ▸ same.store.symm, here ▸ same.product.symm⟩

/-- While the cart's row is held, the delete finds every row there is. -/
theorem deletes_all (later : CartsRely run.standing.held run.last now)
    (inside : item ∈ now.tables.catalogue.cartItems) (own : item.cartId = run.cart.id) :
    foundByDelete run.rows (fun item => item.cartId = run.cart.id) item := by
  obtain ⟨first, before⟩ := later.rows run.cart.id (by simp [standing]) item inside own
  obtain ⟨second, earlier⟩ := run.ending.1.rows run.cart.id (by simp [listingsHeld]) _ before own
  have seen : { item with quantity := second } ∈ run.rows := by
    rw [run.rowsSeen]
    exact List.mem_filter.mpr ⟨earlier, decide_eq_true own⟩
  rw [foundByDelete, Bool.and_eq_true_iff, decide_eq_true_iff, decide_eq_true_iff]
  exact ⟨List.mem_map.mpr ⟨_, seen, rfl⟩, own⟩

/-- A session that holds another cart, or none, may rely on its own. -/
theorem relies (later : ListingsKept run.last.tables now.tables) (kept : CartConstraints now.tables)
    (apart : (cartDiscipline invariant guarantee admits).apart run.standing other) :
    CartsRely other.held now (run.change now) where
  carts cart inside := by
    rw [change_carts]
    exact mem_assigned inside run.cart.id none
  listings := run.change_listings later kept
  orders order inside := by
    refine ⟨order, ?_, .refl order⟩
    rw [change_orders]
    exact List.mem_append_left _ inside
  rows cartId _ item inside _ := by
    rw [change_cartItems] at inside
    exact ⟨item.quantity, (List.mem_filter.mp inside).1⟩
  ordered cartId locked entry inside own := by
    rcases List.mem_append.mp inside with there | fresh
    · exact there
    · obtain ⟨item, read, rfl⟩ := List.mem_map.mp fresh
      have mine : cartId = run.cart.id := own.symm.trans (run.mem_items.mp read).2
      subst mine
      exact absurd (RowLock.update_conflicts _ _) (apart _ (by simp [standing]) _ locked)

end CheckoutRun

namespace AdditionRun
variable (run : AdditionRun (cartDiscipline invariant guarantee admits) quantity draws start)

/-- A session that holds the cart for update keeps a new row out. -/
theorem relies (apart : (cartDiscipline invariant guarantee admits).apart run.standing other)
    (now : Market) : CartsRely other.held now (now.change run.write) where
  carts cart inside := by
    have created := run.cartRead.mem inside
    rw [Market.change_tables, write, upsert_carts, assignment_carts]
    split
    · exact ⟨cart, created, rfl⟩
    · exact mem_assigned created run.cart.id _
  listings := .of_eq (run.write_storeProducts now.tables)
  orders := by
    obtain ⟨_, _, same⟩ := run.touches now.tables
    exact .of_eq (by rw [Market.change_tables, same])
  rows cartId locked item inside own := by
    rcases mem_upsert inside with ⟨missing, rfl⟩ | before
    · have held := run.inserts missing
      subst own
      exact absurd ⟨rfl, rfl⟩ (apart _ held _ locked)
    · rwa [assignment_cartItems, run.cartRead.cartItems] at before
  ordered _ _ _ inside _ := inside

end AdditionRun

namespace RemovalRun
variable (run : RemovalRun (cartDiscipline invariant guarantee admits) draws start)

theorem relies (held : List RowLock) (now : Market) :
    CartsRely held now (now.change run.write) where
  carts cart inside := by
    have created := run.cartRead.mem inside
    rw [Market.change_tables]
    unfold write
    dsimp only
    split
    · exact mem_assigned created run.cart.id none
    · exact ⟨cart, created, rfl⟩
  listings := .of_eq (run.write_storeProducts now.tables)
  orders := by
    obtain ⟨_, _, same⟩ := run.touches now.tables
    exact .of_eq (by rw [Market.change_tables, same])
  rows cartId _ item inside _ := by
    rw [Market.change_tables, run.write_cartItems] at inside
    exact ⟨item.quantity, (List.mem_filter.mp inside).1⟩
  ordered _ _ _ inside _ := inside

end RemovalRun
end GaonOne
