import GaonOne.CartRules
import GaonOne.PaymentProgress

/-! The checkout preview. `GET /cart/quote` repeats the checks of checkout without locks and
without writing; on one and the same database the two agree on whether the order can be
placed, and on what it costs. -/
namespace GaonOne
open Relational UnitOfWork

/-! ## The preview -/

/-- `CheckoutQuoteRead`. -/
structure CheckoutQuoteRead where
  storeId : UUID
  addressId : UUID
  subtotal : Paise
  deliveryFee : Paise
  total : Paise
  serviceable : Bool
  inventoryValid : Bool
  storeOpen : Bool
  checkoutReady : Bool
  blockers : List String
  deriving DecidableEq, Repr

/-- The rows of a cart, joined with the listings they name. -/
def quotedRows (db : Tables) (cart : Cart) : List (CartItem × StoreProduct) :=
  (belonging CartItem.cartId cart.id db.catalogue.cartItems).flatMap fun item =>
    (belonging StoreProduct.id item.storeProductId db.catalogue.storeProducts).map (item, ·)

/-- What a delivery from the store to the address needs. -/
def isServiceable (env : Environment) (db : Tables) (store : Store) (address : Address) : Bool :=
  store.deliveryEnabled && store.serviceAreaId.any fun serviceAreaId =>
    (addressPoint db address).any (pointIsInServiceArea env db serviceAreaId)

/-- `blockers`. -/
def quoteBlockers (inventoryValid deliveryEnabled serviceable openNow : Bool) : List String :=
  (if inventoryValid then [] else ["Cart inventory changed; review your cart"]) ++
  (if !deliveryEnabled then ["This store does not currently support delivery"]
    else if !serviceable then ["This store does not deliver to the selected address"] else []) ++
  if openNow then [] else ["Store is currently closed"]

/-- What `cart_quote` answers about a store's rows. -/
def quoted (env : Environment) (settings : Settings) (db : Tables) (store : Store) (address : Address)
    (rows : List (CartItem × StoreProduct)) (now : Instant) : CheckoutQuoteRead :=
  let subtotal := rows.foldl (fun subtotal row => subtotal + row.2.price * row.1.quantity) 0
  let inventoryValid := rows.all fun row =>
    decide (row.2.storeId = store.id) && row.2.isAvailable && decide (row.1.quantity ≤ row.2.stockQuantity)
  let serviceable := isServiceable env db store address
  let openNow := isOpenAt store.opensAt store.closesAt now
  let deliveryFee := resolveDeliveryFee settings db store
  { storeId := store.id
    addressId := address.id
    subtotal
    deliveryFee
    total := orderTotal subtotal deliveryFee
    serviceable
    inventoryValid
    storeOpen := openNow
    checkoutReady := serviceable && inventoryValid && openNow
    blockers := quoteBlockers inventoryValid store.deliveryEnabled serviceable openNow }

/-- `GET /cart/quote`. -/
def cartQuote (env : Environment) (settings : Settings) (db : Tables) (subject addressId : UUID)
    (now : Instant) : Handler CheckoutQuoteRead := do
  let user ← getCurrentUser db subject
  let address ← found
    ((lookup Address.id addressId db.catalogue.addresses).filter fun address =>
      address.userId = user.id ∧ address.archivedAt = none)
    ⟨404, "Address not found"⟩
  let cart ← found (lookup Cart.userId user.id db.catalogue.carts) ⟨400, "Cart is empty"⟩
  let storeId ← found cart.storeId ⟨400, "Cart is empty"⟩
  let store ← found ((db.store? storeId).filter (·.isActive)) ⟨409, "Store is currently unavailable"⟩
  let merchant ← found (db.merchant? store.merchantId) ⟨409, "Store is currently unavailable"⟩
  require (merchant.status = .approved) ⟨409, "Store is currently unavailable"⟩
  let rows := quotedRows db cart
  require (rows ≠ []) ⟨400, "Cart is empty"⟩
  pure (quoted env settings db store address rows now)

theorem quoteBlockers_nil (inventoryValid deliveryEnabled reachable openNow : Bool) :
    quoteBlockers inventoryValid deliveryEnabled (deliveryEnabled && reachable) openNow = [] ↔
      ((deliveryEnabled && reachable) && inventoryValid && openNow) = true := by
  cases inventoryValid <;> cases deliveryEnabled <;> cases reachable <;> cases openNow <;>
    simp [quoteBlockers]

/-- The preview is ready exactly when it names nothing that stands in the way. -/
theorem quoted_ready (rows : List (CartItem × StoreProduct)) :
    (quoted env settings db store address rows now).blockers = [] ↔
      (quoted env settings db store address rows now).checkoutReady = true :=
  quoteBlockers_nil ..

/-! ## What both read -/

/-- A cart row that can be sold: its listing is this store's, available and in stock. -/
def Sellable (db : Tables) (storeId : UUID) (item : CartItem) : Prop :=
  ∃ listing, Validated storeId db.catalogue.storeProducts (item, listing)

/-- What a cart row costs. -/
def lineAmount (db : Tables) (item : CartItem) : Paise :=
  (lookup StoreProduct.id item.storeProductId db.catalogue.storeProducts).elim 0 fun listing =>
    listing.price * item.quantity

/-- A cart with something in it, of a store that sells. -/
structure Shopping (db : Tables) (user : User) (cart : Cart) (store : Store) : Prop where
  owned : lookup Cart.userId user.id db.catalogue.carts = some cart
  chosen : cart.storeId = some store.id
  filled : belonging CartItem.cartId cart.id db.catalogue.cartItems ≠ []
  stands : db.store? store.id = some store
  active : store.isActive = true
  approved : ∃ merchant, db.merchant? store.merchantId = some merchant ∧ merchant.status = .approved

/-- The references of carts and listings. -/
structure Listed (db : Tables) : Prop where
  items : References CartItem.storeProductId StoreProduct.id db.catalogue.cartItems
    db.catalogue.storeProducts
  listings : References StoreProduct.productId Product.id db.catalogue.storeProducts db.catalogue.products

section
variable {db : Tables} {cart : Cart} {item : CartItem} {items : List CartItem}

theorem listing_of (listed : Listed db) (constraints : db.Constraints)
    (inside : item ∈ db.catalogue.cartItems) :
    ∃ listing, lookup StoreProduct.id item.storeProductId db.catalogue.storeProducts = some listing := by
  obtain ⟨listing, there, named⟩ := listed.items item inside
  exact ⟨listing, (lookup_eq_some_iff constraints.listingIds).mpr ⟨there, named⟩⟩

/-- The join of cart rows and listings has one row for each cart row. -/
theorem joined (listed : Listed db) (constraints : db.Constraints) (items : List CartItem)
    (inside : ∀ item ∈ items, item ∈ db.catalogue.cartItems) :
    let rows := items.flatMap fun item =>
      (belonging StoreProduct.id item.storeProductId db.catalogue.storeProducts).map (item, ·)
    rows.map Prod.fst = items ∧ ∀ row ∈ rows,
      lookup StoreProduct.id row.1.storeProductId db.catalogue.storeProducts = some row.2 := by
  intro rows
  induction items with
  | nil => exact ⟨rfl, by simp [rows]⟩
  | cons item items ih =>
    obtain ⟨firsts, looked⟩ := ih fun other later => inside other (List.mem_cons_of_mem _ later)
    obtain ⟨listing, found⟩ := listing_of listed constraints (inside item List.mem_cons_self)
    have one : belonging StoreProduct.id item.storeProductId db.catalogue.storeProducts = [listing] := by
      rw [belonging_eq_toList constraints.listingIds, found, Option.toList_some]
    have split : rows = (item, listing) :: items.flatMap fun item =>
        (belonging StoreProduct.id item.storeProductId db.catalogue.storeProducts).map (item, ·) := by
      simp only [rows, List.flatMap_cons, one, List.map_cons, List.map_nil, List.singleton_append]
    rw [split]
    refine ⟨congrArg (item :: ·) firsts, fun row member => ?_⟩
    rcases List.mem_cons.mp member with rfl | later
    · exact found
    · exact looked row later

theorem quotedRows_nil (listed : Listed db) (constraints : db.Constraints)
    (empty : quotedRows db cart = []) :
    belonging CartItem.cartId cart.id db.catalogue.cartItems = [] := by
  obtain ⟨firsts, -⟩ := joined listed constraints (belonging CartItem.cartId cart.id db.catalogue.cartItems)
    fun item inside => (mem_belonging.mp inside).1
  have none_ : (quotedRows db cart).map Prod.fst = [] := congrArg (List.map Prod.fst) empty
  exact firsts.symm.trans none_

/-- What rows cost is what their cart rows cost. -/
theorem sum_lineAmount {rows : List (CartItem × StoreProduct)}
    (looked : ∀ row ∈ rows, lookup StoreProduct.id row.1.storeProductId db.catalogue.storeProducts =
      some row.2) :
    (rows.map fun row => row.2.price * row.1.quantity).sum =
      ((rows.map Prod.fst).map (lineAmount db)).sum := by
  rw [List.map_map]
  refine congrArg List.sum (List.map_congr_left fun row inside => ?_)
  simp only [Function.comp, lineAmount, looked row inside, Option.elim]

/-- The rows of a cart, in the preview's order and in checkout's. -/
theorem perm_sorted (items : List CartItem) :
    List.Perm (items.insertionSort fun left right => left.storeProductId.toNat ≤ right.storeProductId.toNat)
      items :=
  List.perm_insertionSort _ _

/-- Checkout finds as many listings as the cart has rows. -/
theorem listings_length (listed : Listed db) (constraints : db.Constraints)
    (same : List.Perm items (belonging CartItem.cartId cart.id db.catalogue.cartItems)) :
    (db.catalogue.storeProducts.filter fun listing =>
      listing.id ∈ items.map (·.storeProductId)).length = items.length := by
  have mine : ∀ item ∈ items, item ∈ db.catalogue.cartItems ∧ item.cartId = cart.id :=
    fun item inside => mem_belonging.mp (same.mem_iff.mp inside)
  have apart : (items.map (·.storeProductId)).Nodup := by
    have rows : (belonging CartItem.cartId cart.id db.catalogue.cartItems).Pairwise
        fun left right => left.storeProductId ≠ right.storeProductId := by
      have pairs := List.pairwise_map.mp constraints.cartRows
      apply (pairs.filter fun item => decide (item.cartId = cart.id)).imp_of_mem
      intro left right first second differ agree
      apply differ
      have one := (mem_belonging.mp first).2
      have two := (mem_belonging.mp second).2
      rw [one, two, agree]
    exact (same.map _).nodup_iff.mpr (List.pairwise_map.mpr rows)
  have ids : ((db.catalogue.storeProducts.filter fun listing =>
      listing.id ∈ items.map (·.storeProductId)).map StoreProduct.id).Nodup :=
    constraints.listingIds.sublist (List.filter_sublist.map _)
  have agree : List.Perm ((db.catalogue.storeProducts.filter fun listing =>
      listing.id ∈ items.map (·.storeProductId)).map StoreProduct.id) (items.map (·.storeProductId)) := by
    apply (List.perm_ext_iff_of_nodup ids apart).mpr
    intro id
    constructor
    · intro inside
      obtain ⟨listing, kept, rfl⟩ := List.mem_map.mp inside
      exact of_decide_eq_true (List.mem_filter.mp kept).2
    · intro inside
      obtain ⟨item, member, rfl⟩ := List.mem_map.mp inside
      obtain ⟨listing, there, named⟩ := listed.items item (mine item member).1
      apply List.mem_map.mpr
      exact ⟨listing, List.mem_filter.mpr ⟨there, decide_eq_true (named ▸ inside)⟩, named⟩
  simpa using agree.length_eq

/-- Looked up among the locked listings or among all. -/
theorem lookup_locked (inside : item ∈ items) :
    lookup StoreProduct.id item.storeProductId
        (db.catalogue.storeProducts.filter fun listing => listing.id ∈ items.map (·.storeProductId)) =
      lookup StoreProduct.id item.storeProductId db.catalogue.storeProducts := by
  unfold lookup
  rw [List.find?_filter]
  congr 1
  funext listing
  apply decide_eq_decide.mpr
  constructor
  · rintro ⟨-, same⟩
    exact of_decide_eq_true same
  · intro same
    have named : listing.id ∈ items.map (·.storeProductId) := same ▸ List.mem_map_of_mem inside
    exact ⟨decide_eq_true named, decide_eq_true same⟩

theorem validated_locked {pair : CartItem × StoreProduct} (inside : pair.1 ∈ items) :
    Validated storeId (db.catalogue.storeProducts.filter fun listing =>
        listing.id ∈ items.map (·.storeProductId)) pair ↔
      Validated storeId db.catalogue.storeProducts pair := by
  constructor
  · rintro ⟨listed, store, available, stocked⟩
    exact ⟨lookup_locked inside ▸ listed, store, available, stocked⟩
  · rintro ⟨listed, store, available, stocked⟩
    exact ⟨(lookup_locked inside).trans listed, store, available, stocked⟩

/-- The listings of rows that can all be sold. -/
theorem sellable_pairs (items : List CartItem) (sellable : ∀ item ∈ items, Sellable db storeId item) :
    ∃ pairs : List (CartItem × StoreProduct), pairs.map Prod.fst = items ∧
      ∀ pair ∈ pairs, Validated storeId db.catalogue.storeProducts pair := by
  induction items with
  | nil => exact ⟨[], rfl, by simp⟩
  | cons item items ih =>
    obtain ⟨listing, validated⟩ := sellable item List.mem_cons_self
    obtain ⟨pairs, firsts, all⟩ := ih fun other later => sellable other (List.mem_cons_of_mem _ later)
    refine ⟨(item, listing) :: pairs, congrArg (item :: ·) firsts, fun pair inside => ?_⟩
    rcases List.mem_cons.mp inside with rfl | later
    · exact validated
    · exact all pair later

/-- The loop over items accepts them if all can be sold, and adds up what they cost. -/
theorem validateItems_sellable :
    (∃ result, validateItems storeId
        (db.catalogue.storeProducts.filter fun listing => listing.id ∈ items.map (·.storeProductId))
        items 0 [] = .ok result) ↔ ∀ item ∈ items, Sellable db storeId item := by
  simp only [validateItems_ok]
  constructor
  · rintro ⟨-, pairs, firsts, all, -⟩ item inside
    rw [← firsts] at inside
    obtain ⟨pair, member, rfl⟩ := List.mem_map.mp inside
    have mine : pair.1 ∈ items := firsts ▸ inside
    exact ⟨pair.2, (validated_locked mine).mp (all pair member)⟩
  · intro sellable
    obtain ⟨pairs, firsts, all⟩ := sellable_pairs items sellable
    refine ⟨_, pairs, firsts, fun pair member => ?_, rfl⟩
    have mine : pair.1 ∈ items := firsts ▸ List.mem_map_of_mem member
    exact (validated_locked mine).mpr (all pair member)

theorem validateItems_amount
    (ran : validateItems storeId
      (db.catalogue.storeProducts.filter fun listing => listing.id ∈ items.map (·.storeProductId))
      items 0 [] = .ok (subtotal, validated)) :
    subtotal = (items.map (lineAmount db)).sum ∧ validated.map Prod.fst = items ∧
      ∀ pair ∈ validated, Validated storeId db.catalogue.storeProducts pair := by
  obtain ⟨pairs, firsts, all, same⟩ := validateItems_ok.mp ran
  obtain ⟨rfl, rfl⟩ := Prod.mk.inj same
  have sold : ∀ pair ∈ validated, Validated storeId db.catalogue.storeProducts pair := by
    intro pair member
    have mine : pair.1 ∈ items := firsts ▸ List.mem_map_of_mem member
    exact (validated_locked mine).mp (all pair member)
  refine ⟨?_, firsts, sold⟩
  rw [zero_add, sum_lineAmount fun pair member => (sold pair member).listed, firsts]

/-! ## What the preview says -/

/-- The preview's verdict on the shelf, and its subtotal, by cart row. -/
theorem quoted_rows (listed : Listed db) (constraints : db.Constraints) (env : Environment)
    (settings : Settings) (store : Store) (address : Address) (cart : Cart) (now : Instant) :
    let quote := quoted env settings db store address (quotedRows db cart) now
    let items := belonging CartItem.cartId cart.id db.catalogue.cartItems
    (quote.inventoryValid = true ↔ ∀ item ∈ items, Sellable db store.id item) ∧
      quote.subtotal = (items.map (lineAmount db)).sum := by
  intro quote items
  obtain ⟨firsts, looked⟩ := joined listed constraints items
    fun item inside => (mem_belonging.mp inside).1
  constructor
  · simp only [quote, quoted, List.all_eq_true, Bool.and_eq_true, decide_eq_true_eq]
    constructor
    · intro all item inside
      rw [← firsts] at inside
      obtain ⟨row, member, rfl⟩ := List.mem_map.mp inside
      obtain ⟨⟨store, available⟩, stocked⟩ := all row member
      exact ⟨row.2, looked row member, store, available, stocked⟩
    · intro sellable row member
      have mine : row.1 ∈ items := firsts ▸ List.mem_map_of_mem member
      obtain ⟨listing, found, store, available, stocked⟩ := sellable row.1 mine
      have same : listing = row.2 := Option.some.inj (found.symm.trans (looked row member))
      rw [← same]
      exact ⟨⟨store, available⟩, stocked⟩
  · have total := sum_lineAmount looked
    rw [firsts] at total
    rw [← total, List.sum_eq_foldl, List.foldl_map]
    rfl

/-! ## What checkout needs -/

/-- A new order breaks no constraint if its key, its number and its idempotency key are new. -/
theorem addOrder_constraints {order : Order} (constraints : db.Constraints)
    (fresh : lookup Order.id order.id db.orders = none)
    (numbered : ∀ old ∈ db.orders, old.orderNumber ≠ order.orderNumber)
    (unkeyed : ∀ key, order.idempotencyKey = some key → ∀ old ∈ db.orders, old.userId = order.userId →
      old.idempotencyKey ≠ some key) :
    (db.addOrder order).Constraints := by
  have grown : ∀ {ρ : Type} {col : ρ → UUID} {rows : List ρ}, References col Order.id rows db.orders →
      References col Order.id rows (db.orders ++ [order]) := by
    intro ρ col rows held row inside
    obtain ⟨parent, there, named⟩ := held row inside
    exact ⟨parent, List.mem_append_left _ there, named⟩
  exact { constraints with
    orderIds := unique_append.mpr ⟨constraints.orderIds, lookup_eq_none_iff.mp fresh⟩
    orderNumbers := unique_append.mpr ⟨constraints.orderNumbers, numbered⟩
    orderKeys := by
      apply uniqueWhenSet_append.mpr
      refine ⟨constraints.orderKeys, fun value keyed old inside same => ?_⟩
      obtain ⟨key, carried, rfl⟩ := Option.map_eq_some_iff.mp keyed
      obtain ⟨other, held, agree⟩ := Option.map_eq_some_iff.mp same
      obtain ⟨owner, rfl⟩ := Prod.mk.inj agree
      exact unkeyed other carried old inside owner held
    deliveryParents := grown constraints.deliveryParents
    attemptParents := grown constraints.attemptParents
    refundParents := grown constraints.refundParents
    settlementParents := grown constraints.settlementParents }

/-- Every listing sold has a product, so every line is recorded. -/
theorem recordItems_runs {db : DbSession} (order : Order) (itemId : Nat → UUID)
    (validated : List (CartItem × StoreProduct))
    (named : ∀ pair ∈ validated, ∃ product,
      lookup Product.id pair.2.productId db.flushed.catalogue.products = some product) :
    ∃ result, recordItems order itemId validated db = .ok result := by
  induction validated generalizing db with
  | nil => exact ⟨db, rfl⟩
  | cons pair validated ih =>
    obtain ⟨product, found⟩ := named pair List.mem_cons_self
    simp only [recordItems, found_bind_ok]
    obtain ⟨result, recorded⟩ := @ih (db.write _)
      fun other later => named other (List.mem_cons_of_mem _ later)
    exact ⟨result, product, found, recorded⟩

/-- Sales change the stock of listings and nothing that a constraint is about. -/
theorem recordItems_constraints {db result : DbSession} {order : Order} {itemId : Nat → UUID}
    {validated : List (CartItem × StoreProduct)} (constraints : db.pending.Constraints)
    (held : ∀ pair ∈ validated, ∀ row ∈ db.pending.catalogue.storeProducts, row.id = pair.2.id →
      (row.storeId, row.productId) = (pair.2.storeId, pair.2.productId))
    (ran : recordItems order itemId validated db = .ok result) :
    result.pending.Constraints ∧ result.pending.orders = db.pending.orders ∧
      result.pending.deliveries = db.pending.deliveries ∧
      result.pending.catalogue.carts = db.pending.catalogue.carts := by
  induction validated generalizing db with
  | nil =>
    simp only [recordItems, pure_ok] at ran
    subst ran
    exact ⟨constraints, rfl, rfl, rfl⟩
  | cons pair validated ih =>
    obtain ⟨item, listing⟩ := pair
    simp only [recordItems, found_bind_ok] at ran
    obtain ⟨product, -, ran⟩ := ran
    have own := held (item, listing) List.mem_cons_self
    have kept : ∀ row ∈ put StoreProduct.id (debitListing listing item.quantity)
        db.pending.catalogue.storeProducts, ∃ old ∈ db.pending.catalogue.storeProducts,
          old.id = row.id ∧ (old.storeId, old.productId) = (row.storeId, row.productId) := by
      intro row inside
      rcases mem_put.mp inside with ⟨rfl, old, there, same⟩ | ⟨there, -⟩
      · exact ⟨old, there, same, own old there same⟩
      · exact ⟨row, there, rfl, rfl⟩
    have onwards := fun first second => ih first second ran
    refine onwards ?_ ?_
    · exact { constraints with
        listingIds := unique_put (fun _ _ same => same) constraints.listingIds
        listingProducts := unique_put own constraints.listingProducts }
    · intro other later row inside same
      obtain ⟨old, there, ids, faces⟩ := kept row inside
      exact faces.symm.trans (held other (List.mem_cons_of_mem _ later) old there (ids.trans same))

/-- Delivery and cart: what is left to do once the lines are recorded. -/
theorem checkedOut_constraints {cart : Cart} {delivery : Delivery} (constraints : db.Constraints)
    (carted : cart ∈ db.catalogue.carts)
    (drawn : lookup Delivery.id delivery.id db.deliveries = none)
    (placed : ∃ order ∈ db.orders, order.id = delivery.orderId)
    (undelivered : ∀ old ∈ db.deliveries, old.orderId ≠ delivery.orderId) :
    (emptyCart cart (db.addDelivery delivery)).Constraints := by
  have rows : ∀ {κ : Type} [DecidableEq κ] {col : CartItem → κ}, Relational.Unique col db.catalogue.cartItems →
      Relational.Unique col (db.catalogue.cartItems.filter fun item => item.cartId ≠ cart.id) :=
    fun unique => unique.sublist (List.filter_sublist.map _)
  have owner : ∀ old ∈ db.catalogue.carts, old.id = cart.id → old.userId = cart.userId := by
    intro old inside same
    rw [unique_eq constraints.cartIds inside carted same]
  exact { constraints with
    deliveryIds := unique_append.mpr ⟨constraints.deliveryIds, lookup_eq_none_iff.mp drawn⟩
    deliveryOrders := unique_append.mpr ⟨constraints.deliveryOrders, undelivered⟩
    deliveryParents := references_append placed constraints.deliveryParents
    proofParents := by
      intro proof inside
      obtain ⟨parent, there, named⟩ := constraints.proofParents proof inside
      exact ⟨parent, List.mem_append_left _ there, named⟩
    cartIds := unique_put (fun _ _ same => same) constraints.cartIds
    cartOwners := unique_put owner constraints.cartOwners
    cartItemIds := rows constraints.cartItemIds
    cartRows := rows constraints.cartRows }

end

/-- The amounts of a preview fit the columns they go to. -/
def CheckoutQuoteRead.Fits (quote : CheckoutQuoteRead) : Prop :=
  fitsNumeric quote.subtotal ∧ fitsNumeric quote.deliveryFee ∧ fitsNumeric quote.total

instance (quote : CheckoutQuoteRead) : Decidable quote.Fits := inferInstanceAs (Decidable (_ ∧ _ ∧ _))

/-- The order a preview announces. -/
structure Announces (quote : CheckoutQuoteRead) (order : Order) : Prop where
  storeId : order.storeId = quote.storeId
  addressId : order.addressId = quote.addressId
  subtotal : order.subtotal = quote.subtotal
  deliveryFee : order.deliveryFee = quote.deliveryFee
  total : order.total = quote.total

section
variable {db : Tables} {env : Environment} {settings : Settings} {user : User} {address : Address}
  {payload : CheckoutRequest} {key : Option String} {number : String} {draws : Draws}

/-- The store delivers to the address and is open, and the rows can be sold. -/
theorem quoted_checkoutReady (listed : Listed db) (constraints : db.Constraints) (env : Environment)
    (settings : Settings) (store : Store) (address : Address) (cart : Cart) (now : Instant) :
    (quoted env settings db store address (quotedRows db cart) now).checkoutReady = true ↔
      isServiceable env db store address = true ∧
        (∀ item ∈ belonging CartItem.cartId cart.id db.catalogue.cartItems, Sellable db store.id item) ∧
        isOpenAt store.opensAt store.closesAt now = true := by
  rw [← (quoted_rows listed constraints env settings store address cart now).1]
  simp only [quoted, Bool.and_eq_true, and_assoc]

theorem isServiceable_iff {store : Store} :
    isServiceable env db store address = true ↔ store.deliveryEnabled = true ∧
      ∃ serviceAreaId, store.serviceAreaId = some serviceAreaId ∧
        ∃ place, addressPoint db address = some place ∧
          pointIsInServiceArea env db serviceAreaId place = true := by
  simp only [isServiceable, Bool.and_eq_true, Option.any_eq_true]

/-- An order that is placed is the one the preview announces. -/
theorem placeOrder_announced (listed : Listed db) (constraints : db.Constraints) (drawn : draws.Fresh db)
    (ran : placeOrder env settings (Session.start db) user payload address key number draws =
      .ok (result, order)) :
    ∃ cart store, Shopping db user cart store ∧
      (quoted env settings db store address (quotedRows db cart) draws.now).checkoutReady = true ∧
      (quoted env settings db store address (quotedRows db cart) draws.now).Fits ∧
      Announces (quoted env settings db store address (quotedRows db cart) draws.now) order ∧
      result.pending.Constraints := by
  simp only [placeOrder, found_bind_ok, require_bind_ok] at ran
  obtain ⟨cart, owned, storeId, chosen, filled, store, stands, merchant, employs, approved, delivers,
    isOpen, serviceAreaId, area, place, located, within, -, ran⟩ := ran
  rw [bind_ok] at ran
  obtain ⟨⟨subtotal, validated⟩, validating, ran⟩ := ran
  simp only [require_bind_ok, flushRows_bind_ok] at ran
  obtain ⟨fits, inserted, ran⟩ := ran
  rw [bind_ok] at ran
  obtain ⟨recorded, recording, ran⟩ := ran
  simp only [pure_ok, Prod.mk.injEq] at ran
  obtain ⟨rfl, rfl⟩ := ran
  obtain ⟨stands, active⟩ := Option.filter_eq_some_iff.mp stands
  have own : store.id = storeId := lookup_col stands
  subst own
  obtain ⟨amount, firsts, sold⟩ := validateItems_amount validating
  have sorted := perm_sorted (belonging CartItem.cartId cart.id db.catalogue.cartItems)
  have nonempty : belonging CartItem.cartId cart.id db.catalogue.cartItems ≠ [] := by
    intro empty
    apply filled
    exact List.perm_nil.mp (empty ▸ sorted)
  have sellable := validateItems_sellable.mp ⟨_, validating⟩
  have ready := (quoted_checkoutReady listed constraints env settings store address cart draws.now).mpr
    ⟨isServiceable_iff.mpr ⟨delivers, serviceAreaId, area, place, located, within⟩,
      fun item inside => sellable item (sorted.mem_iff.mpr inside), isOpen⟩
  have same : subtotal =
      (quoted env settings db store address (quotedRows db cart) draws.now).subtotal := by
    rw [(quoted_rows listed constraints ..).2, amount]
    exact (sorted.map _).sum_eq
  have shopping : Shopping db user cart store :=
    ⟨owned, chosen, nonempty, stands, active, merchant, employs, approved⟩
  subst same
  refine ⟨cart, store, shopping, ready, fits, ⟨rfl, rfl, rfl, rfl, rfl⟩, ?_⟩
  have recordedFrom := fun entered held => recordItems_constraints entered held recording
  obtain ⟨kept, orders, deliveries, carts⟩ := recordedFrom inserted fun pair member row inside agree => by
    rw [unique_eq constraints.listingIds inside (lookup_mem (sold pair member).listed) agree]
  have undelivered : ∀ old ∈ db.deliveries, old.orderId ≠ draws.orderId := by
    intro old inside agree
    obtain ⟨parent, there, named⟩ := constraints.deliveryParents old inside
    exact lookup_eq_none_iff.mp drawn.order parent there (named.trans agree)
  apply checkedOut_constraints kept
  · rw [carts]
    exact lookup_mem owned
  · rw [deliveries]
    exact drawn.delivery
  · rw [orders]
    exact ⟨_, List.mem_append_right _ List.mem_cons_self, rfl⟩
  · rw [deliveries]
    exact undelivered

/-- Whatever the preview calls ready can be placed, if its amounts fit. -/
theorem placeOrder_ready (listed : Listed db) (constraints : db.Constraints) (drawn : draws.Fresh db)
    (numbered : ∀ old ∈ db.orders, old.orderNumber ≠ number)
    (unkeyed : ∀ held, key = some held → ∀ old ∈ db.orders, old.userId = user.id →
      old.idempotencyKey ≠ some held)
    (shopping : Shopping db user cart store)
    (ready : (quoted env settings db store address (quotedRows db cart) draws.now).checkoutReady = true)
    (fits : (quoted env settings db store address (quotedRows db cart) draws.now).Fits) :
    ∃ result, placeOrder env settings (Session.start db) user payload address key number draws =
      .ok result := by
  obtain ⟨serviceable, sellable, isOpen⟩ := (quoted_checkoutReady listed constraints ..).mp ready
  obtain ⟨delivers, serviceAreaId, area, place, located, within⟩ := isServiceable_iff.mp serviceable
  obtain ⟨merchant, employs, approved⟩ := shopping.approved
  have sorted := perm_sorted (belonging CartItem.cartId cart.id db.catalogue.cartItems)
  have nonempty : (belonging CartItem.cartId cart.id db.catalogue.cartItems).insertionSort
      (fun left right => left.storeProductId.toNat ≤ right.storeProductId.toNat) ≠ [] := by
    intro empty
    exact shopping.filled (List.nil_perm.mp (empty ▸ sorted))
  have selling : ∀ item ∈ (belonging CartItem.cartId cart.id db.catalogue.cartItems).insertionSort
      (fun left right => left.storeProductId.toNat ≤ right.storeProductId.toNat),
      Sellable db store.id item := fun item inside => sellable item (sorted.mem_iff.mp inside)
  obtain ⟨⟨subtotal, validated⟩, validating⟩ := validateItems_sellable.mpr selling
  obtain ⟨amount, firsts, sold⟩ := validateItems_amount validating
  have same : subtotal =
      (quoted env settings db store address (quotedRows db cart) draws.now).subtotal := by
    rw [(quoted_rows listed constraints ..).2, amount]
    exact (sorted.map _).sum_eq
  let order := placedOrder user store.id address.id number key payload.paymentMethod subtotal
    (resolveDeliveryFee settings db store) draws
  have inserted : (db.addOrder order).Constraints :=
    addOrder_constraints constraints drawn.order numbered unkeyed
  have named : ∀ pair ∈ validated, ∃ product,
      lookup Product.id pair.2.productId db.catalogue.products = some product := by
    intro pair member
    obtain ⟨parent, there, agree⟩ := listed.listings pair.2 (lookup_mem (sold pair member).listed)
    cases missing : lookup Product.id pair.2.productId db.catalogue.products with
    | none => exact absurd agree (lookup_eq_none_iff.mp missing parent there)
    | some product => exact ⟨product, rfl⟩
  let entered := ((Session.start db).write (·.addOrder order)).flush
  obtain ⟨recorded, recording⟩ := @recordItems_runs entered order draws.itemId validated named
  refine ⟨((recorded.write (·.addDelivery (newDelivery order.id draws))).execute (emptyCart cart), order),
    ?_⟩
  simp only [placeOrder, found_bind_ok, require_bind_ok]
  refine ⟨cart, shopping.owned, store.id, shopping.chosen, nonempty, store,
    Option.filter_eq_some_iff.mpr ⟨shopping.stands, shopping.active⟩, merchant, employs, approved, delivers,
    isOpen, serviceAreaId, area, place, located, within,
    listings_length listed constraints sorted, ?_⟩
  rw [bind_ok]
  refine ⟨(subtotal, validated), validating, ?_⟩
  subst same
  simp only [require_bind_ok, flushRows_bind_ok]
  refine ⟨fits, inserted, ?_⟩
  rw [bind_ok]
  exact ⟨recorded, recording, rfl⟩

/-- The loop over items of a cart whose listings exist refuses them as changed. -/
theorem validateItems_refused {items : List CartItem} {listings : List StoreProduct}
    (there : ∀ item ∈ items, ∃ listing, lookup StoreProduct.id item.storeProductId listings = some listing)
    (ran : validateItems storeId listings items subtotal before = .error error) : error.status = 409 := by
  induction items generalizing subtotal before with
  | nil => cases ran
  | cons item items ih =>
    obtain ⟨listing, found⟩ := there item List.mem_cons_self
    simp only [validateItems, found_bind_error, require_bind_error] at ran
    rcases ran with ⟨missing, -⟩ | ⟨_, -, ⟨-, rfl⟩ | ⟨-, ⟨-, rfl⟩ | ⟨-, rest⟩⟩⟩
    · rw [found] at missing
      cases missing
    · rfl
    · rfl
    · exact ih (fun other later => there other (List.mem_cons_of_mem _ later)) rest

/-- Where the preview is not ready, checkout answers with a conflict. -/
theorem placeOrder_refused (listed : Listed db) (constraints : db.Constraints)
    (shopping : Shopping db user cart store)
    (blocked : (quoted env settings db store address (quotedRows db cart) draws.now).checkoutReady ≠ true)
    (ran : placeOrder env settings (Session.start db) user payload address key number draws =
      .error error) : error.status = 409 := by
  obtain ⟨merchant, employs, approved⟩ := shopping.approved
  have sorted := perm_sorted (belonging CartItem.cartId cart.id db.catalogue.cartItems)
  simp only [placeOrder, found_bind_error, require_bind_error] at ran
  rcases ran with ⟨missing, -⟩ | ⟨other, owned, ran⟩
  · rw [shopping.owned] at missing
    cases missing
  obtain rfl : cart = other := Option.some.inj (shopping.owned.symm.trans owned)
  rcases ran with ⟨missing, -⟩ | ⟨storeId, chosen, ran⟩
  · rw [shopping.chosen] at missing
    cases missing
  obtain rfl : store.id = storeId := Option.some.inj (shopping.chosen.symm.trans chosen)
  rcases ran with ⟨empty, -⟩ | ⟨-, ran⟩
  · refine absurd ?_ shopping.filled
    exact List.nil_perm.mp ((Classical.not_not.mp empty) ▸ sorted)
  rcases ran with ⟨-, rfl⟩ | ⟨other, stands, ran⟩
  · rfl
  obtain rfl : store = other :=
    Option.some.inj (shopping.stands.symm.trans (Option.filter_eq_some_iff.mp stands).1)
  rcases ran with ⟨-, rfl⟩ | ⟨_, -, ⟨-, rfl⟩ | ⟨-, ⟨-, rfl⟩ | ⟨delivers, ran⟩⟩⟩
  · rfl
  · rfl
  · rfl
  rcases ran with ⟨-, rfl⟩ | ⟨isOpen, ran⟩
  · rfl
  rcases ran with ⟨-, rfl⟩ | ⟨serviceAreaId, area, ⟨-, rfl⟩ | ⟨place, located, ⟨-, rfl⟩ | ⟨within, ran⟩⟩⟩
  · rfl
  · rfl
  · rfl
  rcases ran with ⟨-, rfl⟩ | ⟨-, ran⟩
  · rfl
  rcases (bind_error ..).mp ran with refused | ⟨⟨subtotal, validated⟩, validating, -⟩
  · refine validateItems_refused (fun item inside => ?_) refused
    obtain ⟨there, -⟩ := mem_belonging.mp (sorted.mem_iff.mp inside)
    obtain ⟨listing, found⟩ := listing_of listed constraints there
    exact ⟨listing, (lookup_locked inside).trans found⟩
  · -- every check has passed, so the preview would be ready
    refine absurd ?_ blocked
    apply (quoted_checkoutReady listed constraints ..).mpr
    have sellable := validateItems_sellable.mp ⟨_, validating⟩
    exact ⟨isServiceable_iff.mpr ⟨delivers, serviceAreaId, area, place, located, within⟩,
      fun item inside => sellable item (sorted.mem_iff.mpr inside), isOpen⟩

end

/-! ## The two endpoints -/

/-- A checkout that is not a repetition: its draws and its order number are new, and so is its
`Idempotency-Key`, if it has one. -/
structure NewCheckout (db : Tables) (subject : UUID) (header : Option String) (number : String)
    (draws : Draws) : Prop where
  drawn : draws.Fresh db
  numbered : ∀ old ∈ db.orders, old.orderNumber ≠ number
  keyed : ∀ held ∈ header.map Text.strip, held ≠ "" ∧ held.length ≤ 128
  unkeyed : ∀ held ∈ header.map Text.strip, ∀ old ∈ db.orders, old.userId = subject →
    old.idempotencyKey ≠ some held

/-- The address of an active user that an order may go to. -/
def Addressed (db : Tables) (subject addressId : UUID) (user : User) (address : Address) : Prop :=
  (db.user? subject = some user ∧ user.isActive = true) ∧
    (lookup Address.id addressId db.catalogue.addresses).filter (fun address =>
      address.userId = user.id ∧ address.archivedAt = none) = some address

section
variable {db : Tables} {env : Environment} {settings : Settings} {subject : UUID}
  {payload : CheckoutRequest} {header : Option String} {number : String} {draws : Draws}

theorem NewCheckout.unused (new : NewCheckout db subject header number draws) :
    existingIdempotentOrder db subject (header.map Text.strip) = none := by
  unfold existingIdempotentOrder
  cases key : header.map Text.strip with
  | none => rfl
  | some held =>
    have filled : configured (some held) = some held := by
      simp [configured, Option.filter, (new.keyed held key).1]
    rw [filled, Option.bind_some, List.find?_eq_none]
    intro old inside same
    obtain ⟨owner, agree⟩ := of_decide_eq_true same
    exact new.unkeyed held key old inside owner agree

/-- A new checkout goes on to its address, and then to its order. -/
theorem safeCheckout_new (new : NewCheckout db subject header number draws)
    (found_ : db.user? subject = some user) (active : user.isActive = true) :
    safeCheckout env settings (Session.start db) subject payload header number draws =
      (found ((lookup Address.id payload.addressId db.catalogue.addresses).filter fun address =>
          address.userId = user.id ∧ address.archivedAt = none)
        ⟨404, "Address not found"⟩ >>= fun address =>
        placeOrder env settings (Session.start db) user payload address (header.map Text.strip) number
          draws) := by
  have own : user.id = subject := lookup_col found_
  have current : getCurrentUser (Session.start db).flushed subject = .ok user := by
    simp [getCurrentUser, found_, active, Option.filter]
  have keyed : require (∀ held ∈ header.map Text.strip, held ≠ "" ∧ held.length ≤ 128)
      (⟨400, "Idempotency-Key must contain 1 to 128 characters"⟩ : HTTPException) = .ok () :=
    (require_ok ..).mpr new.keyed
  have unused := new.unused
  rw [← own] at unused
  unfold safeCheckout
  rw [current]
  change (require _ _ >>= _) = _
  rw [keyed]
  dsimp only [bind, Except.bind]
  split
  · next existing repeated =>
    cases repeated.symm.trans unused
  · rfl

theorem safeCheckout_places (new : NewCheckout db subject header number draws)
    (addressed : Addressed db subject payload.addressId user address) :
    safeCheckout env settings (Session.start db) subject payload header number draws =
      placeOrder env settings (Session.start db) user payload address (header.map Text.strip) number
        draws := by
  obtain ⟨⟨found_, active⟩, located⟩ := addressed
  rw [safeCheckout_new new found_ active, (found_ok ..).mpr located]
  rfl

/-- What the preview answers, and when it does. -/
theorem cartQuote_ok (listed : Listed db) (constraints : db.Constraints) :
    cartQuote env settings db subject addressId now = .ok quote ↔
      ∃ user address cart store, Addressed db subject addressId user address ∧
        Shopping db user cart store ∧ quote = quoted env settings db store address (quotedRows db cart) now := by
  simp only [cartQuote, getCurrentUser_bind_ok, found_bind_ok, require_bind_ok, pure_ok]
  constructor
  · rintro ⟨user, current, address, located, cart, owned, storeId, chosen, store, stands, merchant, employs,
      approved, filled, rfl⟩
    obtain ⟨stands, active⟩ := Option.filter_eq_some_iff.mp stands
    obtain rfl : store.id = storeId := lookup_col stands
    refine ⟨user, address, cart, store, ⟨current, located⟩, ⟨owned, chosen, fun empty => filled ?_, stands,
      active, merchant, employs, approved⟩, rfl⟩
    rw [quotedRows, empty, List.flatMap_nil]
  · rintro ⟨user, address, cart, store, ⟨current, located⟩, shopping, rfl⟩
    obtain ⟨merchant, employs, approved⟩ := shopping.approved
    refine ⟨user, current, address, located, cart, shopping.owned, store.id, shopping.chosen, store,
      Option.filter_eq_some_iff.mpr ⟨shopping.stands, shopping.active⟩, merchant, employs, approved,
      fun empty => shopping.filled ?_, rfl⟩
    exact quotedRows_nil listed constraints empty

/-- Where the preview raises, checkout raises the same, unless it finds the cart empty first. -/
theorem checkout_raises (listed : Listed db) (constraints : db.Constraints)
    (new : NewCheckout db subject header number draws)
    (ran : cartQuote env settings db subject payload.addressId draws.now = .error error) :
    safeCheckout env settings (Session.start db) subject payload header number draws = .error error ∨
      safeCheckout env settings (Session.start db) subject payload header number draws =
        .error ⟨400, "Cart is empty"⟩ := by
  unfold cartQuote at ran
  rcases (bind_error ..).mp ran with refused | ⟨user, current, ran⟩
  · exact .inl ((bind_error ..).mpr (.inl refused))
  obtain ⟨user, ⟨found_, active⟩, same⟩ :=
    (getCurrentUser_bind_ok db subject pure user).mp (by rw [current]; rfl)
  obtain rfl := (pure_ok ..).mp same
  rw [safeCheckout_new new found_ active]
  simp only [found_bind_error, require_bind_error] at ran ⊢
  rcases ran with refused | ⟨address, located, ran⟩
  · exact .inl (.inl refused)
  suffices placed : placeOrder env settings (Session.start db) user payload address (header.map Text.strip)
      number draws = .error error ∨
      placeOrder env settings (Session.start db) user payload address (header.map Text.strip) number draws =
        .error ⟨400, "Cart is empty"⟩ from
    placed.imp (fun same => .inr ⟨address, located, same⟩) fun same => .inr ⟨address, located, same⟩
  simp only [placeOrder, found_bind_error, require_bind_error]
  rcases ran with refused | ⟨cart, owned, refused | ⟨storeId, chosen, ran⟩⟩
  · exact .inl (.inl refused)
  · exact .inl (.inr ⟨cart, owned, .inl refused⟩)
  -- checkout asks for items before it asks for the store
  by_cases filled : (belonging CartItem.cartId cart.id db.catalogue.cartItems).insertionSort
      (fun left right => left.storeProductId.toNat ≤ right.storeProductId.toNat) ≠ []
  · refine .inl (.inr ⟨cart, owned, .inr ⟨storeId, chosen, .inr ⟨filled, ?_⟩⟩⟩)
    rcases ran with refused | ⟨store, stands, refused | ⟨merchant, employs, refused | ⟨approved, ran⟩⟩⟩
    · exact .inl refused
    · exact .inr ⟨store, stands, .inl refused⟩
    · exact .inr ⟨store, stands, .inr ⟨merchant, employs, .inl refused⟩⟩
    · rcases ran with ⟨empty, -⟩ | ⟨-, answers⟩
      · refine absurd ?_ filled
        have none_ := quotedRows_nil listed constraints (Classical.not_not.mp empty)
        rw [none_]
        rfl
      · cases answers
  · exact .inr (.inr ⟨cart, owned, .inr ⟨storeId, chosen, .inl ⟨filled, trivial⟩⟩⟩)

/-- On one and the same database, the preview and a new checkout agree. Checkout goes through
exactly when the preview is ready and its amounts fit their columns; the order is then the one
announced, and commits. Where something stands in the way, checkout answers with a conflict;
where the preview itself is refused, so is checkout. -/
theorem quote_decides_checkout (env : Environment) (settings : Settings) (payload : CheckoutRequest)
    (listed : Listed db) (constraints : db.Constraints)
    (new : NewCheckout db subject header number draws) :
    ((∃ placed, safeCheckout env settings (Session.start db) subject payload header number draws =
        .ok placed) ↔
      ∃ quote, cartQuote env settings db subject payload.addressId draws.now = .ok quote ∧
        quote.blockers = [] ∧ quote.Fits) ∧
    (∀ result order,
      safeCheckout env settings (Session.start db) subject payload header number draws =
        .ok (result, order) →
      ∃ quote, cartQuote env settings db subject payload.addressId draws.now = .ok quote ∧
        Announces quote order ∧ result.pending.Constraints) ∧
    (∀ quote, cartQuote env settings db subject payload.addressId draws.now = .ok quote →
      quote.blockers ≠ [] →
      ∃ detail, safeCheckout env settings (Session.start db) subject payload header number draws =
        .error ⟨409, detail⟩) ∧
    ∀ error, cartQuote env settings db subject payload.addressId draws.now = .error error →
      safeCheckout env settings (Session.start db) subject payload header number draws = .error error ∨
        safeCheckout env settings (Session.start db) subject payload header number draws =
          .error ⟨400, "Cart is empty"⟩ := by
  have places : ∀ placed : DbSession × Order,
      safeCheckout env settings (Session.start db) subject payload header number draws = .ok placed →
      ∃ quote, cartQuote env settings db subject payload.addressId draws.now = .ok quote ∧
        quote.checkoutReady = true ∧ quote.Fits ∧ Announces quote placed.2 ∧
        placed.1.pending.Constraints := by
    intro placed ran
    have asked := ran
    simp only [safeCheckout, getCurrentUser_bind_ok, require_bind_ok] at asked
    obtain ⟨user, ⟨found_, active⟩, -, -⟩ := asked
    rw [safeCheckout_new new found_ active, found_bind_ok] at ran
    obtain ⟨address, located, ran⟩ := ran
    obtain ⟨cart, store, shopping, ready, fits, announced, commits⟩ :=
      placeOrder_announced listed constraints new.drawn ran
    refine ⟨_, (cartQuote_ok listed constraints).mpr ?_, ready, fits, announced, commits⟩
    exact ⟨user, address, cart, store, ⟨⟨found_, active⟩, located⟩, shopping, rfl⟩
  refine ⟨⟨?_, ?_⟩, ?_, ?_, ?_⟩
  · rintro ⟨placed, ran⟩
    obtain ⟨quote, answered, ready, fits, -⟩ := places placed ran
    refine ⟨quote, answered, ?_, fits⟩
    obtain ⟨user, address, cart, store, -, -, rfl⟩ := (cartQuote_ok listed constraints).mp answered
    exact (quoted_ready _).mpr ready
  · rintro ⟨quote, answered, clear, fits⟩
    obtain ⟨user, address, cart, store, addressed, shopping, rfl⟩ :=
      (cartQuote_ok listed constraints).mp answered
    rw [safeCheckout_places new addressed]
    refine placeOrder_ready listed constraints new.drawn new.numbered ?_ shopping
      ((quoted_ready _).mp clear) fits
    intro held keyed old inside owner
    exact new.unkeyed held keyed old inside (owner.trans (lookup_col addressed.1.1))
  · intro result order ran
    obtain ⟨quote, answered, -, -, announced, commits⟩ := places (result, order) ran
    exact ⟨quote, answered, announced, commits⟩
  · intro quote answered blocked
    obtain ⟨user, address, cart, store, addressed, shopping, rfl⟩ :=
      (cartQuote_ok listed constraints).mp answered
    rw [safeCheckout_places new addressed]
    have unready := fun ready => blocked ((quoted_ready _).mpr ready)
    cases ran : placeOrder env settings (Session.start db) user payload address (header.map Text.strip)
        number draws with
    | ok placed =>
      have again := (safeCheckout_places new addressed).trans ran
      obtain ⟨other, answers, ready, -⟩ := places placed again
      cases answered.symm.trans answers
      exact absurd ready unready
    | error error =>
      have conflict := placeOrder_refused listed constraints shopping unready ran
      exact ⟨error.detail, congrArg Except.error (by rw [← conflict])⟩
  · exact fun error ran => checkout_raises listed constraints new ran

end

/-- Two packets of rice for the customer's own village, at 20 to be delivered. -/
theorem quote_decides_checkout_rice :
    ∃ quote, cartQuote sampleEnvironment sampleSettings { catalogue := sampleCatalogue } 1 1 1000 = .ok quote ∧
      quote.blockers = [] ∧ quote.Fits := by
  have listed : Listed { catalogue := sampleCatalogue } := ⟨by decide, by decide⟩
  have new : NewCheckout { catalogue := sampleCatalogue } 1 none "GO-1" (sampleDraws 1) :=
    ⟨by decide, by decide, by simp, by simp⟩
  have placed : (safeCheckout sampleEnvironment sampleSettings (Session.start { catalogue := sampleCatalogue })
      1 ⟨1, .cod⟩ none "GO-1" (sampleDraws 1)).toOption.isSome = true := by
    decide +kernel
  cases ran : safeCheckout sampleEnvironment sampleSettings (Session.start { catalogue := sampleCatalogue })
      1 ⟨1, .cod⟩ none "GO-1" (sampleDraws 1) with
  | error refused =>
    rw [ran] at placed
    cases placed
  | ok result =>
    exact (quote_decides_checkout sampleEnvironment sampleSettings ⟨1, .cod⟩ listed (by decide +kernel)
      new).1.mp ⟨result, ran⟩

end GaonOne
