import GaonOne.CartQuotes
import GaonOne.Library.Queries

/-! Buying an order again. The preview tells what of the order can be had today and what it would
cost; a cart filled with what it offers is quoted at that price, and its shelf is in order. -/
namespace GaonOne
open Relational UnitOfWork

/-- `ReorderItemRead`. -/
structure ReorderItemRead where
  productId : UUID
  productName : String
  requestedQuantity : Int
  availableQuantity : Int
  listingId : Option UUID
  previousUnitPrice : Paise
  currentUnitPrice : Option Paise
  available : Bool
  deriving DecidableEq

/-- `ReorderPreviewRead`. -/
structure ReorderPreviewRead where
  orderId : UUID
  storeId : UUID
  storeAvailable : Bool
  items : List ReorderItemRead
  availableItems : Nat
  unavailableItems : Nat
  estimatedSubtotal : Paise
  deriving DecidableEq

/-- `_available_quantity`. -/
def availableQuantity (stock requested : Int) (enabled : Bool) : Int :=
  if enabled ∧ 0 < stock then min stock requested else 0

def storeAvailable (db : Tables) (storeId : UUID) : Bool :=
  (db.store? storeId).any fun store => store.isActive &&
    (db.merchant? store.merchantId).any fun merchant => decide (merchant.status = .approved)

/-- The store's listing of a product that is active. -/
def reorderListing (db : Tables) (storeId productId : UUID) :
    Option StoreProduct :=
  db.catalogue.storeProducts.find? fun listing =>
    decide (listing.storeId = storeId ∧ listing.productId = productId) &&
      (lookup Product.id listing.productId db.catalogue.products).any (·.isActive)

/-- One turn of the loop over the order's items. -/
def reorderItem (db : Tables) (storeId : UUID) (openStore : Bool)
    (item : OrderItem) : ReorderItemRead :=
  let listing := reorderListing db storeId item.productId
  let quantity := (listing.filter fun _ => openStore).elim 0 fun listing =>
    availableQuantity listing.stockQuantity item.quantity listing.isAvailable
  { productId := item.productId
    productName := item.productName
    requestedQuantity := item.quantity
    availableQuantity := quantity
    listingId := listing.map (·.id)
    previousUnitPrice := item.unitPrice
    currentUnitPrice := listing.map (·.price)
    available := listing.isSome && decide (0 < quantity) }

/-- What an item adds to the estimate. -/
def ReorderItemRead.amount (item : ReorderItemRead) : Paise :=
  if item.available then item.currentUnitPrice.elim 0 (· * item.availableQuantity) else 0

/-- `GET /orders/{order_id}/reorder-preview`. -/
def reorderPreview (db : Tables) (subject orderId : UUID) :
    Handler ReorderPreviewRead := do
  let user ← getCurrentUser db subject
  let order ← found ((db.order? orderId).filter fun order => order.userId = user.id)
    ⟨404, "Order not found"⟩
  let openStore := storeAvailable db order.storeId
  let items := (ordered (fun item => item.id.toNat)
    (belonging OrderItem.orderId order.id db.orderItems)).map
      (reorderItem db order.storeId openStore)
  let availableItems := items.countP (·.available)
  pure
    { orderId := order.id
      storeId := order.storeId
      storeAvailable := openStore
      items
      availableItems
      unavailableItems := items.length - availableItems
      estimatedSubtotal := items.foldl (fun subtotal item => subtotal + item.amount) 0 }

/-- What the client then puts into the cart: a listing and how many of it. -/
def ReorderItemRead.line? (item : ReorderItemRead) : Option (UUID × Int) :=
  if item.available then item.listingId.map (·, item.availableQuantity) else none

/-- What a line costs on the shelf. -/
def shelfAmount (db : Tables) (line : UUID × Int) : Paise :=
  (lookup StoreProduct.id line.1 db.catalogue.storeProducts).elim 0 fun listing =>
    listing.price * line.2

section
variable {db : Tables} {storeId : UUID} {openStore : Bool} {item : OrderItem}

theorem reorderListing_some (found_ : reorderListing db storeId productId = some listing) :
    listing ∈ db.catalogue.storeProducts ∧ listing.storeId = storeId := by
  have holds := List.find?_some found_
  rw [Bool.and_eq_true] at holds
  exact ⟨List.mem_of_find?_eq_some found_, (of_decide_eq_true holds.1).1⟩

theorem availableQuantity_pos (some_ : 0 < availableQuantity stock requested enabled) :
    enabled = true ∧ availableQuantity stock requested enabled ≤ stock ∧
      availableQuantity stock requested enabled ≤ requested := by
  unfold availableQuantity at *
  split at some_
  · next sold =>
    rw [if_pos sold]
    exact ⟨sold.1, min_le_left .., min_le_right ..⟩
  · cases some_

/-- An item that can be had: its listing, in stock at an open store. -/
theorem reorderItem_line (held : (reorderItem db storeId openStore item).line? = some line) :
    ∃ listing ∈ db.catalogue.storeProducts, listing.id = line.1 ∧ listing.storeId = storeId ∧
      listing.isAvailable = true ∧ line.2 ≤ listing.stockQuantity ∧ openStore = true ∧
      (reorderItem db storeId openStore item).amount = listing.price * line.2 := by
  unfold ReorderItemRead.line? at held
  split at held
  · next available =>
    have amounts : (reorderItem db storeId openStore item).amount =
        (reorderItem db storeId openStore item).currentUnitPrice.elim 0
          (· * (reorderItem db storeId openStore item).availableQuantity) := if_pos available
    rw [amounts]
    cases there : reorderListing db storeId item.productId with
    | none => simp [reorderItem, there] at held
    | some listing =>
      obtain ⟨inside, store⟩ := reorderListing_some there
      cases openStore with
      | false => simp [reorderItem, there] at available
      | true =>
        simp only [reorderItem, there, Option.filter_some, if_true, Option.elim_some,
          Option.isSome_some, Bool.true_and, decide_eq_true_eq, Option.map_some,
          Option.some.injEq] at available held ⊢
        obtain ⟨enabled, stocked, -⟩ := availableQuantity_pos available
        subst held
        exact ⟨listing, inside, rfl, store, enabled, stocked, trivial, rfl⟩
  · cases held

theorem reorderItem_offers
    (available : (reorderItem db storeId openStore item).available = true) :
    ∃ line, (reorderItem db storeId openStore item).line? = some line := by
  unfold ReorderItemRead.line?
  rw [if_pos available]
  cases there : reorderListing db storeId item.productId with
  | none => simp [reorderItem, there] at available
  | some listing => simp [reorderItem, there]

/-- What cannot be had adds nothing. -/
theorem reorderItem_none (missing : (reorderItem db storeId openStore item).line? = none) :
    (reorderItem db storeId openStore item).amount = 0 := by
  apply if_neg
  intro available
  obtain ⟨line, held⟩ := reorderItem_offers available
  cases missing.symm.trans held

theorem shelfAmount_of {line : UUID × Int} (ids : Unique StoreProduct.id db.catalogue.storeProducts)
    (inside : listing ∈ db.catalogue.storeProducts) (named : listing.id = line.1) :
    shelfAmount db line = listing.price * line.2 := by
  have there := (lookup_eq_some_iff ids).mpr ⟨inside, named⟩
  simp only [shelfAmount, there, Option.elim_some]

/-- The estimate is what the lines cost on the shelf. -/
theorem estimate_of_lines (ids : Unique StoreProduct.id db.catalogue.storeProducts)
    (items : List OrderItem) :
    ((items.map (reorderItem db storeId openStore)).map ReorderItemRead.amount).sum =
      (((items.map (reorderItem db storeId openStore)).filterMap ReorderItemRead.line?).map
        (shelfAmount db)).sum := by
  induction items with
  | nil => rfl
  | cons item items ih =>
    simp only [List.map_cons, List.sum_cons, ih]
    cases held : (reorderItem db storeId openStore item).line? with
    | none => rw [reorderItem_none held, List.filterMap_cons_none held, zero_add]
    | some line =>
      obtain ⟨listing, inside, named, -, -, -, -, amount⟩ := reorderItem_line held
      rw [List.filterMap_cons_some held, List.map_cons, List.sum_cons, amount,
        shelfAmount_of ids inside named]

end

/-- The rows of a cart, by listing and quantity. -/
def cartLines (db : Tables) (cart : Cart) : List (UUID × Int) :=
  (belonging CartItem.cartId cart.id db.catalogue.cartItems).map fun item =>
    (item.storeProductId, item.quantity)

/-- The shelves, stores and merchants are as the preview saw them, and the cart holds its lines. -/
structure Refilled (db after : Tables) (subject : UUID) (cart : Cart) (preview : ReorderPreviewRead) :
    Prop where
  shelves : after.catalogue.storeProducts = db.catalogue.storeProducts
  stores : after.catalogue.stores = db.catalogue.stores
  merchants : after.catalogue.merchants = db.catalogue.merchants
  owned : lookup Cart.userId subject after.catalogue.carts = some cart
  chosen : cart.storeId = some preview.storeId
  lines : (cartLines after cart).Perm (preview.items.filterMap ReorderItemRead.line?)

theorem storeAvailable_spec (openStore : storeAvailable db storeId = true) :
    ∃ store, db.store? storeId = some store ∧ store.isActive = true ∧
      ∃ merchant, db.merchant? store.merchantId = some merchant ∧ merchant.status = .approved := by
  cases there : db.store? storeId with
  | none => simp [storeAvailable, there] at openStore
  | some store =>
    simp only [storeAvailable, there, Option.any_some, Bool.and_eq_true] at openStore
    cases employs : db.merchant? store.merchantId with
    | none => simp [employs] at openStore
    | some merchant =>
      simp only [employs, Option.any_some, decide_eq_true_eq] at openStore
      exact ⟨store, rfl, openStore.1, merchant, employs, openStore.2⟩

/-- Where something of an order can be had, a cart filled with what the preview offers is quoted: for
the same store, at the estimate, with every line on the shelf. -/
theorem reorder_is_quoted (env : Environment) (settings : Settings) (now : Instant)
    (listed : Listed after) (constraints : after.Constraints)
    (shown : reorderPreview db subject orderId = .ok preview)
    (some_ : preview.availableItems ≠ 0) (refilled : Refilled db after subject cart preview)
    (addressed : Addressed after subject addressId user address) :
    preview.storeAvailable = true ∧
      ∃ quote, cartQuote env settings after subject addressId now = .ok quote ∧
        quote.storeId = preview.storeId ∧ quote.subtotal = preview.estimatedSubtotal ∧
        quote.inventoryValid = true := by
  simp only [reorderPreview, getCurrentUser_bind_ok, found_bind_ok, pure_ok] at shown
  obtain ⟨-, -, order, -, rfl⟩ := shown
  have ids : Unique StoreProduct.id db.catalogue.storeProducts :=
    refilled.shelves ▸ constraints.listingIds
  have inside_lines := fun line => refilled.lines.mem_iff (a := line)
  -- every line is a listing of the open store, in stock
  have offered : ∀ line ∈ cartLines after cart, ∃ listing ∈ db.catalogue.storeProducts,
      listing.id = line.1 ∧ listing.storeId = order.storeId ∧ listing.isAvailable = true ∧
      line.2 ≤ listing.stockQuantity := by
    intro line inside
    obtain ⟨read, member, held⟩ := List.mem_filterMap.mp ((inside_lines line).mp inside)
    obtain ⟨item, -, rfl⟩ := List.mem_map.mp member
    obtain ⟨listing, there, named, store, available, stocked, -⟩ := reorderItem_line held
    exact ⟨listing, there, named, store, available, stocked⟩
  have something : ∃ line ∈ cartLines after cart, storeAvailable db order.storeId = true := by
    obtain ⟨read, member, available⟩ := List.countP_pos_iff.mp (Nat.pos_of_ne_zero some_)
    obtain ⟨item, -, rfl⟩ := List.mem_map.mp member
    obtain ⟨line, held⟩ := reorderItem_offers available
    obtain ⟨-, -, -, -, -, -, openStore, -⟩ := reorderItem_line held
    exact ⟨line, (inside_lines line).mpr (List.mem_filterMap.mpr ⟨_, member, held⟩), openStore⟩
  obtain ⟨first, has, openStore⟩ := something
  refine ⟨openStore, ?_⟩
  obtain ⟨store, stands, sells, merchant, employs, approved⟩ := storeAvailable_spec openStore
  have named : store.id = order.storeId := lookup_col stands
  have itself : user.id = subject := lookup_col addressed.1.1
  have shopping : Shopping after user cart store := by
    constructor
    · rw [itself]
      exact refilled.owned
    · rw [named]
      exact refilled.chosen
    · intro empty
      rw [cartLines, empty] at has
      cases has
    · rw [named, ← stands, Tables.store?, Tables.store?, refilled.stores]
    · exact sells
    · refine ⟨merchant, ?_, approved⟩
      rw [← employs, Tables.merchant?, Tables.merchant?, refilled.merchants]
  refine ⟨_, (cartQuote_ok listed constraints).mpr ⟨user, address, cart, store, addressed, shopping, rfl⟩,
    named, ?_, ?_⟩
  · have total := (quoted_rows listed constraints env settings store address cart now).2
    refine total.trans ?_
    calc ((belonging CartItem.cartId cart.id after.catalogue.cartItems).map (lineAmount after)).sum
        = ((cartLines after cart).map (shelfAmount after)).sum := by
          rw [cartLines, List.map_map]
          rfl
      _ = ((cartLines after cart).map (shelfAmount db)).sum := by
          have same : shelfAmount after = shelfAmount db := by
            funext line
            rw [shelfAmount, shelfAmount, refilled.shelves]
          rw [same]
      _ = _ := (refilled.lines.map _).sum_eq
      _ = _ := (estimate_of_lines ids _).symm
      _ = _ := by rw [List.sum_eq_foldl, List.foldl_map]
  · apply (quoted_rows listed constraints env settings store address cart now).1.mpr
    intro item inside
    obtain ⟨listing, there, id_, store_, available, stocked⟩ :=
      offered (item.storeProductId, item.quantity) (List.mem_map_of_mem inside)
    refine ⟨listing, ?_, store_.trans named.symm, available, stocked⟩
    rw [refilled.shelves]
    exact (lookup_eq_some_iff ids).mpr ⟨there, id_⟩

/-- Twelve kilograms of rice, bought when it cost less; ten are in stock. -/
def riceBefore : Tables where
  catalogue := sampleCatalogue
  orders := [⟨1, "GO-1", 1, 1, 1, none, none, .delivered, .cod, .paid, 54000, 2000, 56000⟩]
  orderItems := [⟨1, 1, 1, "Rice", "kg", 4500, 12, 54000⟩]

def riceAgain : Tables :=
  { riceBefore with catalogue := { sampleCatalogue with cartItems := [⟨1, 1, 1, 10⟩] } }

def riceOffer : ReorderPreviewRead :=
  ⟨1, 1, true, [⟨1, "Rice", 12, 10, some 1, 4500, some 5000, true⟩], 1, 0, 50000⟩

theorem reorder_is_quoted_rice :
    riceOffer.storeAvailable = true ∧
      ∃ quote, cartQuote sampleEnvironment sampleSettings riceAgain 1 1 1000 = .ok quote ∧
        quote.storeId = riceOffer.storeId ∧ quote.subtotal = riceOffer.estimatedSubtotal ∧
        quote.inventoryValid = true := by
  have shown : reorderPreview riceBefore 1 1 = .ok riceOffer := by rfl
  have refilled : Refilled riceBefore riceAgain 1 ⟨1, 1, some 1⟩ riceOffer :=
    ⟨rfl, rfl, rfl, by decide, rfl, by decide⟩
  have addressed : Addressed riceAgain 1 1 ⟨1, .customer, false, true, true⟩
      ⟨1, 1, 1, some "Asha", none, none, "Temple", none, none, none, none⟩ :=
    ⟨by decide, by decide⟩
  exact reorder_is_quoted sampleEnvironment sampleSettings 1000 ⟨by decide, by decide⟩
    (by decide +kernel) shown (by decide) refilled addressed

end GaonOne
