import GaonOne.Checkout
import GaonOne.StockStatements

/-! The requests on a cart, statement by statement. Checkout locks the cart's row and
then the listings it sells from; adding, removing and clearing read the cart without a
lock, and lock only what their own writes lock. -/
namespace GaonOne
open Relational UnitOfWork ReadCommitted

/-- The identifiers of the rows that a request on a cart may insert. -/
structure CartDraws where
  cartId : UUID
  itemId : UUID

namespace Tables

def addCart (cart : Cart) (db : Tables) : Tables :=
  { db with catalogue.carts := db.catalogue.carts ++ [cart] }

def addCartItem (item : CartItem) (db : Tables) : Tables :=
  { db with catalogue.cartItems := db.catalogue.cartItems ++ [item] }

def addOrderItems (items : List OrderItem) (db : Tables) : Tables :=
  { db with orderItems := db.orderItems ++ items }

/-- `UPDATE carts SET store_id`. -/
def setCartStore (cartId : UUID) (storeId : Option UUID) (db : Tables) : Tables :=
  { db with
    catalogue.carts := db.catalogue.carts.map fun cart =>
      if cart.id = cartId then { cart with storeId } else cart }

/-- `UPDATE cart_items SET quantity`. -/
def setQuantity (itemId : UUID) (quantity : Int) (db : Tables) : Tables :=
  { db with
    catalogue.cartItems := db.catalogue.cartItems.map fun item =>
      if item.id = itemId then { item with quantity } else item }

def deleteCartItems (deletes : CartItem → Bool) (db : Tables) : Tables :=
  { db with catalogue.cartItems := db.catalogue.cartItems.filter fun item => !deletes item }

end Tables

/-- The rows of a cart, by listing. -/
def cartRows (db : Tables) (cartId : UUID) : List CartItem :=
  (belonging CartItem.cartId cartId db.catalogue.cartItems).insertionSort
    fun left right => left.storeProductId.toNat ≤ right.storeProductId.toNat

/-- The listings of a checkout's rows, in the order its query locks them. -/
def checkoutLocks (items : List CartItem) (db : Tables) : List StoreProduct :=
  (db.catalogue.storeProducts.filter fun listing =>
      listing.id ∈ items.map (·.storeProductId)).insertionSort
    fun left right => left.id.toNat ≤ right.id.toNat

/-- The rows that a `DELETE` found, but for those that no longer match. -/
def foundByDelete (seen : List CartItem) (matching : CartItem → Bool) (item : CartItem) : Bool :=
  decide (item.id ∈ seen.map (·.id)) && matching item

/-- One line of an order. -/
def orderLine (order : Order) (id : UUID) (item : CartItem) (listing : StoreProduct)
    (product : Product) : OrderItem where
  id := id
  orderId := order.id
  productId := product.id
  productName := product.name
  unit := product.unit
  unitPrice := listing.price
  quantity := item.quantity
  lineTotal := listing.price * item.quantity

namespace Statement

def lockedCart (userId : UUID) : Statements (Option Cart) :=
  selectForUpdate (fun cart => .cart cart.id) (lookup Cart.userId userId ·.catalogue.carts)

/-- `_get_or_create_cart`: no lock. -/
def getOrCreateCart (userId : UUID) (draws : CartDraws) : Statements Cart := do
  let cart ← Program.query fun market : Market =>
    lookup Cart.userId userId market.tables.catalogue.carts
  match cart with
  | some cart => pure cart
  | none => do
    let cart : Cart := ⟨draws.cartId, userId, none⟩
    flushTables (·.addCart cart)
    pure cart

/-- `cart.store_id = storeId`: the session writes the column only if it changes. -/
def assignCartStore (cart : Cart) (storeId : Option UUID) : Statements Unit :=
  if cart.storeId = storeId then pure ()
  else do
    Program.lockRow ⟨.cart cart.id, .noKeyUpdate⟩
    flushTables (·.setCartStore cart.id storeId)

/-- `DELETE`: it waits for each row it sees, and deletes those that still match. -/
def deleteCartItems (matching : CartItem → Bool) : Statements (CartItem → Bool) := do
  let seen ← Program.query fun market : Market =>
    market.tables.catalogue.cartItems.filter matching
  Program.lockRows (seen.map fun item => (Row.cartItem item.id).forUpdate)
  let deletes := foundByDelete seen matching
  flushTables (·.deleteCartItems deletes)
  pure deletes

/-- The row's new quantity, or a new row. The `UPDATE` fails if the row has gone; the
`INSERT` checks that the cart and the listing are there. -/
def putCartItem (cartId storeProductId : UUID) (quantity : Int) (draws : CartDraws)
    (item : Option CartItem) : Statements Unit :=
  match item with
  | some item =>
    if item.quantity = quantity then pure ()
    else do
      Program.lockRow ⟨.cartItem item.id, .noKeyUpdate⟩
      let current ← Program.query fun market : Market =>
        lookup CartItem.id item.id market.tables.catalogue.cartItems
      let _ ← found current ⟨500, "StaleDataError"⟩
      flushTables (·.setQuantity item.id quantity)
  | none => do
    Program.lockRow ⟨.cart cartId, .keyShare⟩
    Program.lockRow ⟨.listing storeProductId, .keyShare⟩
    flushTables (·.addCartItem ⟨draws.itemId, cartId, storeProductId, quantity⟩)

/-- `POST /cart/items`. -/
def addCartItem (subject storeProductId : UUID) (quantity : Int) (draws : CartDraws) :
    Statements (Option Order) := do
  let user ← statement (getCurrentUser · subject)
  require (1 ≤ quantity ∧ quantity ≤ 99) ⟨422, "CartItemUpsert"⟩
  let listing ← Program.query fun market : Market =>
    lookup StoreProduct.id storeProductId market.tables.catalogue.storeProducts
  let listing ← found (listing.filter fun listing =>
      listing.isAvailable ∧ quantity ≤ listing.stockQuantity)
    ⟨400, "Product is unavailable or insufficient stock"⟩
  let store ← Program.query fun market : Market => market.tables.store? listing.storeId
  let store ← found (store.filter (·.isActive)) ⟨409, "Store is currently unavailable"⟩
  let merchant ← Program.query fun market : Market => market.tables.merchant? store.merchantId
  let _ ← found (merchant.filter (·.status = .approved)) ⟨409, "Store is currently unavailable"⟩
  let cart ← getOrCreateCart user.id draws
  require (cart.storeId.all (· = listing.storeId))
    ⟨409, "Cart can contain products from only one store"⟩
  let item ← Program.query fun market : Market =>
    lookup (fun item : CartItem => (item.cartId, item.storeProductId)) (cart.id, listing.id)
      market.tables.catalogue.cartItems
  Program.remember (.adding cart listing.storeId item.isNone)
  assignCartStore cart (some listing.storeId)
  putCartItem cart.id listing.id quantity draws item
  pure none

/-- `DELETE /cart/items/{store_product_id}`. -/
def removeCartItem (subject storeProductId : UUID) (draws : CartDraws) :
    Statements (Option Order) := do
  let user ← statement (getCurrentUser · subject)
  let cart ← getOrCreateCart user.id draws
  let deletes ← deleteCartItems fun item =>
    item.cartId = cart.id ∧ item.storeProductId = storeProductId
  let remaining ← Program.query fun market : Market =>
    belonging CartItem.cartId cart.id market.tables.catalogue.cartItems
  let storeId := if remaining = [] then none else cart.storeId
  Program.remember (.removing cart.id deletes (decide (cart.storeId ≠ storeId)))
  assignCartStore cart storeId
  pure none

/-- `DELETE /cart`. -/
def clearCart (subject : UUID) (draws : CartDraws) : Statements (Option Order) := do
  let user ← statement (getCurrentUser · subject)
  let cart ← getOrCreateCart user.id draws
  let deletes ← deleteCartItems fun item => item.cartId = cart.id
  Program.remember (.removing cart.id deletes (decide (cart.storeId ≠ none)))
  assignCartStore cart none
  pure none

/-! ## Checkout -/

/-- The loop that records the items, each with its listing as it leaves the shelf. -/
def orderLines (order : Order) (itemId : Nat → UUID) :
    List (CartItem × StoreProduct) → Statements (List OrderItem)
  | [] => pure []
  | (item, listing) :: validated => do
    let product ← Program.query fun market : Market =>
      lookup Product.id listing.productId market.tables.catalogue.products
    let product ← found product ⟨500, "AttributeError"⟩
    let lines ← orderLines order itemId validated
    pure (orderLine order (itemId validated.length) item listing product :: lines)

/-- The open store a cart buys from, if it delivers to the address. -/
def deliveringStore (env : Environment) (storeId : UUID) (address : Address) (now : Instant) :
    Statements Store := do
  let store ← Program.query fun market : Market => market.tables.store? storeId
  let store ← found (store.filter (·.isActive)) ⟨409, "Store is currently unavailable"⟩
  let merchant ← Program.query fun market : Market => market.tables.merchant? store.merchantId
  let _ ← found (merchant.filter (·.status = .approved)) ⟨409, "Store is currently unavailable"⟩
  require store.deliveryEnabled ⟨409, "This store does not currently support delivery"⟩
  require (isOpenAt store.opensAt store.closesAt now)
    ⟨409, match describeHours store.opensAt store.closesAt with
      | some hours => store.name ++ " is closed right now. Opening hours: " ++ hours ++ "."
      | none => store.name ++ " is closed right now."⟩
  let place ← Program.query fun market : Market => addressPoint market.tables address
  let serviceAreaId ← found store.serviceAreaId
    ⟨409, "Delivery serviceability cannot be verified for this order"⟩
  let place ← found place ⟨409, "Delivery serviceability cannot be verified for this order"⟩
  let serviceable ← Program.query fun market : Market =>
    pointIsInServiceArea env market.tables serviceAreaId place
  require serviceable ⟨409, "This store does not deliver to the selected address"⟩
  pure store

/-- The part of checkout behind the idempotency checks, the cart's row locked. -/
def placeOrder (env : Environment) (settings : Settings) (user : User) (payload : CheckoutRequest)
    (address : Address) (idempotencyKey : Option String) (orderNumber : String) (draws : Draws)
    (cart : Cart) (storeId : UUID) : Statements (Option Order) := do
  let items ← Program.query fun market : Market => cartRows market.tables cart.id
  Program.remember (.itemsRead items)
  require (items ≠ []) ⟨400, "Cart is empty"⟩
  let store ← deliveringStore env storeId address draws.now
  let listings ← lockListings (checkoutLocks items)
  require (listings.length = items.length) ⟨409, "Cart inventory changed; review your cart"⟩
  let (subtotal, validated) ← validateItems storeId listings items 0 []
  let deliveryFee ← Program.query fun market : Market =>
    resolveDeliveryFee settings market.tables store
  let order := placedOrder user storeId address.id orderNumber idempotencyKey
    payload.paymentMethod subtotal deliveryFee draws
  require (fitsNumeric order.subtotal ∧ fitsNumeric order.deliveryFee ∧ fitsNumeric order.total)
    ⟨500, "numeric field overflow"⟩
  flushTables (·.addOrder order)
  let lines ← orderLines order draws.itemId validated
  let _ ← deleteCartItems fun item => item.cartId = cart.id
  require (∀ line ∈ lines, fitsNumeric line.lineTotal) ⟨500, "numeric field overflow"⟩
  Program.flush fun market =>
    { market with
      tables := ((((market.tables.addOrderItems lines).putListings
        (validated.map fun (item, listing) => debitListing listing item.quantity)).addDelivery
          (newDelivery order.id draws)).setCartStore cart.id none)
      ordered := market.ordered ++ items.map (order.id, ·) }
  pure (some order)

/-- `POST /orders/checkout`. -/
def safeCheckout (env : Environment) (settings : Settings) (subject : UUID)
    (payload : CheckoutRequest) (idempotencyKey : Option String) (orderNumber : String)
    (draws : Draws) : Statements (Option Order) := do
  let user ← statement (getCurrentUser · subject)
  let key := idempotencyKey.map Text.strip
  require (∀ held ∈ key, held ≠ "" ∧ held.length ≤ 128)
    ⟨400, "Idempotency-Key must contain 1 to 128 characters"⟩
  let existing ← Program.query fun market : Market =>
    existingIdempotentOrder market.tables user.id key
  match existing with
  | some order => pure (some order)
  | none => do
    let address ← Program.query fun market : Market =>
      lookup Address.id payload.addressId market.tables.catalogue.addresses
    let address ← found (address.filter fun address =>
        address.userId = user.id ∧ address.archivedAt = none) ⟨404, "Address not found"⟩
    let cart ← lockedCart user.id
    let existing ← Program.query fun market : Market =>
      existingIdempotentOrder market.tables user.id key
    match existing with
    | some order => pure (some order)
    | none => do
      let cart ← found cart ⟨400, "Cart is empty"⟩
      let storeId ← found cart.storeId ⟨400, "Cart is empty"⟩
      placeOrder env settings user payload address key orderNumber draws cart storeId

end Statement

/-- The requests of one or several customers on their carts. -/
inductive CartRequest where
  | addCartItem (subject storeProductId : UUID) (quantity : Int) (draws : CartDraws)
  | removeCartItem (subject storeProductId : UUID) (draws : CartDraws)
  | clearCart (subject : UUID) (draws : CartDraws)
  | safeCheckout (subject : UUID) (payload : CheckoutRequest) (idempotencyKey : Option String)
      (orderNumber : String) (draws : Draws)

def CartRequest.program (env : Environment) (settings : Settings) :
    CartRequest → Statements (Option Order)
  | addCartItem subject storeProductId quantity draws =>
    Statement.addCartItem subject storeProductId quantity draws
  | removeCartItem subject storeProductId draws =>
    Statement.removeCartItem subject storeProductId draws
  | clearCart subject draws => Statement.clearCart subject draws
  | safeCheckout subject payload idempotencyKey orderNumber draws =>
    Statement.safeCheckout env settings subject payload idempotencyKey orderNumber draws

end GaonOne
