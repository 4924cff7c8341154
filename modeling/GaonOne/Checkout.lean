import GaonOne.OrderTransitions
import GaonOne.Payments
import Mathlib.Data.List.Sort

/-! Checkout: what an order costs, whether its store is open and delivers to the
address, and the one transaction that turns a cart into an order. -/
namespace GaonOne
open Relational UnitOfWork

/-! ## Pricing -/

/-- The fee for delivering from this store: its service area's, or the default. -/
def resolveDeliveryFee (settings : Settings) (db : Tables) (store : Store) : Paise :=
  let area := store.serviceAreaId.bind fun id => lookup ServiceArea.id id db.catalogue.serviceAreas
  match area.bind (·.deliveryFee) with
  | some fee => Decimal.quantizeCents (Decimal.ofCents fee)
  | none => Decimal.quantizeCents settings.defaultDeliveryFee

def orderTotal (subtotal deliveryFee : Paise) : Paise :=
  Decimal.quantizeCents (Decimal.ofCents subtotal + Decimal.ofCents deliveryFee)

@[simp]
theorem orderTotal_eq (subtotal deliveryFee : Paise) :
    orderTotal subtotal deliveryFee = subtotal + deliveryFee :=
  Decimal.quantizeCents_add subtotal deliveryFee

/-! ## Opening hours, in India-local time -/

/-- The time of day in Asia/Kolkata, in microseconds after midnight. -/
def businessTime (moment : Instant) : Nat := (moment + 19800000000) % 86400000000

/-- A store without a schedule is always open; a window that closes before it
opens crosses midnight. -/
def isOpenAt (opensAt closesAt : Option Nat) (moment : Instant) : Bool :=
  match opensAt, closesAt with
  | some opens, some closes =>
    let time := businessTime moment
    if opens = closes then true
    else if opens < closes then opens ≤ time && time < closes
    else opens ≤ time || time < closes
  | _, _ => true

/-- `strftime("%H:%M")`. -/
def clockText (time : Nat) : String :=
  Text.twoDigits (time / 3600000000) ++ ":" ++ Text.twoDigits (time / 60000000 % 60)

def describeHours (opensAt closesAt : Option Nat) : Option String :=
  match opensAt, closesAt with
  | some opens, some closes => some (clockText opens ++ "-" ++ clockText closes ++ " IST")
  | _, _ => none

/-! ## Serviceability -/

def point (latitude longitude : Option ℚ) : Option Point :=
  latitude.bind fun latitude => longitude.map (Point.mk latitude)

/-- An address's own point, or its village's. -/
def addressPoint (db : Tables) (address : Address) : Option Point :=
  (point address.latitude address.longitude).or
    ((lookup Village.id address.villageId db.catalogue.villages).bind fun village =>
      point village.latitude village.longitude)

def pointIsInServiceArea (env : Environment) (db : Tables) (serviceAreaId : UUID)
    (place : Point) : Bool :=
  db.catalogue.serviceAreas.any fun area =>
    decide (area.id = serviceAreaId) && area.isActive &&
      db.catalogue.villages.any fun village =>
        decide (village.id = area.hubVillageId) && village.isActive &&
          (point village.latitude village.longitude).any fun hub =>
            env.within hub place (area.radiusKm * 1000)

/-! ## Placing the order -/

def existingIdempotentOrder (db : Tables) (userId : UUID) (key : Option String) : Option Order :=
  (configured key).bind fun key =>
    db.orders.find? fun order => order.userId = userId ∧ order.idempotencyKey = some key

/-- The loop over cart items: every listing must still be this store's,
available and in stock. -/
def validateItems (storeId : UUID) (listings : List StoreProduct) :
    List CartItem → Paise → List (CartItem × StoreProduct) →
      Handler (Paise × List (CartItem × StoreProduct))
  | [], subtotal, validated => pure (subtotal, validated)
  | item :: items, subtotal, validated => do
    let listing ← found (lookup StoreProduct.id item.storeProductId listings) ⟨500, "KeyError"⟩
    require (listing.storeId = storeId) ⟨409, "Cart inventory changed; review your cart"⟩
    require (listing.isAvailable ∧ item.quantity ≤ listing.stockQuantity)
      ⟨409, "Cart inventory changed; review your cart"⟩
    validateItems storeId listings items (subtotal + listing.price * item.quantity)
      (validated ++ [(item, listing)])

/-- Selling the last unit takes the listing off the shelf. -/
def debitListing (listing : StoreProduct) (quantity : Int) : StoreProduct :=
  { listing with
    stockQuantity := listing.stockQuantity - quantity
    isAvailable := listing.isAvailable && decide (listing.stockQuantity - quantity ≠ 0) }

/-- The loop that records the items and takes them out of stock. -/
def recordItems (order : Order) (itemId : Nat → UUID) :
    List (CartItem × StoreProduct) → DbSession → Handler DbSession
  | [], db => pure db
  | (item, listing) :: validated, db => do
    let product ← found (lookup Product.id listing.productId db.flushed.catalogue.products)
      ⟨500, "AttributeError"⟩
    let orderItem : OrderItem :=
      { id := itemId validated.length, orderId := order.id, productId := product.id
        productName := product.name, unit := product.unit, unitPrice := listing.price
        quantity := item.quantity, lineTotal := listing.price * item.quantity }
    recordItems order itemId validated (db.write fun tables =>
      ({ tables with orderItems := tables.orderItems ++ [orderItem] }).putListing
        (debitListing listing item.quantity))

/-- The new order row. -/
def placedOrder (user : User) (storeId addressId : UUID) (orderNumber : String)
    (idempotencyKey : Option String) (paymentMethod : PaymentMethod) (subtotal deliveryFee : Paise)
    (draws : Draws) : Order where
  id := draws.orderId
  orderNumber := orderNumber
  userId := user.id
  storeId := storeId
  addressId := addressId
  idempotencyKey := idempotencyKey
  stockRestoredAt := none
  status := .placed
  paymentMethod := paymentMethod
  paymentStatus := .pending
  subtotal := subtotal
  deliveryFee := deliveryFee
  total := orderTotal subtotal deliveryFee

/-- `Delivery(order_id=order.id)`. -/
def newDelivery (orderId : UUID) (draws : Draws) : Delivery where
  id := draws.deliveryId
  orderId := orderId
  deliveryPartnerId := none
  status := .unassigned
  assignedAt := none
  pickedUpAt := none
  deliveredAt := none
  failedAt := none
  failureReason := none
  failureNotes := none
  failureEvidenceUrl := none
  updatedAt := draws.now

def emptyCart (cart : Cart) (db : Tables) : Tables :=
  { db with
    catalogue.cartItems := db.catalogue.cartItems.filter fun item => item.cartId ≠ cart.id
    catalogue.carts := put Cart.id { cart with storeId := none } db.catalogue.carts }

/-- `CheckoutRequest`. -/
structure CheckoutRequest where
  addressId : UUID
  paymentMethod : PaymentMethod

/-- The part of checkout behind the idempotency checks: every check on address,
cart, store and stock, then the order with its items and delivery. -/
def placeOrder (env : Environment) (settings : Settings) (db : DbSession) (user : User)
    (payload : CheckoutRequest) (address : Address) (idempotencyKey : Option String)
    (orderNumber : String) (draws : Draws) : Handler (DbSession × Order) := do
  let cart ← found (lookup Cart.userId user.id db.flushed.catalogue.carts) ⟨400, "Cart is empty"⟩
  let storeId ← found cart.storeId ⟨400, "Cart is empty"⟩
  let items := (belonging CartItem.cartId cart.id db.flushed.catalogue.cartItems).insertionSort
    fun left right => left.storeProductId.toNat ≤ right.storeProductId.toNat
  require (items ≠ []) ⟨400, "Cart is empty"⟩
  let store ← found ((db.flushed.store? storeId).filter (·.isActive))
    ⟨409, "Store is currently unavailable"⟩
  let merchant ← found (db.flushed.merchant? store.merchantId)
    ⟨409, "Store is currently unavailable"⟩
  require (merchant.status = .approved) ⟨409, "Store is currently unavailable"⟩
  require store.deliveryEnabled ⟨409, "This store does not currently support delivery"⟩
  require (isOpenAt store.opensAt store.closesAt draws.now)
    ⟨409, match describeHours store.opensAt store.closesAt with
      | some hours => store.name ++ " is closed right now. Opening hours: " ++ hours ++ "."
      | none => store.name ++ " is closed right now."⟩
  let serviceAreaId ← found store.serviceAreaId
    ⟨409, "Delivery serviceability cannot be verified for this order"⟩
  let place ← found (addressPoint db.flushed address)
    ⟨409, "Delivery serviceability cannot be verified for this order"⟩
  require (pointIsInServiceArea env db.flushed serviceAreaId place)
    ⟨409, "This store does not deliver to the selected address"⟩
  let listings := db.flushed.catalogue.storeProducts.filter fun listing =>
    listing.id ∈ items.map (·.storeProductId)
  require (listings.length = items.length) ⟨409, "Cart inventory changed; review your cart"⟩
  let (subtotal, validated) ← validateItems storeId listings items 0 []
  let order := placedOrder user storeId address.id orderNumber idempotencyKey
    payload.paymentMethod subtotal (resolveDeliveryFee settings db.flushed store) draws
  require (fitsNumeric order.subtotal ∧ fitsNumeric order.deliveryFee ∧ fitsNumeric order.total)
    ⟨500, "numeric field overflow"⟩
  let db ← flushRows (db.write (·.addOrder order))
  let db ← recordItems order draws.itemId validated db
  let db := db.write (·.addDelivery (newDelivery order.id draws))
  pure (db.execute (emptyCart cart), order)

/-- `POST /orders/checkout`: a repeated key answers with the order it made. -/
def safeCheckout (env : Environment) (settings : Settings) (db : DbSession) (subject : UUID)
    (payload : CheckoutRequest) (idempotencyKey : Option String) (orderNumber : String)
    (draws : Draws) : Handler (DbSession × Order) := do
  let user ← getCurrentUser db.flushed subject
  let key := idempotencyKey.map Text.strip
  require (∀ held ∈ key, held ≠ "" ∧ held.length ≤ 128)
    ⟨400, "Idempotency-Key must contain 1 to 128 characters"⟩
  match existingIdempotentOrder db.flushed user.id key with
  | some existing => pure (db, existing)
  | none => do
    let address ← found
      ((lookup Address.id payload.addressId db.flushed.catalogue.addresses).filter fun address =>
        address.userId = user.id ∧ address.archivedAt = none)
      ⟨404, "Address not found"⟩
    placeOrder env settings db user payload address key orderNumber draws

end GaonOne
