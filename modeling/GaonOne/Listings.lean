import GaonOne.Banners
import GaonOne.Checkout
import GaonOne.DeliveryOperations
import GaonOne.Library.Transitions
import GaonOne.OrderMutations

/-! What merchants do to their listings: a product of their own with its listing, a listing
written whole, and a listing changed column by column. Amounts are validated as they come
in and rounded as they are stored. -/
namespace GaonOne
open Relational UnitOfWork Transitions

/-! ## Payloads -/

/-- `StoreProductCreate`. -/
structure StoreProductCreate where
  productId : UUID
  price : ℚ
  mrp : Option ℚ := none
  stockQuantity : Int := 0
  isAvailable : Bool := true

/-- `MerchantProductListingCreate`. -/
structure MerchantProductListingCreate where
  name : String
  categoryName : String
  unit : String
  description : Option String := none
  brand : Option String := none
  price : ℚ
  mrp : Option ℚ := none
  stockQuantity : Int := 0

/-- `StoreProductUpdate`: a field is left out, null, or a value. -/
structure StoreProductUpdate where
  price : Option (Option ℚ) := none
  mrp : Option (Option ℚ) := none
  stockQuantity : Option (Option Int) := none
  isAvailable : Option (Option Bool) := none

def StoreProductCreate.Valid (payload : StoreProductCreate) : Prop :=
  0 < payload.price ∧ (∀ mrp ∈ payload.mrp, 0 < mrp) ∧ 0 ≤ payload.stockQuantity

def MerchantProductListingCreate.Valid (payload : MerchantProductListingCreate) : Prop :=
  (2 ≤ payload.name.length ∧ payload.name.length ≤ 180) ∧
    (2 ≤ payload.categoryName.length ∧ payload.categoryName.length ≤ 100) ∧
    (1 ≤ payload.unit.length ∧ payload.unit.length ≤ 40) ∧
    atMost 2000 payload.description ∧ atMost 120 payload.brand ∧
    0 < payload.price ∧ (∀ mrp ∈ payload.mrp, 0 < mrp) ∧ 0 ≤ payload.stockQuantity

def StoreProductUpdate.Valid (payload : StoreProductUpdate) : Prop :=
  (∀ price ∈ payload.price.join, 0 < price) ∧ (∀ mrp ∈ payload.mrp.join, 0 < mrp) ∧
    ∀ stock ∈ payload.stockQuantity.join, 0 ≤ stock

instance (payload : StoreProductCreate) : Decidable payload.Valid :=
  inferInstanceAs (Decidable (_ ∧ _))
instance (payload : MerchantProductListingCreate) : Decidable payload.Valid :=
  inferInstanceAs (Decidable (_ ∧ _))
instance (payload : StoreProductUpdate) : Decidable payload.Valid :=
  inferInstanceAs (Decidable (_ ∧ _))

/-! ## What is stored -/

/-- A value for a `Numeric(10, 2)` column. The database rounds half away from zero. -/
def storedAmount (value : ℚ) : Handler Paise := do
  let amount := Decimal.quantizeCentsHalfUp value
  require (fitsNumeric amount) ⟨500, "numeric field overflow"⟩
  pure amount

/-- A value for an `Integer` column. -/
def storedInteger (value : Int) : Handler Int := do
  require (value.natAbs < 2 ^ 31) ⟨500, "integer out of range"⟩
  pure value

/-- A column that may be left out of the statement. -/
def optionally {α β : Type} (value : Option α) (store : α → Handler β) : Handler (Option β) :=
  match value with
  | none => pure none
  | some value => do
    let stored ← store value
    pure (some stored)

/-- The columns a statement writes. -/
structure ListingEdit where
  price : Option Paise := none
  mrp : Option (Option Paise) := none
  stockQuantity : Option Int := none
  isAvailable : Option Bool := none

/-- The listing as the statement leaves it, but for its MRP. -/
def ListingEdit.row (edit : ListingEdit) (listing : StoreProduct) : StoreProduct :=
  { listing with
    price := edit.price.getD listing.price
    stockQuantity := edit.stockQuantity.getD listing.stockQuantity
    isAvailable := edit.isAvailable.getD listing.isAvailable }

/-- Every column is written. -/
def StoreProductCreate.edit (payload : StoreProductCreate) : Handler ListingEdit := do
  let price ← storedAmount payload.price
  let mrp ← optionally payload.mrp storedAmount
  let stockQuantity ← storedInteger payload.stockQuantity
  pure ⟨some price, some mrp, some stockQuantity, some payload.isAvailable⟩

/-- The columns that are set are written; only the MRP may be null. -/
def StoreProductUpdate.edit (payload : StoreProductUpdate) : Handler ListingEdit := do
  let price ← optionally payload.price fun price => do
    storedAmount (← found price ⟨500, "IntegrityError"⟩)
  let mrp ← optionally payload.mrp fun mrp => optionally mrp storedAmount
  let stockQuantity ← optionally payload.stockQuantity fun stock => do
    storedInteger (← found stock ⟨500, "IntegrityError"⟩)
  let isAvailable ← optionally payload.isAvailable fun shown => found shown ⟨500, "IntegrityError"⟩
  pure ⟨price, mrp, stockQuantity, isAvailable⟩

/-! ## Who may edit -/

/-- `_require_store_owner`. -/
def requireStoreOwner (db : Tables) (store : Store) (user : User) (capability : Capability) :
    Handler (Option Merchant) := do
  let merchant := db.merchant? store.merchantId
  if user.role = .admin then ensureCapability user capability
  else require (merchant.any (·.ownerUserId = user.id)) ⟨403, "You do not own this store"⟩
  pure merchant

/-- The store whose listings the request may write; its body is validated once the user is known. -/
def editableStore (db : Tables) (subject storeId : UUID) (valid : Prop) [Decidable valid] (model : String) :
    Handler Store := do
  let user ← getCurrentUser db subject
  requireRoles user [.merchant, .admin]
  require valid ⟨422, model⟩
  let store ← found (db.store? storeId) ⟨404, "Store not found"⟩
  let merchant ← requireStoreOwner db store user .catalogManage
  require (user.role ≠ .admin → merchant.any (·.status = .approved)) ⟨403, "Merchant is not active"⟩
  pure store

/-! ## The shop -/

/-- The marketplace with the column its listings have besides, and the categories. -/
structure Shop where
  tables : Tables := {}
  /-- The `mrp` column, by listing. -/
  mrp : UUID → Option Paise := fun _ => none
  categories : List Category := []

namespace Shop

abbrev listings (shop : Shop) : List StoreProduct := shop.tables.catalogue.storeProducts

/-- What the database enforces. -/
def Constraints (shop : Shop) : Prop :=
  shop.tables.Constraints ∧ Unique Category.slug shop.categories ∧ Unique Category.name shop.categories

instance (shop : Shop) : Decidable shop.Constraints := inferInstanceAs (Decidable (_ ∧ _))

def addProduct (shop : Shop) (product : Product) : Shop :=
  { shop with
    tables := { shop.tables with catalogue.products := shop.tables.catalogue.products ++ [product] } }

def addListing (shop : Shop) (listing : StoreProduct) (mrp : Option Paise) : Shop :=
  { shop with
    tables := { shop.tables with
      catalogue.storeProducts := shop.tables.catalogue.storeProducts ++ [listing] }
    mrp := Function.update shop.mrp listing.id mrp }

/-- One `UPDATE` of a listing. -/
def editListing (shop : Shop) (listing : StoreProduct) (edit : ListingEdit) : Shop :=
  { shop with
    tables := shop.tables.putListing (edit.row listing)
    mrp := Function.update shop.mrp listing.id (edit.mrp.getD (shop.mrp listing.id)) }

end Shop

/-- `str.casefold`, and the database's `ILIKE`: how texts in any script compare. -/
structure Collation where
  casefold : String → String
  ilike : String → String → Bool

/-- `re.sub(r"[^a-z0-9]+", "-", folded).strip("-")`: the runs of Latin letters and digits. -/
def slugOf (folded : String) : String :=
  let outside (c : Char) : Bool := !(('a' ≤ c ∧ c ≤ 'z') ∨ ('0' ≤ c ∧ c ≤ '9'))
  "-".intercalate (((folded.toList.splitOnP outside).filter (· ≠ [])).map String.ofList)

/-- The identifiers of the rows that an edit may insert. -/
structure ListingDraws where
  categoryId : UUID
  productId : UUID
  listingId : UUID

/-- The store lists a product of this name, category and pack size already. -/
def listedAs (collation : Collation) (shop : Shop) (storeId categoryId : UUID) (unit name : String) : Bool :=
  shop.listings.any fun listing =>
    decide (listing.storeId = storeId) &&
      (lookup Product.id listing.productId shop.tables.catalogue.products).any fun product =>
        decide (product.categoryId = categoryId ∧ product.unit = unit) && collation.ilike product.name name

/-- The category of a slug, which is made if there is none. -/
def categoryFor (shop : Shop) (name slug : String) (draws : ListingDraws) : Handler (Shop × UUID) :=
  match lookup Category.slug slug shop.categories with
  | none => pure ({ shop with categories := shop.categories ++ [⟨draws.categoryId, name, slug, true⟩] },
      draws.categoryId)
  | some category => do
    require category.isActive ⟨422, "This category is unavailable"⟩
    pure (shop, category.id)

/-- `POST /stores/{store_id}/products/custom`. -/
def createMerchantProductListing (collation : Collation) (shop : Shop) (subject storeId : UUID)
    (payload : MerchantProductListingCreate) (draws : ListingDraws) : Handler Shop := do
  let user ← getCurrentUser shop.tables subject
  requireRoles user [.merchant, .admin]
  require payload.Valid ⟨422, "MerchantProductListingCreate"⟩
  let store ← found (shop.tables.store? storeId) ⟨404, "Store not found"⟩
  let merchant ← requireStoreOwner shop.tables store user .catalogManage
  require (merchant.any (·.status = .approved)) ⟨403, "Merchant is not approved"⟩
  let name := Text.strip payload.name
  let categoryName := Text.strip payload.categoryName
  let unit := Text.strip payload.unit
  require (name ≠ "" ∧ categoryName ≠ "" ∧ unit ≠ "") ⟨422, "Name, category and unit are required"⟩
  require (∀ mrp ∈ payload.mrp, payload.price ≤ mrp) ⟨422, "MRP must not be below selling price"⟩
  let slug := slugOf (collation.casefold categoryName)
  require (slug ≠ "") ⟨422, "Category must contain Latin letters or digits"⟩
  let (shop, categoryId) ← categoryFor shop categoryName slug draws
  require (listedAs collation shop store.id categoryId unit name = false)
    ⟨409, "This product is already listed in your store; update its inventory instead"⟩
  let price ← storedAmount payload.price
  let mrp ← optionally payload.mrp storedAmount
  let stockQuantity ← storedInteger payload.stockQuantity
  pure ((shop.addProduct ⟨draws.productId, categoryId, name, unit, true⟩).addListing
    ⟨draws.listingId, store.id, draws.productId, price, stockQuantity, decide (0 < stockQuantity)⟩ mrp)

/-- `POST /stores/{store_id}/products`. -/
def upsertStoreProduct (shop : Shop) (subject storeId : UUID) (payload : StoreProductCreate)
    (draws : ListingDraws) : Handler Shop := do
  let store ← editableStore shop.tables subject storeId payload.Valid "StoreProductCreate"
  let _ ← found (lookup Product.id payload.productId shop.tables.catalogue.products)
    ⟨404, "Product not found"⟩
  let edit ← payload.edit
  match listingFor shop.tables store.id payload.productId with
  | some listing => pure (shop.editListing listing edit)
  | none =>
    pure (shop.addListing (edit.row ⟨draws.listingId, store.id, payload.productId, 0, 0, true⟩) edit.mrp.join)

/-- `PATCH /stores/{store_id}/products/{listing_id}`. -/
def updateStoreProduct (shop : Shop) (subject storeId listingId : UUID) (payload : StoreProductUpdate) :
    Handler Shop := do
  let store ← editableStore shop.tables subject storeId payload.Valid "StoreProductUpdate"
  let listing ← found ((lookup StoreProduct.id listingId shop.listings).filter (·.storeId = store.id))
    ⟨404, "Store product not found"⟩
  let edit ← payload.edit
  pure (shop.editListing listing edit)

/-! ## Runs -/

/-- The requests that write listings. -/
inductive ShopRequest where
  | createListing (subject storeId : UUID) (payload : MerchantProductListingCreate) (draws : ListingDraws)
  | upsertListing (subject storeId : UUID) (payload : StoreProductCreate) (draws : ListingDraws)
  | updateListing (subject storeId listingId : UUID) (payload : StoreProductUpdate)
  | checkout (settings : Settings) (subject : UUID) (payload : CheckoutRequest)
      (idempotencyKey : Option String) (orderNumber : String) (draws : Draws)
  | cancelMyOrder (subject orderId : UUID) (draws : Draws)
  | updateOrderStatus (subject orderId : UUID) (status : OrderStatus) (draws : Draws)
  | resolveFailedDelivery (subject deliveryId : UUID) (resolution : Resolution)
      (notes : Option String) (draws : Draws)

/-- What the request commits. -/
def ShopRequest.handle (env : Environment) (collation : Collation) (shop : Shop) :
    ShopRequest → Handler Shop
  | createListing subject storeId payload draws =>
    createMerchantProductListing collation shop subject storeId payload draws
  | upsertListing subject storeId payload draws => upsertStoreProduct shop subject storeId payload draws
  | updateListing subject storeId listingId payload =>
    updateStoreProduct shop subject storeId listingId payload
  | checkout settings subject payload key number draws => do
    let (db, _) ← safeCheckout env settings (.start shop.tables) subject payload key number draws
    pure { shop with tables := db.pending }
  | cancelMyOrder subject orderId draws => do
    let (db, _) ← cancelMyOrderSafely (.start shop.tables) subject orderId draws
    pure { shop with tables := db.pending }
  | updateOrderStatus subject orderId status draws => do
    let (db, _) ← updateOrderStatusSafely (.start shop.tables) subject orderId status draws
    pure { shop with tables := db.pending }
  | resolveFailedDelivery subject deliveryId resolution notes draws => do
    let (db, _) ← GaonOne.resolveFailedDelivery (.start shop.tables) subject deliveryId resolution notes draws
    pure { shop with tables := db.pending }

inductive ShopAction where
  | request (request : ShopRequest)
  /-- A commit of any other request. -/
  | other (after : Shop)

def Shop.commit (shop after : Shop) : Shop := if after.Constraints then after else shop

def Shop.step (env : Environment) (collation : Collation) (shop : Shop) : ShopAction → Shop
  | .request request =>
    match request.handle env collation shop with
    | .ok after => shop.commit after
    | .error _ => shop
  | .other after => shop.commit after

def shopSystem (env : Environment) (collation : Collation) : System Shop ShopAction where
  initial := {}
  step := Shop.step env collation

end GaonOne
