import Mathlib.Data.List.Sort
import GaonOne.Access

/-! Stock restoration for orders that will never be fulfilled. The timestamp on
the order is the guard that makes it happen once. -/
namespace GaonOne
open Relational UnitOfWork

/-- The items of an order, by product. -/
def orderedItems (db : Tables) (order : Order) : List OrderItem :=
  (belonging OrderItem.orderId order.id db.orderItems).insertionSort
    fun left right => left.productId.toNat ≤ right.productId.toNat

/-- The store's listing of a product. -/
def listingFor (db : Tables) (storeId productId : UUID) : Option StoreProduct :=
  lookup (fun listing : StoreProduct => (listing.storeId, listing.productId)) (storeId, productId)
    db.catalogue.storeProducts

/-- Only the sold-out flag that checkout set is undone. A listing the merchant
switched off stays off. -/
def creditListing (listing : StoreProduct) (quantity : Int) : StoreProduct :=
  { listing with
    stockQuantity := listing.stockQuantity + quantity
    isAvailable := listing.isAvailable || decide (listing.stockQuantity = 0) }

/-- The loop of `restore_order_stock_once`, one item after another. -/
def creditItems (storeId : UUID) : List OrderItem → DbSession → Handler DbSession
  | [], db => pure db
  | item :: items, db => do
    let listing ← found (listingFor db.pending storeId item.productId)
      ⟨409, "Order inventory reference is missing"⟩
    creditItems storeId items (db.write (·.putListing (creditListing listing item.quantity)))

/-- Returns the order with its guard set; an order already restored is left alone. -/
def restoreOrderStockOnce (db : DbSession) (order : Order) (now : Instant) :
    Handler (DbSession × Order) :=
  if order.stockRestoredAt.isSome then pure (db, order)
  else do
    let db ← creditItems order.storeId (orderedItems db.flushed order) db
    let order := { order with stockRestoredAt := some now }
    pure (db.write (·.putOrder order), order)

end GaonOne
