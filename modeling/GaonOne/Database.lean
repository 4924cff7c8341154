import GaonOne.Library.Relational
import GaonOne.Library.UnitOfWork
import GaonOne.Models

/-! The database: its tables, the constraints the migrations declare, and a
committed database as one that satisfies them. A transaction that would break a
constraint cannot commit, so no later proof re-establishes uniqueness. -/
namespace GaonOne
open Relational UnitOfWork

/-- Everything that is not an order's own row: people, places, shelves and
carts. -/
structure Catalogue where
  users : List User := []
  merchants : List Merchant := []
  stores : List Store := []
  products : List Product := []
  storeProducts : List StoreProduct := []
  villages : List Village := []
  serviceAreas : List ServiceArea := []
  addresses : List Address := []
  riderPresences : List RiderPresence := []
  carts : List Cart := []
  cartItems : List CartItem := []
  deriving DecidableEq

structure Tables where
  catalogue : Catalogue := {}
  orders : List Order := []
  orderItems : List OrderItem := []
  deliveries : List Delivery := []
  deliveryProofs : List DeliveryProof := []
  paymentAttempts : List PaymentAttempt := []
  paymentWebhookEvents : List PaymentWebhookEvent := []
  paymentRefunds : List PaymentRefund := []
  settlementEntries : List SettlementEntry := []
  settlementAdjustments : List SettlementAdjustment := []
  codCollections : List CodCollection := []
  deriving DecidableEq

namespace Tables

/-- The primary keys, unique constraints and foreign keys of the tables an
order's life is written to. -/
@[mk_iff]
structure Constraints (db : Tables) : Prop where
  orderIds : Unique Order.id db.orders
  orderNumbers : Unique Order.orderNumber db.orders
  orderKeys : UniqueWhenSet (fun order => order.idempotencyKey.map (order.userId, ·)) db.orders
  deliveryIds : Unique Delivery.id db.deliveries
  deliveryOrders : Unique Delivery.orderId db.deliveries
  deliveryParents : References Delivery.orderId Order.id db.deliveries db.orders
  proofIds : Unique DeliveryProof.id db.deliveryProofs
  proofDeliveries : Unique DeliveryProof.deliveryId db.deliveryProofs
  proofParents : References DeliveryProof.deliveryId Delivery.id db.deliveryProofs db.deliveries
  attemptIds : Unique PaymentAttempt.id db.paymentAttempts
  attemptProviderOrders : UniqueWhenSet PaymentAttempt.providerOrderId db.paymentAttempts
  attemptProviderPayments : UniqueWhenSet PaymentAttempt.providerPaymentId db.paymentAttempts
  attemptParents : References PaymentAttempt.orderId Order.id db.paymentAttempts db.orders
  webhookEventIds : Unique PaymentWebhookEvent.id db.paymentWebhookEvents
  webhookEventKeys : Unique PaymentWebhookEvent.eventKey db.paymentWebhookEvents
  refundIds : Unique PaymentRefund.id db.paymentRefunds
  refundKeys : Unique PaymentRefund.idempotencyKey db.paymentRefunds
  refundProviderRefunds : UniqueWhenSet PaymentRefund.providerRefundId db.paymentRefunds
  refundParents : References PaymentRefund.orderId Order.id db.paymentRefunds db.orders
  settlementIds : Unique SettlementEntry.id db.settlementEntries
  settlementOrders : Unique SettlementEntry.orderId db.settlementEntries
  settlementParents : References SettlementEntry.orderId Order.id db.settlementEntries db.orders
  adjustmentIds : Unique SettlementAdjustment.id db.settlementAdjustments
  adjustmentKeys : Unique SettlementAdjustment.idempotencyKey db.settlementAdjustments
  collectionIds : Unique CodCollection.id db.codCollections
  collectionDeliveries : Unique CodCollection.deliveryId db.codCollections
  collectionOrders : Unique CodCollection.orderId db.codCollections
  listingIds : Unique StoreProduct.id db.catalogue.storeProducts
  listingProducts :
    Unique (fun listing : StoreProduct => (listing.storeId, listing.productId)) db.catalogue.storeProducts
  cartIds : Unique Cart.id db.catalogue.carts
  cartOwners : Unique Cart.userId db.catalogue.carts
  cartItemIds : Unique CartItem.id db.catalogue.cartItems
  cartRows : Unique (fun item : CartItem => (item.cartId, item.storeProductId)) db.catalogue.cartItems
  userIds : Unique User.id db.catalogue.users

instance (db : Tables) : Decidable db.Constraints :=
  decidable_of_iff _ (constraints_iff db).symm

/-! ## Single-row statements -/

def putOrder (order : Order) (db : Tables) : Tables :=
  { db with orders := put Order.id order db.orders }

def putDelivery (delivery : Delivery) (db : Tables) : Tables :=
  { db with deliveries := put Delivery.id delivery db.deliveries }

def putProof (proof : DeliveryProof) (db : Tables) : Tables :=
  { db with deliveryProofs := put DeliveryProof.id proof db.deliveryProofs }

def putAttempt (attempt : PaymentAttempt) (db : Tables) : Tables :=
  { db with paymentAttempts := put PaymentAttempt.id attempt db.paymentAttempts }

def putRefund (refund : PaymentRefund) (db : Tables) : Tables :=
  { db with paymentRefunds := put PaymentRefund.id refund db.paymentRefunds }

def putSettlement (entry : SettlementEntry) (db : Tables) : Tables :=
  { db with settlementEntries := put SettlementEntry.id entry db.settlementEntries }

def putWebhookEvent (event : PaymentWebhookEvent) (db : Tables) : Tables :=
  { db with paymentWebhookEvents := put PaymentWebhookEvent.id event db.paymentWebhookEvents }

def putListing (listing : StoreProduct) (db : Tables) : Tables :=
  { db with catalogue.storeProducts := put StoreProduct.id listing db.catalogue.storeProducts }

def addOrder (order : Order) (db : Tables) : Tables := { db with orders := db.orders ++ [order] }

def addDelivery (delivery : Delivery) (db : Tables) : Tables :=
  { db with deliveries := db.deliveries ++ [delivery] }

def addProof (proof : DeliveryProof) (db : Tables) : Tables :=
  { db with deliveryProofs := db.deliveryProofs ++ [proof] }

def addAttempt (attempt : PaymentAttempt) (db : Tables) : Tables :=
  { db with paymentAttempts := db.paymentAttempts ++ [attempt] }

def addRefund (refund : PaymentRefund) (db : Tables) : Tables :=
  { db with paymentRefunds := db.paymentRefunds ++ [refund] }

def addSettlement (entry : SettlementEntry) (db : Tables) : Tables :=
  { db with settlementEntries := db.settlementEntries ++ [entry] }

def addAdjustment (adjustment : SettlementAdjustment) (db : Tables) : Tables :=
  { db with settlementAdjustments := db.settlementAdjustments ++ [adjustment] }

def addCollection (collection : CodCollection) (db : Tables) : Tables :=
  { db with codCollections := db.codCollections ++ [collection] }

def addWebhookEvent (event : PaymentWebhookEvent) (db : Tables) : Tables :=
  { db with paymentWebhookEvents := db.paymentWebhookEvents ++ [event] }

/-! ## Lookups by primary key -/

def order? (db : Tables) (id : UUID) : Option Order := lookup Order.id id db.orders
def delivery? (db : Tables) (id : UUID) : Option Delivery := lookup Delivery.id id db.deliveries
def attempt? (db : Tables) (id : UUID) : Option PaymentAttempt :=
  lookup PaymentAttempt.id id db.paymentAttempts
def refund? (db : Tables) (id : UUID) : Option PaymentRefund :=
  lookup PaymentRefund.id id db.paymentRefunds
def user? (db : Tables) (id : UUID) : Option User := lookup User.id id db.catalogue.users
def store? (db : Tables) (id : UUID) : Option Store := lookup Store.id id db.catalogue.stores
def merchant? (db : Tables) (id : UUID) : Option Merchant := lookup Merchant.id id db.catalogue.merchants

end Tables

/-- A committed database satisfies every constraint. -/
structure Database where
  tables : Tables
  constraints : tables.Constraints

namespace Database

def empty : Database := ⟨{}, by decide⟩

/-- `db.commit()`: the pending changes become the database, unless they break
a constraint, in which case the request fails and the last commit stands. -/
def commit (database : Database) (pending : Tables) : Database :=
  if kept : pending.Constraints then ⟨pending, kept⟩ else database

theorem commit_tables (database : Database) (pending : Tables) :
    (database.commit pending).tables = pending ∨ database.commit pending = database := by
  unfold commit
  split
  · exact Or.inl rfl
  · exact Or.inr rfl

end Database
end GaonOne
