import GaonOne.CartDiscipline

/-! Stock, on the shelf and in orders. What a listing has in stock and what orders that
were not put back took of it add up to one number, whichever checkouts, cancellations
and returns commit in between. -/
namespace GaonOne
open Relational UnitOfWork ReadCommitted

/-- The requests that move stock, and those that fill carts. -/
inductive ShelfRequest where
  | cart (request : CartRequest)
  | cancelMyOrder (subject orderId : UUID) (draws : Draws)
  | updateOrderStatus (subject orderId : UUID) (status : OrderStatus) (draws : Draws)
  | resolveFailedDelivery (subject deliveryId : UUID) (resolution : Resolution)
      (notes : Option String) (draws : Draws)

def ShelfRequest.program (env : Environment) (settings : Settings) :
    ShelfRequest → Statements (Option Order)
  | cart request => request.program env settings
  | cancelMyOrder subject orderId draws => Statement.cancelMyOrderSafely subject orderId draws
  | updateOrderStatus subject orderId status draws =>
    Statement.updateOrderStatusSafely subject orderId status draws
  | resolveFailedDelivery subject deliveryId resolution notes draws =>
    Statement.resolveFailedDelivery subject deliveryId resolution notes draws

/-- What the database enforces of carts, orders and their items. -/
@[mk_iff]
structure ShelfConstraints (db : Tables) : Prop where
  carts : CartConstraints db
  itemOrders : References OrderItem.orderId Order.id db.orderItems db.orders

instance (db : Tables) : Decidable (ShelfConstraints db) :=
  decidable_of_iff _ (shelfConstraints_iff db).symm

def shelfService (env : Environment) (settings : Settings) :
    Service Market RowLock Note HTTPException (Option Order) ShelfRequest where
  program := ShelfRequest.program env settings
  conflicts := RowLock.conflicts
  symmetric := RowLock.conflicts_symm
  valid market := ShelfConstraints market.tables
  decideConflicts := inferInstance
  decideValid _ := inferInstance

/-! ## Counting -/

/-- An order of the store that was not put back. -/
def holdsStock (db : Tables) (storeId orderId : UUID) : Prop :=
  ((db.order? orderId).any fun order => order.storeId = storeId ∧ order.stockRestoredAt = none) = true

instance (db : Tables) (storeId orderId : UUID) : Decidable (holdsStock db storeId orderId) :=
  inferInstanceAs (Decidable (_ = true))

/-- What orders that were not put back took of a store's product. -/
def outstanding (db : Tables) (storeId productId : UUID) : Int :=
  (db.orderItems.map fun item =>
    if item.productId = productId ∧ holdsStock db storeId item.orderId then item.quantity else 0).sum

/-- A listing's stock, on the shelf and in orders. -/
def accounted (db : Tables) (listing : StoreProduct) : Int :=
  listing.stockQuantity + outstanding db listing.storeId listing.productId

/-- What some items take of a product. -/
def demand (items : List OrderItem) (productId : UUID) : Int :=
  (items.map fun item => if item.productId = productId then item.quantity else 0).sum

theorem demand_perm (perm : items.Perm others) (productId : UUID) :
    demand items productId = demand others productId :=
  (perm.map _).sum_eq

theorem demand_eq_zero (none : ∀ item ∈ items, item.productId ≠ productId) :
    demand items productId = 0 := by
  induction items with
  | nil => rfl
  | cons item items ih =>
    have rest := ih fun other inside => none other (List.mem_cons_of_mem _ inside)
    simp only [demand, List.map_cons, List.sum_cons] at rest ⊢
    rw [if_neg (none item List.mem_cons_self), rest]
    rfl

theorem demand_nonneg (amounts : ∀ item ∈ items, 0 ≤ item.quantity) (productId : UUID) :
    0 ≤ demand items productId := by
  induction items with
  | nil => exact le_rfl
  | cons item items ih =>
    have rest := ih fun other inside => amounts other (List.mem_cons_of_mem _ inside)
    have first := amounts item List.mem_cons_self
    simp only [demand, List.map_cons, List.sum_cons] at rest ⊢
    split <;> omega

/-- Orders that hold stock before and after count the same. -/
theorem outstanding_congr {before after : Tables} {storeId productId : UUID} (items : after.orderItems = before.orderItems)
    (holds : ∀ item ∈ before.orderItems,
      (holdsStock after storeId item.orderId ↔ holdsStock before storeId item.orderId)) :
    outstanding after storeId productId = outstanding before storeId productId := by
  unfold outstanding
  rw [items]
  refine congrArg List.sum (List.map_congr_left fun item inside => ?_)
  simp only [holds item inside]

/-- Where an order is put back, its items no longer count. -/
theorem outstanding_released {before after : Tables} {orderId : UUID}
    (items : after.orderItems = before.orderItems)
    (others : ∀ id, id ≠ orderId → (holdsStock after storeId id ↔ holdsStock before storeId id))
    (held : holdsStock before storeId orderId) (released : ¬holdsStock after storeId orderId) :
    outstanding after storeId productId + demand (belonging OrderItem.orderId orderId before.orderItems)
      productId = outstanding before storeId productId := by
  unfold outstanding demand belonging
  rw [items]
  induction before.orderItems with
  | nil => rfl
  | cons item rest ih =>
    rw [List.filter_cons]
    by_cases own : item.orderId = orderId
    · simp only [own, decide_true, if_true, List.map_cons, List.sum_cons, released, held, and_false,
        and_true, if_false]
      omega
    · simp only [own, decide_false, Bool.false_eq_true, if_false, List.map_cons, List.sum_cons,
        others item.orderId own]
      omega

/-- Where an order is placed, its lines count for its store. -/
theorem outstanding_placed {before after : Tables} {order : Order}
    (references : References OrderItem.orderId Order.id before.orderItems before.orders)
    (ids : Unique Order.id after.orders) (orders : after.orders = before.orders ++ [order])
    (items : after.orderItems = before.orderItems ++ lines)
    (own : ∀ line ∈ lines, line.orderId = order.id) (unset : order.stockRestoredAt = none) :
    outstanding after storeId productId = outstanding before storeId productId +
      if order.storeId = storeId then demand lines productId else 0 := by
  have fresh : ∀ old ∈ before.orders, old.id ≠ order.id := by
    rw [orders, unique_append] at ids
    exact ids.2
  have placed : after.order? order.id = some order := by
    rw [Tables.order?, orders, lookup_append_fresh fresh, if_pos rfl]
  have others : ∀ item ∈ before.orderItems,
      (holdsStock after storeId item.orderId ↔ holdsStock before storeId item.orderId) := by
    intro item inside
    obtain ⟨parent, held, same⟩ := references item inside
    have differ : ¬order.id = item.orderId := fun agree => fresh parent held (same.trans agree.symm)
    rw [holdsStock, holdsStock, Tables.order?, orders, lookup_append_fresh fresh, if_neg differ,
      Tables.order?]
  unfold outstanding
  rw [items, List.map_append, List.sum_append]
  congr 1
  · refine congrArg List.sum (List.map_congr_left fun item inside => ?_)
    simp only [others item inside]
  · have holds : holdsStock after storeId order.id ↔ order.storeId = storeId := by
      rw [holdsStock, placed]
      simp [unset]
    split
    · next same =>
      refine congrArg List.sum (List.map_congr_left fun line inside => ?_)
      simp only [own line inside, holds, same, and_true]
    · next differ =>
      refine List.sum_eq_zero fun amount inside => ?_
      obtain ⟨line, there, rfl⟩ := List.mem_map.mp inside
      exact if_neg fun both => differ (holds.mp (own line there ▸ both.2))

/-! ## What is relied on -/

/-- Listings and orders stay what they are, and the items of an order stay; the stock of
a locked listing and the marker of a locked order stay too. -/
structure ShelvesRely (held : List RowLock) (before after : Tables) : Prop where
  listings : ∀ listing ∈ before.catalogue.storeProducts, ∃ now ∈ after.catalogue.storeProducts,
    SameListing now listing ∧
      ((Row.listing listing.id).forUpdate ∈ held → now.stockQuantity = listing.stockQuantity)
  orders : ∀ order ∈ before.orders, ∃ now ∈ after.orders, now.id = order.id ∧
    now.storeId = order.storeId ∧
      ((Row.order order.id).forUpdate ∈ held → now.stockRestoredAt = order.stockRestoredAt)
  items : ∀ order ∈ before.orders, belonging OrderItem.orderId order.id after.orderItems =
    belonging OrderItem.orderId order.id before.orderItems

theorem ShelvesRely.refl (held : List RowLock) (db : Tables) : ShelvesRely held db db where
  listings listing inside := ⟨listing, inside, .refl listing, fun _ => rfl⟩
  orders order inside := ⟨order, inside, rfl, rfl, fun _ => rfl⟩
  items _ _ := rfl

theorem ShelvesRely.trans (first : ShelvesRely held before middle)
    (second : ShelvesRely held middle after) : ShelvesRely held before after where
  listings listing inside := by
    obtain ⟨between, there, same, stock⟩ := first.listings listing inside
    obtain ⟨now, last, again, stays⟩ := second.listings between there
    refine ⟨now, last, again.trans same, fun locked => ?_⟩
    exact (stays (same.id.symm ▸ locked)).trans (stock locked)
  orders order inside := by
    obtain ⟨between, there, same, store, marker⟩ := first.orders order inside
    obtain ⟨now, last, again, kept, stays⟩ := second.orders between there
    refine ⟨now, last, again.trans same, kept.trans store, fun locked => ?_⟩
    exact (stays (same.symm ▸ locked)).trans (marker locked)
  items order inside := by
    obtain ⟨between, there, same, -⟩ := first.orders order inside
    exact (same ▸ second.items between there).trans (first.items order inside)

/-- Fewer locks, less to rely on. -/
theorem ShelvesRely.mono (rely : ShelvesRely held before after) (fewer : ∀ row ∈ less, row ∈ held) :
    ShelvesRely less before after where
  listings listing inside := by
    obtain ⟨now, there, same, stock⟩ := rely.listings listing inside
    exact ⟨now, there, same, fun locked => stock (fewer _ locked)⟩
  orders order inside := by
    obtain ⟨now, there, same, store, marker⟩ := rely.orders order inside
    exact ⟨now, there, same, store, fun locked => marker (fewer _ locked)⟩
  items := rely.items

/-- Stock and quantities are not negative, and the orders whose stock was put back are
those with the marker, each once. -/
structure StockSound (market : Market) : Prop where
  stocked : ∀ listing ∈ market.tables.catalogue.storeProducts, 0 ≤ listing.stockQuantity
  ordered : ∀ item ∈ market.tables.orderItems, 0 ≤ item.quantity
  wanted : ∀ item ∈ market.tables.catalogue.cartItems, 0 ≤ item.quantity
  once : market.restored.Nodup
  known : ∀ orderId ∈ market.restored, ∃ order ∈ market.tables.orders, order.id = orderId
  marked : ∀ order ∈ market.tables.orders, order.id ∈ market.restored ↔ order.stockRestoredAt ≠ none

/-- No listing's account changes. -/
def Conserves (before after : Tables) : Prop :=
  ∀ listing ∈ before.catalogue.storeProducts, ∃ now ∈ after.catalogue.storeProducts,
    SameListing now listing ∧ accounted after now = accounted before listing

theorem Conserves.refl (db : Tables) : Conserves db db :=
  fun listing inside => ⟨listing, inside, .refl listing, rfl⟩

theorem Conserves.trans (first : Conserves before middle) (second : Conserves middle after) :
    Conserves before after := by
  intro listing inside
  obtain ⟨between, there, same, equal⟩ := first listing inside
  obtain ⟨now, last, again, equal'⟩ := second between there
  exact ⟨now, last, again.trans same, equal'.trans equal⟩

def stockDiscipline : Discipline Market RowLock Note where
  invariant market := ShelfConstraints market.tables ∧ StockSound market
  guarantee before after := Conserves before.tables after.tables
  rely held _ before after := ShelvesRely held before.tables after.tables
  refl held _ market := .refl held market.tables
  trans := .trans
  weaken rely := rely.mono fun _ => List.mem_cons_of_mem _
  admits _ _ := True
  apart first second := ∀ row ∈ first.held, ∀ other ∈ second.held, ¬row.conflicts other

end GaonOne
