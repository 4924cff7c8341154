import GaonOne.Access

/-! The order, delivery and store a support ticket may name. A requester other than an
administrator learns about their own resources only: what names somebody else's is
answered as what names nothing. -/
namespace GaonOne
open Relational UnitOfWork

structure TicketCreate where
  subject : String
  description : String
  storeId : Option UUID
  orderId : Option UUID
  deliveryId : Option UUID
  idempotencyKey : Option UUID
  deriving DecidableEq

def TicketCreate.hasReference (payload : TicketCreate) : Bool :=
  payload.storeId.isSome || payload.orderId.isSome || payload.deliveryId.isSome

/-- The rows a payload names, and the order of the delivery it names. -/
structure ReferencedRows where
  explicitOrder : Option Order
  explicitDelivery : Option Delivery
  deliveryOrder : Option Order
  explicitStore : Option Store
  deriving DecidableEq

def linkedContextMissing : HTTPException := ⟨404, "Linked support context not found"⟩

def missing (user : User) (resource : String) : HTTPException :=
  if user.role = .admin then ⟨404, resource ++ " not found"⟩ else linkedContextMissing

/-- `db.get(...) if id else None`; an id that names nothing is `missing`. -/
def explicitRow (get : UUID → Option ρ) (user : User) (resource : String) :
    Option UUID → Handler (Option ρ)
  | none => pure none
  | some id => do
    let row ← found (get id) (missing user resource)
    pure (some row)

def referencedRows (db : Tables) (payload : TicketCreate) (user : User) : Handler ReferencedRows := do
  let explicitOrder ← explicitRow db.order? user "Order" payload.orderId
  let explicitDelivery ← explicitRow db.delivery? user "Delivery" payload.deliveryId
  let deliveryOrder ← explicitRow db.order? user "Delivery" (explicitDelivery.map Delivery.orderId)
  let explicitStore ← explicitRow db.store? user "Store" payload.storeId
  pure { explicitOrder, explicitDelivery, deliveryOrder, explicitStore }

namespace ReferencedRows

/-- `authorized_orders`: what is not `None` of the two. -/
def orders (rows : ReferencedRows) : List Order :=
  rows.explicitOrder.toList ++ rows.deliveryOrder.toList

/-- The delivery is one of another order. -/
def ordersDiffer (rows : ReferencedRows) : Bool :=
  rows.explicitOrder.any fun order => rows.deliveryOrder.any fun other => order.id ≠ other.id

/-- `referenced_stores`: the store named, and those of the orders. -/
def stores (db : Tables) (rows : ReferencedRows) : List Store :=
  rows.explicitStore.toList ++
    (rows.explicitOrder.bind fun order => db.store? order.storeId).toList ++
    (rows.deliveryOrder.bind fun order => db.store? order.storeId).toList

def customerRefused (user : User) (rows : ReferencedRows) : Bool :=
  rows.orders.isEmpty || rows.orders.any (fun order => order.userId ≠ user.id) ||
    rows.ordersDiffer ||
    rows.explicitStore.any fun store => rows.orders.any fun order => order.storeId ≠ store.id

def merchantRefused (db : Tables) (user : User) (rows : ReferencedRows) : Bool :=
  match lookup Merchant.ownerUserId user.id db.catalogue.merchants with
  | none => true
  | some merchant =>
    (rows.stores db).isEmpty || (rows.stores db).any fun store => store.merchantId ≠ merchant.id

def riderRefused (user : User) (rows : ReferencedRows) : Bool :=
  !rows.explicitDelivery.any (fun delivery => delivery.deliveryPartnerId = some user.id) ||
    rows.ordersDiffer ||
    rows.explicitStore.any fun store => rows.deliveryOrder.any fun order => store.id ≠ order.storeId

/-- Whether the requester may not be told about these rows. -/
def refused (db : Tables) (user : User) (rows : ReferencedRows) : Bool :=
  match user.role with
  | .customer => rows.customerRefused user
  | .merchant => rows.merchantRefused db user
  | .delivery => rows.riderRefused user
  | .admin => false

/-- Relationship errors, revealed only of rows that belong to the requester context. -/
def related (db : Tables) (rows : ReferencedRows) :
    Handler (Option Order × Option Delivery × Option Store) := do
  require (rows.ordersDiffer = false) ⟨422, "Delivery does not belong to the referenced order"⟩
  let order := rows.explicitOrder <|> rows.deliveryOrder
  require ((rows.explicitStore.any fun store => order.any fun order => order.storeId ≠ store.id) = false)
    ⟨422, "Order does not belong to the referenced store"⟩
  let store := rows.explicitStore <|> order.bind fun order => db.store? order.storeId
  require (¬(order.isSome ∧ store.isNone)) linkedContextMissing
  pure (order, rows.explicitDelivery, store)

end ReferencedRows

/-- `_validate_references`: the order, delivery and store a ticket is about. -/
def validateReferences (db : Tables) (payload : TicketCreate) (user : User) :
    Handler (Option Order × Option Delivery × Option Store) := do
  ensureAdminCapability user .supportManage
  let rows ← referencedRows db payload user
  require (¬(payload.hasReference ∧ rows.refused db user)) linkedContextMissing
  rows.related db

/-! ## What is the requester's own -/

/-- The stores of a merchant, and those a rider collects from. -/
def OwnStore (db : Tables) (user : User) (store : Store) : Prop :=
  db.store? store.id = some store ∧
    match user.role with
    | .merchant => ∃ merchant,
        lookup Merchant.ownerUserId user.id db.catalogue.merchants = some merchant ∧
          store.merchantId = merchant.id
    | .delivery => ∃ delivery order, db.delivery? delivery.id = some delivery ∧
        delivery.deliveryPartnerId = some user.id ∧ db.order? delivery.orderId = some order ∧
          order.storeId = store.id
    | _ => False

/-- The orders a customer placed, those of a merchant's stores, and those a rider delivers. -/
def OwnOrder (db : Tables) (user : User) (order : Order) : Prop :=
  db.order? order.id = some order ∧
    match user.role with
    | .customer => order.userId = user.id
    | .merchant => ∃ store, db.store? order.storeId = some store ∧ OwnStore db user store
    | .delivery => ∃ delivery, db.delivery? delivery.id = some delivery ∧
        delivery.deliveryPartnerId = some user.id ∧ delivery.orderId = order.id
    | .admin => False

/-- The deliveries assigned to a rider, and those of somebody else's own orders. -/
def OwnDelivery (db : Tables) (user : User) (delivery : Delivery) : Prop :=
  db.delivery? delivery.id = some delivery ∧
    match user.role with
    | .delivery => delivery.deliveryPartnerId = some user.id
    | _ => ∃ order, db.order? delivery.orderId = some order ∧ OwnOrder db user order

/-- Two databases that differ in other people's resources only. -/
structure SameOwn (user : User) (left right : Tables) : Prop where
  merchant : lookup Merchant.ownerUserId user.id left.catalogue.merchants =
    lookup Merchant.ownerUserId user.id right.catalogue.merchants
  stores : ∀ store, OwnStore left user store ↔ OwnStore right user store
  orders : ∀ order, OwnOrder left user order ↔ OwnOrder right user order
  deliveries : ∀ delivery, OwnDelivery left user delivery ↔ OwnDelivery right user delivery

theorem SameOwn.symm (same : SameOwn user left right) : SameOwn user right left where
  merchant := same.merchant.symm
  stores := fun store => (same.stores store).symm
  orders := fun order => (same.orders order).symm
  deliveries := fun delivery => (same.deliveries delivery).symm

/-- `orders.store_id REFERENCES stores.id`. -/
def OrdersHaveStores (db : Tables) : Prop :=
  References Order.storeId Store.id db.orders db.catalogue.stores

theorem OrdersHaveStores.store (kept : OrdersHaveStores db) (held : db.order? key = some order) :
    ∃ store, db.store? order.storeId = some store := by
  obtain ⟨parent, listed, same⟩ := kept order (lookup_mem held)
  cases stored : db.store? order.storeId with
  | some store => exact ⟨store, rfl⟩
  | none => exact absurd same (lookup_eq_none_iff.mp stored parent listed)

/-! ## Which rows pass -/

/-- What `db.get(...) if id else None` answers, when it does not raise. -/
inductive Fetched (get : UUID → Option ρ) : Option UUID → Option ρ → Prop where
  | unnamed : Fetched get none none
  | stored (held : get key = some row) : Fetched get (some key) (some row)

theorem explicitRow_ok {get : UUID → Option ρ} {key : Option UUID} {row : Option ρ} :
    explicitRow get user resource key = .ok row ↔ Fetched get key row := by
  constructor
  · intro answered
    cases key with
    | none =>
      cases answered
      exact .unnamed
    | some key =>
      obtain ⟨stored, held, same⟩ := (found_bind_ok ..).mp answered
      cases same
      exact .stored held
  · rintro (_ | held)
    · rfl
    · exact (found_bind_ok ..).mpr ⟨_, held, rfl⟩

/-- The rows a payload names are in the database. -/
structure Names (db : Tables) (payload : TicketCreate) (rows : ReferencedRows) : Prop where
  order : Fetched db.order? payload.orderId rows.explicitOrder
  delivery : Fetched db.delivery? payload.deliveryId rows.explicitDelivery
  deliveryOrder : Fetched db.order? (rows.explicitDelivery.map Delivery.orderId) rows.deliveryOrder
  store : Fetched db.store? payload.storeId rows.explicitStore

theorem referencedRows_ok : referencedRows db payload user = .ok rows ↔ Names db payload rows := by
  unfold referencedRows
  simp only [bind_ok, explicitRow_ok, pure_ok]
  constructor
  · rintro ⟨order, named, delivery, carried, parent, belongs, store, sold, rfl⟩
    exact ⟨named, carried, belongs, sold⟩
  · rintro ⟨named, carried, belongs, sold⟩
    exact ⟨_, named, _, carried, _, belongs, _, sold, rfl⟩

/-- The rows exist, and the requester may be told about them. -/
structure Authorized (db : Tables) (payload : TicketCreate) (user : User) (rows : ReferencedRows) :
    Prop where
  names : Names db payload rows
  admitted : payload.hasReference → rows.refused db user = false

theorem explicitRow_missing {get : UUID → Option ρ} {key : Option UUID} (ordinary : user.role ≠ .admin)
    (raised : explicitRow get user resource key = .error error) : error = linkedContextMissing := by
  cases key with
  | none => cases raised
  | some key =>
    cases held : get key with
    | some row => simp [explicitRow, held, found] at raised
    | none =>
      simp [explicitRow, held, found, missing, ordinary, bind, Except.bind] at raised
      exact raised.symm

theorem validateReferences_ordinary (ordinary : user.role ≠ .admin) :
    validateReferences db payload user = (do
      let rows ← referencedRows db payload user
      require (¬(payload.hasReference ∧ rows.refused db user)) linkedContextMissing
      rows.related db) := by
  unfold validateReferences ensureAdminCapability
  rw [if_neg ordinary]
  rfl

/-- What passes is answered by how the rows relate. -/
theorem validateReferences_authorized (ordinary : user.role ≠ .admin)
    (passes : Authorized db payload user rows) :
    validateReferences db payload user = rows.related db := by
  have admitted : ¬(payload.hasReference ∧ rows.refused db user) := by
    rintro ⟨named, refused⟩
    rw [passes.admitted named] at refused
    cases refused
  rw [validateReferences_ordinary ordinary, referencedRows_ok.mpr passes.names]
  simp only [require, if_pos admitted, bind, Except.bind]

/-- Whatever keeps the rows from passing, the answer is the same. -/
theorem validateReferences_refused (ordinary : user.role ≠ .admin)
    (fails : ∀ rows, ¬Authorized db payload user rows) :
    validateReferences db payload user = .error linkedContextMissing := by
  rw [validateReferences_ordinary ordinary]
  cases answered : referencedRows db payload user with
  | ok rows =>
    have names := referencedRows_ok.mp answered
    have refused : payload.hasReference ∧ rows.refused db user := by
      by_contra admitted
      refine fails rows ⟨names, fun named => ?_⟩
      exact Bool.eq_false_iff.mpr fun refused => admitted ⟨named, refused⟩
    simp only [require, if_neg (not_not.mpr refused), bind, Except.bind]
  | error error =>
    have same : error = linkedContextMissing := by
      simp only [referencedRows, bind_error] at answered
      rcases answered with raised | ⟨_, _, raised | ⟨_, _, raised | ⟨_, _, raised | ⟨_, _, raised⟩⟩⟩⟩
      · exact explicitRow_missing ordinary raised
      · exact explicitRow_missing ordinary raised
      · exact explicitRow_missing ordinary raised
      · exact explicitRow_missing ordinary raised
      · cases raised
    simp only [same, bind, Except.bind]

/-! ## What passes is the requester's own -/

namespace ReferencedRows

theorem mem_orders {rows : ReferencedRows} :
    order ∈ rows.orders ↔ rows.explicitOrder = some order ∨ rows.deliveryOrder = some order := by
  simp [orders]

theorem ordersDiffer_eq_false {rows : ReferencedRows} : rows.ordersDiffer = false ↔
    ∀ order other, rows.explicitOrder = some order → rows.deliveryOrder = some other →
      order.id = other.id := by
  simp [ordersDiffer, Option.any_eq_false]
  grind

theorem mem_stores {rows : ReferencedRows} : store ∈ rows.stores db ↔
    rows.explicitStore = some store ∨ ∃ order ∈ rows.orders, db.store? order.storeId = some store := by
  simp only [stores, List.mem_append, Option.mem_toList, Option.bind_eq_some_iff, mem_orders]
  grind

/-- The conditions under which a customer may be told. -/
structure CustomerPasses (user : User) (rows : ReferencedRows) : Prop where
  nonempty : rows.orders ≠ []
  placed : ∀ order ∈ rows.orders, order.userId = user.id
  agree : rows.ordersDiffer = false
  sold : ∀ store, rows.explicitStore = some store → ∀ order ∈ rows.orders, order.storeId = store.id

theorem customerRefused_eq_false {rows : ReferencedRows} :
    rows.customerRefused user = false ↔ rows.CustomerPasses user := by
  simp only [customerRefused, Bool.or_eq_false_iff, List.isEmpty_eq_false_iff, List.any_eq_false,
    Option.any_eq_false, decide_eq_true_eq, not_not]
  constructor
  · rintro ⟨⟨⟨nonempty, placed⟩, agree⟩, sold⟩
    exact ⟨nonempty, placed, agree, by simpa using sold⟩
  · rintro ⟨nonempty, placed, agree, sold⟩
    exact ⟨⟨⟨nonempty, placed⟩, agree⟩, by simpa using sold⟩

theorem merchantRefused_eq_false {rows : ReferencedRows} :
    rows.merchantRefused db user = false ↔ ∃ merchant,
      lookup Merchant.ownerUserId user.id db.catalogue.merchants = some merchant ∧
        rows.stores db ≠ [] ∧ ∀ store ∈ rows.stores db, store.merchantId = merchant.id := by
  unfold merchantRefused
  split
  · next missing => simp [missing]
  · next merchant held => simp [held]

structure RiderPasses (user : User) (rows : ReferencedRows) : Prop where
  assigned : ∃ delivery, rows.explicitDelivery = some delivery ∧
    delivery.deliveryPartnerId = some user.id
  agree : rows.ordersDiffer = false
  collected : ∀ store, rows.explicitStore = some store →
    ∀ order, rows.deliveryOrder = some order → store.id = order.storeId

theorem riderRefused_eq_false {rows : ReferencedRows} :
    rows.riderRefused user = false ↔ rows.RiderPasses user := by
  simp only [riderRefused, Bool.or_eq_false_iff, Bool.not_eq_false', Option.any_eq_true,
    Option.any_eq_false, decide_eq_true_eq]
  constructor
  · rintro ⟨⟨assigned, agree⟩, collected⟩
    exact ⟨assigned, agree, by simpa using collected⟩
  · rintro ⟨assigned, agree, collected⟩
    exact ⟨⟨assigned, agree⟩, by simpa using collected⟩

end ReferencedRows

/-! ### The rows themselves -/

section
variable {db left right : Tables} {payload : TicketCreate} {user : User} {rows : ReferencedRows}

theorem Fetched.held {get : UUID → Option ρ} {col : ρ → UUID} (keys : ∀ key row, get key = some row → col row = key)
    (fetched : Fetched get key (some row)) : get (col row) = some row ∧ key = some (col row) := by
  cases fetched with
  | stored held =>
    cases keys _ _ held
    exact ⟨held, rfl⟩

theorem order_key (key : UUID) (order : Order) (held : db.order? key = some order) : order.id = key :=
  lookup_col held

theorem delivery_key (key : UUID) (delivery : Delivery) (held : db.delivery? key = some delivery) :
    delivery.id = key :=
  lookup_col held

theorem store_key (key : UUID) (store : Store) (held : db.store? key = some store) : store.id = key :=
  lookup_col held

theorem Fetched.eq_none {get : UUID → Option ρ} (fetched : Fetched get none row) : row = none := by
  cases fetched
  rfl

/-- Every order in play is stored. -/
theorem Names.held {order : Order} (names : Names db payload rows) (listed : order ∈ rows.orders) :
    db.order? order.id = some order := by
  rcases ReferencedRows.mem_orders.mp listed with named | belongs
  · exact ((named ▸ names.order).held order_key).1
  · exact ((belongs ▸ names.deliveryOrder).held order_key).1

/-- A delivery comes with its order. -/
theorem Names.carries {delivery : Delivery} (names : Names db payload rows)
    (carried : rows.explicitDelivery = some delivery) :
    db.delivery? delivery.id = some delivery ∧ payload.deliveryId = some delivery.id ∧
      ∃ order, rows.deliveryOrder = some order ∧ db.order? delivery.orderId = some order := by
  obtain ⟨stored, key⟩ := (carried ▸ names.delivery).held delivery_key
  refine ⟨stored, key, ?_⟩
  have parent := names.deliveryOrder
  rw [carried] at parent
  cases belongs : rows.deliveryOrder with
  | none =>
    rw [belongs] at parent
    cases parent
  | some order =>
    rw [belongs] at parent
    cases parent with
    | stored held => exact ⟨order, rfl, held⟩

/-- Without a reference there are no rows. -/
theorem Names.nothing (names : Names db payload rows) (unnamed : payload.hasReference = false) :
    rows = ⟨none, none, none, none⟩ := by
  simp only [TicketCreate.hasReference, Bool.or_eq_false_iff, Option.isSome_eq_false_iff,
    Option.isNone_iff_eq_none] at unnamed
  obtain ⟨order, delivery, deliveryOrder, store⟩ := names
  obtain ⟨⟨noStore, noOrder⟩, noDelivery⟩ := unnamed
  rw [noOrder] at order
  rw [noDelivery] at delivery
  rw [noStore] at store
  rw [delivery.eq_none] at deliveryOrder
  cases rows
  simp only [ReferencedRows.mk.injEq]
  exact ⟨order.eq_none, delivery.eq_none, deliveryOrder.eq_none, store.eq_none⟩

/-- Orders that pass are the requester's own. -/
theorem Authorized.own_order {order : Order} (ordinary : user.role ≠ .admin) (stores : OrdersHaveStores db)
    (passes : Authorized db payload user rows) (listed : order ∈ rows.orders) :
    OwnOrder db user order := by
  have held := passes.names.held listed
  have named : payload.hasReference = true := by
    by_contra unnamed
    have nothing := passes.names.nothing (Bool.eq_false_iff.mpr unnamed)
    rw [nothing] at listed
    cases listed
  have admitted := passes.admitted named
  refine ⟨held, ?_⟩
  unfold ReferencedRows.refused at admitted
  cases role : user.role with
  | customer =>
    rw [role] at admitted
    exact (ReferencedRows.customerRefused_eq_false.mp admitted).placed order listed
  | merchant =>
    rw [role] at admitted
    obtain ⟨merchant, owner, -, owned⟩ := ReferencedRows.merchantRefused_eq_false.mp admitted
    obtain ⟨store, sold⟩ := stores.store held
    have mine := owned store (ReferencedRows.mem_stores.mpr (.inr ⟨order, listed, sold⟩))
    refine ⟨store, sold, ?_, ?_⟩
    · rw [store_key _ _ sold]
      exact sold
    · rw [role]
      exact ⟨merchant, owner, mine⟩
  | delivery =>
    rw [role] at admitted
    obtain ⟨⟨delivery, carried, assigned⟩, agree, -⟩ := ReferencedRows.riderRefused_eq_false.mp admitted
    obtain ⟨stored, -, other, belongs, parent⟩ := passes.names.carries carried
    have same : order.id = other.id := by
      rcases ReferencedRows.mem_orders.mp listed with explicit | derived
      · exact ReferencedRows.ordersDiffer_eq_false.mp agree order other explicit belongs
      · rw [Option.some.inj (derived.symm.trans belongs)]
    refine ⟨delivery, stored, assigned, ?_⟩
    rw [same]
    exact (order_key _ _ parent).symm
  | admin => exact ordinary role

/-- So are the deliveries. -/
theorem Authorized.own_delivery {delivery : Delivery} (ordinary : user.role ≠ .admin)
    (stores : OrdersHaveStores db) (passes : Authorized db payload user rows)
    (carried : rows.explicitDelivery = some delivery) : OwnDelivery db user delivery := by
  obtain ⟨stored, key, order, belongs, parent⟩ := passes.names.carries carried
  have named : payload.hasReference = true := by simp [TicketCreate.hasReference, key]
  have admitted := passes.admitted named
  have own := passes.own_order ordinary stores (ReferencedRows.mem_orders.mpr (.inr belongs))
  refine ⟨stored, ?_⟩
  by_cases rider : user.role = .delivery
  · unfold ReferencedRows.refused at admitted
    rw [rider] at admitted ⊢
    obtain ⟨⟨other, carries, assigned⟩, -⟩ := ReferencedRows.riderRefused_eq_false.mp admitted
    cases carried.symm.trans carries
    exact assigned
  · cases role : user.role with
    | delivery => exact absurd role rider
    | _ => exact ⟨order, parent, own⟩

/-- And the stores, except that a customer owns none. -/
theorem Authorized.own_store {store : Store} (ordinary : user.role ≠ .admin)
    (passes : Authorized db payload user rows) (sold : rows.explicitStore = some store)
    (keeper : user.role ≠ .customer) : OwnStore db user store := by
  have stored := (sold ▸ passes.names.store).held store_key
  have named : payload.hasReference = true := by simp [TicketCreate.hasReference, stored.2]
  have admitted := passes.admitted named
  refine ⟨stored.1, ?_⟩
  unfold ReferencedRows.refused at admitted
  cases role : user.role with
  | customer => exact absurd role keeper
  | merchant =>
    rw [role] at admitted
    obtain ⟨merchant, owner, -, owned⟩ := ReferencedRows.merchantRefused_eq_false.mp admitted
    exact ⟨merchant, owner, owned store (ReferencedRows.mem_stores.mpr (.inl sold))⟩
  | delivery =>
    rw [role] at admitted
    obtain ⟨⟨delivery, carried, assigned⟩, -, collected⟩ :=
      ReferencedRows.riderRefused_eq_false.mp admitted
    obtain ⟨held, -, order, belongs, parent⟩ := passes.names.carries carried
    refine ⟨delivery, order, held, assigned, parent, ?_⟩
    exact (collected store sold order belongs).symm
  | admin => exact absurd role ordinary

/-! ## Two databases -/

/-- The store of an own order is in both databases. -/
theorem SameOwn.order_store {order : Order} (same : SameOwn user left right)
    (before : OrdersHaveStores left) (after : OrdersHaveStores right) (own : OwnOrder left user order) :
    (left.store? order.storeId).map Store.id = (right.store? order.storeId).map Store.id ∧
      (left.store? order.storeId).isSome ∧
      (user.role ≠ .customer → left.store? order.storeId = right.store? order.storeId) := by
  obtain ⟨store, sold⟩ := before.store own.1
  obtain ⟨other, stored⟩ := after.store ((same.orders order).mp own).1
  rw [sold, stored]
  refine ⟨?_, rfl, fun keeper => ?_⟩
  · rw [Option.map_some, Option.map_some, store_key _ _ sold, store_key _ _ stored]
  · have mine : OwnStore left user store := by
      have concerned := own.2
      cases role : user.role with
      | customer => exact absurd role keeper
      | merchant =>
        rw [role] at concerned
        obtain ⟨kept, here, owned⟩ := concerned
        cases sold.symm.trans here
        exact owned
      | delivery =>
        rw [role] at concerned
        obtain ⟨delivery, held, assigned, parent⟩ := concerned
        refine ⟨?_, ?_⟩
        · rw [store_key _ _ sold]
          exact sold
        · rw [role]
          refine ⟨delivery, order, held, assigned, ?_, (store_key _ _ sold).symm⟩
          rw [parent]
          exact own.1
      | admin => rw [role] at concerned; exact concerned.elim
    have theirs := ((same.stores store).mp mine).1
    rw [store_key _ _ sold] at theirs
    exact theirs.symm.trans stored

theorem Fetched.move {get other : UUID → Option ρ} {col : ρ → UUID}
    (keys : ∀ key row, get key = some row → col row = key) (fetched : Fetched get key row)
    (kept : ∀ held, row = some held → other (col held) = some held) : Fetched other key row := by
  cases fetched with
  | unnamed => exact .unnamed
  | @stored key row held =>
    refine .stored ?_
    rw [← keys key row held]
    exact kept row rfl

/-- The store a ticket names is in the other database too, though it may say something
else to a customer. -/
theorem SameOwn.named_store (same : SameOwn user left right) (ordinary : user.role ≠ .admin)
    (before : OrdersHaveStores left) (after : OrdersHaveStores right)
    (passes : Authorized left payload user rows) :
    ∃ store, Fetched right.store? payload.storeId store ∧
      store.map Store.id = rows.explicitStore.map Store.id ∧
      (user.role ≠ .customer → store = rows.explicitStore) := by
  have named := passes.names.store
  cases explicit : rows.explicitStore with
  | none =>
    rw [explicit] at named
    cases key : payload.storeId with
    | none => exact ⟨none, .unnamed, rfl, fun _ => rfl⟩
    | some key =>
      rw [key] at named
      cases named
  | some store =>
    rw [explicit] at named
    obtain ⟨held, key⟩ := named.held store_key
    rw [key]
    by_cases customer : user.role = .customer
    · have admitted := passes.admitted (by simp [TicketCreate.hasReference, key])
      unfold ReferencedRows.refused at admitted
      rw [customer] at admitted
      obtain ⟨nonempty, -, -, sells⟩ := ReferencedRows.customerRefused_eq_false.mp admitted
      obtain ⟨order, listed⟩ := List.exists_mem_of_ne_nil _ nonempty
      have own := passes.own_order ordinary before listed
      obtain ⟨other, stored⟩ := after.store ((same.orders order).mp own).1
      rw [sells store explicit order listed] at stored
      refine ⟨some other, .stored stored, ?_, fun keeper => absurd customer keeper⟩
      rw [Option.map_some, Option.map_some, store_key _ _ stored]
    · have own := passes.own_store ordinary explicit customer
      exact ⟨some store, .stored ((same.stores store).mp own).1, rfl, fun _ => rfl⟩

/-- What passes on one database passes on the other, with the same rows up to what its
store says to a customer. -/
theorem SameOwn.authorized (same : SameOwn user left right) (ordinary : user.role ≠ .admin)
    (before : OrdersHaveStores left) (after : OrdersHaveStores right)
    (passes : Authorized left payload user rows) :
    ∃ store, Authorized right payload user { rows with explicitStore := store } ∧
      store.map Store.id = rows.explicitStore.map Store.id ∧
      (user.role ≠ .customer → store = rows.explicitStore) := by
  have mine : ∀ order ∈ rows.orders, OwnOrder left user order := fun order listed =>
    passes.own_order ordinary before listed
  have theirs : ∀ order ∈ rows.orders, OwnOrder right user order := fun order listed =>
    (same.orders order).mp (mine order listed)
  obtain ⟨store, fetched, sameId, kept⟩ := same.named_store ordinary before after passes
  refine ⟨store, ⟨⟨?_, ?_, ?_, fetched⟩, fun named => ?_⟩, sameId, kept⟩
  · exact passes.names.order.move order_key fun order held =>
      (theirs order (ReferencedRows.mem_orders.mpr (.inl held))).1
  · exact passes.names.delivery.move delivery_key fun delivery held =>
      ((same.deliveries delivery).mp (passes.own_delivery ordinary before held)).1
  · exact passes.names.deliveryOrder.move order_key fun order held =>
      (theirs order (ReferencedRows.mem_orders.mpr (.inr held))).1
  · have admitted := passes.admitted named
    unfold ReferencedRows.refused at admitted ⊢
    cases role : user.role with
    | customer =>
      rw [role] at admitted
      obtain ⟨nonempty, placed, agree, sells⟩ := ReferencedRows.customerRefused_eq_false.mp admitted
      refine ReferencedRows.customerRefused_eq_false.mpr ⟨nonempty, placed, agree, ?_⟩
      intro other (explicit : store = some other) order listed
      rw [explicit] at sameId
      obtain ⟨first, held, agrees⟩ := Option.map_eq_some_iff.mp sameId.symm
      rw [sells first held order listed, agrees]
    | merchant =>
      rw [role] at admitted
      have keeper : user.role ≠ .customer := by
        rw [role]
        decide
      obtain ⟨merchant, owner, nonempty, owned⟩ := ReferencedRows.merchantRefused_eq_false.mp admitted
      have stores : ({ rows with explicitStore := store } : ReferencedRows).stores right =
          rows.stores left := by
        have parent : ∀ order ∈ rows.orders, right.store? order.storeId = left.store? order.storeId :=
          fun order listed => ((same.order_store before after (mine order listed)).2.2 keeper).symm
        have explicit := Option.bind_congr fun order held =>
          parent order (ReferencedRows.mem_orders.mpr (.inl held))
        have derived := Option.bind_congr fun order held =>
          parent order (ReferencedRows.mem_orders.mpr (.inr held))
        simp only [ReferencedRows.stores, kept keeper, explicit, derived]
      refine ReferencedRows.merchantRefused_eq_false.mpr ⟨merchant, ?_, ?_⟩
      · rw [← same.merchant]
        exact owner
      · rw [stores]
        exact ⟨nonempty, owned⟩
    | delivery =>
      rw [role] at admitted
      have keeper : user.role ≠ .customer := by
        rw [role]
        decide
      rw [kept keeper]
      exact admitted
    | admin => rfl

/-- What a success says: the order, the delivery, and which store. -/
def answered (context : Option Order × Option Delivery × Option Store) :
    Option Order × Option Delivery × Option UUID :=
  (context.1, context.2.1, context.2.2.map Store.id)

private theorem map_bind_congr {first : Handler α} {next other : α → Handler β} {f : β → γ}
    (agree : ∀ value, (next value).map f = (other value).map f) :
    (first >>= next).map f = (first >>= other).map f := by
  cases first with
  | error error => rfl
  | ok value => exact agree value

theorem explicitOrder_or_mem {order : Order}
    (held : (rows.explicitOrder <|> rows.deliveryOrder) = some order) : order ∈ rows.orders := by
  rw [ReferencedRows.mem_orders]
  cases explicit : rows.explicitOrder with
  | some other =>
    rw [explicit] at held
    exact .inl held
  | none =>
    rw [explicit] at held
    exact .inr held

/-- Rows that say the same relate the same. -/
theorem SameOwn.related (same : SameOwn user left right) (before : OrdersHaveStores left)
    (after : OrdersHaveStores right) (mine : ∀ order ∈ rows.orders, OwnOrder left user order)
    (sameId : store.map Store.id = rows.explicitStore.map Store.id) :
    (({ rows with explicitStore := store } : ReferencedRows).related right).map answered =
      (rows.related left).map answered := by
  unfold ReferencedRows.related
  dsimp only
  generalize concerned : (rows.explicitOrder <|> rows.deliveryOrder) = order
  have mismatch : (store.any fun store => order.any fun order => order.storeId ≠ store.id) =
      rows.explicitStore.any fun store => order.any fun order => order.storeId ≠ store.id := by
    have byId := congrArg (Option.any fun key => order.any fun order => decide (order.storeId ≠ key)) sameId
    rwa [Option.any_map, Option.any_map] at byId
  have chosen : (store <|> order.bind fun order => right.store? order.storeId).map Store.id =
      (rows.explicitStore <|> order.bind fun order => left.store? order.storeId).map Store.id := by
    cases explicit : rows.explicitStore with
    | some first =>
      rw [explicit] at sameId
      obtain ⟨other, rfl, agree⟩ := Option.map_eq_some_iff.mp sameId
      exact congrArg some agree
    | none =>
      rw [explicit] at sameId
      rw [Option.map_eq_none_iff.mp sameId]
      cases order with
      | none => rfl
      | some order =>
        have own := mine order (explicitOrder_or_mem concerned)
        exact (same.order_store before after own).1.symm
  generalize (store <|> order.bind fun order => right.store? order.storeId) = theirs at chosen
  generalize (rows.explicitStore <|> order.bind fun order => left.store? order.storeId) = ours at chosen
  have empty : theirs.isNone = ours.isNone := by
    rw [← Option.isNone_map, chosen, Option.isNone_map]
  have said : answered (order, rows.explicitDelivery, theirs) =
      answered (order, rows.explicitDelivery, ours) := by
    unfold answered
    rw [chosen]
  rw [mismatch, empty]
  apply map_bind_congr
  intro _
  apply map_bind_congr
  intro _
  apply map_bind_congr
  intro _
  exact congrArg Except.ok said

/-- Support references reveal nothing about other people's resources: two databases that
agree on what is the requester's own answer every payload alike, and alike in every
column to a merchant or a rider. -/
theorem references_reveal_nothing (ordinary : user.role ≠ .admin) (before : OrdersHaveStores left)
    (after : OrdersHaveStores right) (same : SameOwn user left right) (payload : TicketCreate) :
    (validateReferences left payload user).map answered =
        (validateReferences right payload user).map answered ∧
      (user.role ≠ .customer →
        validateReferences left payload user = validateReferences right payload user) := by
  by_cases passes : ∃ rows, Authorized left payload user rows
  · obtain ⟨rows, passes⟩ := passes
    obtain ⟨store, alike, sameId, kept⟩ := same.authorized ordinary before after passes
    rw [validateReferences_authorized ordinary passes, validateReferences_authorized ordinary alike]
    have mine : ∀ order ∈ rows.orders, OwnOrder left user order := fun order listed =>
      passes.own_order ordinary before listed
    refine ⟨(same.related before after mine sameId).symm, fun keeper => ?_⟩
    have parent : ((rows.explicitOrder <|> rows.deliveryOrder).bind fun order => left.store? order.storeId) =
        (rows.explicitOrder <|> rows.deliveryOrder).bind fun order => right.store? order.storeId :=
      Option.bind_congr fun order concerned =>
        (same.order_store before after (mine order (explicitOrder_or_mem concerned))).2.2 keeper
    rw [kept keeper]
    unfold ReferencedRows.related
    dsimp only
    rw [parent]
  · have fails : ∀ rows, ¬Authorized right payload user rows := by
      intro rows alike
      obtain ⟨store, passing, -⟩ := same.symm.authorized ordinary after before alike
      exact passes ⟨_, passing⟩
    rw [validateReferences_refused ordinary fun rows here => passes ⟨rows, here⟩,
      validateReferences_refused ordinary fails]
    exact ⟨rfl, fun _ => rfl⟩

end

/-! ### A neighbour's order -/

def villager : User :=
  { id := 1#128, role := .customer, isSuperAdmin := false, isActive := true, isVerified := true }

/-- An order of one customer at the village's store. -/
def villageOrder (id userId : UUID) : Order :=
  { id, orderNumber := "GO-1", userId, storeId := 5#128, addressId := 6#128
    idempotencyKey := none, stockRestoredAt := none, status := .placed, paymentMethod := .cod
    paymentStatus := .pending, subtotal := 100, deliveryFee := 0, total := 100 }

def villageStore : Store :=
  { id := 5#128, merchantId := 7#128, villageId := 8#128, serviceAreaId := none, name := "Store"
    phone := none, landmark := none, latitude := none, longitude := none, opensAt := none, closesAt := none, deliveryEnabled := true, isActive := true }

def household : Tables :=
  { catalogue := { users := [villager], stores := [villageStore] }
    orders := [villageOrder 2#128 1#128] }

/-- The same village, and the order of a neighbour. -/
def neighbourhood : Tables :=
  { household with orders := [villageOrder 2#128 1#128, villageOrder 3#128 9#128] }

def aboutNeighbour : TicketCreate :=
  { subject := "Late", description := "Where is it?", storeId := none, orderId := some 3#128
    deliveryId := none, idempotencyKey := none }

theorem neighbourhood_own : SameOwn villager neighbourhood household where
  merchant := rfl
  stores := fun store => Iff.rfl
  orders := by
    intro order
    simp only [OwnOrder, villager]
    constructor
    · rintro ⟨held, mine⟩
      refine ⟨?_, mine⟩
      have listed : order = villageOrder 2#128 1#128 ∨ order = villageOrder 3#128 9#128 := by
        simpa [neighbourhood] using lookup_mem held
      rcases listed with rfl | rfl
      · rfl
      · exact absurd mine (by decide)
    · rintro ⟨held, mine⟩
      refine ⟨?_, mine⟩
      have listed : order = villageOrder 2#128 1#128 := by
        simpa [household] using lookup_mem held
      rw [listed]
      rfl
  deliveries := by
    intro delivery
    constructor
    · rintro ⟨held, -⟩
      cases held
    · rintro ⟨held, -⟩
      cases held

theorem references_reveal_nothing_neighbour :
    validateReferences neighbourhood aboutNeighbour villager = .error linkedContextMissing ∧
      (validateReferences neighbourhood aboutNeighbour villager).map answered =
        (validateReferences household aboutNeighbour villager).map answered := by
  have before : OrdersHaveStores neighbourhood := by
    intro order listed
    refine ⟨villageStore, List.mem_singleton.mpr rfl, ?_⟩
    have either : order = villageOrder 2#128 1#128 ∨ order = villageOrder 3#128 9#128 := by
      simpa [neighbourhood] using listed
    rcases either with rfl | rfl <;> rfl
  have after : OrdersHaveStores household := fun order listed =>
    before order (List.mem_cons.mpr (.inl (List.mem_singleton.mp listed)))
  exact And.intro (by decide)
    (references_reveal_nothing (by decide) before after neighbourhood_own aboutNeighbour).1

end GaonOne
