import GaonOne.CartStatements

/-! What a request on a cart has read when it commits, under which locks, and what it
then writes. Every discipline for carts, keys or shelves starts from these. -/
namespace GaonOne
open Relational UnitOfWork ReadCommitted

variable {D : Discipline Market RowLock Note} {footing : Standing} {db : Market}

/-- The locks of the listings, and of the cart rows, that a request went through. -/
def listingLocks (listings : List StoreProduct) : List RowLock :=
  (listings.map fun listing => (Row.listing listing.id).forUpdate).reverse

def itemLocks (items : List CartItem) : List RowLock :=
  (items.map fun item => (Row.cartItem item.id).forUpdate).reverse

/-- A line records its cart row at its listing's product and price. -/
structure LineOf (order : Order) (pair : CartItem × StoreProduct) (line : OrderItem) : Prop where
  order : line.orderId = order.id
  product : line.productId = pair.2.productId
  price : line.unitPrice = pair.2.price
  quantity : line.quantity = pair.1.quantity

theorem exists_line (lined : List.Forall₂ (LineOf order) validated lines)
    (bought : pair ∈ validated) : ∃ line ∈ lines, LineOf order pair line := by
  induction lined with
  | nil => cases bought
  | @cons first line validated lines recorded _ ih =>
    rcases List.mem_cons.mp bought with rfl | later
    · exact ⟨line, List.mem_cons_self, recorded⟩
    · obtain ⟨other, inside, lineOf⟩ := ih later
      exact ⟨other, List.mem_cons_of_mem _ inside, lineOf⟩

theorem exists_origin (lined : List.Forall₂ (LineOf order) validated lines) (inside : line ∈ lines) :
    ∃ pair ∈ validated, LineOf order pair line := by
  induction lined with
  | nil => cases inside
  | @cons pair first validated lines recorded _ ih =>
    rcases List.mem_cons.mp inside with rfl | later
    · exact ⟨pair, List.mem_cons_self, recorded⟩
    · obtain ⟨other, bought, lineOf⟩ := ih later
      exact ⟨other, List.mem_cons_of_mem _ bought, lineOf⟩

/-- A cart row that checkout accepts, with the listing it buys from. -/
structure Validated (storeId : UUID) (listings : List StoreProduct) (pair : CartItem × StoreProduct) :
    Prop where
  listed : lookup StoreProduct.id pair.1.storeProductId listings = some pair.2
  store : pair.2.storeId = storeId
  available : pair.2.isAvailable
  stocked : pair.1.quantity ≤ pair.2.stockQuantity

/-- The loop over cart rows accepts all of them or raises. -/
theorem validateItems_ok {items : List CartItem} {result : Paise × List (CartItem × StoreProduct)} :
    validateItems storeId listings items subtotal before = .ok result ↔
      ∃ rest, rest.map Prod.fst = items ∧ (∀ pair ∈ rest, Validated storeId listings pair) ∧
        result = (subtotal + (rest.map fun pair => pair.2.price * pair.1.quantity).sum, before ++ rest) := by
  induction items generalizing subtotal before with
  | nil =>
    simp only [validateItems, pure_ok, List.map_eq_nil_iff]
    constructor
    · rintro rfl
      exact ⟨[], rfl, by simp, by simp⟩
    · rintro ⟨rest, rfl, -, rfl⟩
      simp
  | cons item items ih =>
    simp only [validateItems, found_bind_ok, require_bind_ok, ih]
    constructor
    · rintro ⟨listing, listed, store, ⟨available, stocked⟩, rest, rfl, all, rfl⟩
      refine ⟨(item, listing) :: rest, rfl, ?_, by simp [add_assoc]⟩
      rintro pair (_ | ⟨_, inside⟩)
      · exact ⟨listed, store, available, stocked⟩
      · exact all pair inside
    · rintro ⟨rest, same, all, rfl⟩
      cases rest with
      | nil => cases same
      | cons pair rest =>
        obtain ⟨own, others⟩ := List.cons.inj same
        subst own
        obtain ⟨listed, store, available, stocked⟩ := all pair List.mem_cons_self
        refine ⟨pair.2, listed, store, ⟨available, stocked⟩, rest, others, ?_, by simp [add_assoc]⟩
        exact fun other inside => all other (List.mem_cons_of_mem _ inside)

theorem holds_orderLines {validated : List (CartItem × StoreProduct)}
    {post : List OrderItem → Standing → Market → Prop} (kept : D.invariant db)
    (recorded : ∀ lines now, D.Later footing db now →
      List.Forall₂ (LineOf order) validated lines → post lines footing now) :
    D.Holds (Statement.orderLines order itemId validated) post footing db := by
  induction validated generalizing post db with
  | nil => exact recorded [] db (.refl kept) .nil
  | cons pair validated ih =>
    obtain ⟨item, listing⟩ := pair
    refine Discipline.Holds.query fun first reading => Holds.found fun product read => ?_
    have same : product.id = listing.productId := lookup_col read
    rw [Discipline.holds_bind]
    refine ih reading.2 fun lines now later lined => ?_
    exact recorded _ now (reading.trans later) (.cons ⟨rfl, same, rfl, rfl⟩ lined)

theorem holds_deliveringStore {post : Store → Standing → Market → Prop}
    (delivers : ∀ store now, D.Later footing db now → post store footing now) :
    D.Holds (Statement.deliveringStore env storeId address moment) post footing db := by
  unfold Statement.deliveringStore
  refine Discipline.Holds.query fun first opening => Holds.found fun store _ => ?_
  refine Discipline.Holds.query fun second approving => Holds.found fun _ _ => ?_
  refine Holds.require fun _ => Holds.require fun _ => ?_
  refine Discipline.Holds.query fun third placing => Holds.found fun _ _ => Holds.found fun _ _ => ?_
  refine Discipline.Holds.query fun fourth serving => Holds.require fun _ => ?_
  exact delivers store fourth (((opening.trans approving).trans placing).trans serving)

theorem holds_deleteCartItems {matching : CartItem → Bool}
    {post : (CartItem → Bool) → Standing → Market → Prop}
    (deleted : ∀ first rows, D.Later footing db first →
      rows = (footing.change first).tables.catalogue.cartItems.filter matching →
      ∀ now, D.Later footing first now →
        post (foundByDelete rows matching)
          { footing with
            held := itemLocks rows ++ footing.held
            change := Market.change (·.deleteCartItems (foundByDelete rows matching)) ∘ footing.change }
          now) :
    D.Holds (Statement.deleteCartItems matching) post footing db := by
  refine Discipline.Holds.query fun first reading => ?_
  rw [Discipline.holds_bind]
  exact Discipline.holds_lockRows reading.2 fun now later => deleted first _ reading rfl now later

/-! ## Checkout -/

/-- Where a checkout stands: the cart's row is locked, then its items are read, then
the listings are locked too. -/
def cartHeld (cart : Cart) : Standing where
  held := [(Row.cart cart.id).forUpdate]

def itemsHeld (cart : Cart) (items : List CartItem) : Standing where
  held := [(Row.cart cart.id).forUpdate]
  notes := [.itemsRead items]

def listingsHeld (cart : Cart) (items : List CartItem) (listings : List StoreProduct) : Standing where
  held := listingLocks listings ++ [(Row.cart cart.id).forUpdate]
  notes := [.itemsRead items]

/-- A checkout that has an order to commit. Each moment is the database as one of its
statements saw it, later under the locks the request then held. -/
structure CheckoutRun (D : Discipline Market RowLock Note) (customer : User)
    (key : Option String) (draws : Draws) (start : Market) where
  cart : Cart
  storeId : UUID
  items : List CartItem
  seen : List StoreProduct
  listings : List StoreProduct
  subtotal : Paise
  validated : List (CartItem × StoreProduct)
  order : Order
  lines : List OrderItem
  rows : List CartItem
  (locked checked read noted listed fetched cleared last : Market)
  locking : D.Later {} start locked
  cartRead : lookup Cart.userId customer.id locked.tables.catalogue.carts = some cart
  storeRead : cart.storeId = some storeId
  checking : D.Later (cartHeld cart) locked checked
  unanswered : existingIdempotentOrder checked.tables customer.id key = none
  reading : D.Later (cartHeld cart) checked read
  itemsRead : items = cartRows read.tables cart.id
  noting : D.Later (cartHeld cart) read noted
  listing : D.Later (itemsHeld cart items) noted listed
  listingsSeen : seen = checkoutLocks items listed.tables
  fetching : D.Later (itemsHeld cart items) listed fetched
  listingsRead : listings =
    (checkoutLocks items fetched.tables).filter fun listing => listing.id ∈ seen.map (·.id)
  all : listings.length = items.length
  validates : validateItems storeId listings items 0 [] = .ok (subtotal, validated)
  placed : ∃ addressId orderNumber paymentMethod deliveryFee, order =
    placedOrder customer storeId addressId orderNumber key paymentMethod subtotal deliveryFee draws
  lined : List.Forall₂ (LineOf order) validated lines
  clearing : D.Later (listingsHeld cart items seen) fetched cleared
  rowsSeen : rows = cleared.tables.catalogue.cartItems.filter fun item => item.cartId = cart.id
  ending : D.Later (listingsHeld cart items seen) cleared last

namespace CheckoutRun
variable (run : CheckoutRun D customer key draws start)

/-- The listings as they leave the shelf. -/
def debited : List StoreProduct :=
  run.validated.map fun (item, listing) => debitListing listing item.quantity

/-- What the request writes. -/
def change (market : Market) : Market :=
  { market with
    tables := (((((market.tables.addOrder run.order).deleteCartItems
      (foundByDelete run.rows fun item => item.cartId = run.cart.id)).addOrderItems
        run.lines).putListings run.debited).addDelivery (newDelivery run.order.id draws)).setCartStore run.cart.id none
    ordered := market.ordered ++ run.items.map (run.order.id, ·) }

def standing : Standing where
  held := itemLocks run.rows ++ (listingLocks run.seen ++ [(Row.cart run.cart.id).forUpdate])
  notes := [.itemsRead run.items]
  change := run.change

@[simp]
theorem change_carts (market : Market) :
    (run.change market).tables.catalogue.carts = market.tables.catalogue.carts.map fun cart =>
      if cart.id = run.cart.id then { cart with storeId := none } else cart := by
  simp only [change, Tables.setCartStore, Tables.addDelivery, Tables.putListings_eq]
  rfl

@[simp]
theorem change_users (market : Market) :
    (run.change market).tables.catalogue.users = market.tables.catalogue.users := by
  simp only [change, Tables.setCartStore, Tables.addDelivery, Tables.putListings_eq]
  rfl

@[simp]
theorem change_cartItems (market : Market) :
    (run.change market).tables.catalogue.cartItems = market.tables.catalogue.cartItems.filter
      fun item => !foundByDelete run.rows (fun item => item.cartId = run.cart.id) item := by
  simp only [change, Tables.setCartStore, Tables.addDelivery, Tables.putListings_eq]
  rfl

@[simp]
theorem change_orders (market : Market) :
    (run.change market).tables.orders = market.tables.orders ++ [run.order] := by
  simp only [change, Tables.setCartStore, Tables.addDelivery, Tables.putListings_eq]
  rfl

@[simp]
theorem change_orderItems (market : Market) :
    (run.change market).tables.orderItems = market.tables.orderItems ++ run.lines := by
  simp only [change, Tables.setCartStore, Tables.addDelivery, Tables.putListings_eq]
  rfl

theorem validated_items : run.validated.map Prod.fst = run.items ∧
    (∀ pair ∈ run.validated, Validated run.storeId run.listings pair) ∧
      run.subtotal = (run.validated.map fun pair => pair.2.price * pair.1.quantity).sum := by
  obtain ⟨rest, same, all, result⟩ := validateItems_ok.mp run.validates
  obtain ⟨sum, whole⟩ := Prod.mk.inj result
  rw [List.nil_append] at whole
  rw [whole, sum, zero_add]
  exact ⟨same, all, rfl⟩

theorem mem_items : item ∈ run.items ↔
    item ∈ run.read.tables.catalogue.cartItems ∧ item.cartId = run.cart.id := by
  rw [run.itemsRead, cartRows, List.mem_insertionSort, mem_belonging]

/-- Every listing it sells from was read under its lock. -/
theorem mem_listings (inside : pair ∈ run.validated) :
    pair.2 ∈ run.fetched.tables.catalogue.storeProducts ∧ pair.2.id = pair.1.storeProductId ∧
      (Row.listing pair.2.id).forUpdate ∈ listingLocks run.seen := by
  have listed := (run.validated_items.2.1 pair inside).listed
  have read := lookup_mem listed
  rw [run.listingsRead, List.mem_filter, decide_eq_true_iff] at read
  obtain ⟨there, seen⟩ := read
  rw [checkoutLocks, List.mem_insertionSort] at there
  refine ⟨(List.mem_filter.mp there).1, lookup_col listed, ?_⟩
  obtain ⟨row, held, same⟩ := List.mem_map.mp seen
  rw [listingLocks, List.mem_reverse]
  exact List.mem_map.mpr ⟨row, held, by rw [same]⟩

/-- No two rows of a cart buy from one listing. -/
theorem listings_distinct (unique : Unique (fun item : CartItem => (item.cartId, item.storeProductId))
    run.read.tables.catalogue.cartItems) :
    Unique (fun pair : CartItem × StoreProduct => pair.2.id) run.validated := by
  have rows : Unique CartItem.storeProductId run.items := by
    rw [run.itemsRead]
    refine ((List.perm_insertionSort _ _).map _).nodup_iff.mpr ?_
    refine List.Nodup.map_on ?_ ((List.Nodup.of_map _ unique).filter _)
    intro first left second right same
    obtain ⟨inside, one⟩ := mem_belonging.mp left
    obtain ⟨there, two⟩ := mem_belonging.mp right
    exact unique_eq unique inside there (Prod.ext (one.trans two.symm) same)
  unfold Relational.Unique at rows ⊢
  rw [← run.validated_items.1, List.map_map] at rows
  have same : run.validated.map (fun pair => pair.2.id) =
      run.validated.map (CartItem.storeProductId ∘ Prod.fst) :=
    List.map_congr_left fun pair inside => (run.mem_listings inside).2.1
  rwa [same]

theorem debited_distinct (unique : Unique (fun item : CartItem => (item.cartId, item.storeProductId))
    run.read.tables.catalogue.cartItems) : Unique StoreProduct.id run.debited := by
  unfold Relational.Unique debited
  rw [List.map_map]
  exact run.listings_distinct unique

theorem change_storeProducts (unique : Unique (fun item : CartItem => (item.cartId, item.storeProductId))
    run.read.tables.catalogue.cartItems) (market : Market) :
    (run.change market).tables.catalogue.storeProducts =
      market.tables.catalogue.storeProducts.map fun row => tracked StoreProduct.id row run.debited := by
  simp only [change, Tables.setCartStore, Tables.addDelivery, Tables.putListings_eq]
  exact foldl_put (run.debited_distinct unique) _

end CheckoutRun

/-- A checkout answers with the order its key already has, or places one. -/
theorem holds_safeCheckout {post : Option Order → Standing → Market → Prop}
    (answered : ∀ (user : User) order held now, user.id = subject → D.Later {} db now →
      existingIdempotentOrder now.tables user.id (idempotencyKey.map Text.strip) = some order →
      post (some order) { held := held } now)
    (placed : ∀ user : User, user.id = subject →
      ∀ run : CheckoutRun D user (idempotencyKey.map Text.strip) draws db,
        post (some run.order) run.standing run.last) :
    D.Holds (Statement.safeCheckout env settings subject payload idempotencyKey orderNumber draws)
      post {} db := by
  unfold Statement.safeCheckout
  refine Holds.statement fun first begun user current => Holds.require fun _ => ?_
  have named : user.id = subject := by
    simp only [getCurrentUser, found_ok, Option.filter_eq_some_iff] at current
    exact lookup_col current.1
  refine Discipline.Holds.query fun second asking => ?_
  have asked := begun.trans asking
  split
  · next order found => exact answered user order [] second named asked found
  refine Discipline.Holds.query fun third addressing => Holds.found fun address _ => ?_
  have addressed := asked.trans addressing
  rw [Discipline.holds_bind]
  refine holds_selectForUpdate (fun now held later => ?_) fun cart locked locking cartRead => ?_
  · refine Discipline.Holds.query fun fourth checking => ?_
    have checked := (addressed.trans later).trans (checking.release held)
    split
    · next order found => exact answered user order _ fourth named checked found
    · exact Holds.missing
  · refine Discipline.Holds.query fun checked checking => ?_
    have reached := addressed.trans locking
    split
    · next order found =>
      exact answered user order _ checked named (reached.trans checking.weaken) found
    next unanswered =>
    refine Holds.found fun held same => Holds.found fun storeId storeRead => ?_
    cases same
    refine Discipline.Holds.query fun read reading => ?_
    refine Discipline.Holds.remember fun noted noting => Holds.require fun _ => ?_
    rw [Discipline.holds_bind]
    refine holds_deliveringStore fun store delivering opening => ?_
    rw [Discipline.holds_bind]
    refine holds_lockListings fun listed seen listing listingsSeen held locks fetched fetching => ?_
    refine Holds.require fun all => Discipline.Holds.check fun pair validates => ?_
    obtain ⟨subtotal, validated⟩ := pair
    refine Discipline.Holds.query fun priced pricing => Holds.require fun _ => Discipline.Holds.flush ?_
    rw [Discipline.holds_bind]
    refine holds_orderLines pricing.2 fun lines lined recording lineOf => ?_
    rw [Discipline.holds_bind]
    refine holds_deleteCartItems fun cleared rows clearing rowsSeen last ending => ?_
    refine Holds.require fun _ => ?_
    exact placed user named
      { cart, storeId, items := cartRows read.tables cart.id, seen
        listings := _, subtotal, validated, order := _, lines, rows
        locked, checked, read, noted, listed, fetched, cleared, last
        locking := reached, cartRead, storeRead
        checking := checking, unanswered := unanswered
        reading := reading, itemsRead := rfl, noting := noting
        listing := opening.trans listing, listingsSeen := listingsSeen
        fetching := locks.trans fetching.release, listingsRead := rfl, all := all
        validates := validates, placed := ⟨_, _, _, _, rfl⟩, lined := lineOf
        clearing := pricing.trans (recording.trans clearing)
        rowsSeen := rowsSeen, ending := ending }

/-! ## Adding, removing and clearing -/

/-- What `cart.store_id = storeId` writes. -/
def assignment (cart : Cart) (storeId : Option UUID) (db : Tables) : Tables :=
  if cart.storeId = storeId then db else db.setCartStore cart.id storeId

/-- What becomes of the row that was looked up. -/
def upsert (cartId storeProductId : UUID) (quantity : Int) (draws : CartDraws) :
    Option CartItem → Tables → Tables
  | some item, db => if item.quantity = quantity then db else db.setQuantity item.id quantity
  | none, db => db.addCartItem ⟨draws.itemId, cartId, storeProductId, quantity⟩

theorem assignment_touches (cart : Cart) (storeId : Option UUID) (db : Tables) :
    ∃ carts, assignment cart storeId db = { db with catalogue.carts := carts } := by
  unfold assignment
  split <;> exact ⟨_, rfl⟩

theorem upsert_touches (db : Tables) :
    ∃ cartItems, upsert cartId storeProductId quantity draws item db =
      { db with catalogue.cartItems := cartItems } := by
  cases item with
  | none => exact ⟨_, rfl⟩
  | some item =>
    simp only [upsert]
    split <;> exact ⟨_, rfl⟩

@[simp]
theorem assignment_cartItems (cart : Cart) (storeId : Option UUID) (db : Tables) :
    (assignment cart storeId db).catalogue.cartItems = db.catalogue.cartItems := by
  unfold assignment
  split <;> rfl

theorem assignment_carts (cart : Cart) (storeId : Option UUID) (db : Tables) :
    (assignment cart storeId db).catalogue.carts = if cart.storeId = storeId then db.catalogue.carts
      else db.catalogue.carts.map fun row => if row.id = cart.id then { row with storeId } else row := by
  unfold assignment
  split <;> rfl

@[simp]
theorem upsert_carts (db : Tables) :
    (upsert cartId storeProductId quantity draws item db).catalogue.carts = db.catalogue.carts := by
  cases item with
  | none => rfl
  | some item =>
    simp only [upsert]
    split <;> rfl

/-- A row after an upsert: it is the new one, or it was there, perhaps with another
quantity. -/
theorem mem_upsert {db : Tables} (inside : row ∈
      (upsert cartId storeProductId quantity draws item db).catalogue.cartItems) :
    (item = none ∧ row = ⟨draws.itemId, cartId, storeProductId, quantity⟩) ∨
      ∃ before, { row with quantity := before } ∈ db.catalogue.cartItems := by
  cases item with
  | none =>
    rcases List.mem_append.mp inside with there | fresh
    · exact .inr ⟨row.quantity, there⟩
    · exact .inl ⟨rfl, List.mem_singleton.mp fresh⟩
  | some item =>
    simp only [upsert] at inside
    split at inside
    · exact .inr ⟨row.quantity, inside⟩
    · obtain ⟨old, there, rfl⟩ := List.mem_map.mp inside
      refine .inr ⟨old.quantity, ?_⟩
      split <;> exact there

/-- Every row stays through an upsert, one of them perhaps with another quantity. -/
theorem mem_upsert_of {db : Tables} (item : CartItem) (inside : item ∈ db.catalogue.cartItems) :
    ∃ now, { item with quantity := now } ∈
      (upsert cartId storeProductId quantity draws row db).catalogue.cartItems := by
  cases row with
  | none => exact ⟨item.quantity, List.mem_append_left _ inside⟩
  | some row =>
    simp only [upsert]
    split
    · exact ⟨item.quantity, inside⟩
    · by_cases same : item.id = row.id
      · exact ⟨quantity, List.mem_map.mpr ⟨item, inside, if_pos same⟩⟩
      · exact ⟨item.quantity, List.mem_map.mpr ⟨item, inside, if_neg same⟩⟩

/-- The cart a request works on: one that it read, or a new one. -/
inductive CartRead (draws : CartDraws) (read : Tables) : Cart → (Tables → Tables) → Prop where
  | found (held : cart ∈ read.catalogue.carts) : CartRead draws read cart id
  | created (userId : UUID) :
      CartRead draws read ⟨draws.cartId, userId, none⟩ (·.addCart ⟨draws.cartId, userId, none⟩)

theorem CartRead.cartItems (read : CartRead draws seen cart create) (db : Tables) :
    (create db).catalogue.cartItems = db.catalogue.cartItems := by
  cases read <;> rfl

theorem CartRead.touches (read : CartRead draws seen cart create) (db : Tables) :
    ∃ carts, create db = { db with catalogue.carts := carts } := by
  cases read <;> exact ⟨_, rfl⟩

theorem CartRead.mem {db : Tables} (read : CartRead draws seen cart create) (inside : row ∈ db.catalogue.carts) :
    row ∈ (create db).catalogue.carts := by
  cases read with
  | found => exact inside
  | created => exact List.mem_append_left _ inside

theorem holds_getOrCreateCart {post : Cart → Standing → Market → Prop}
    (fresh : footing.change = id)
    (got : ∀ cart create now, D.Later footing db now → CartRead draws now.tables cart create →
      post cart { footing with change := Market.change create } now) :
    D.Holds (Statement.getOrCreateCart userId draws) post footing db := by
  obtain ⟨held, notes, change⟩ := footing
  subst fresh
  refine Discipline.Holds.query fun now reading => ?_
  cases read : lookup Cart.userId userId ((id now : Market).tables.catalogue.carts) with
  | some cart => exact got cart id now reading (.found (lookup_mem read))
  | none => exact got _ _ now reading (.created userId)

theorem holds_assignCartStore {post : Unit → Standing → Market → Prop} (kept : D.invariant db)
    (assigned : ∀ held now, D.Later footing db now →
      (cart.storeId ≠ storeId → ⟨.cart cart.id, .noKeyUpdate⟩ ∈ held) →
      post ()
        { footing with
          held := held ++ footing.held
          change := Market.change (assignment cart storeId) ∘ footing.change } now) :
    D.Holds (Statement.assignCartStore cart storeId) post footing db := by
  unfold Statement.assignCartStore
  split
  · next same =>
    have idle : assignment cart storeId = id := funext fun db => if_pos same
    have whole := assigned [] db (.refl kept) fun differ => absurd same differ
    rwa [idle] at whole
  · next differ =>
    refine Discipline.Holds.lockRow fun now locking => ?_
    have writes : assignment cart storeId = (·.setCartStore cart.id storeId) :=
      funext fun db => if_neg differ
    have whole := assigned [_] now locking fun _ => List.mem_singleton_self _
    rwa [writes] at whole

theorem holds_putCartItem {post : Unit → Standing → Market → Prop} (kept : D.invariant db)
    (put : ∀ held now, D.Later footing db now →
      (item = none → ⟨.cart cartId, .keyShare⟩ ∈ held) →
      post ()
        { footing with
          held := held ++ footing.held
          change := Market.change (upsert cartId storeProductId quantity draws item) ∘ footing.change }
        now) :
    D.Holds (Statement.putCartItem cartId storeProductId quantity draws item) post footing db := by
  cases item with
  | none =>
    refine Discipline.Holds.lockRow fun first locking => ?_
    refine Discipline.Holds.lockRow fun now later => ?_
    exact put [_, _] now (locking.trans later.weaken) fun _ => by simp
  | some item =>
    refine Discipline.Holds.branch (fun same => ?_) fun differ => ?_
    · have idle : upsert cartId storeProductId quantity draws (some item) = id :=
        funext fun db => if_pos same
      have whole := put [] db (.refl kept) nofun
      rwa [idle] at whole
    · refine Discipline.Holds.lockRow fun first locking => ?_
      refine Discipline.Holds.query fun now later => Holds.found fun _ _ => ?_
      have writes : upsert cartId storeProductId quantity draws (some item) =
          (·.setQuantity item.id quantity) := funext fun db => if_neg differ
      have whole := put [⟨.cartItem item.id, .noKeyUpdate⟩] now (locking.trans later.weaken) nofun
      rwa [writes] at whole

/-- An addition that is about to commit. -/
structure AdditionRun (D : Discipline Market RowLock Note) (quantity : Int) (draws : CartDraws)
    (start : Market) where
  listing : StoreProduct
  cart : Cart
  create : Tables → Tables
  item : Option CartItem
  held : List RowLock
  (shelf read looked noted last : Market)
  amount : 1 ≤ quantity
  listingRead : listing ∈ shelf.tables.catalogue.storeProducts
  reading : D.Later {} shelf read
  cartRead : CartRead draws read.tables cart create
  mayBuy : ∀ storeId ∈ cart.storeId, storeId = listing.storeId
  looking : D.Later {} read looked
  itemRead : item = lookup (fun item : CartItem => (item.cartId, item.storeProductId))
    (cart.id, listing.id) looked.tables.catalogue.cartItems
  noting : D.Later {} looked noted
  ending : D.Later { notes := [.adding cart listing.storeId item.isNone] } noted last
  inserts : item = none → ⟨.cart cart.id, .keyShare⟩ ∈ held

namespace AdditionRun
variable (run : AdditionRun D quantity draws start)

/-- What the request writes. -/
def write (db : Tables) : Tables :=
  upsert run.cart.id run.listing.id quantity draws run.item
    (assignment run.cart (some run.listing.storeId) (run.create db))

def standing : Standing where
  held := run.held
  notes := [.adding run.cart run.listing.storeId run.item.isNone]
  change := Market.change run.write

/-- It touches carts and their rows only. -/
theorem touches (db : Tables) : ∃ carts cartItems,
    run.write db = { db with catalogue := { db.catalogue with carts, cartItems } } := by
  obtain ⟨_, created⟩ := run.cartRead.touches db
  obtain ⟨_, assigned⟩ := assignment_touches run.cart (some run.listing.storeId) (run.create db)
  unfold write
  rw [created] at assigned ⊢
  rw [assigned]
  obtain ⟨_, put⟩ := upsert_touches _
  rw [put]
  exact ⟨_, _, rfl⟩

theorem write_storeProducts (db : Tables) :
    (run.write db).catalogue.storeProducts = db.catalogue.storeProducts := by
  obtain ⟨_, _, same⟩ := run.touches db
  rw [same]

end AdditionRun

theorem holds_addCartItem {post : Option Order → Standing → Market → Prop}
    (added : ∀ run : AdditionRun D quantity draws db, post none run.standing run.last) :
    D.Holds (Statement.addCartItem subject storeProductId quantity draws) post {} db := by
  unfold Statement.addCartItem
  refine Holds.statement fun first begun user _ => Holds.require fun amount => ?_
  refine Discipline.Holds.query fun shelf shelving => Holds.found fun listing listed => ?_
  refine Discipline.Holds.query fun second opening => Holds.found fun store _ => ?_
  refine Discipline.Holds.query fun third approving => Holds.found fun _ _ => ?_
  rw [Discipline.holds_bind]
  refine holds_getOrCreateCart rfl fun cart create read reading cartRead => ?_
  refine Holds.require fun mayBuy => Discipline.Holds.query fun looked looking => ?_
  refine Discipline.Holds.remember fun noted noting => ?_
  rw [Discipline.holds_bind]
  refine holds_assignCartStore noting.2 fun locks assigned assigning _ => ?_
  rw [Discipline.holds_bind]
  refine holds_putCartItem assigning.2 fun rows last putting inserts => ?_
  exact added
    { listing, cart, create, item := _, held := _, shelf, read, looked, noted, last
      amount := amount.1, listingRead := lookup_mem (Option.filter_eq_some_iff.mp listed).1
      reading := (opening.trans approving).trans reading, cartRead := cartRead
      mayBuy := fun storeId set => of_decide_eq_true ((Option.all_eq_true _ _).mp mayBuy storeId set)
      looking := looking
      itemRead := congrArg (lookup _ (cart.id, listing.id)) (cartRead.cartItems looked.tables)
      noting := noting, ending := assigning.trans putting.release
      inserts := fun missing => List.mem_append_left _ (inserts missing) }

/-- A removal that is about to commit. -/
structure RemovalRun (D : Discipline Market RowLock Note) (draws : CartDraws) (start : Market) where
  cart : Cart
  create : Tables → Tables
  deletes : CartItem → Bool
  clears : Bool
  held : List RowLock
  (read noted last : Market)
  cartRead : CartRead draws read.tables cart create
  own : ∀ item, deletes item → item.cartId = cart.id
  removing : D.Later {} read noted
  ending : D.Later { notes := [.removing cart.id deletes clears] } noted last

namespace RemovalRun
variable (run : RemovalRun D draws start)

/-- What the request writes. -/
def write (db : Tables) : Tables :=
  let rest := (run.create db).deleteCartItems run.deletes
  if run.clears then rest.setCartStore run.cart.id none else rest

def standing : Standing where
  held := run.held
  notes := [.removing run.cart.id run.deletes run.clears]
  change := Market.change run.write

/-- It touches carts and their rows only. -/
theorem touches (db : Tables) : ∃ carts cartItems,
    run.write db = { db with catalogue := { db.catalogue with carts, cartItems } } := by
  obtain ⟨_, created⟩ := run.cartRead.touches db
  unfold write
  dsimp only
  rw [created]
  split <;> exact ⟨_, _, rfl⟩

theorem write_storeProducts (db : Tables) :
    (run.write db).catalogue.storeProducts = db.catalogue.storeProducts := by
  obtain ⟨_, _, same⟩ := run.touches db
  rw [same]

@[simp]
theorem write_cartItems (db : Tables) :
    (run.write db).catalogue.cartItems = db.catalogue.cartItems.filter fun item => !run.deletes item := by
  rw [← run.cartRead.cartItems db]
  unfold write
  dsimp only
  split <;> rfl

end RemovalRun

/-- A removal ends by forgetting the store, or leaving it. -/
theorem holds_removal {post : Option Order → Standing → Market → Prop} {cart : Cart}
    (target : storeId = none ∨ storeId = cart.storeId)
    (removed : ∀ held noted, D.Later footing db noted → ∀ now, D.Later { footing with
        notes := .removing cart.id deletes (decide (cart.storeId ≠ storeId)) :: footing.notes } noted
          now →
      post none
        { held := held
          notes := .removing cart.id deletes (decide (cart.storeId ≠ storeId)) :: footing.notes
          change := Market.change (fun rest =>
            if decide (cart.storeId ≠ storeId) then rest.setCartStore cart.id none else rest) ∘
              footing.change }
        now) :
    D.Holds (do
      Program.remember (.removing cart.id deletes (decide (cart.storeId ≠ storeId)))
      Statement.assignCartStore cart storeId
      pure none) post footing db := by
  refine Discipline.Holds.remember fun noted noting => ?_
  rw [Discipline.holds_bind]
  refine holds_assignCartStore noting.2 fun locks now later _ => ?_
  have writes : assignment cart storeId = fun rest =>
      if decide (cart.storeId ≠ storeId) then rest.setCartStore cart.id none else rest := by
    funext rest
    by_cases same : cart.storeId = storeId
    · simp [assignment, same]
    · have cleared : storeId = none := target.resolve_right fun kept => same kept.symm
      subst cleared
      simp [assignment, same]
  rw [writes]
  exact removed _ noted noting now later

theorem holds_removeCartItem {post : Option Order → Standing → Market → Prop}
    (removed : ∀ run : RemovalRun D draws db, post none run.standing run.last) :
    D.Holds (Statement.removeCartItem subject storeProductId draws) post {} db := by
  unfold Statement.removeCartItem
  refine Holds.statement fun first begun user _ => ?_
  rw [Discipline.holds_bind]
  refine holds_getOrCreateCart rfl fun cart create read reading cartRead => ?_
  rw [Discipline.holds_bind]
  refine holds_deleteCartItems fun second rows seeing _ third deleting => ?_
  refine Discipline.Holds.query fun fourth remaining => ?_
  refine holds_removal ?_ fun held noted noting last ending => ?_
  · split
    · exact .inl rfl
    · exact .inr rfl
  · exact removed
      { cart, create, deletes := _, clears := _, held, read, noted, last
        cartRead := cartRead, own := fun item match_ => (of_decide_eq_true (Bool.and_eq_true_iff.mp match_).2).1
        removing := (seeing.trans deleting).trans (remaining.release.trans noting.release)
        ending := ending.release }

theorem holds_clearCart {post : Option Order → Standing → Market → Prop}
    (removed : ∀ run : RemovalRun D draws db, post none run.standing run.last) :
    D.Holds (Statement.clearCart subject draws) post {} db := by
  unfold Statement.clearCart
  refine Holds.statement fun first begun user _ => ?_
  rw [Discipline.holds_bind]
  refine holds_getOrCreateCart rfl fun cart create read reading cartRead => ?_
  rw [Discipline.holds_bind]
  refine holds_deleteCartItems fun second rows seeing _ third deleting => ?_
  refine holds_removal (.inl rfl) fun held noted noting last ending => ?_
  exact removed
    { cart, create, deletes := _, clears := _, held, read, noted, last
      cartRead := cartRead, own := fun item match_ => of_decide_eq_true (Bool.and_eq_true_iff.mp match_).2
      removing := (seeing.trans deleting).trans noting.release
      ending := ending.release }

end GaonOne
