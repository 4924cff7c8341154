import GaonOne.CartDiscipline
import GaonOne.LoneRequests

/-! Checkout with nobody else about: the statements, which lock the cart and the listings and
write at the end, leave what the handler's one pass over the items leaves. -/
namespace GaonOne
open Relational UnitOfWork ReadCommitted

/-! ## Its parts -/

/-- What the loops of the statements and of the handler make of the items: the lines of the
order, written with the listings as they leave the shelf. -/
structure Lining (market : Market) (order : Order) (itemId : Nat → UUID)
    (validated : List (CartItem × StoreProduct)) (lines : Handler (List OrderItem)) : Prop where
  stated : (Statement.orderLines order itemId validated).alone market = (·, market) <$> lines
  recorded : ∀ db : DbSession, db.flushed.catalogue.products = market.tables.catalogue.products →
    recordItems order itemId validated db =
      (fun lines => db.write fun tables => (tables.addOrderItems lines).putListings
        (validated.map fun pair => debitListing pair.2 pair.1.quantity)) <$> lines
  totals : ∀ found, lines = .ok found →
    found.map (·.lineTotal) = validated.map fun pair => pair.2.price * pair.1.quantity

theorem exists_lining (market : Market) (order : Order) (itemId : Nat → UUID)
    (validated : List (CartItem × StoreProduct)) :
    ∃ lines, Lining market order itemId validated lines := by
  induction validated with
  | nil =>
    refine ⟨.ok [], rfl, fun db _ => ?_, fun found same => ?_⟩
    · have same : db.write (fun tables => (tables.addOrderItems []).putListings []) = db := by
        cases db
        simp [Session.write, Tables.addOrderItems, Tables.putListings]
      exact congrArg Except.ok same.symm
    · cases same
      rfl
  | cons pair validated ih =>
    obtain ⟨item, listing⟩ := pair
    obtain ⟨lines, stated, recorded, totals⟩ := ih
    refine ⟨(do
      let product ← found (lookup Product.id listing.productId market.tables.catalogue.products)
        ⟨500, "AttributeError"⟩
      let lines ← lines
      pure (orderLine order (itemId validated.length) item listing product :: lines)), ?_, ?_, ?_⟩
    · unfold Statement.orderLines
      have read : (Program.query fun market : Market => lookup Product.id listing.productId
          market.tables.catalogue.products : Statements _).alone market =
          .ok (lookup Product.id listing.productId market.tables.catalogue.products, market) := rfl
      rw [Program.alone_bind, read]
      change (Statement.found _ _ >>= _).alone market = _
      rw [Program.alone_bind, Statement.found, Program.alone_ofExcept]
      cases lookup Product.id listing.productId market.tables.catalogue.products with
      | none => rfl
      | some product =>
        change (Statement.orderLines order itemId validated >>= _).alone market = _
        rw [Program.alone_bind, stated]
        cases lines <;> rfl
    · intro db products
      rw [recordItems, products, map_bind]
      refine bind_congr_ok fun product _ => ?_
      refine Eq.trans (recorded _ (by exact products)) ?_
      cases lines with
      | error error => rfl
      | ok lines =>
        refine congrArg Except.ok (congrArg (Session.mk db.committed db.flushed) ?_)
        simp only [Session.write_pending, Tables.putListings_eq, Tables.addOrderItems, Tables.putListing,
          List.map_cons, List.foldl_cons, List.append_assoc, List.singleton_append]
        rfl
    · intro found same
      obtain ⟨product, -, same⟩ := (found_bind_ok ..).mp same
      obtain ⟨rest, here, same⟩ := (bind_ok ..).mp same
      cases same
      rw [List.map_cons, List.map_cons, totals rest here]
      rfl

section
variable {market : Market} {next : β → Statements α}

theorem leaves_pure_bind (value : β) : leaves (pure value >>= next) market = leaves (next value) market := rfl

theorem Lining.leaves (lining : Lining market order itemId validated lines)
    {next : List OrderItem → Statements α} :
    leaves (Statement.orderLines order itemId validated >>= next) market =
      lines >>= fun lines => GaonOne.leaves (next lines) market := by
  rw [leaves_bind, lining.stated, bind_map_left]

/-- Nobody else takes a row away while it is waited for. -/
theorem leaves_deleteCartItems (matching : CartItem → Bool) {next : Statements α} :
    leaves (Statement.deleteCartItems matching >>= fun _ => next) market =
      leaves next (market.change (·.deleteCartItems matching)) := by
  unfold Statement.deleteCartItems
  simp only [Program.bind_assoc, leaves_query, leaves_lockRows, leaves_flushTables]
  have deleted : market.tables.deleteCartItems (foundByDelete
      (market.tables.catalogue.cartItems.filter matching) matching) =
        market.tables.deleteCartItems matching := by
    have kept : (market.tables.catalogue.cartItems.filter fun item => !foundByDelete
        (market.tables.catalogue.cartItems.filter matching) matching item) =
        market.tables.catalogue.cartItems.filter fun item => !matching item := by
      refine List.filter_congr fun item inside => ?_
      cases matched : matching item with
      | false => simp [foundByDelete, matched]
      | true =>
        have seen : item.id ∈ (market.tables.catalogue.cartItems.filter matching).map (·.id) :=
          List.mem_map_of_mem (List.mem_filter.mpr ⟨inside, matched⟩)
        simp [foundByDelete, matched, decide_eq_true seen]
    unfold Tables.deleteCartItems
    rw [kept]
  change leaves next { market with tables := market.tables.deleteCartItems _ } = _
  rw [deleted]
  rfl

end

/-- The order of the rows does not matter to the loop over the items. -/
theorem validateItems_perm {rows listings : List StoreProduct} (same : rows.Perm listings)
    (ids : Relational.Unique StoreProduct.id listings) (items : List CartItem) (subtotal : Paise)
    (before : List (CartItem × StoreProduct)) :
    validateItems storeId rows items subtotal before =
      validateItems storeId listings items subtotal before := by
  have idsToo : Relational.Unique StoreProduct.id rows := (same.map _).nodup_iff.mpr ids
  induction items generalizing subtotal before with
  | nil => rfl
  | cons item items ih =>
    have looked : lookup StoreProduct.id item.storeProductId rows =
        lookup StoreProduct.id item.storeProductId listings := by
      ext listing
      rw [lookup_eq_some_iff idsToo, lookup_eq_some_iff ids, same.mem_iff]
    simp only [validateItems, looked, ih]

/-- A cart emptied as the handler does it. -/
theorem emptyCart_eq {tables : Tables} {cart : Cart} (ids : Relational.Unique Cart.id tables.catalogue.carts)
    (held : cart ∈ tables.catalogue.carts) :
    emptyCart cart tables =
      (tables.deleteCartItems fun item => item.cartId = cart.id).setCartStore cart.id none := by
  have carts : put Cart.id { cart with storeId := none } tables.catalogue.carts =
      tables.catalogue.carts.map fun row =>
        if row.id = cart.id then { row with storeId := none } else row := by
    refine List.map_congr_left fun row inside => ?_
    by_cases same : row.id = cart.id
    · rw [if_pos same, if_pos same, unique_eq ids inside held same]
    · rw [if_neg same, if_neg same]
  unfold emptyCart Tables.deleteCartItems Tables.setCartStore
  rw [carts]
  simp only [decide_not]

/-- The tables that a checkout writes. -/
def Tables.placed (order : Order) (lines : List OrderItem) (listings : List StoreProduct)
    (delivery : Delivery) (cart : Cart) (db : Tables) : Tables :=
  emptyCart cart (((db.addOrder order).addOrderItems lines |>.putListings listings).addDelivery delivery)

/-- An order that breaks a constraint breaks it to the end. -/
theorem Tables.Constraints.of_placed {db : Tables} (constraints : db.Constraints)
    (placed : (db.placed order lines listings delivery cart).Constraints) :
    (db.addOrder order).Constraints := by
  unfold Tables.placed at placed
  rw [Tables.putListings_eq] at placed
  have wider : ∀ {ρ : Type} {col : ρ → UUID} {rows : List ρ}, References col Order.id rows db.orders →
      References col Order.id rows (db.orders ++ [order]) := fun refers row inside => by
    obtain ⟨parent, there, same⟩ := refers row inside
    exact ⟨parent, List.mem_append_left _ there, same⟩
  exact
    { constraints with
      orderIds := placed.orderIds
      orderNumbers := placed.orderNumbers
      orderKeys := placed.orderKeys
      deliveryParents := wider constraints.deliveryParents
      attemptParents := wider constraints.attemptParents
      refundParents := wider constraints.refundParents
      settlementParents := wider constraints.settlementParents }

section
variable {market : Market} {env : Environment} {settings : Settings} {subject : UUID}
  {payload : CheckoutRequest} {idempotencyKey : Option String} {orderNumber : String} {draws : Draws}

/-- Lines of an order whose subtotal fits a column fit one too. -/
theorem lines_fit {validated : List (CartItem × StoreProduct)}
    (prices : ∀ pair ∈ validated, 0 ≤ pair.2.price ∧ 0 ≤ pair.1.quantity)
    (fits : fitsNumeric (validated.map fun pair => pair.2.price * pair.1.quantity).sum) :
    ∀ total ∈ validated.map fun pair => pair.2.price * pair.1.quantity, fitsNumeric total := by
  have nonneg : ∀ total ∈ validated.map fun pair => pair.2.price * pair.1.quantity, (0 : Int) ≤ total := by
    intro total inside
    obtain ⟨pair, member, rfl⟩ := List.mem_map.mp inside
    exact Int.mul_nonneg (prices pair member).1 (prices pair member).2
  intro total inside
  have least := nonneg total inside
  have most := List.single_le_sum nonneg total inside
  unfold fitsNumeric at fits ⊢
  omega

theorem placeOrder_alone (constraints : market.tables.Constraints)
    (prices : ∀ listing ∈ market.tables.catalogue.storeProducts, 0 ≤ listing.price)
    (quantities : ∀ item ∈ market.tables.catalogue.cartItems, 0 ≤ item.quantity)
    {user : User} {address : Address} {cart : Cart} {storeId : UUID}
    (held : lookup Cart.userId user.id market.tables.catalogue.carts = some cart)
    (filled : cart.storeId = some storeId) :
    settles market.tables (leaves (Statement.placeOrder env settings user payload address idempotencyKey
        orderNumber draws cart storeId) market) =
      settles market.tables ((·.1.pending) <$> placeOrder env settings (Session.start market.tables) user
        payload address idempotencyKey orderNumber draws) := by
  have listed : (checkoutLocks (cartRows market.tables cart.id) market.tables).Perm
      (market.tables.catalogue.storeProducts.filter fun listing =>
        listing.id ∈ (cartRows market.tables cart.id).map (·.storeProductId)) := List.perm_insertionSort _ _
  have ids : Relational.Unique StoreProduct.id (market.tables.catalogue.storeProducts.filter fun listing =>
      listing.id ∈ (cartRows market.tables cart.id).map (·.storeProductId)) :=
    constraints.listingIds.sublist (List.filter_sublist.map _)
  simp only [Statement.placeOrder, placeOrder, held, filled, Statement.deliveringStore, Program.bind_assoc,
    leaves_query, leaves_remember, leaves_require, leaves_found, map_bind, found_filter, found_some_bind,
    bind_assoc, pure_bind]
  refine settles_congr fun _ _ => settles_congr fun store _ => settles_congr fun _ _ =>
    settles_congr fun _ _ => settles_congr fun _ _ => settles_congr fun _ _ => settles_congr fun _ _ =>
    settles_congr fun _ _ => settles_congr fun _ _ => ?_
  simp only [leaves_pure_bind, leaves_query, leaves_require, leaves_lockListings, leaves_check,
    leaves_flushTables, listed.length_eq, validateItems_perm listed ids]
  refine settles_congr fun _ _ => settles_congr fun result validates => settles_congr fun _ fits => ?_
  obtain ⟨validated, firsts, all, rfl⟩ := validateItems_ok.mp validates
  have cents := ((require_ok ..).mp fits).1
  simp only [List.nil_append, zero_add] at cents ⊢
  generalize placedOrder user storeId address.id orderNumber idempotencyKey payload.paymentMethod
    (validated.map fun pair => pair.2.price * pair.1.quantity).sum
    (resolveDeliveryFee settings market.tables store) draws = order
  obtain ⟨lines, lining⟩ := exists_lining (market.change (·.addOrder order)) order draws.itemId validated
  have fit : ∀ found, lines = .ok found → ∀ line ∈ found, fitsNumeric line.lineTotal := by
    intro found made line inside
    have totalled : line.lineTotal ∈ validated.map fun pair => pair.2.price * pair.1.quantity :=
      lining.totals found made ▸ List.mem_map_of_mem inside
    refine lines_fit (fun pair member => ?_) cents line.lineTotal totalled
    have listing := lookup_mem (all pair member).listed
    have row : pair.1 ∈ cartRows market.tables cart.id := firsts ▸ List.mem_map_of_mem member
    exact ⟨prices pair.2 (List.mem_filter.mp listing).1,
      quantities pair.1 (mem_belonging.mp ((List.mem_insertionSort _).mp row)).1⟩
  have written : ∀ found, (((((market.tables.addOrder order).deleteCartItems fun item =>
      item.cartId = cart.id).addOrderItems found).putListings (validated.map fun pair =>
        debitListing pair.2 pair.1.quantity)).addDelivery (newDelivery order.id draws)).setCartStore
          cart.id none =
      market.tables.placed order found (validated.map fun pair => debitListing pair.2 pair.1.quantity)
        (newDelivery order.id draws) cart := by
    intro found
    unfold Tables.placed
    rw [emptyCart_eq (by rw [Tables.putListings_eq]; exact constraints.cartIds)
      (by rw [Tables.putListings_eq]; exact lookup_mem held), Tables.putListings_eq, Tables.putListings_eq]
    rfl
  simp only [lining.leaves, leaves_deleteCartItems, leaves_require, leaves_flush, leaves_pure]
  by_cases kept : (market.tables.addOrder order).Constraints
  · rw [flushRows_kept (by exact kept)]
    change _ = settles _ (recordItems order draws.itemId validated
      ((Session.start market.tables).write (·.addOrder order)).flush >>= _)
    rw [lining.recorded _ (by rfl), bind_map_left]
    refine settles_congr fun found made => ?_
    rw [(require_ok _ _ ()).mpr (fit found made)]
    exact congrArg (fun after => settles market.tables (.ok after)) (written found)
  · rw [flushRows_refused (by exact kept)]
    cases made : lines with
    | error error => rfl
    | ok found =>
      change settles _ (require _ _ >>= _) = _
      rw [(require_ok _ _ ()).mpr (fit found made)]
      refine (congrArg (fun after => settles market.tables (.ok after)) (written found)).trans ?_
      exact if_neg fun placed => kept (constraints.of_placed placed)

theorem safeCheckout_alone (constraints : market.tables.Constraints)
    (prices : ∀ listing ∈ market.tables.catalogue.storeProducts, 0 ≤ listing.price)
    (quantities : ∀ item ∈ market.tables.catalogue.cartItems, 0 ≤ item.quantity) :
    settles market.tables (leaves (Statement.safeCheckout env settings subject payload idempotencyKey
        orderNumber draws) market) =
      settles market.tables ((·.1.pending) <$> safeCheckout env settings (Session.start market.tables) subject
        payload idempotencyKey orderNumber draws) := by
  simp only [Statement.safeCheckout, safeCheckout, leaves_statement, leaves_require, leaves_query, map_bind]
  refine settles_congr fun user _ => settles_congr fun _ _ => ?_
  cases earlier : existingIdempotentOrder market.tables user.id (idempotencyKey.map Text.strip) with
  | some order => rfl
  | none =>
    simp only [leaves_query, leaves_found, map_bind, Statement.lockedCart, leaves_selectForUpdate]
    refine settles_congr fun address _ => ?_
    rw [earlier]
    cases held : lookup Cart.userId user.id market.tables.catalogue.carts with
    | none =>
      unfold placeOrder
      simp only [held]
      rfl
    | some cart =>
      cases filled : cart.storeId with
      | none =>
        unfold placeOrder
        simp only [leaves_found, held, found_some_bind, filled]
        rfl
      | some storeId =>
        simp only [leaves_found, found_some_bind, filled]
        exact placeOrder_alone constraints prices quantities held filled

/-! ## Its service -/

theorem recordItems_catalogue {db result : DbSession} {itemId : Nat → UUID}
    {validated : List (CartItem × StoreProduct)} {items : List CartItem}
    (ran : recordItems order itemId validated db = .ok result)
    (refers : References CartItem.storeProductId StoreProduct.id items db.pending.catalogue.storeProducts) :
    result.pending.catalogue.carts = db.pending.catalogue.carts ∧
      result.pending.catalogue.cartItems = db.pending.catalogue.cartItems ∧
      References CartItem.storeProductId StoreProduct.id items result.pending.catalogue.storeProducts := by
  induction validated generalizing db with
  | nil =>
    simp only [recordItems, pure_ok] at ran
    subst ran
    exact ⟨rfl, rfl, refers⟩
  | cons pair validated ih =>
    simp only [recordItems, found_bind_ok] at ran
    obtain ⟨product, -, ran⟩ := ran
    have rest := ih ran (references_put_parent (debitListing pair.2 pair.1.quantity) refers)
    exact rest

/-- A checkout takes rows of carts away, and neither carts nor listings. -/
theorem safeCheckout_carts {tables : Tables} {result : DbSession} {order : Order}
    (kept : CartConstraints tables)
    (ran : safeCheckout env settings (Session.start tables) subject payload idempotencyKey orderNumber draws =
      .ok (result, order)) (declared : result.pending.Constraints) : CartConstraints result.pending := by
  simp only [safeCheckout, getCurrentUser_bind_ok, require_bind_ok] at ran
  obtain ⟨user, -, -, ran⟩ := ran
  split at ran
  · simp only [pure_ok, Prod.mk.injEq] at ran
    obtain ⟨rfl, -⟩ := ran
    exact kept
  · simp only [placeOrder, found_bind_ok, require_bind_ok] at ran
    obtain ⟨address, -, cart, -, storeId, -, -, store, -, merchant, -, -, -, -, serviceAreaId, -, place, -, -,
      -, ran⟩ := ran
    rw [bind_ok] at ran
    obtain ⟨⟨subtotal, validated⟩, -, ran⟩ := ran
    simp only [require_bind_ok, flushRows_bind_ok] at ran
    obtain ⟨-, -, ran⟩ := ran
    rw [bind_ok] at ran
    obtain ⟨recorded, recording, ran⟩ := ran
    simp only [pure_ok, Prod.mk.injEq] at ran
    obtain ⟨rfl, -⟩ := ran
    obtain ⟨carts, items, listings⟩ := recordItems_catalogue recording kept.itemListings
    refine ⟨declared, fun item inside => ?_, fun item inside => ?_⟩
    · have here : item ∈ tables.catalogue.cartItems := items ▸ (List.mem_filter.mp inside).1
      exact references_put_parent _ (carts ▸ kept.itemCarts) item here
    · exact listings item (items ▸ (List.mem_filter.mp inside).1)

/-- With nobody else about, what the whole program's tables refuse is what carts refuse. -/
theorem safeCheckout_valid (kept : CartConstraints market.tables)
    (prices : ∀ listing ∈ market.tables.catalogue.storeProducts, 0 ≤ listing.price)
    (quantities : ∀ item ∈ market.tables.catalogue.cartItems, 0 ≤ item.quantity)
    (ends : (Statement.safeCheckout env settings subject payload idempotencyKey orderNumber draws).alone
      market = .ok (value, ended)) : CartConstraints ended.tables ↔ ended.tables.Constraints := by
  refine ⟨CartConstraints.declared, fun declared => ?_⟩
  have left : leaves (Statement.safeCheckout env settings subject payload idempotencyKey orderNumber draws)
      market = .ok ended.tables := by
    rw [leaves, ends]
    rfl
  have settled : ended.tables = settles market.tables ((·.1.pending) <$> safeCheckout env settings
      (Session.start market.tables) subject payload idempotencyKey orderNumber draws) := by
    rw [← safeCheckout_alone kept.declared prices quantities, left, settles, if_pos declared]
  cases ran : safeCheckout env settings (Session.start market.tables) subject payload idempotencyKey
      orderNumber draws with
  | error error =>
    rw [ran] at settled
    rw [settled]
    exact kept
  | ok answered =>
    rw [ran] at settled
    change ended.tables =
      if answered.1.pending.Constraints then answered.1.pending else market.tables at settled
    split at settled
    · next whole =>
      rw [settled]
      exact safeCheckout_carts kept ran whole
    · rw [settled]
      exact kept

/-- A checkout with nobody else about is the one of the whole program. -/
theorem checkout_served {world : World} (tables : world.tables = market.tables)
    (fresh : draws.Fresh market.tables) (kept : CartConstraints market.tables)
    (prices : ∀ listing ∈ market.tables.catalogue.storeProducts, 0 ≤ listing.price)
    (quantities : ∀ item ∈ market.tables.catalogue.cartItems, 0 ≤ item.quantity) :
    Served (cartService env settings)
      (.safeCheckout subject payload idempotencyKey orderNumber draws) market
      (world.request env settings (.checkout subject payload idempotencyKey orderNumber) draws).tables := by
  refine World.served (fun value ended ends => safeCheckout_valid kept prices quantities ends) tables fresh ?_
  refine (safeCheckout_alone kept.declared prices quantities).trans (congrArg (settles market.tables) ?_)
  change _ = (·.pending) <$> (safeCheckout _ _ _ _ _ _ _ _ >>= fun answered => pure answered.1)
  rw [map_bind]
  rfl

end

end GaonOne
