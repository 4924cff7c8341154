import GaonOne.Library.Answers
import GaonOne.ListingPrices
import GaonOne.StockConservation

/-! Who takes a listing off the shelf. Checkout switches a listing off when it sells the last
unit, merchants when they decide to, and one column holds both. Restoration tells them
apart by the stock at that moment. -/
namespace GaonOne
open Relational UnitOfWork ReadCommitted Transitions

/-! ## Edits, statement by statement -/

/-- What a committed request did to the shelf. Of an edit: the availability its payload
carried, and the one its `UPDATE` wrote. -/
inductive ListingAnswer where
  | sold
  | restored
  | edited (listingId : UUID) (carried written : Option Bool)
  deriving DecidableEq

/-- A session writes the columns that differ from the row as loaded. -/
def ListingEdit.differing (edit : ListingEdit) (loaded : StoreProduct) (price : Option ℚ) :
    ListingEdit where
  price := edit.price.filter fun _ => price ≠ some (Decimal.ofCents loaded.price)
  stockQuantity := edit.stockQuantity.filter (· ≠ loaded.stockQuantity)
  isAvailable := edit.isAvailable.filter (· ≠ loaded.isAvailable)

def ListingEdit.writes (edit : ListingEdit) : Bool :=
  edit.price.isSome || edit.stockQuantity.isSome || edit.isAvailable.isSome

namespace Tables

/-- `UPDATE store_products SET ... WHERE id = ...`. -/
def updateListing (listingId : UUID) (edit : ListingEdit) (db : Tables) : Tables :=
  { db with
    catalogue.storeProducts := db.catalogue.storeProducts.map fun listing =>
      if listing.id = listingId then edit.row listing else listing }

def addListing (listing : StoreProduct) (db : Tables) : Tables :=
  { db with catalogue.storeProducts := db.catalogue.storeProducts ++ [listing] }

end Tables

namespace Statement

/-- The flush of an edited listing. The `UPDATE` waits for the row, which its lookup did
not lock, and fails if the row has gone. -/
def editListing (listing : StoreProduct) (edit : ListingEdit) (price : Option ℚ) :
    Statements ListingAnswer := do
  let changed := edit.differing listing price
  if changed.writes then do
    Program.lockRow ⟨.listing listing.id, .noKeyUpdate⟩
    let current ← Program.query fun market : Market =>
      lookup StoreProduct.id listing.id market.tables.catalogue.storeProducts
    let _ ← found current ⟨500, "StaleDataError"⟩
    flushTables (·.updateListing listing.id changed)
    pure (.edited listing.id edit.isAvailable changed.isAvailable)
  else pure (.edited listing.id edit.isAvailable none)

/-- `POST /stores/{store_id}/products`. -/
def upsertStoreProduct (subject storeId : UUID) (payload : StoreProductCreate) (draws : ListingDraws) :
    Statements ListingAnswer := do
  let store ← statement (editableStore · subject storeId payload.Valid "StoreProductCreate")
  let product ← Program.query fun market : Market =>
    lookup Product.id payload.productId market.tables.catalogue.products
  let _ ← found product ⟨404, "Product not found"⟩
  let listing ← Program.query fun market : Market => listingFor market.tables store.id payload.productId
  let edit ← Program.ofExcept payload.edit
  match listing with
  | some listing => editListing listing edit (some payload.price)
  | none => do
    flushTables (·.addListing (edit.row ⟨draws.listingId, store.id, payload.productId, 0, 0, true⟩))
    pure (.edited draws.listingId edit.isAvailable edit.isAvailable)

/-- `PATCH /stores/{store_id}/products/{listing_id}`. -/
def updateStoreProduct (subject storeId listingId : UUID) (payload : StoreProductUpdate) :
    Statements ListingAnswer := do
  let store ← statement (editableStore · subject storeId payload.Valid "StoreProductUpdate")
  let listing ← Program.query fun market : Market =>
    lookup StoreProduct.id listingId market.tables.catalogue.storeProducts
  let listing ← found (listing.filter (·.storeId = store.id)) ⟨404, "Store product not found"⟩
  let edit ← Program.ofExcept payload.edit
  editListing listing edit payload.price.join

end Statement

/-! ## The service -/

inductive ShelvingRequest where
  | safeCheckout (settings : Settings) (subject : UUID) (payload : CheckoutRequest)
      (idempotencyKey : Option String) (orderNumber : String) (draws : Draws)
  | cancelMyOrder (subject orderId : UUID) (draws : Draws)
  | updateOrderStatus (subject orderId : UUID) (status : OrderStatus) (draws : Draws)
  | resolveFailedDelivery (subject deliveryId : UUID) (resolution : Resolution)
      (notes : Option String) (draws : Draws)
  | upsertListing (subject storeId : UUID) (payload : StoreProductCreate) (draws : ListingDraws)
  | updateListing (subject storeId listingId : UUID) (payload : StoreProductUpdate)

def ShelvingRequest.program (env : Environment) : ShelvingRequest → Statements ListingAnswer
  | safeCheckout settings subject payload key number draws => do
    let _ ← Statement.safeCheckout env settings subject payload key number draws
    pure .sold
  | cancelMyOrder subject orderId draws => do
    let _ ← Statement.cancelMyOrderSafely subject orderId draws
    pure .restored
  | updateOrderStatus subject orderId status draws => do
    let _ ← Statement.updateOrderStatusSafely subject orderId status draws
    pure .restored
  | resolveFailedDelivery subject deliveryId resolution notes draws => do
    let _ ← Statement.resolveFailedDelivery subject deliveryId resolution notes draws
    pure .restored
  | upsertListing subject storeId payload draws =>
    Statement.upsertStoreProduct subject storeId payload draws
  | updateListing subject storeId listingId payload =>
    Statement.updateStoreProduct subject storeId listingId payload

def shelvingService (env : Environment) :
    Service Market RowLock Note HTTPException ListingAnswer ShelvingRequest where
  program := ShelvingRequest.program env
  conflicts := RowLock.conflicts
  symmetric := RowLock.conflicts_symm
  valid market := market.tables.Constraints
  decideConflicts := inferInstance
  decideValid := fun _ => inferInstanceAs (Decidable (Tables.Constraints _))

/-! ## On record -/

/-- Who wrote a listing's availability last. -/
inductive Writer where
  | merchant (shown : Bool)
  /-- A checkout that left no stock. -/
  | soldOut
  | restoration
  deriving DecidableEq

/-- What is on record of one listing. -/
structure OnRecord where
  /-- The availability that the last request carried which carried one. -/
  decided : Option Bool := none
  /-- The availability that the last edit wrote which wrote it. -/
  written : Option Bool := none
  writer : Option Writer := none
  deriving DecidableEq

def OnRecord.edit (carried written : Option Bool) (said : OnRecord) : OnRecord where
  decided := carried.or said.decided
  written := written.or said.written
  writer := (written.map .merchant).or said.writer

/-- What is written down as requests commit. -/
structure Decisions where
  listing : UUID → OnRecord := fun _ => {}
  /-- What was on record of each listing when a restoration re-listed it. -/
  relisted : List OnRecord := []

abbrev Market.listings (market : Market) : List StoreProduct := market.tables.catalogue.storeProducts

def shownIn (listings : List StoreProduct) (id : UUID) : Option Bool :=
  (lookup StoreProduct.id id listings).map (·.isAvailable)

/-- The listings that a checkout took the last unit of. -/
def soldOut (before after : List StoreProduct) (id : UUID) : Bool :=
  decide (shownIn before id = some true) && (lookup StoreProduct.id id after).any fun listing =>
    !listing.isAvailable && decide (listing.stockQuantity = 0)

/-- The listings that are on now and were off. -/
def shownAgain (before after : List StoreProduct) : List StoreProduct :=
  after.filter fun listing => listing.isAvailable && decide (shownIn before listing.id = some false)

namespace Decisions

/-- A new listing is as its merchant made it. -/
def enter (before after : List StoreProduct) (record : Decisions) : Decisions :=
  { record with
    listing := fun id =>
      if shownIn before id = none then OnRecord.edit (shownIn after id) (shownIn after id) {}
      else record.listing id }

def commit (answer : ListingAnswer) (before after : List StoreProduct) (record : Decisions) : Decisions :=
  match answer with
  | .sold =>
    { record with
      listing := fun id =>
        if soldOut before after id then { record.listing id with writer := some .soldOut }
        else record.listing id }
  | .restored =>
    { record with
      listing := fun id =>
        if id ∈ (shownAgain before after).map (·.id) then
          { record.listing id with writer := some .restoration }
        else record.listing id
      relisted := record.relisted ++
        (shownAgain before after).map fun listing => record.listing listing.id }
  | .edited listingId carried written =>
    { record with
      listing := fun id =>
        if id = listingId then (record.listing id).edit carried written else record.listing id }

/-- The record of a database that nothing else is known of. -/
def initial (market : Market) : Decisions := enter [] market.listings {}

end Decisions

/-- A running service, and what is on record of its listings. -/
structure Watched where
  state : State Market RowLock Note HTTPException ListingAnswer
  record : Decisions

namespace Watched

/-- The request that the action commits. -/
def committing (env : Environment) (watched : Watched) :
    ReadCommitted.Action Market ShelvingRequest → Option ListingAnswer
  | .advance index =>
    match watched.state.sessions[index]? with
    | some (.running (.done answer) footing) =>
      if (shelvingService env).valid (footing.change watched.state.database) then some answer else none
    | _ => none
  | _ => none

def step (env : Environment) (watched : Watched) (action : ReadCommitted.Action Market ShelvingRequest) :
    Watched :=
  let state := (shelvingService env).step watched.state action
  let before := watched.state.database.listings
  match action, watched.committing env action with
  | .other _, _ => ⟨state, watched.record.enter before state.database.listings⟩
  | _, some answer => ⟨state, watched.record.commit answer before state.database.listings⟩
  | _, none => ⟨state, watched.record⟩

end Watched

def watch (env : Environment) (start : Market) :
    System Watched (ReadCommitted.Action Market ShelvingRequest) where
  initial := ⟨⟨start, []⟩, .initial start⟩
  step := Watched.step env

/-! ## What a request may rely on -/

/-- Stock and quantities are not negative. -/
@[mk_iff]
structure AmountsSound (db : Tables) : Prop where
  stocked : ∀ listing ∈ db.catalogue.storeProducts, 0 ≤ listing.stockQuantity
  ordered : ∀ item ∈ db.orderItems, 0 ≤ item.quantity
  wanted : ∀ item ∈ db.catalogue.cartItems, 0 ≤ item.quantity

/-- A listing that is locked stays as it is. -/
def listingDiscipline : Discipline Market RowLock Note where
  invariant market := market.tables.Constraints ∧ AmountsSound market.tables
  guarantee _ _ := True
  rely held _ before after :=
    ∀ listing ∈ before.listings, (Row.listing listing.id).forUpdate ∈ held → listing ∈ after.listings
  refl _ _ _ _ inside _ := inside
  trans first second listing inside locked := second listing (first listing inside locked) locked
  weaken kept listing inside locked := kept listing inside (List.mem_cons_of_mem _ locked)
  admits _ _ := True
  apart footing other := ∀ row ∈ footing.held, ∀ held ∈ other.held, ¬RowLock.conflicts row held

/-- What a commit of this request does to the availability of a listing. -/
def Changes (held : List RowLock) (old new : StoreProduct) : ListingAnswer → Prop
  | .sold => new.isAvailable = old.isAvailable ∨
      (old.isAvailable = true ∧ new.isAvailable = false ∧ new.stockQuantity = 0)
  | .restored => new.isAvailable = old.isAvailable ∨
      (old.isAvailable = false ∧ new.isAvailable = true ∧ old.stockQuantity = 0 ∧
        (Row.listing old.id).forUpdate ∈ held)
  | .edited listingId _ written =>
    new.isAvailable = if old.id = listingId then written.getD old.isAvailable else old.isAvailable

/-- What a commit makes of a listing, which it holds if it changes it. -/
structure Becomes (answer : ListingAnswer) (held : List RowLock) (old new : StoreProduct) : Prop where
  id : new.id = old.id
  locked : new = old ∨ ∃ lock ∈ held, lock.conflicts (Row.listing old.id).forUpdate
  changes : Changes held old new answer

/-- What a commit does to the shelf: every listing stays, and one may come. -/
structure Shelves (answer : ListingAnswer) (held : List RowLock) (before after : Market) : Prop where
  kept : ∀ old ∈ before.listings, ∃ new ∈ after.listings, Becomes answer held old new
  known : ∀ new ∈ after.listings, (∃ old ∈ before.listings, Becomes answer held old new) ∨
    ((∀ old ∈ before.listings, old.id ≠ new.id) ∧
      answer = .edited new.id (some new.isAvailable) (some new.isAvailable))
  amounts : AmountsSound after.tables

variable {answer : ListingAnswer} {footing : Standing} {db now : Market} {held : List RowLock}

/-- How a request ends. -/
def Settles : Except HTTPException ListingAnswer → Standing → Market → Prop
  | .ok answer, footing, db => ∀ now, listingDiscipline.Later footing db now →
      (footing.change now).tables.Constraints → Shelves answer footing.held now (footing.change now)
  | .error _, _, _ => True

theorem settles_stable : listingDiscipline.Stable Settles := by
  intro result footing db now later settles
  cases result with
  | error => trivial
  | ok answer => exact fun next after => settles next (later.trans after)

theorem Settles.commits {env : Environment} (settles : Settles (.ok answer) footing db) :
    listingDiscipline.Commits (shelvingService env).valid answer footing db := by
  intro now later _ valid
  have shelves := settles now later valid
  refine ⟨⟨valid, shelves.amounts⟩, trivial, fun other apart listing inside locked => ?_⟩
  obtain ⟨new, there, becomes⟩ := shelves.kept listing inside
  rcases becomes.locked with rfl | ⟨lock, mine, clash⟩
  · exact there
  · exact absurd clash (apart lock mine _ locked)

/-! ## Commits -/

theorem Changes.refl (old : StoreProduct) (answer : ListingAnswer)
    (unwritten : ∀ carried written, answer = .edited old.id carried written →
      written.getD old.isAvailable = old.isAvailable) : Changes held old old answer := by
  cases answer with
  | sold => exact .inl rfl
  | restored => exact .inl rfl
  | edited listingId carried written =>
    change old.isAvailable = if old.id = listingId then written.getD old.isAvailable else old.isAvailable
    by_cases same : old.id = listingId
    · rw [if_pos same]
      exact (unwritten carried written (by rw [same])).symm
    · rw [if_neg same]

/-- A commit that rewrites listings row by row. -/
theorem Shelves.map {after : Market} {rewrite : StoreProduct → StoreProduct}
    (listings : after.listings = db.listings.map rewrite)
    (becomes : ∀ old ∈ db.listings, Becomes answer held old (rewrite old))
    (amounts : AmountsSound after.tables) :
    Shelves answer held db after where
  kept old inside := by
    refine ⟨rewrite old, ?_, becomes old inside⟩
    rw [listings]
    exact List.mem_map_of_mem inside
  known new inside := by
    rw [listings] at inside
    obtain ⟨old, there, rfl⟩ := List.mem_map.mp inside
    exact .inl ⟨old, there, becomes old there⟩
  amounts := amounts

/-- A commit that leaves the shelf alone. -/
theorem Shelves.same {after : Market} (answer : ListingAnswer)
    (unwritten : ∀ listingId carried written, answer = .edited listingId carried written → written = none)
    (listings : after.listings = db.listings) (amounts : AmountsSound after.tables) :
    Shelves answer held db after := by
  refine Shelves.map (listings.trans (List.map_id' _).symm) (fun old _ => ⟨rfl, .inl rfl, ?_⟩) amounts
  refine Changes.refl old answer fun carried written same => ?_
  rw [unwritten old.id carried written same]
  rfl

/-- Writes to neither listings nor quantities. -/
def OffShelf (writes : Tables → Tables) : Prop :=
  ∀ db, (writes db).catalogue = db.catalogue ∧ (writes db).orderItems = db.orderItems

theorem AmountsSound.off {writes : Tables → Tables} {tables : Tables} (off : OffShelf writes)
    (sound : AmountsSound tables) : AmountsSound (writes tables) where
  stocked := by
    rw [(off tables).1]
    exact sound.stocked
  ordered := by
    rw [(off tables).2]
    exact sound.ordered
  wanted := by
    rw [(off tables).1]
    exact sound.wanted

/-- The bookkeeping of an order that is given up. -/
theorem WritesOrder.off {order : Order} {writes : Tables → Tables} (wrote : WritesOrder order writes) :
    OffShelf writes := by
  intro db
  obtain ⟨row, -, -, -, -, items, catalogue⟩ := wrote db
  exact ⟨catalogue, items⟩

/-- A request that puts nothing back. -/
theorem settles_off {writes : Tables → Tables} (off : OffShelf writes)
    (change : footing.change = Market.change writes) : Settles (.ok .restored) footing db := by
  intro now later _
  rw [change]
  refine Shelves.same .restored nofun ?_ (later.2.2.off off)
  change (writes now.tables).catalogue.storeProducts = _
  rw [(off now.tables).1]

/-! ## Putting stock back -/

/-- A listing as items leave it that were put back: it is on if it was, and if it had
nothing left. -/
structure Replenished (new old : StoreProduct) : Prop where
  id : new.id = old.id
  stock : old.stockQuantity ≤ new.stockQuantity
  shown : new.isAvailable = old.isAvailable ∨
    (old.isAvailable = false ∧ new.isAvailable = true ∧ old.stockQuantity = 0)

theorem Replenished.credit {listing : StoreProduct} {quantity : Int} (some : 0 ≤ quantity) :
    Replenished (creditListing listing quantity) listing where
  id := rfl
  stock := by
    change listing.stockQuantity ≤ listing.stockQuantity + quantity
    omega
  shown := by
    change (listing.isAvailable || decide (listing.stockQuantity = 0)) = listing.isAvailable ∨ _
    cases shown : listing.isAvailable with
    | true => exact .inl rfl
    | false =>
      by_cases none : listing.stockQuantity = 0
      · refine .inr ⟨rfl, ?_, none⟩
        simp [creditListing, none]
      · exact .inl (by simp [none])

theorem Replenished.trans {last : StoreProduct} {new old : StoreProduct} (stocked : 0 ≤ old.stockQuantity)
    (second : Replenished last new) (first : Replenished new old) : Replenished last old where
  id := second.id.trans first.id
  stock := first.stock.trans second.stock
  shown := by
    have sooner := first.stock
    rcases first.shown with same | ⟨off, on, none⟩
    · rcases second.shown with again | ⟨off, on, none⟩
      · exact .inl (again.trans same)
      · exact .inr ⟨same ▸ off, on, by omega⟩
    · rcases second.shown with again | ⟨off', on', -⟩
      · exact .inr ⟨off, again.trans on, none⟩
      · exact .inr ⟨off, on', none⟩

/-- The loop over items replenishes the listings it was given. -/
theorem creditListings_replenished {items : List OrderItem} {listings credited : List StoreProduct}
    (ids : Relational.Unique StoreProduct.id listings) (amounts : ∀ item ∈ items, 0 ≤ item.quantity)
    (stocked : ∀ listing ∈ listings, 0 ≤ listing.stockQuantity)
    (credits : creditListings items listings = .ok credited) :
    credited.map StoreProduct.id = listings.map StoreProduct.id ∧
      ∀ new ∈ credited, ∃ old ∈ listings, Replenished new old := by
  induction items generalizing listings with
  | nil =>
    simp only [creditListings, pure_ok] at credits
    subst credits
    exact ⟨rfl, fun listing inside => ⟨listing, inside, rfl, le_refl _, .inl rfl⟩⟩
  | cons item items ih =>
    simp only [creditListings, found_bind_ok] at credits
    obtain ⟨listing, found, credits⟩ := credits
    have held := lookup_mem found
    have amount := amounts item List.mem_cons_self
    have first : ∀ new ∈ put StoreProduct.id (creditListing listing item.quantity) listings,
        ∃ old ∈ listings, Replenished new old := by
      intro new inside
      rcases mem_put.mp inside with ⟨rfl, -⟩ | ⟨there, -⟩
      · exact ⟨listing, held, .credit amount⟩
      · exact ⟨new, there, rfl, le_refl _, .inl rfl⟩
    obtain ⟨same, rest⟩ := ih (unique_put (fun _ _ same => same) ids)
      (fun other inside => amounts other (List.mem_cons_of_mem _ inside))
      (fun new inside => by
        obtain ⟨old, there, grown⟩ := first new inside
        exact (stocked old there).trans grown.stock) credits
    refine ⟨same.trans (map_put fun _ _ same => same), fun new inside => ?_⟩
    obtain ⟨between, there, later⟩ := rest new inside
    obtain ⟨old, before, sooner⟩ := first between there
    exact ⟨old, before, later.trans (stocked old before) sooner⟩

/-- Listings that the session holds, as it puts them back. -/
structure Credits (credited : List StoreProduct) (held : List RowLock) (db : Market) : Prop where
  distinct : Relational.Unique StoreProduct.id credited
  own : ∀ new ∈ credited, ∃ old ∈ db.listings, (Row.listing old.id).forUpdate ∈ held ∧ Replenished new old

theorem Credits.later {credited : List StoreProduct} (credits : Credits credited footing.held db)
    (later : listingDiscipline.Later footing db now) : Credits credited footing.held now where
  distinct := credits.distinct
  own new inside := by
    obtain ⟨old, there, locked, replenished⟩ := credits.own new inside
    exact ⟨old, later.1 old there locked, locked, replenished⟩

theorem credits_of_query {order : Order} {items : List OrderItem} {seen credited : List StoreProduct}
    (kept : listingDiscipline.invariant db) (amounts : ∀ item ∈ items, 0 ≤ item.quantity)
    (credits : creditListings items ((restoreLocks db.tables order items).filter fun listing =>
      listing.id ∈ seen.map (·.id)) = .ok credited) : Credits credited (listingLocks seen ++ held) db := by
  have part : ∀ listing ∈ (restoreLocks db.tables order items).filter
      (fun listing => listing.id ∈ seen.map (·.id)), listing ∈ db.listings ∧ listing.id ∈ seen.map (·.id) := by
    intro listing member
    rw [List.mem_filter, restoreLocks, List.mem_insertionSort, List.mem_filter, decide_eq_true_iff,
      decide_eq_true_iff] at member
    exact ⟨member.1.1, member.2⟩
  have ids : Relational.Unique StoreProduct.id ((restoreLocks db.tables order items).filter fun listing =>
      listing.id ∈ seen.map (·.id)) := by
    refine (List.filter_sublist.map _).nodup ?_
    refine ((List.perm_insertionSort _ _).map StoreProduct.id).nodup_iff.mpr ?_
    exact (List.filter_sublist.map _).nodup kept.1.listingIds
  obtain ⟨same, own⟩ := creditListings_replenished ids amounts
    (fun listing inside => kept.2.stocked listing (part listing inside).1) credits
  refine ⟨?_, fun new inside => ?_⟩
  · rw [Relational.Unique, same]
    exact ids
  · obtain ⟨old, there, replenished⟩ := own new inside
    obtain ⟨shelved, named⟩ := part old there
    refine ⟨old, shelved, List.mem_append_left _ (List.mem_reverse.mpr ?_), replenished⟩
    obtain ⟨locked, read, id⟩ := List.mem_map.mp named
    exact List.mem_map.mpr ⟨locked, read, by rw [id]⟩

theorem holds_credit {post : Order → Standing → Market → Prop} {order : Order}
    (fresh : footing.change = id) (already : post order footing db)
    (credit : ∀ locks credited now, listingDiscipline.Later footing db now →
      Credits credited (locks ++ footing.held) now →
      post { order with stockRestoredAt := some moment }
        { footing with held := locks ++ footing.held, change := putBack order credited } now) :
    listingDiscipline.Holds (Statement.restoreOrderStockOnce order moment) post footing db := by
  obtain ⟨locks, notes, change⟩ := footing
  subst fresh
  refine holds_restoreOrderStockOnce (fun _ => already) ?_
  intro unset first reading second seen selecting same fetched locking now later credited credits
  have since := (selecting.trans locking).trans (later.release _)
  refine credit _ credited now (reading.trans since) (credits_of_query later.2 (fun item inside => ?_) credits)
  rw [orderedItems, List.mem_insertionSort, mem_belonging] at inside
  exact reading.2.2.ordered item inside.1

/-- A request that put stock back. -/
theorem Credits.settles {order : Order} {credited : List StoreProduct} {writes : Tables → Tables}
    (credits : Credits credited held db) (off : OffShelf writes) (locking : footing.held = held)
    (change : footing.change = Market.change writes ∘ putBack order credited) :
    Settles (.ok .restored) footing db := by
  subst locking
  intro now later _
  have still := credits.later later
  rw [change]
  have shelved := Tables.putListings_eq credited now.tables
  obtain ⟨catalogue, items⟩ := off (now.tables.putListings credited)
  have listings : (writes (now.tables.putListings credited)).catalogue.storeProducts =
      now.listings.map fun row => tracked StoreProduct.id row credited := by
    rw [catalogue, shelved]
    exact foldl_put credits.distinct _
  have becomes : ∀ old ∈ now.listings, Becomes .restored footing.held old (tracked StoreProduct.id old credited) ∧
      old.stockQuantity ≤ (tracked StoreProduct.id old credited).stockQuantity := by
    intro old inside
    unfold tracked
    cases found : lookup StoreProduct.id old.id credited with
    | none => exact ⟨⟨rfl, .inl rfl, .inl rfl⟩, le_refl _⟩
    | some new =>
      obtain ⟨origin, there, locked, replenished⟩ := still.own new (lookup_mem found)
      have same : new.id = old.id := lookup_col found
      cases unique_eq later.2.1.listingIds there inside (replenished.id.symm.trans same)
      refine ⟨⟨same, .inr ⟨_, locked, RowLock.update_conflicts _ _⟩, ?_⟩, replenished.stock⟩
      rcases replenished.shown with kept | ⟨off, on, none⟩
      · exact .inl kept
      · exact .inr ⟨off, on, none, locked⟩
  refine Shelves.map listings (fun old inside => (becomes old inside).1) ⟨fun listing inside => ?_, ?_, ?_⟩
  · change listing ∈ (writes (now.tables.putListings credited)).catalogue.storeProducts at inside
    rw [listings] at inside
    obtain ⟨old, there, rfl⟩ := List.mem_map.mp inside
    exact (later.2.2.stocked old there).trans (becomes old there).2
  · change ∀ item ∈ (writes (now.tables.putListings credited)).orderItems, _
    rw [items, shelved]
    exact later.2.2.ordered
  · change ∀ item ∈ (writes (now.tables.putListings credited)).catalogue.cartItems, _
    rw [catalogue, shelved]
    exact later.2.2.wanted

/-! ## Cancellations and returns -/

theorem cancelMyOrderSafely_settles :
    listingDiscipline.Holds (Statement.cancelMyOrderSafely subject orderId draws)
      (fun _ => Settles (.ok .restored)) {} db := by
  unfold Statement.cancelMyOrderSafely
  refine Holds.statement fun _ _ user _ => ?_
  refine Holds.locked rfl fun order read _ found held same => Holds.require fun _ => ?_
  cases (Option.filter_eq_some_iff.mp same).1
  rw [Discipline.holds_bind]
  refine holds_credit rfl ?_ fun locks credited now later credits => ?_
  · refine Discipline.Holds.check fun moved transition => ?_
    obtain ⟨-, rfl⟩ := transitionOrder_ok.mp transition
    exact settles_off (writesOrder_refund { order with status := .cancelled } _ draws).off rfl
  · refine Discipline.Holds.check fun moved transition => ?_
    obtain ⟨-, rfl⟩ := transitionOrder_ok.mp transition
    exact credits.settles (writesOrder_refund
      { order with stockRestoredAt := some draws.now, status := .cancelled } _ draws).off rfl rfl

theorem updateOrderStatusSafely_settles :
    listingDiscipline.Holds (Statement.updateOrderStatusSafely subject orderId status draws)
      (fun _ => Settles (.ok .restored)) {} db := by
  unfold Statement.updateOrderStatusSafely
  refine Holds.statement fun _ _ user _ => Discipline.Holds.check fun _ _ => ?_
  refine Holds.locked rfl fun order read _ found held same => ?_
  cases same
  refine Holds.statement fun checked checking _ _ => Holds.require fun _ => Holds.require fun _ => ?_
  refine Holds.require fun _ => Discipline.Holds.branch (fun _ => ?_) fun _ => ?_
  · refine Discipline.Holds.check fun _ _ => ?_
    rw [Discipline.holds_bind]
    refine holds_credit rfl ?_ fun locks credited now later credits => ?_
    · refine Discipline.Holds.query fun asked asking => ?_
      refine Discipline.Holds.flush (Discipline.Holds.check fun moved transition => ?_)
      obtain ⟨-, same⟩ := transitionOrder_ok.mp transition
      have kept : moved.id = order.id ∧ moved.storeId = order.storeId ∧
          moved.stockRestoredAt = order.stockRestoredAt := by
        rw [← same]
        exact ⟨rfl, rfl, rfl⟩
      exact settles_off (writesOrder_after_refund order refundReasonCancelled draws moved kept.1 kept.2.1
        kept.2.2).off rfl
    · refine Discipline.Holds.query fun asked asking => ?_
      refine Discipline.Holds.flush (Discipline.Holds.check fun moved transition => ?_)
      obtain ⟨-, same⟩ := transitionOrder_ok.mp transition
      have kept : moved.id = order.id ∧ moved.storeId = order.storeId ∧
          moved.stockRestoredAt = some draws.now := by
        rw [← same]
        exact ⟨rfl, rfl, rfl⟩
      have still := credits.later asking
      have wrote := writesOrder_after_refund { order with stockRestoredAt := some draws.now }
        refundReasonCancelled draws moved kept.1 kept.2.1 kept.2.2
      exact still.settles wrote.off rfl rfl
  · refine Discipline.Holds.check fun moved transition => ?_
    obtain ⟨-, rfl⟩ := transitionOrder_ok.mp transition
    exact settles_off (writesOrder_put { order with status }).off rfl

theorem resolveFailedDelivery_settles :
    listingDiscipline.Holds (Statement.resolveFailedDelivery subject deliveryId resolution notes draws)
      (fun _ => Settles (.ok .restored)) {} db := by
  unfold Statement.resolveFailedDelivery
  refine Holds.statement fun _ _ _ _ => Holds.require fun _ => ?_
  refine Holds.locked rfl fun delivery first _ _ _ same => ?_
  cases same
  refine Holds.locked rfl fun order read _ found held same => Holds.require fun _ => ?_
  cases same
  cases resolution with
  | reassign =>
    refine Holds.require fun _ => Holds.require fun _ => ?_
    refine Discipline.Holds.check fun released _ => ?_
    have off : OffShelf (·.putDelivery released) := fun _ => ⟨rfl, rfl⟩
    exact settles_off off rfl
  | returnToStore =>
    refine Discipline.Holds.check fun _ _ => Discipline.Holds.check fun _ _ => Holds.require fun _ => ?_
    refine Discipline.Holds.query fun collected collecting => Holds.require fun _ => ?_
    rw [Discipline.holds_bind]
    refine holds_credit rfl ?_ fun locks credited now later credits => ?_
    · refine Discipline.Holds.check fun moved transition => ?_
      obtain ⟨-, rfl⟩ := transitionOrder_ok.mp transition
      exact settles_off (writesOrder_return { order with status := .returned } voidReasonReturned
        refundReasonReturned draws).off rfl
    · refine Discipline.Holds.check fun moved transition => ?_
      obtain ⟨-, rfl⟩ := transitionOrder_ok.mp transition
      exact credits.settles (writesOrder_return
        { order with stockRestoredAt := some draws.now, status := .returned } voidReasonReturned
        refundReasonReturned draws).off rfl rfl

/-! ## Checkout -/

/-- What a sale leaves of a listing that had enough. -/
theorem changes_debit {listing : StoreProduct} {quantity : Int} :
    Changes held listing (debitListing listing quantity) .sold := by
  by_cases none : listing.stockQuantity - quantity = 0
  · cases shown : listing.isAvailable with
    | true =>
      refine .inr ⟨shown, ?_, none⟩
      simp [debitListing, none]
    | false =>
      left
      simp [debitListing, shown]
  · left
    simp [debitListing, none]

namespace CheckoutRun
variable (run : CheckoutRun listingDiscipline customer key draws db)

/-- A listing that a checkout sells from stays as it was read until the commit. -/
theorem still_listed (later : listingDiscipline.Later run.standing run.last now)
    (inside : pair ∈ run.validated) : pair.2 ∈ now.listings := by
  obtain ⟨listed, -, locked⟩ := run.mem_listings inside
  have mine : (Row.listing pair.2.id).forUpdate ∈ (listingsHeld run.cart run.items run.seen).held :=
    List.mem_append_left _ locked
  have cleared := run.clearing.1 pair.2 listed mine
  have last := run.ending.1 pair.2 cleared mine
  exact later.1 pair.2 last (List.mem_append_right _ (List.mem_append_left _ locked))

theorem settles : Settles (.ok .sold) run.standing run.last := by
  intro now later constraints
  have rows := run.reading.2.1.cartRows
  have written := run.change_storeProducts rows now
  have becomes : ∀ old ∈ now.listings,
      Becomes .sold run.standing.held old (tracked StoreProduct.id old run.debited) ∧
        0 ≤ (tracked StoreProduct.id old run.debited).stockQuantity := by
    intro old inside
    unfold tracked
    cases found : lookup StoreProduct.id old.id run.debited with
    | none => exact ⟨⟨rfl, .inl rfl, .inl rfl⟩, later.2.2.stocked old inside⟩
    | some new =>
      obtain ⟨pair, bought, rfl⟩ := List.mem_map.mp (lookup_mem found)
      have same : (debitListing pair.2 pair.1.quantity).id = old.id := lookup_col found
      cases unique_eq later.2.1.listingIds (run.still_listed later bought) inside same
      have enough := (run.validated_items.2.1 pair bought).stocked
      refine ⟨⟨rfl, .inr ⟨_, ?_, RowLock.update_conflicts _ _⟩, changes_debit⟩, ?_⟩
      · exact List.mem_append_right _ (List.mem_append_left _ (run.mem_listings bought).2.2)
      · change 0 ≤ pair.2.stockQuantity - pair.1.quantity
        omega
  refine Shelves.map written (fun old inside => (becomes old inside).1) ⟨fun listing inside => ?_, ?_, ?_⟩
  · change listing ∈ (run.change now).tables.catalogue.storeProducts at inside
    rw [written] at inside
    obtain ⟨old, there, rfl⟩ := List.mem_map.mp inside
    exact (becomes old there).2
  · intro item inside
    change item ∈ (run.change now).tables.orderItems at inside
    rw [run.change_orderItems] at inside
    rcases List.mem_append.mp inside with there | new
    · exact later.2.2.ordered item there
    · obtain ⟨pair, bought, lineOf⟩ := exists_origin run.lined new
      have read : pair.1 ∈ run.items := run.validated_items.1 ▸ List.mem_map_of_mem bought
      rw [lineOf.quantity]
      exact run.reading.2.2.wanted pair.1 (run.mem_items.mp read).1
  · intro item inside
    change item ∈ (run.change now).tables.catalogue.cartItems at inside
    rw [run.change_cartItems] at inside
    exact later.2.2.wanted item (List.mem_filter.mp inside).1

end CheckoutRun

theorem safeCheckout_settles :
    listingDiscipline.Holds (Statement.safeCheckout env settings subject payload key number draws)
      (fun _ => Settles (.ok .sold)) {} db := by
  refine holds_safeCheckout (fun _ order held now _ _ _ => ?_) fun _ _ run => run.settles
  intro next later _
  exact Shelves.same .sold nofun rfl later.2.2

/-! ## Edits -/

/-- The commit of an `UPDATE`. -/
theorem settles_updateListing {listingId : UUID} {edit : ListingEdit} {carried : Option Bool}
    (stocked : ∀ stock ∈ edit.stockQuantity, 0 ≤ stock) (locks : List RowLock) :
    Settles (.ok (.edited listingId carried edit.isAvailable))
      { held := ⟨.listing listingId, .noKeyUpdate⟩ :: locks
        change := Market.change (·.updateListing listingId edit) } db := by
  intro now later _
  refine Shelves.map rfl (fun old inside => ⟨?_, ?_, ?_⟩)
    ⟨fun listing inside => ?_, later.2.2.ordered, later.2.2.wanted⟩
  · split <;> rfl
  · by_cases own : old.id = listingId
    · exact .inr ⟨_, List.mem_cons_self, own ▸ ⟨rfl, rfl⟩⟩
    · left
      exact if_neg own
  · change (if old.id = listingId then edit.row old else old).isAvailable = _
    split <;> rfl
  · obtain ⟨old, there, rfl⟩ := List.mem_map.mp inside
    have before := later.2.2.stocked old there
    split
    · change 0 ≤ edit.stockQuantity.getD old.stockQuantity
      cases written : edit.stockQuantity with
      | none => exact before
      | some stock => exact stocked stock written
    · exact before

theorem editListing_settles {listing : StoreProduct} {edit : ListingEdit} {price : Option ℚ}
    (stocked : ∀ stock ∈ edit.stockQuantity, 0 ≤ stock) :
    listingDiscipline.Holds (Statement.editListing listing edit price)
      (fun answer => Settles (.ok answer)) {} db := by
  unfold Statement.editListing
  refine Discipline.Holds.branch (fun _ => ?_) fun _ => ?_
  · refine Discipline.Holds.lockRow fun locked _ => Discipline.Holds.query fun read _ => ?_
    refine Holds.found fun _ _ => ?_
    refine settles_updateListing (fun stock written => ?_) []
    exact stocked stock (Option.filter_eq_some_iff.mp written).1
  · intro now later _
    refine Shelves.same _ (fun _ _ written same => ?_) rfl later.2.2
    cases same
    rfl

/-- The commit of an `INSERT`. -/
theorem settles_addListing {listing : StoreProduct} (stocked : 0 ≤ listing.stockQuantity) :
    Settles (.ok (.edited listing.id (some listing.isAvailable) (some listing.isAvailable)))
      { held := [], change := Market.change (·.addListing listing) } db := by
  intro now later constraints
  have ids : Relational.Unique StoreProduct.id (now.listings ++ [listing]) := constraints.listingIds
  rw [unique_append] at ids
  have old : ∀ old ∈ now.listings, Becomes (.edited listing.id (some listing.isAvailable)
      (some listing.isAvailable)) [] old old := fun old inside => by
    refine ⟨rfl, .inl rfl, Changes.refl old _ fun carried written same => ?_⟩
    injection same with id
    exact absurd id.symm (ids.2 old inside)
  refine ⟨fun row inside => ⟨row, List.mem_append_left _ inside, old row inside⟩, fun row inside => ?_,
    fun row inside => ?_, later.2.2.ordered, later.2.2.wanted⟩
  · rcases List.mem_append.mp inside with there | new
    · exact .inl ⟨row, there, old row there⟩
    · cases List.mem_singleton.mp new
      exact .inr ⟨ids.2, rfl⟩
  · rcases List.mem_append.mp inside with there | new
    · exact later.2.2.stocked row there
    · cases List.mem_singleton.mp new
      exact stocked

theorem upsertStoreProduct_settles :
    listingDiscipline.Holds (Statement.upsertStoreProduct subject storeId payload draws)
      (fun answer => Settles (.ok answer)) {} db := by
  unfold Statement.upsertStoreProduct
  refine Holds.statement fun _ _ store edits => ?_
  have valid := editableStore_valid edits
  refine Discipline.Holds.query fun _ _ => Holds.found fun _ _ => ?_
  refine Discipline.Holds.query fun read reading => Discipline.Holds.check fun edit made => ?_
  have stocked : 0 ≤ payload.stockQuantity := valid.2.2
  cases storeProductCreate_edit made
  split
  · next listing found =>
    refine editListing_settles fun stock written => ?_
    cases written
    exact stocked
  · refine settles_addListing ?_
    exact stocked

theorem updateStoreProduct_settles :
    listingDiscipline.Holds (Statement.updateStoreProduct subject storeId listingId payload)
      (fun answer => Settles (.ok answer)) {} db := by
  unfold Statement.updateStoreProduct
  refine Holds.statement fun _ _ store edits => ?_
  have valid := editableStore_valid edits
  refine Discipline.Holds.query fun read reading => Holds.found fun listing _ => ?_
  refine Discipline.Holds.check fun edit made => ?_
  cases storeProductUpdate_edit made
  exact editListing_settles fun stock written => valid.2.2 stock written

/-! ## Requests run to their end -/

/-- A request whose transaction is all it does. -/
theorem settles_then {program : Statements (Option Order)}
    (settles : listingDiscipline.Holds program (fun _ => Settles (.ok answer)) {} db) :
    listingDiscipline.Holds (program >>= fun _ => (pure answer : Statements ListingAnswer))
      (fun answer => Settles (.ok answer)) {} db := by
  rw [Discipline.holds_bind]
  exact settles

theorem shelving_settles (env : Environment) (request : ShelvingRequest) (db : Market) :
    listingDiscipline.Holds ((shelvingService env).program request) (fun answer => Settles (.ok answer)) {}
      db := by
  cases request with
  | safeCheckout => exact settles_then safeCheckout_settles
  | cancelMyOrder => exact settles_then cancelMyOrderSafely_settles
  | updateOrderStatus => exact settles_then updateOrderStatusSafely_settles
  | resolveFailedDelivery => exact settles_then resolveFailedDelivery_settles
  | upsertListing => exact upsertStoreProduct_settles
  | updateListing => exact updateStoreProduct_settles

/-- The rest of the program, as far as these listings go: it brings new ones at most. -/
@[mk_iff]
structure LeavesListings (before after : Market) : Prop where
  constraints : after.tables.Constraints
  amounts : AmountsSound after.tables
  listings : ∀ listing ∈ before.listings, listing ∈ after.listings

instance (db : Tables) : Decidable (AmountsSound db) := decidable_of_iff _ (amountsSound_iff db).symm

instance : DecidableRel LeavesListings := fun before after =>
  decidable_of_iff _ (leavesListings_iff before after).symm

def ListingsUndisturbed (state : State Market RowLock Note HTTPException ListingAnswer) :
    ReadCommitted.Action Market ShelvingRequest → Prop
  | .other after => LeavesListings state.database after
  | _ => True

theorem decisions_upheld (env : Environment) :
    Discipline.Upheld (shelvingService env) listingDiscipline ListingsUndisturbed where
  starts _ request _ _ := (shelving_settles env request _).mono fun _ _ _ settles => settles.commits
  others _ _ leaves _ :=
    ⟨⟨leaves.constraints, leaves.amounts⟩, fun _ _ listing inside _ => leaves.listings listing inside⟩
  admitted _ _ _ _ _ _ := trivial
  separated _ _ _ _ _ _ _ _ _ _ _ apart := apart

/-- A commit does to the shelf what its answer says. -/
theorem reached_shelves {env : Environment} {start : Market} {index : Nat}
    {state : State Market RowLock Note HTTPException ListingAnswer} (kept : listingDiscipline.invariant start)
    (reached : System.ReachableWhile ((shelvingService env).system start) ListingsUndisturbed state)
    (standing : state.sessions[index]? = some (.running (.done answer) footing))
    (valid : (footing.change state.database).tables.Constraints) :
    Shelves answer footing.held state.database (footing.change state.database) := by
  have upheld := decisions_upheld env
  have answers := upheld.answers kept settles_stable
    (fun request db _ => (shelving_settles env request db).ends fun _ _ _ => trivial) reached
  have ends := answers index _ footing standing
  exact ends.holds state.database (.refl (upheld.safe kept reached).invariant) valid

/-! ## What is on record -/

theorem shownIn_of_mem {listings : List StoreProduct} {listing : StoreProduct}
    (ids : Relational.Unique StoreProduct.id listings) (inside : listing ∈ listings) :
    shownIn listings listing.id = some listing.isAvailable := by
  rw [shownIn, (lookup_eq_some_iff ids).mpr ⟨inside, rfl⟩]
  rfl

theorem mem_shownAgain {before after : List StoreProduct} {listing : StoreProduct} :
    listing ∈ shownAgain before after ↔
      listing ∈ after ∧ listing.isAvailable = true ∧ shownIn before listing.id = some false := by
  rw [shownAgain, List.mem_filter, Bool.and_eq_true, decide_eq_true_iff]

def Writer.shows : Writer → Bool
  | .merchant shown => shown
  | .soldOut => false
  | .restoration => true

/-- The last writer of a listing's availability wrote what it is. -/
structure Tells (said : OnRecord) (shown : Bool) : Prop where
  writer : ∃ writer, said.writer = some writer ∧ writer.shows = shown
  merchant : ∀ value, said.writer = some (.merchant value) → said.written = some value

def Decisions.Tracks (record : Decisions) (listings : List StoreProduct) : Prop :=
  ∀ listing ∈ listings, Tells (record.listing listing.id) listing.isAvailable

theorem tells_written (said : OnRecord) (carried : Option Bool) (shown : Bool) :
    Tells (said.edit carried (some shown)) shown where
  writer := ⟨.merchant shown, rfl, rfl⟩
  merchant _ same := congrArg (Option.map Writer.shows) same

theorem Tells.edit {said : OnRecord} {shown : Bool} (tells : Tells said shown)
    (carried written : Option Bool) :
    Tells (said.edit carried written) (written.getD shown) := by
  cases written with
  | none => exact ⟨tells.writer, tells.merchant⟩
  | some value => exact tells_written said carried value

/-- Somebody else than its merchant wrote it. -/
theorem tells_by {said : OnRecord} {writer : Writer} (other : ∀ value, writer ≠ .merchant value) :
    Tells { said with writer := some writer } writer.shows where
  writer := ⟨writer, rfl, rfl⟩
  merchant value same := absurd (Option.some.inj same) (other value)

theorem Shelves.tracks {after : Market} {record : Decisions} (shelves : Shelves answer held db after)
    (old : db.tables.Constraints) (new : after.tables.Constraints) (tracks : record.Tracks db.listings) :
    (record.commit answer db.listings after.listings).Tracks after.listings := by
  intro listing inside
  rcases shelves.known listing inside with ⟨before, there, becomes⟩ | ⟨-, same⟩
  · have told := tracks before there
    have shown : shownIn db.listings listing.id = some before.isAvailable := by
      rw [becomes.id]
      exact shownIn_of_mem old.listingIds there
    have found : lookup StoreProduct.id listing.id after.listings = some listing :=
      (lookup_eq_some_iff new.listingIds).mpr ⟨inside, rfl⟩
    have changes := becomes.changes
    rw [← becomes.id] at told
    cases answer with
    | sold =>
      change Tells (if soldOut db.listings after.listings listing.id then _ else _) _
      rw [soldOut, shown, found]
      rcases changes with same | ⟨on, off, none⟩
      · rw [if_neg (by cases on : before.isAvailable <;> simp [same, on]), same]
        exact told
      · rw [on, off, if_pos (by simp [off, none])]
        exact tells_by (fun _ => nofun)
    | restored =>
      change Tells (if listing.id ∈ (shownAgain db.listings after.listings).map (·.id) then _ else _) _
      have again : listing.id ∈ (shownAgain db.listings after.listings).map (·.id) ↔
          listing.isAvailable = true ∧ before.isAvailable = false := by
        constructor
        · intro named
          obtain ⟨other, among, id⟩ := List.mem_map.mp named
          obtain ⟨member, on, off⟩ := mem_shownAgain.mp among
          cases unique_eq new.listingIds member inside id
          rw [shown] at off
          exact ⟨on, Option.some.inj off⟩
        · rintro ⟨on, off⟩
          exact List.mem_map_of_mem (mem_shownAgain.mpr ⟨inside, on, off ▸ shown⟩)
      rcases changes with same | ⟨off, on, -⟩
      · rw [if_neg, same]
        · exact told
        · rw [again, same]
          rintro ⟨on, off⟩
          exact absurd (on.symm.trans off) (by decide)
      · rw [if_pos (again.mpr ⟨on, off⟩), on]
        exact tells_by (fun _ => nofun)
    | edited listingId carried written =>
      change Tells (if listing.id = listingId then _ else _) _
      change listing.isAvailable = if before.id = listingId then _ else _ at changes
      rw [← becomes.id] at changes
      rw [changes]
      split
      · exact told.edit carried written
      · exact told
  · subst same
    change Tells (if listing.id = listing.id then _ else _) _
    rw [if_pos rfl]
    exact tells_written _ _ _

/-- A listing that its merchant keeps off. -/
def OnRecord.Hidden (said : OnRecord) : Prop := said.decided = some false ∨ said.written = some false

instance (said : OnRecord) : Decidable said.Hidden := inferInstanceAs (Decidable (_ ∨ _))

/-- A restoration re-lists what was sold out, unless it puts stock back on a listing that
its merchant keeps off. -/
theorem Shelves.relists {after : Market} {record : Decisions} (shelves : Shelves .restored held db after)
    (old : db.tables.Constraints) (tracks : record.Tracks db.listings)
    (spared : ∀ listing ∈ db.listings, (Row.listing listing.id).forUpdate ∈ held →
      listing.isAvailable = false → listing.stockQuantity = 0 → ¬(record.listing listing.id).Hidden) :
    ∀ said ∈ (record.commit .restored db.listings after.listings).relisted,
      said ∈ record.relisted ∨ (¬said.Hidden ∧ said.writer = some .soldOut) := by
  intro said inside
  rcases List.mem_append.mp inside with already | added
  · exact .inl already
  obtain ⟨listing, among, rfl⟩ := List.mem_map.mp added
  obtain ⟨member, on, off⟩ := mem_shownAgain.mp among
  obtain ⟨before, there, becomes⟩ | ⟨-, same⟩ := shelves.known listing member
  · rw [becomes.id, shownIn_of_mem old.listingIds there] at off
    have hidden := Option.some.inj off
    rcases becomes.changes with same | ⟨-, -, none, locked⟩
    · exact absurd ((on.symm.trans same).trans hidden) (by decide)
    · have decided := spared before there locked hidden none
      obtain ⟨⟨writer, wrote, shows⟩, merchant⟩ := tracks before there
      rw [becomes.id]
      refine .inr ⟨decided, ?_⟩
      cases writer with
      | soldOut => exact wrote
      | restoration => exact absurd (shows.trans hidden) (by decide)
      | merchant value =>
        have said := merchant value wrote
        exact absurd (.inr (said.trans (congrArg some (shows.trans hidden)))) decided
  · cases same

/-! ## Runs -/

namespace Watched

/-- The restoration that the action commits. -/
def restoring (watched : Watched) : ReadCommitted.Action Market ShelvingRequest → Option Standing
  | .advance index =>
    match watched.state.sessions[index]? with
    | some (.running (.done .restored) footing) => some footing
    | _ => none
  | _ => none

/-- No cancellation or return commits while a listing that it puts stock back on has
nothing left and is kept off by its merchant. -/
def Spares (watched : Watched) (action : ReadCommitted.Action Market ShelvingRequest) : Prop :=
  ListingsUndisturbed watched.state action ∧ ∀ footing ∈ watched.restoring action,
    ∀ listing ∈ watched.state.database.listings, (Row.listing listing.id).forUpdate ∈ footing.held →
      listing.isAvailable = false → listing.stockQuantity = 0 → ¬(watched.record.listing listing.id).Hidden

variable {env : Environment} {watched : Watched} {action : ReadCommitted.Action Market ShelvingRequest}

theorem step_state : (watched.step env action).state = (shelvingService env).step watched.state action := by
  unfold step
  dsimp only
  split <;> rfl

/-- What is on record changes with the database. -/
theorem step_cases (env : Environment) (watched : Watched)
    (action : ReadCommitted.Action Market ShelvingRequest) :
    (∃ after, action = .other after ∧ (watched.step env action).state.database = after ∧
      (watched.step env action).record = watched.record.enter watched.state.database.listings after.listings) ∨
    (∃ index answer footing, action = .advance index ∧
      watched.state.sessions[index]? = some (.running (.done answer) footing) ∧
      (footing.change watched.state.database).tables.Constraints ∧
      (watched.step env action).state.database = footing.change watched.state.database ∧
      (watched.step env action).record = watched.record.commit answer watched.state.database.listings
        (footing.change watched.state.database).listings) ∨
    ((watched.step env action).state.database = watched.state.database ∧
      (watched.step env action).record = watched.record) := by
  cases action with
  | start request => exact .inr (.inr ⟨rfl, rfl⟩)
  | abort index => exact .inr (.inr ⟨rfl, rfl⟩)
  | other after => exact .inl ⟨after, rfl, rfl, rfl⟩
  | advance index =>
    rw [step_state]
    cases committing : watched.committing env (.advance index) with
    | some answer =>
      have record : (watched.step env (.advance index)).record = watched.record.commit answer
          watched.state.database.listings
            ((shelvingService env).step watched.state (.advance index)).database.listings := by
        simp only [step, committing]
      simp only [Watched.committing] at committing
      split at committing
      · next value footing standing =>
        split at committing
        · next valid =>
          cases committing
          have database : ((shelvingService env).step watched.state (.advance index)).database =
              footing.change watched.state.database := by
            rw [Service.step_advance _ standing, Service.advance, if_pos valid]
          rw [database] at record
          exact .inr (.inl ⟨index, answer, footing, rfl, standing, valid, database, record⟩)
        · cases committing
      · cases committing
    | none =>
      refine .inr (.inr ⟨?_, by simp only [step, committing]⟩)
      rcases (shelvingService env).step_advance_database watched.state index with
        same | ⟨value, footing, standing, valid, -⟩
      · exact same
      · rw [Watched.committing, standing] at committing
        simp only [if_pos valid] at committing
        cases committing

end Watched

theorem watch_service {env : Environment} {start : Market} {watched : Watched}
    (reached : System.ReachableWhile (watch env start) Watched.Spares watched) :
    System.ReachableWhile ((shelvingService env).system start) ListingsUndisturbed watched.state := by
  induction reached with
  | initial => exact .initial
  | next _ admitted ih =>
    change System.ReachableWhile _ _ (Watched.step env _ _).state
    rw [Watched.step_state]
    exact ih.next admitted.1

theorem Decisions.Tracks.enter {record : Decisions} {before after : List StoreProduct}
    (tracks : record.Tracks before) (new : Relational.Unique StoreProduct.id after)
    (stay : ∀ listing ∈ before, listing ∈ after) : (record.enter before after).Tracks after := by
  intro listing inside
  change Tells (if shownIn before listing.id = none then _ else _) _
  split
  · rw [shownIn_of_mem new inside]
    exact tells_written _ _ _
  · next known =>
    obtain ⟨shown, there⟩ := Option.ne_none_iff_exists'.mp known
    obtain ⟨other, found, -⟩ := Option.map_eq_some_iff.mp there
    cases unique_eq new inside (stay other (lookup_mem found)) (lookup_col found).symm
    exact tracks listing (lookup_mem found)

/-- What restorations put back on was sold out by a checkout, and its merchant's last word
was not to hide it, as long as none of them puts stock back on a listing that has nothing
left and is kept off by its merchant. -/
theorem relists_sold_out (env : Environment) {start : Market} {watched : Watched}
    (constraints : start.tables.Constraints) (amounts : AmountsSound start.tables)
    (reached : System.ReachableWhile (watch env start) Watched.Spares watched) :
    ∀ said ∈ watched.record.relisted,
      said.decided ≠ some false ∧ said.written ≠ some false ∧ said.writer = some .soldOut := by
  have tracked : watched.record.Tracks watched.state.database.listings ∧
      ∀ said ∈ watched.record.relisted, ¬said.Hidden ∧ said.writer = some .soldOut := by
    induction reached with
    | initial =>
      refine ⟨fun listing inside => ?_, fun said inside => absurd inside List.not_mem_nil⟩
      change Tells (OnRecord.edit (shownIn start.listings listing.id) (shownIn start.listings listing.id) {}) _
      rw [shownIn_of_mem constraints.listingIds inside]
      exact tells_written _ _ _
    | @next watched action earlier admitted ih =>
      obtain ⟨tracks, sold⟩ := ih
      have reached := watch_service earlier
      have kept := ((decisions_upheld env).safe ⟨constraints, amounts⟩ reached).invariant
      change (watched.step env action).record.Tracks (watched.step env action).state.database.listings ∧
        ∀ said ∈ (watched.step env action).record.relisted, _
      rcases Watched.step_cases env watched action with
        ⟨after, rfl, database, record⟩ | ⟨index, answer, footing, rfl, standing, valid, database, record⟩ |
          ⟨database, record⟩
      · have leaves : LeavesListings watched.state.database after := admitted.1
        rw [database, record]
        exact ⟨tracks.enter leaves.constraints.listingIds leaves.listings, sold⟩
      · have shelves := reached_shelves ⟨constraints, amounts⟩ reached standing valid
        rw [database, record]
        refine ⟨shelves.tracks kept.1 valid tracks, ?_⟩
        cases answer with
        | sold => exact sold
        | edited => exact sold
        | restored =>
          intro said inside
          have spared := admitted.2 footing (by simp [Watched.restoring, standing])
          rcases shelves.relists kept.1 tracks spared said inside with already | fine
          · exact sold said already
          · exact fine
      · rw [database, record]
        exact ⟨tracks, sold⟩
  intro said inside
  obtain ⟨shown, writer⟩ := tracked.2 said inside
  exact ⟨fun off => shown (.inl off), fun off => shown (.inr off), writer⟩

/-! A customer takes two bags of rice out of so many, and gives them back. -/
def riceLeft (bags : Int) : Market where
  tables := { catalogue := { sampleCatalogue with storeProducts := [⟨1, 1, 1, 5000, bags, true⟩] } }

def riceWatch (bags : Int) : System Watched (ReadCommitted.Action Market ShelvingRequest) :=
  watch sampleEnvironment (riceLeft bags)

def ordersRice : List (ReadCommitted.Action Market ShelvingRequest) :=
  .start (.safeCheckout sampleSettings 1 ⟨1, .cod⟩ none "GO-1" (sampleDraws 1)) ::
    List.replicate 40 (.advance 0)

def cancelsRice (index : Nat) : List (ReadCommitted.Action Market ShelvingRequest) :=
  .start (.cancelMyOrder 1 1 (sampleDraws 2)) :: List.replicate 20 (.advance index)

instance (watched : Watched) (action : ReadCommitted.Action Market ShelvingRequest) :
    Decidable (watched.Spares action) :=
  @instDecidableAnd _ _ (by unfold ListingsUndisturbed; cases action <;> infer_instance) inferInstance

theorem relists_sold_out_cancelled :
    let last := (riceWatch 2).run (riceWatch 2).initial (ordersRice ++ cancelsRice 1)
    last.state.database.listings.map (fun listing => (listing.stockQuantity, listing.isAvailable)) =
        [(2, true)] ∧
      last.record.relisted = [⟨some true, some true, some .soldOut⟩] ∧
      ∀ said ∈ last.record.relisted,
        said.decided ≠ some false ∧ said.written ≠ some false ∧ said.writer = some .soldOut := by
  intro last
  have spared : System.RunWhile (riceWatch 2) Watched.Spares (riceWatch 2).initial
      (ordersRice ++ cancelsRice 1) := by
    decide +kernel
  have reached : System.ReachableWhile (watch sampleEnvironment (riceLeft 2)) Watched.Spares last :=
    System.ReachableWhile.initial.run _ spared
  refine ⟨by decide +kernel, by decide +kernel, ?_⟩
  exact relists_sold_out sampleEnvironment (by decide +kernel) (by decide +kernel) reached

/-- The merchant writes the rest of the bags off and hides the rice while the order is
open, and its cancellation puts the rice back on. -/
theorem hidden_listing_relisted :
    let hides := .start (.updateListing 2 1 1
      { stockQuantity := some (some 0), isAvailable := some (some false) }) :: List.replicate 10 (.advance 1)
    let last := (riceWatch 10).run (riceWatch 10).initial (ordersRice ++ hides ++ cancelsRice 2)
    last.state.database.listings.map (fun listing => (listing.stockQuantity, listing.isAvailable)) =
        [(2, true)] ∧
      last.record.relisted = [⟨some false, some false, some (.merchant false)⟩] := by
  decide +kernel

end GaonOne
