import GaonOne.Library.RankedLocks
import GaonOne.RiderLoad
import GaonOne.StatusEvents
import Mathlib.Data.Prod.Lex

/-! The order in which requests lock with `FOR UPDATE`. Whatever changes a status locks the
delivery before its order, the order before the rider, and listings last, in the order of their
products; so these requests never wait for each other in a cycle of such locks. The locks that
the database takes by itself for foreign keys, as for the user of a notification, are left out:
with those, two riders who claim each other's orders can meet. -/
namespace GaonOne
open Relational UnitOfWork ReadCommitted Transitions

/-- The requests that change a status, with the locks they ask for; notifications, and the
`FOR KEY SHARE` their inserts take on users, are left out. -/
def StatusRequest.statements (env : Environment) : StatusRequest → Statements (Option Order)
  | .cancelOrder subject orderId draws => Statement.cancelMyOrderSafely subject orderId draws
  | .updateOrderStatus subject orderId status draws =>
    Statement.updateOrderStatusSafely subject orderId status draws
  | .dispatch request => request.program env

def statusService (env : Environment) :
    Service Market RowLock Note HTTPException (Option Order) StatusRequest where
  program := StatusRequest.statements env
  conflicts := RowLock.conflicts
  symmetric := RowLock.conflicts_symm
  valid market := market.tables.Constraints
  decideConflicts := inferInstance
  decideValid _ := inferInstance

/-- Deliveries, orders, riders, then listings by their products. -/
def lockRank (productOf : UUID → UUID) (lock : RowLock) : Nat ×ₗ Nat :=
  match lock.row with
  | .delivery _ => toLex (0, 0)
  | .order _ => toLex (1, 0)
  | .user _ => toLex (2, 0)
  | .listing id => toLex (3, (productOf id).toNat)
  | _ => toLex (4, 0)

/-- Listings are of the products they always were, each product once in a store. -/
structure Stocks (productOf : UUID → UUID) (market : Market) : Prop where
  products : ∀ listing ∈ market.tables.catalogue.storeProducts, productOf listing.id = listing.productId
  once : Relational.Unique (fun listing : StoreProduct => (listing.storeId, listing.productId))
    market.tables.catalogue.storeProducts

/-- The rest of the program commits what it likes, but for another product under the key of a
listing. -/
def KeepsProducts (productOf : UUID → UUID) (_ : State Market RowLock Note HTTPException (Option Order)) :
    ReadCommitted.Action Market StatusRequest → Prop
  | .other after => Stocks productOf after
  | _ => True

/-! ## Single statements -/

section
variable {productOf : UUID → UUID} {held : List RowLock} {change : Market → Market}

/-- Every lock held is of a lower level. -/
def Below (productOf : UUID → UUID) (level : Nat) (held : List RowLock) : Prop :=
  ∀ lock ∈ held, (ofLex (lockRank productOf lock)).1 < level

/-- A request in order: its locks, and that listings stay of their products. -/
abbrev InOrder (productOf : UUID → UUID) (program : Statements α)
    (post : α → List RowLock → (Market → Market) → Prop) (held : List RowLock)
    (change : Market → Market) : Prop :=
  program.Asks (lockRank productOf) (Stocks productOf) post held change

theorem mayAsk_below {lock : RowLock} (below : Below productOf level held)
    (above : (ofLex (lockRank productOf lock)).1 = level) : MayAsk (lockRank productOf) held lock := by
  refine .inr fun other inside => Prod.Lex.lt_iff.mpr (.inl ?_)
  have lower := below other inside
  omega

theorem Below.lock {lock : RowLock} (below : Below productOf level held)
    (above : (ofLex (lockRank productOf lock)).1 = level) :
    Below productOf (level + 1) (lock :: held) := by
  intro other inside
  rcases List.mem_cons.mp inside with rfl | before
  · omega
  · have lower := below other before
    omega

theorem Below.weaken (below : Below productOf level held) (higher : level ≤ above) :
    Below productOf above held :=
  fun other inside => lt_of_lt_of_le (below other inside) higher

/-- One row is locked. -/
theorem inOrder_selectForUpdate {rowOf : ρ → Row} {find : Tables → Option ρ}
    {post : Option ρ → List RowLock → (Market → Market) → Prop}
    (may : ∀ market row, Stocks productOf market → find (change market).tables = some row →
      MayAsk (lockRank productOf) held (rowOf row).forUpdate)
    (absent : post none held change)
    (found : ∀ seen row, post row ((rowOf seen).forUpdate :: held) change) :
    InOrder productOf (selectForUpdate rowOf find) post held change := by
  unfold selectForUpdate
  refine Program.Asks.query fun market kept => ?_
  cases read : find (change market).tables with
  | none => exact absent
  | some seen => exact ⟨may market seen kept read, fun db _ => found seen _⟩

theorem InOrder.statement {read : Tables → Handler β} {next : β → Statements α}
    {post : α → List RowLock → (Market → Market) → Prop}
    (rest : ∀ value, InOrder productOf (next value) post held change) :
    InOrder productOf (GaonOne.statement read >>= next) post held change := by
  unfold GaonOne.statement InOrder
  rw [Program.asks_bind]
  refine Program.Asks.query fun market _ => ?_
  cases read (change market).tables with
  | ok value => exact rest value
  | error error => trivial

theorem InOrder.require {check : Prop} [Decidable check] {error : HTTPException}
    {next : Unit → Statements α} {post : α → List RowLock → (Market → Market) → Prop}
    (rest : check → InOrder productOf (next ()) post held change) :
    InOrder productOf (Statement.require check error >>= next) post held change :=
  Program.Asks.check fun _ passed => rest (by simpa using passed)

theorem InOrder.found {value : Option β} {error : HTTPException} {next : β → Statements α}
    {post : α → List RowLock → (Market → Market) → Prop}
    (rest : ∀ held_, value = some held_ → InOrder productOf (next held_) post held change) :
    InOrder productOf (Statement.found value error >>= next) post held change :=
  Program.Asks.check fun row passed => rest row (by simpa using passed)

/-- A row that must be there, of a level above all that is held. -/
theorem InOrder.locked {rowOf : ρ → Row} {find : Tables → Option ρ} {check : Option ρ → Option β}
    {error : HTTPException} {next : β → Statements α}
    {post : α → List RowLock → (Market → Market) → Prop} (level : Nat)
    (at_ : ∀ row, (ofLex (lockRank productOf (rowOf row).forUpdate)).1 = level)
    (below : Below productOf level held) (absent : check none = none)
    (rest : ∀ value held, Below productOf (level + 1) held →
      InOrder productOf (next value) post held change) :
    InOrder productOf (selectForUpdate rowOf find >>= fun row => Statement.found (check row) error >>= next)
      post held change := by
  unfold InOrder
  rw [Program.asks_bind]
  apply inOrder_selectForUpdate
  · exact fun _ row _ _ => mayAsk_below below (at_ row)
  · rw [absent]
    exact InOrder.found fun _ missing => by cases missing
  · exact fun seen row => InOrder.found fun value _ => rest value _ (below.lock (at_ seen))

/-- Rows that are passed over if anyone holds them. -/
theorem inOrder_selectSkipLocked {rowOf : UUID → Row} {find : UUID → Tables → Option ρ}
    {ids : List UUID} {post : Option ρ → List RowLock → (Market → Market) → Prop} (level : Nat)
    (at_ : ∀ id, (ofLex (lockRank productOf (rowOf id).forUpdate)).1 < level)
    (below : Below productOf level held)
    (missing : ∀ held, Below productOf level held → post none held change)
    (found : ∀ id row held, Below productOf level held → (rowOf id).forUpdate ∈ held →
      (∃ market : Market, find id market.tables = some row) → post (some row) held change) :
    InOrder productOf (selectSkipLocked rowOf find ids) post held change := by
  induction ids generalizing held with
  | nil => exact missing held below
  | cons id ids ih =>
    unfold InOrder selectSkipLocked
    intro row taken
    cases row with
    | none => exact ih below
    | some lock =>
      obtain rfl := List.mem_singleton.mp (taken lock rfl)
      have lower : Below productOf level ((rowOf id).forUpdate :: held) := by
        intro other inside
        rcases List.mem_cons.mp inside with rfl | before
        · exact at_ id
        · exact below other before
      refine Program.Asks.query fun market kept => ?_
      cases current : find id (change market).tables with
      | none => exact ih lower
      | some row => exact found id row _ lower List.mem_cons_self ⟨_, current⟩

end

/-! ## Listings -/

section
variable {productOf : UUID → UUID} {held : List RowLock} {change : Market → Market}

/-- Listings of the products they always were. -/
def Named (productOf : UUID → UUID) (listings : List StoreProduct) : Prop :=
  ∀ listing ∈ listings, productOf listing.id = listing.productId

theorem Named.put {listings : List StoreProduct} (named : Named productOf listings)
    {listing : StoreProduct} (own : productOf listing.id = listing.productId) :
    Named productOf (put StoreProduct.id listing listings) := by
  intro row inside
  rcases mem_put.mp inside with ⟨rfl, -⟩ | ⟨there, -⟩
  · exact own
  · exact named row there

theorem named_creditListings {items : List OrderItem} {listings credited : List StoreProduct}
    (named : Named productOf listings) (ran : creditListings items listings = .ok credited) :
    Named productOf credited := by
  induction items generalizing listings with
  | nil =>
    simp only [creditListings, pure_ok] at ran
    exact ran ▸ named
  | cons item items ih =>
    simp only [creditListings, found_bind_ok] at ran
    obtain ⟨listing, found, ran⟩ := ran
    have own : productOf (creditListing listing item.quantity).id =
        (creditListing listing item.quantity).productId := named listing (lookup_mem found)
    exact ih (named.put own) ran

theorem named_putListings {credited : List StoreProduct} {db : Tables} (credits : Named productOf credited)
    (named : Named productOf db.catalogue.storeProducts) :
    Named productOf (db.putListings credited).catalogue.storeProducts := by
  rw [Tables.putListings_eq]
  dsimp only
  generalize db.catalogue.storeProducts = rows at named
  induction credited generalizing rows with
  | nil => exact named
  | cons listing credited ih =>
    exact ih (fun row later => credits row (List.mem_cons_of_mem _ later)) _
      (named.put (credits listing List.mem_cons_self))

/-- The listings of one restoration, in the order of their products. -/
theorem rising_restoreLocks {market : Market} (kept : Stocks productOf market) (order : Order)
    (items : List OrderItem) :
    ((restoreLocks market.tables order items).map fun listing => (Row.listing listing.id).forUpdate).Pairwise
      fun first second => lockRank productOf first < lockRank productOf second := by
  rw [List.pairwise_map]
  have part : ∀ listing ∈ restoreLocks market.tables order items,
      listing ∈ market.tables.catalogue.storeProducts ∧ listing.storeId = order.storeId := by
    intro listing inside
    obtain ⟨there, met⟩ := List.mem_filter.mp ((List.mem_insertionSort _).mp inside)
    exact ⟨there, (of_decide_eq_true met).1⟩
  have sorted : (restoreLocks market.tables order items).Pairwise fun first second =>
      first.productId.toNat ≤ second.productId.toNat := List.pairwise_insertionSort _ _
  have once : (restoreLocks market.tables order items).Pairwise fun first second =>
      (first.storeId, first.productId) ≠ (second.storeId, second.productId) := by
    apply List.pairwise_map.mp
    exact ((List.perm_insertionSort _ _).map _).nodup_iff.mpr
      ((List.filter_sublist.map _).nodup kept.once)
  refine (sorted.and once).imp_of_mem fun {first second} left right both => ?_
  obtain ⟨ordered, differ⟩ := both
  obtain ⟨leftIn, leftOf⟩ := part first left
  obtain ⟨rightIn, rightOf⟩ := part second right
  refine Prod.Lex.lt_iff.mpr (.inr ⟨rfl, ?_⟩)
  change (productOf first.id).toNat < (productOf second.id).toNat
  rw [kept.products first leftIn, kept.products second rightIn]
  refine lt_of_le_of_ne ordered fun same => differ ?_
  rw [leftOf, rightOf, BitVec.eq_of_toNat_eq same]

/-- Stock is put back first of all that a request writes. -/
theorem inOrder_restoreOrderStockOnce {post : Order → List RowLock → (Market → Market) → Prop}
    (order : Order) (now : Instant) (below : Below productOf 2 held)
    (already : post order held id)
    (credit : ∀ order held (write : Market → Market),
      (∀ market, Named productOf market.tables.catalogue.storeProducts →
        Named productOf (write market).tables.catalogue.storeProducts) →
      post order held write) :
    InOrder productOf (Statement.restoreOrderStockOnce order now) post held id := by
  unfold Statement.restoreOrderStockOnce
  split
  · exact already
  · refine Program.Asks.query fun first _ => ?_
    rw [Program.asks_bind]
    unfold Statement.lockListings
    refine Program.Asks.query fun market kept => ?_
    refine Program.Asks.lockRows (rising_restoreLocks kept order _) ?_ ?_
    · intro lock inside other holds
      obtain ⟨listing, -, rfl⟩ := List.mem_map.mp inside
      have lower := below other holds
      refine Prod.Lex.lt_iff.mpr (.inl ?_)
      change (ofLex (lockRank productOf other)).1 < 3
      omega
    · intro again named
      refine Program.Asks.check fun credited credits => ?_
      apply credit
      intro market before
      apply named_putListings
      · refine named_creditListings (fun listing inside => ?_) credits
        have there := (List.mem_insertionSort _).mp (List.mem_filter.mp inside).1
        exact named.products listing (List.mem_filter.mp there).1
      · exact before

end
/-! ## Requests -/

/-- A request ends with listings of the products they were of. -/
def Leaves (productOf : UUID → UUID) (_ : α) (_ : List RowLock) (change : Market → Market) : Prop :=
  ∀ market, Named productOf market.tables.catalogue.storeProducts →
    Named productOf (change market).tables.catalogue.storeProducts

section
variable {productOf : UUID → UUID} {held : List RowLock} {change : Market → Market}

theorem leaves_id : Leaves productOf value held id := fun _ named => named

/-- What is written elsewhere than to the shelves. -/
theorem InOrder.flush {write : Tables → Tables} {next : Unit → Statements α}
    (elsewhere : ∀ db, (write db).catalogue = db.catalogue) (leaves : Leaves productOf () held change)
    (rest : ∀ change, Leaves productOf () held change →
      InOrder productOf (next ()) (Leaves productOf) held change) :
    InOrder productOf (flushTables write >>= next) (Leaves productOf) held change := by
  refine Program.Asks.flush (rest _ fun market named => ?_)
  change Named productOf (write (change market).tables).catalogue.storeProducts
  rw [elsewhere]
  exact leaves market named

/-- A request that has nothing left to lock. -/
theorem InOrder.restored {next : Order → Statements α} (order : Order) (now : Instant)
    (below : Below productOf 2 held)
    (rest : ∀ order held change, Leaves productOf () held change →
      InOrder productOf (next order) (Leaves productOf) held change) :
    InOrder productOf (Statement.restoreOrderStockOnce order now >>= next) (Leaves productOf) held id := by
  unfold InOrder
  rw [Program.asks_bind]
  apply inOrder_restoreOrderStockOnce order now below
  · exact rest order held id leaves_id
  · exact fun order held write named => rest order held write named

theorem InOrder.moved {check : Handler β} {next : β → Statements α}
    {post : α → List RowLock → (Market → Market) → Prop}
    (rest : ∀ value, InOrder productOf (next value) post held change) :
    InOrder productOf (liftM check >>= next) post held change :=
  Program.Asks.check fun value _ => rest value

theorem recordRefund_catalogue (order : Order) (reason : String) (draws : Draws) (db : Tables) :
    (Statement.recordRefund order reason draws db).catalogue = db.catalogue := by
  rcases recordRefund_cases order reason draws db with same | ⟨refund, paymentStatus, same⟩
  · rw [same]
  · rw [same]
    rfl

theorem cancelMyOrderSafely_inOrder (subject orderId : UUID) (draws : Draws) :
    InOrder productOf (Statement.cancelMyOrderSafely subject orderId draws) (Leaves productOf) [] id := by
  unfold Statement.cancelMyOrderSafely
  refine InOrder.statement fun user => ?_
  apply InOrder.locked 1 (fun _ => rfl) (fun _ holds => by cases holds) rfl
  intro order held below
  refine InOrder.require fun _ => ?_
  apply InOrder.restored order draws.now below
  intro order held change leaves
  refine InOrder.moved fun order => InOrder.flush (fun _ => rfl) leaves fun change leaves => ?_
  refine InOrder.flush (fun _ => recordRefund_catalogue ..) leaves fun change leaves => ?_
  exact leaves

theorem updateOrderStatusSafely_inOrder (subject orderId : UUID) (status : OrderStatus) (draws : Draws) :
    InOrder productOf (Statement.updateOrderStatusSafely subject orderId status draws) (Leaves productOf)
      [] id := by
  unfold Statement.updateOrderStatusSafely
  refine InOrder.statement fun user => InOrder.moved fun _ => ?_
  apply InOrder.locked 1 (fun _ => rfl) (fun _ holds => by cases holds) rfl
  intro order held below
  refine InOrder.statement fun _ => InOrder.require fun _ => InOrder.require fun _ =>
    InOrder.require fun _ => Program.Asks.branch (fun _ => ?_) fun _ => ?_
  · refine InOrder.moved fun _ => ?_
    apply InOrder.restored order draws.now below
    intro order held change leaves
    refine Program.Asks.query fun _ _ => ?_
    refine InOrder.flush (fun _ => recordRefund_catalogue ..) leaves fun change leaves => ?_
    refine InOrder.moved fun order => InOrder.flush (fun _ => rfl) leaves fun change leaves => ?_
    exact leaves
  · refine InOrder.moved fun order => InOrder.flush (fun _ => rfl) leaves_id fun change leaves => ?_
    exact leaves

/-- The delivery, then its order: how every request about a delivery begins. -/
theorem InOrder.delivery {deliveryId : UUID} {error : HTTPException} {next : Delivery → Statements α}
    (rest : ∀ delivery held, Below productOf 1 held →
      InOrder productOf (next delivery) (Leaves productOf) held id) :
    InOrder productOf (Statement.lockedDelivery deliveryId >>= fun row =>
      Statement.found row error >>= next) (Leaves productOf) [] id :=
  InOrder.locked 0 (fun _ => rfl) (fun _ holds => by cases holds) rfl rest

theorem InOrder.order {orderId : UUID} {error : HTTPException} {next : Order → Statements α}
    (below : Below productOf 1 held)
    (rest : ∀ order held, Below productOf 2 held →
      InOrder productOf (next order) (Leaves productOf) held id) :
    InOrder productOf (Statement.lockedOrder orderId >>= fun row =>
      Statement.found row error >>= next) (Leaves productOf) held id :=
  InOrder.locked 1 (fun _ => rfl) below rfl rest

theorem claimDelivery_inOrder (subject deliveryId : UUID) (draws : Draws) :
    InOrder productOf (Statement.claimDelivery subject deliveryId draws) (Leaves productOf) [] id := by
  unfold Statement.claimDelivery
  refine InOrder.statement fun user => Program.Asks.remember (InOrder.moved fun _ => ?_)
  refine InOrder.delivery fun delivery held below => ?_
  refine InOrder.order below fun order held below => InOrder.require fun _ => ?_
  apply InOrder.locked 2 (fun _ => rfl) below rfl
  intro rider held below
  refine Program.Asks.query fun _ _ => InOrder.require fun _ => InOrder.moved fun delivery => ?_
  refine InOrder.flush (fun _ => rfl) leaves_id fun change leaves => ?_
  exact leaves

theorem adminAssignDelivery_inOrder (subject deliveryId riderId : UUID) (draws : Draws) :
    InOrder productOf (Statement.adminAssignDelivery subject deliveryId riderId draws) (Leaves productOf)
      [] id := by
  unfold Statement.adminAssignDelivery
  refine InOrder.statement fun admin => InOrder.delivery fun delivery held below => ?_
  refine InOrder.order below fun order held below => InOrder.require fun _ => ?_
  apply InOrder.locked 2 (fun _ => rfl) below rfl
  intro rider held below
  refine Program.Asks.query fun _ _ => InOrder.require fun _ => InOrder.moved fun delivery => ?_
  refine InOrder.flush (fun _ => rfl) leaves_id fun change leaves => ?_
  exact leaves

theorem adminUnassignDelivery_inOrder (subject deliveryId : UUID) (draws : Draws) :
    InOrder productOf (Statement.adminUnassignDelivery subject deliveryId draws) (Leaves productOf) [] id := by
  unfold Statement.adminUnassignDelivery
  refine InOrder.statement fun _ => InOrder.delivery fun delivery held below => InOrder.require fun _ => ?_
  refine InOrder.order below fun order held below => InOrder.require fun _ => ?_
  refine InOrder.moved fun delivery => InOrder.flush (fun _ => rfl) leaves_id fun change leaves => ?_
  exact leaves

theorem updateDeliveryStatus_inOrder (subject deliveryId : UUID) (status : DeliveryStatus) (draws : Draws) :
    InOrder productOf (Statement.updateDeliveryStatus subject deliveryId status draws) (Leaves productOf)
      [] id := by
  unfold Statement.updateDeliveryStatus
  refine InOrder.statement fun user => InOrder.moved fun _ => InOrder.require fun _ => ?_
  refine InOrder.delivery fun delivery held below => InOrder.moved fun _ => InOrder.require fun _ => ?_
  refine InOrder.order below fun order held below => InOrder.moved fun effects => ?_
  refine InOrder.moved fun delivery => InOrder.flush (fun _ => rfl) leaves_id fun change leaves => ?_
  exact leaves

theorem failDelivery_inOrder (subject deliveryId : UUID) (payload : DeliveryFailureRequest) (draws : Draws) :
    InOrder productOf (Statement.failDelivery subject deliveryId payload draws) (Leaves productOf) [] id := by
  unfold Statement.failDelivery
  refine InOrder.statement fun user => InOrder.moved fun _ => InOrder.require fun _ => ?_
  refine InOrder.delivery fun delivery held below => InOrder.order below fun order held below => ?_
  refine InOrder.moved fun _ => InOrder.require fun _ => InOrder.moved fun delivery => ?_
  refine InOrder.flush (fun _ => rfl) leaves_id fun change leaves => ?_
  exact leaves

theorem recoverFailedDelivery_inOrder (subject deliveryId : UUID) (draws : Draws) :
    InOrder productOf (Statement.recoverFailedDelivery subject deliveryId draws) (Leaves productOf) [] id := by
  unfold Statement.recoverFailedDelivery
  refine InOrder.statement fun _ => InOrder.delivery fun delivery held below => ?_
  refine InOrder.order below fun order held below => InOrder.require fun _ => InOrder.require fun _ => ?_
  refine InOrder.moved fun delivery => InOrder.flush (fun _ => rfl) leaves_id fun change leaves => ?_
  exact leaves

theorem takeBackSettlement_catalogue (order : Order) (reason : String) (draws : Draws) (db : Tables) :
    (Statement.takeBackSettlement order reason draws db).catalogue = db.catalogue := by
  obtain ⟨_, _, same⟩ := takeBackSettlement_eq order reason draws db
  rw [same]

theorem resolveFailedDelivery_inOrder (subject deliveryId : UUID) (resolution : Resolution)
    (notes : Option String) (draws : Draws) :
    InOrder productOf (Statement.resolveFailedDelivery subject deliveryId resolution notes draws)
      (Leaves productOf) [] id := by
  unfold Statement.resolveFailedDelivery
  refine InOrder.statement fun admin => InOrder.require fun _ => InOrder.delivery fun delivery held below => ?_
  refine InOrder.order below fun order held below => InOrder.require fun _ => ?_
  cases resolution with
  | reassign =>
    refine InOrder.require fun _ => InOrder.require fun _ => InOrder.moved fun delivery => ?_
    refine InOrder.flush (fun _ => rfl) leaves_id fun change leaves => ?_
    exact leaves
  | returnToStore =>
    refine InOrder.moved fun _ => InOrder.moved fun _ => InOrder.require fun _ => ?_
    refine Program.Asks.query fun _ _ => InOrder.require fun _ => ?_
    apply InOrder.restored order draws.now below
    intro order held change leaves
    refine InOrder.moved fun order => InOrder.flush (fun _ => rfl) leaves fun change leaves => ?_
    refine InOrder.flush (fun _ => takeBackSettlement_catalogue ..) leaves fun change leaves => ?_
    refine InOrder.flush (fun _ => recordRefund_catalogue ..) leaves fun change leaves => ?_
    exact leaves

theorem recordSettlement_catalogue (order : Order) (draws : Draws) (db : Tables) :
    (recordSettlement order draws db).catalogue = db.catalogue := by
  unfold recordSettlement
  split
  · next result entry ran =>
    unfold ensureSettlementEntry at ran
    split at ran
    · cases ran
      rfl
    · split at ran
      · simp only [found_bind_ok, flushRows_bind_ok, pure_ok, Prod.mk.injEq] at ran
        obtain ⟨store, -, -, rfl, -⟩ := ran
        rfl
      · cases ran
        rfl
  · rfl

theorem completeDeliveryWithFinancials_inOrder (subject deliveryId : UUID) (draws : Draws) :
    InOrder productOf (Statement.completeDeliveryWithFinancials subject deliveryId draws)
      (Leaves productOf) [] id := by
  unfold Statement.completeDeliveryWithFinancials
  refine InOrder.statement fun user => InOrder.moved fun _ => InOrder.delivery fun delivery held below => ?_
  refine InOrder.order below fun order held below => InOrder.moved fun _ => InOrder.require fun _ => ?_
  refine InOrder.require fun _ => InOrder.require fun _ => Program.Asks.query fun _ _ => ?_
  refine InOrder.found fun _ _ => InOrder.statement fun _ => InOrder.moved fun delivery => ?_
  refine InOrder.moved fun order => InOrder.flush (fun _ => rfl) leaves_id fun change leaves => ?_
  refine Program.Asks.branch (fun _ => ?_) fun _ => leaves
  refine InOrder.statement fun _ => ?_
  refine InOrder.flush (fun _ => recordSettlement_catalogue ..) leaves fun change leaves => ?_
  exact leaves

/-- The rider an automatic assignment found is held, and may be locked once more. -/
theorem InOrder.nearestEligibleRider {env : Environment} {store : Point} {radiusKm : ℚ} {now : Instant}
    {error : HTTPException} {next : UUID → Statements α} (below : Below productOf 2 held)
    (rest : ∀ riderId held, Below productOf 3 held → (Row.user riderId).forUpdate ∈ held →
      InOrder productOf (next riderId) (Leaves productOf) held id) :
    InOrder productOf (Statement.nearestEligibleRider env store radiusKm now >>= fun rider =>
      Statement.found rider error >>= next) (Leaves productOf) held id := by
  unfold InOrder Statement.nearestEligibleRider
  rw [Program.asks_bind]
  refine Program.Asks.query fun market _ => ?_
  rw [Program.asks_bind]
  refine inOrder_selectSkipLocked 3 (fun _ => Nat.lt_succ_self 2) (below.weaken (by decide)) ?_ ?_
  · exact fun held _ => InOrder.found fun _ missing => by cases missing
  · rintro riderId rider held below taken ⟨market, read⟩
    obtain ⟨found, -⟩ := Option.filter_eq_some_iff.mp read
    have own : rider.id = riderId := lookup_col found
    subst own
    refine InOrder.found fun value same => ?_
    cases same
    exact rest rider.id held below taken

theorem autoAssignDelivery_inOrder (env : Environment) (subject deliveryId : UUID) (maxRadiusKm : ℚ)
    (draws : Draws) :
    InOrder productOf (Statement.autoAssignDelivery env subject deliveryId maxRadiusKm draws)
      (Leaves productOf) [] id := by
  unfold Statement.autoAssignDelivery
  refine InOrder.statement fun _ => InOrder.require fun _ => InOrder.delivery fun delivery held below => ?_
  refine InOrder.order below fun order held below => InOrder.require fun _ => Program.Asks.query fun _ _ => ?_
  refine InOrder.found fun store _ => InOrder.nearestEligibleRider below fun riderId held below taken => ?_
  unfold InOrder
  rw [Program.asks_bind]
  apply inOrder_selectForUpdate
  · intro market rider _ read
    have own : rider.id = riderId := lookup_col read
    exact .inl (own ▸ taken)
  · exact InOrder.found fun _ missing => by cases missing
  · intro seen row
    refine InOrder.found fun rider _ => Program.Asks.query fun _ _ => InOrder.require fun _ => ?_
    refine InOrder.moved fun delivery => InOrder.flush (fun _ => rfl) leaves_id fun change leaves => ?_
    exact leaves

theorem dispatchReadyDelivery_inOrder (env : Environment) (radiusKm : ℚ) (seen : List UUID) (draws : Draws) :
    InOrder productOf (Statement.dispatchReadyDelivery env radiusKm seen draws) (Leaves productOf) [] id := by
  unfold Statement.dispatchReadyDelivery
  refine Program.Asks.query fun market _ => ?_
  rw [Program.asks_bind]
  refine inOrder_selectSkipLocked 1 (fun _ => Nat.zero_lt_one) (fun _ holds => by cases holds) ?_ ?_
  · exact fun held _ => InOrder.found fun _ missing => by cases missing
  · intro deliveryId row held below _ _
    refine InOrder.found fun delivery _ => InOrder.order below fun order held below => ?_
    refine InOrder.require fun _ => Program.Asks.query fun _ _ => InOrder.found fun store _ => ?_
    refine InOrder.nearestEligibleRider below fun riderId held below _ => ?_
    refine Program.Asks.query fun _ _ => InOrder.found fun _ _ => Program.Asks.query fun _ _ => ?_
    refine InOrder.require fun _ => InOrder.moved fun delivery => ?_
    refine InOrder.flush (fun _ => rfl) leaves_id fun change leaves => ?_
    exact leaves

end

/-! ## No request waits in a cycle -/

theorem statusRequest_inOrder (env : Environment) (productOf : UUID → UUID) (request : StatusRequest) :
    InOrder productOf (request.statements env) (Leaves productOf) [] id := by
  cases request with
  | cancelOrder => apply cancelMyOrderSafely_inOrder
  | updateOrderStatus => apply updateOrderStatusSafely_inOrder
  | dispatch request =>
    cases request with
    | claimDelivery => apply claimDelivery_inOrder
    | updateDeliveryStatus => apply updateDeliveryStatus_inOrder
    | assignDelivery => apply adminAssignDelivery_inOrder
    | unassignDelivery => apply adminUnassignDelivery_inOrder
    | autoAssignDelivery => apply autoAssignDelivery_inOrder
    | dispatchReadyDelivery => apply dispatchReadyDelivery_inOrder
    | failDelivery => apply failDelivery_inOrder
    | recoverFailedDelivery => apply recoverFailedDelivery_inOrder
    | resolveFailedDelivery => apply resolveFailedDelivery_inOrder
    | completeDelivery => apply completeDeliveryWithFinancials_inOrder

theorem statusService_inOrder (env : Environment) (productOf : UUID → UUID) :
    AsksInOrder (statusService env) (lockRank productOf) (Stocks productOf) (KeepsProducts productOf) where
  requests request := by
    refine (statusRequest_inOrder env productOf request).mono fun value held change leaves => ?_
    intro market stocks valid
    exact ⟨leaves market stocks.products, valid.listingProducts⟩
  others _ _ stocks _ := stocks
  agrees clash := by
    unfold lockRank
    rw [clash.1]

section
variable {env : Environment} {productOf : UUID → UUID} {start : Market}
  {state : State Market RowLock Note HTTPException (Option Order)}

end

/-- A rider claims a delivery that an administrator is handing to somebody: the one who came
second waits for the row. -/
def contendedHandover : List (ReadCommitted.Action Market StatusRequest) :=
  [.start (.dispatch (.claimDelivery 4 1 (sampleDraws 3))),
    .start (.dispatch (.assignDelivery 3 1 4 (sampleDraws 4))), .advance 0] ++
    (List.replicate 6 [.advance 0, .advance 1]).flatten

end GaonOne
