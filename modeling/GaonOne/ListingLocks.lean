import GaonOne.CartStatements
import GaonOne.Library.LockOrder

/-! The rows of listings that transactions lock. A checkout locks the listings of its
cart by their identifiers; a cancellation and a return lock those of an order by the
products. Two such transactions wait for each other unless, within every store, the two
orders agree. -/
namespace GaonOne
open Relational UnitOfWork ReadCommitted Transitions

/-- What locks listings: a checkout, and each way to put an order's stock back. -/
inductive ListingRequest where
  | checkout (items : List CartItem)
  | restore (order : Order) (items : List OrderItem)

/-- The rows of the locking query. -/
def ListingRequest.locks : ListingRequest → Tables → List StoreProduct
  | checkout items => checkoutLocks items
  | restore order items => (restoreLocks · order items)

/-- The transaction, as far as listings go: it holds what its query returns. -/
def ListingRequest.program (request : ListingRequest) : Statements (List StoreProduct) :=
  Statement.lockListings request.locks

def listingService :
    Service Market RowLock Note HTTPException (List StoreProduct) ListingRequest where
  program := ListingRequest.program
  conflicts := RowLock.conflicts
  symmetric := RowLock.conflicts_symm
  valid market := market.tables.Constraints
  decideConflicts := inferInstance
  decideValid _ := inferInstance

/-- Within a store, the identifiers of listings are in the order of their products. -/
def KeysAgree (listings : List StoreProduct) : Prop :=
  ∀ first ∈ listings, ∀ second ∈ listings, first.storeId = second.storeId →
    first.productId.toNat < second.productId.toNat → first.id.toNat < second.id.toNat

/-- What identifies a listing, and does not change. -/
def StoreProduct.keys (listing : StoreProduct) : UUID × UUID × UUID :=
  (listing.id, listing.storeId, listing.productId)

/-- Whatever else commits meanwhile changes stock, prices and availability at most. -/
def ShelvesStand (state : State Market RowLock Note HTTPException (List StoreProduct)) :
    ReadCommitted.Action Market ListingRequest → Prop
  | .other after => after.tables.catalogue.storeProducts.map StoreProduct.keys =
      state.database.tables.catalogue.storeProducts.map StoreProduct.keys
  | _ => True

/-- No two transactions on listings are ever waiting for each other. -/
def ListingDeadlockFree (start : Market) : Prop :=
  ∀ state, System.ReachableWhile (listingService.system start) ShelvesStand state →
    ¬listingService.Deadlocked (fun lock => ∃ id, lock.row = .listing id) state

/-! ## Agreeing orders -/

/-- Listings are ranked by identifier. -/
def Row.listingRank : Row → Nat
  | .listing id => id.toNat
  | _ => 0

def listingOrder : LockOrder RowLock.conflicts Nat where
  counted lock := ∃ id, lock.row = .listing id
  rank lock := lock.row.listingRank
  agrees _ _ clash := by rw [clash.1]

/-- Listings told apart by their keys, in agreeing orders. -/
structure AgreeingShelves (listings : List StoreProduct) : Prop where
  ids : Relational.Unique StoreProduct.id listings
  products : Relational.Unique (fun listing : StoreProduct => (listing.storeId, listing.productId)) listings
  agree : KeysAgree listings

def shelfDiscipline : Discipline Market RowLock Note where
  invariant market := AgreeingShelves market.tables.catalogue.storeProducts
  guarantee _ _ := True
  rely _ _ _ _ := True
  refl _ _ _ := trivial
  trans _ _ := trivial
  weaken _ := trivial
  admits _ _ := True
  apart _ _ := True

theorem AgreeingShelves.of_keys {before after : List StoreProduct} (shelves : AgreeingShelves before)
    (same : after.map StoreProduct.keys = before.map StoreProduct.keys) : AgreeingShelves after where
  ids := by
    have ids : after.map StoreProduct.id = before.map StoreProduct.id := by
      simpa [StoreProduct.keys, Function.comp_def] using congrArg (List.map Prod.fst) same
    rw [Relational.Unique, ids]
    exact shelves.ids
  products := by
    have products : after.map (fun listing => (listing.storeId, listing.productId)) =
        before.map fun listing => (listing.storeId, listing.productId) := by
      simpa [StoreProduct.keys, Function.comp_def] using congrArg (List.map Prod.snd) same
    rw [Relational.Unique, products]
    exact shelves.products
  agree := by
    have known : ∀ listing ∈ after, ∃ old ∈ before, old.keys = listing.keys := fun listing inside =>
      List.mem_map.mp (same ▸ List.mem_map_of_mem inside)
    intro first left second right together below
    obtain ⟨old, oldIn, sameFirst⟩ := known first left
    obtain ⟨other, otherIn, sameSecond⟩ := known second right
    simp only [StoreProduct.keys, Prod.mk.injEq] at sameFirst sameSecond
    rw [← sameFirst.1, ← sameSecond.1]
    apply shelves.agree old oldIn other otherIn
    · rw [sameFirst.2.1, sameSecond.2.1, together]
    · rwa [sameFirst.2.2, sameSecond.2.2]

/-- The listings a query locks, each above those before it. -/
theorem rising_of_sorted {listings : List StoreProduct} (ids : Relational.Unique StoreProduct.id listings)
    (sorted : listings.Pairwise fun first second => first.id.toNat ≤ second.id.toNat) :
    (listings.map fun listing => (Row.listing listing.id).forUpdate).Pairwise fun first second =>
      listingOrder.Above [first] second := by
  rw [List.pairwise_map]
  refine (sorted.and (List.pairwise_map.mp ids)).imp fun {first second} below => ?_
  rintro - other held -
  cases List.mem_singleton.mp held
  have differ : first.id.toNat ≠ second.id.toNat := fun same => below.2 (BitVec.eq_of_toNat_eq same)
  exact lt_of_le_of_ne below.1 differ

theorem unique_selected {rows : List StoreProduct} (unique : Relational.Unique StoreProduct.id rows)
    (matching : StoreProduct → Bool) (before : StoreProduct → StoreProduct → Prop)
    [DecidableRel before] :
    Relational.Unique StoreProduct.id ((rows.filter matching).insertionSort before) :=
  ((List.perm_insertionSort before _).map StoreProduct.id).nodup_iff.mpr
    ((List.filter_sublist.map StoreProduct.id).nodup unique)

/-- Both queries meet the listings by rising identifiers. -/
theorem locks_sorted (shelves : AgreeingShelves db.catalogue.storeProducts) (request : ListingRequest) :
    Relational.Unique StoreProduct.id (request.locks db) ∧
      (request.locks db).Pairwise fun first second => first.id.toNat ≤ second.id.toNat := by
  cases request with
  | checkout items =>
    exact ⟨unique_selected shelves.ids _ _, List.pairwise_insertionSort _ _⟩
  | restore order items =>
    refine ⟨unique_selected shelves.ids _ _, ?_⟩
    have part : ∀ listing ∈ restoreLocks db order items, listing ∈ db.catalogue.storeProducts :=
      fun listing inside => List.mem_of_mem_filter ((List.mem_insertionSort _).mp inside)
    have sorted : (restoreLocks db order items).Pairwise fun first second =>
        first.productId.toNat ≤ second.productId.toNat := List.pairwise_insertionSort _ _
    refine sorted.imp_of_mem fun {first second} left right below => ?_
    have store : ∀ listing ∈ restoreLocks db order items, listing.storeId = order.storeId := by
      intro listing inside
      have met := List.of_mem_filter ((List.mem_insertionSort _).mp inside)
      exact (of_decide_eq_true met).1
    have together : first.storeId = second.storeId := (store first left).trans (store second right).symm
    rcases Nat.lt_or_eq_of_le below with lower | same
    · exact (shelves.agree first (part first left) second (part second right) together lower).le
    · have sole := unique_eq shelves.products (part first left) (part second right)
        (Prod.ext together (BitVec.eq_of_toNat_eq same))
      rw [sole]

theorem listings_upheld : Discipline.Upheld listingService shelfDiscipline ShelvesStand where
  starts _ _ _ _ := by
    refine holds_lockListings fun _ _ _ _ _ _ _ _ => ?_
    intro now later _ _
    exact ⟨later.2, trivial, fun _ _ => trivial⟩
  others _ after same kept := ⟨kept.of_keys same, fun _ _ => trivial⟩
  admitted _ _ _ _ _ _ := trivial
  separated _ _ _ _ _ _ _ _ _ _ _ _ := trivial

theorem agreeing_deadlock_free (start : Market)
    (shelves : AgreeingShelves start.tables.catalogue.storeProducts) : ListingDeadlockFree start := by
  intro state reached
  refine LockOrder.deadlock_free (O := listingOrder) listings_upheld shelves (fun db request kept => ?_)
    reached
  change listingOrder.Orderly shelfDiscipline (Statement.lockListings request.locks) {} db
  refine LockOrder.Orderly.query fun now later => ?_
  obtain ⟨ids, sorted⟩ := locks_sorted later.2 request
  refine .bind (LockOrder.orderly_lockRows later.2 (rising_of_sorted ids sorted) ?_) ?_
  · exact fun _ _ _ _ held => by cases held
  · exact Discipline.holds_lockRows later.2 fun _ _ _ _ => trivial

/-! ## Orders that do not agree -/

/-- Two listings of one store, selected in a strict order. -/
theorem selected_pair (key : StoreProduct → UUID) {rows : List StoreProduct}
    {first second : StoreProduct} {matching : StoreProduct → Bool} (ids : Relational.Unique StoreProduct.id rows)
    (matches_ : ∀ listing ∈ rows, matching listing = true ↔ listing = first ∨ listing = second)
    (left : first ∈ rows) (right : second ∈ rows) (below : (key first).toNat < (key second).toNat) :
    (rows.filter matching).insertionSort (fun left right => (key left).toNat ≤ (key right).toNat) =
      [first, second] := by
  have distinct : first ≠ second := by
    rintro rfl
    omega
  have nodup : rows.Nodup := List.Nodup.of_map StoreProduct.id ids
  have perm : (rows.filter matching).Perm [first, second] := by
    refine (List.perm_ext_iff_of_nodup (nodup.filter _) (by simp [distinct])).mpr fun listing => ?_
    rw [List.mem_filter, List.mem_cons, List.mem_singleton]
    constructor
    · rintro ⟨inside, met⟩
      exact (matches_ listing inside).mp met
    · rintro (rfl | rfl)
      · exact ⟨left, (matches_ _ left).mpr (.inl rfl)⟩
      · exact ⟨right, (matches_ _ right).mpr (.inr rfl)⟩
  have sorted := List.pairwise_insertionSort (fun left right : StoreProduct =>
    (key left).toNat ≤ (key right).toNat) (rows.filter matching)
  refine ((List.perm_insertionSort _ _).trans perm).eq_of_pairwise (fun one other here there up down => ?_)
    sorted (by simp [below.le])
  have key_eq : (key one).toNat = (key other).toNat := le_antisymm up down
  have member : ∀ listing ∈ (rows.filter matching).insertionSort
      (fun left right => (key left).toNat ≤ (key right).toNat), listing = first ∨ listing = second :=
    fun listing inside => by simpa using perm.subset ((List.mem_insertionSort _).mp inside)
  rcases member one here with rfl | rfl <;> rcases List.mem_pair.mp there with rfl | rfl
  · rfl
  · omega
  · omega
  · rfl

/-- The rest of a transaction that has seen which listings to lock. -/
def ListingRequest.remaining (request : ListingRequest) (seen : List StoreProduct) :
    Statements (List StoreProduct) := do
  Program.lockRows (seen.map fun listing => (Row.listing listing.id).forUpdate)
  Program.query fun market : Market =>
    (request.locks market.tables).filter fun listing => listing.id ∈ seen.map (·.id)

/-- Two transactions that lock two listings in opposite orders, statement by statement in
turn. -/
def crossing (left right : ListingRequest) : List (ReadCommitted.Action Market ListingRequest) :=
  [.start left, .start right, .advance 0, .advance 1, .advance 0, .advance 1]

theorem crossing_deadlocked (start : Market) {left right : ListingRequest}
    (first second : StoreProduct) (differ : first.id ≠ second.id) (forward : left.locks start.tables = [first, second])
    (backward : right.locks start.tables = [second, first]) :
    listingService.Deadlocked (fun lock => ∃ id, lock.row = .listing id)
      ((listingService.system start).run ⟨start, []⟩ (crossing left right)) := by
  have here : ∃ next, left.remaining [first, second] =
      .lock (Row.listing first.id).forUpdate (.lock (Row.listing second.id).forUpdate next) := ⟨_, rfl⟩
  have there : ∃ next, right.remaining [second, first] =
      .lock (Row.listing second.id).forUpdate (.lock (Row.listing first.id).forUpdate next) := ⟨_, rfl⟩
  obtain ⟨afterLeft, here⟩ := here
  obtain ⟨afterRight, there⟩ := there
  have reached : (listingService.system start).run ⟨start, []⟩ (crossing left right) =
      ⟨start, [.running (.lock (Row.listing second.id).forUpdate afterLeft)
          { held := [(Row.listing first.id).forUpdate] },
        .running (.lock (Row.listing first.id).forUpdate afterRight)
          { held := [(Row.listing second.id).forUpdate] }]⟩ := by
    have started : (listingService.system start).run ⟨start, []⟩ [.start left, .start right] =
        ⟨start, [.running left.program {}, .running right.program {}]⟩ := rfl
    have seen : (listingService.system start).run
        ⟨start, [.running left.program {}, .running right.program {}]⟩ [.advance 0, .advance 1] =
        ⟨start, [.running (left.remaining [first, second]) {},
          .running (right.remaining [second, first]) {}]⟩ := by
      rw [← forward, ← backward]
      rfl
    have alone : listingService.Free ⟨start, [.running (left.remaining [first, second]) {},
        .running (right.remaining [second, first]) {}]⟩ 0 (Row.listing first.id).forUpdate := by
      intro other bound apart session inside held member
      have one : other = 1 := by
        simp only [List.length_cons, List.length_nil] at bound
        omega
      subst one
      cases inside
      cases member
    have beside : listingService.Free ⟨start, [.running (.lock (Row.listing second.id).forUpdate afterLeft)
          { held := [(Row.listing first.id).forUpdate] },
        .running (right.remaining [second, first]) {}]⟩ 1 (Row.listing second.id).forUpdate := by
      intro other bound apart session inside held member clash
      have zero : other = 0 := by
        simp only [List.length_cons, List.length_nil] at bound
        omega
      subst zero
      cases inside
      cases List.mem_singleton.mp member
      exact differ (Row.listing.inj clash.1)
    have one : listingService.step ⟨start, [.running (left.remaining [first, second]) {},
          .running (right.remaining [second, first]) {}]⟩ (.advance 0) =
        ⟨start, [.running (.lock (Row.listing second.id).forUpdate afterLeft)
            { held := [(Row.listing first.id).forUpdate] },
          .running (right.remaining [second, first]) {}]⟩ :=
      listingService.step_lock {} (congrArg some (congrArg (Session.running · {}) here)) alone
    have two : listingService.step ⟨start, [.running (.lock (Row.listing second.id).forUpdate afterLeft)
            { held := [(Row.listing first.id).forUpdate] },
          .running (right.remaining [second, first]) {}]⟩ (.advance 1) =
        ⟨start, [.running (.lock (Row.listing second.id).forUpdate afterLeft)
            { held := [(Row.listing first.id).forUpdate] },
          .running (.lock (Row.listing first.id).forUpdate afterRight)
            { held := [(Row.listing second.id).forUpdate] }]⟩ :=
      listingService.step_lock {} (congrArg some (congrArg (Session.running · {}) there)) beside
    rw [show crossing left right =
        [.start left, .start right] ++ ([.advance 0, .advance 1] ++ [.advance 0, .advance 1]) from rfl,
      System.run_append, System.run_append, started, seen]
    exact (congrArg (listingService.step · (.advance 1)) one).trans two
  rw [reached]
  have waits : ∀ waiter holder, (waiter = 0 ∧ holder = 1) ∨ (waiter = 1 ∧ holder = 0) →
      listingService.WaitsFor (fun lock => ∃ id, lock.row = .listing id)
        ⟨start, [.running (.lock (Row.listing second.id).forUpdate afterLeft)
            { held := [(Row.listing first.id).forUpdate] },
          .running (.lock (Row.listing first.id).forUpdate afterRight)
            { held := [(Row.listing second.id).forUpdate] }]⟩ waiter holder := by
    rintro _ _ (⟨rfl, rfl⟩ | ⟨rfl, rfl⟩)
    · exact ⟨by decide, _, _, _, _, rfl, rfl, rfl, List.mem_singleton_self _, ⟨_, rfl⟩, ⟨_, rfl⟩,
        RowLock.update_conflicts _ .update⟩
    · exact ⟨by decide, _, _, _, _, rfl, rfl, rfl, List.mem_singleton_self _, ⟨_, rfl⟩, ⟨_, rfl⟩,
        RowLock.update_conflicts _ .update⟩
  exact ⟨0, .tail (.single (waits 0 1 (by simp))) (waits 1 0 (by simp))⟩

/-- An order of one store, for two of its products. -/
def orderOf (storeId : UUID) : Order where
  id := 1
  orderNumber := "GO-1"
  userId := 1
  storeId
  addressId := 1
  idempotencyKey := none
  stockRestoredAt := none
  status := .placed
  paymentMethod := .cod
  paymentStatus := .pending
  subtotal := 10000
  deliveryFee := 2000
  total := 12000

/-- A cancellation of an order and a checkout of a cart, both of the same two listings. -/
def cancelling (first second : StoreProduct) : ListingRequest :=
  .restore (orderOf first.storeId)
    [⟨1, 1, first.productId, "Rice", "kg", 5000, 1, 5000⟩, ⟨2, 1, second.productId, "Dal", "kg", 5000, 1, 5000⟩]

def buying (first second : StoreProduct) : ListingRequest :=
  .checkout [⟨1, 1, first.id, 1⟩, ⟨2, 1, second.id, 1⟩]

section
variable {db : Tables} {first second : StoreProduct} (constraints : db.Constraints)
  (left : first ∈ db.catalogue.storeProducts) (right : second ∈ db.catalogue.storeProducts)
include constraints left right

theorem cancelling_locks (together : first.storeId = second.storeId)
    (below : first.productId.toNat < second.productId.toNat) :
    (cancelling first second).locks db = [first, second] := by
  refine selected_pair StoreProduct.productId constraints.listingIds (fun listing inside => ?_) left right below
  simp only [orderOf, List.map_cons, List.map_nil, List.mem_cons, List.not_mem_nil, or_false,
    decide_eq_true_eq]
  constructor
  · rintro ⟨store, product | product⟩
    · exact .inl (unique_eq constraints.listingProducts inside left (Prod.ext store product))
    · exact .inr (unique_eq constraints.listingProducts inside right
        (Prod.ext (store.trans together) product))
  · rintro (rfl | rfl)
    · exact ⟨rfl, .inl rfl⟩
    · exact ⟨together.symm, .inr rfl⟩

theorem buying_locks (below : first.id.toNat < second.id.toNat) :
    (buying first second).locks db = [first, second] := by
  refine selected_pair StoreProduct.id constraints.listingIds (fun listing inside => ?_) left right below
  simp only [List.map_cons, List.map_nil, List.mem_cons, List.not_mem_nil, or_false, decide_eq_true_eq]
  constructor
  · rintro (same | same)
    · exact .inl (unique_eq constraints.listingIds inside left same)
    · exact .inr (unique_eq constraints.listingIds inside right same)
  · rintro (rfl | rfl)
    · exact .inl rfl
    · exact .inr rfl

end

/-- However checkouts, cancellations and returns interleave over listings, no two wait for
each other: exactly when, within every store, the identifiers of the listings are in the
order of their products. -/
theorem listing_locks_deadlock_free_iff (start : Market) (constraints : start.tables.Constraints) :
    ListingDeadlockFree start ↔ KeysAgree start.tables.catalogue.storeProducts := by
  constructor
  · intro free first left second right together below
    by_contra disagree
    have differ : second.id ≠ first.id := by
      intro same
      have sole := unique_eq constraints.listingIds right left same
      rw [sole] at below
      exact lt_irrefl _ below
    have above : second.id.toNat < first.id.toNat :=
      lt_of_le_of_ne (Nat.le_of_not_lt disagree) fun same => differ (BitVec.eq_of_toNat_eq same)
    refine free _ (.run .initial (crossing (cancelling first second) (buying second first)) ?_)
      (crossing_deadlocked start first second differ.symm (cancelling_locks constraints left right together below)
        (buying_locks constraints right left above))
    exact ⟨trivial, trivial, trivial, trivial, trivial, trivial, trivial⟩
  · intro agree
    exact agreeing_deadlock_free start ⟨constraints.listingIds, constraints.listingProducts, agree⟩

/-! ## One store -/

def shelf (listings : List StoreProduct) : Market where
  tables := { catalogue := { storeProducts := listings } }

/-- Two listings made in the order of their products. -/
theorem listing_locks_deadlock_free_shelf :
    ListingDeadlockFree (shelf [⟨1, 1, 1, 5000, 10, true⟩, ⟨2, 1, 2, 5000, 10, true⟩]) :=
  (listing_locks_deadlock_free_iff _ (by decide)).mpr (by unfold KeysAgree; decide)

/-- Two listings made in the other order, of which one customer cancels an order while
another buys them. -/
theorem crossed_shelf_deadlocks :
    ¬ListingDeadlockFree (shelf [⟨2, 1, 1, 5000, 10, true⟩, ⟨1, 1, 2, 5000, 10, true⟩]) := by
  intro free
  refine free _ (.run .initial (crossing (cancelling ⟨2, 1, 1, 5000, 10, true⟩ ⟨1, 1, 2, 5000, 10, true⟩)
    (buying ⟨1, 1, 2, 5000, 10, true⟩ ⟨2, 1, 1, 5000, 10, true⟩)) ?_)
    (crossing_deadlocked _ ⟨2, 1, 1, 5000, 10, true⟩ ⟨1, 1, 2, 5000, 10, true⟩ (by decide) (by decide)
      (by decide))
  exact ⟨trivial, trivial, trivial, trivial, trivial, trivial, trivial⟩

end GaonOne
