import GaonOne.CartDiscipline
import GaonOne.PaymentProgress

/-! A cart buys from one store. Adding and removing read the cart without a lock and
then write what they concluded, so two of them can break the cart between them; one that
commits while what it concluded is still so keeps it whole. -/
namespace GaonOne
open Relational UnitOfWork ReadCommitted Transitions

/-- The store that is set exactly if the cart has items, and that all of them are from. -/
@[mk_iff]
structure OneStore (db : Tables) (cart : Cart) : Prop where
  empty : cart.storeId = none ↔ ∀ item ∈ db.catalogue.cartItems, item.cartId ≠ cart.id
  stores : ∀ storeId ∈ cart.storeId, ∀ item ∈ db.catalogue.cartItems, item.cartId = cart.id →
    ∃ listing ∈ db.catalogue.storeProducts,
      listing.id = item.storeProductId ∧ listing.storeId = storeId

def SingleStore (db : Tables) : Prop := ∀ cart ∈ db.catalogue.carts, OneStore db cart

instance (db : Tables) (cart : Cart) : Decidable (OneStore db cart) :=
  decidable_of_iff ((cart.storeId = none ↔ ∀ item ∈ db.catalogue.cartItems, item.cartId ≠ cart.id) ∧
      cart.storeId.all fun storeId => decide (∀ item ∈ db.catalogue.cartItems, item.cartId = cart.id →
        ∃ listing ∈ db.catalogue.storeProducts,
          listing.id = item.storeProductId ∧ listing.storeId = storeId))
    (by simp only [oneStore_iff, Option.all_eq_true, decide_eq_true_iff, Option.mem_def])

instance (db : Tables) : Decidable (SingleStore db) := inferInstanceAs (Decidable (∀ _ ∈ _, _))

/-- The store a cart buys from now. -/
def cartStore (db : Tables) (cartId : UUID) : Option UUID :=
  (lookup Cart.id cartId db.catalogue.carts).bind (·.storeId)

/-- What a request concluded from an unlocked cart is still so. An insert needs the store
as it was read, or already the listing's. A change of quantity that also sets the store
needs it set already. A removal that forgets the store needs the cart to run empty, and
one that leaves it needs a row to stay, or no store. -/
def StillSo (db : Tables) : Note → Prop
  | .itemsRead _ => True
  | .claims _ => True
  | .flushing _ => True
  | .adding cart storeId true =>
    cartStore db cart.id = cart.storeId ∨ cartStore db cart.id = some storeId
  | .adding cart storeId false => cart.storeId = some storeId ∨ cartStore db cart.id = some storeId
  | .removing cartId deletes true =>
    ∀ item ∈ db.catalogue.cartItems, item.cartId = cartId → deletes item
  | .removing cartId deletes false =>
    (∃ item ∈ db.catalogue.cartItems, item.cartId = cartId ∧ deletes item = false) ∨
      cartStore db cartId = none

instance (db : Tables) (note : Note) : Decidable (StillSo db note) :=
  match note with
  | .itemsRead _ => .isTrue trivial
  | .claims _ => .isTrue trivial
  | .flushing _ => .isTrue trivial
  | .adding _ _ true => inferInstanceAs (Decidable (_ ∨ _))
  | .adding _ _ false => inferInstanceAs (Decidable (_ ∨ _))
  | .removing _ _ true => inferInstanceAs (Decidable (∀ _ ∈ _, _))
  | .removing _ _ false => inferInstanceAs (Decidable (_ ∨ _))

def singleStoreDiscipline : Discipline Market RowLock Note :=
  cartDiscipline (fun market => SingleStore market.tables) (fun _ _ => True) fun footing market =>
    ∀ note ∈ footing.notes, StillSo market.tables note

/-! ## One cart -/

/-- Quantities aside, nothing changed of a cart and its rows. -/
theorem OneStore.frame (kept : OneStore now cart) (listings : ListingsKept now after)
    (rows : ∀ item : CartItem, item.cartId = cart.id →
      ((∃ quantity, { item with quantity } ∈ after.catalogue.cartItems) ↔
        ∃ quantity, { item with quantity } ∈ now.catalogue.cartItems)) : OneStore after cart where
  empty := by
    rw [kept.empty]
    constructor
    · intro none item inside own
      obtain ⟨quantity, there⟩ := (rows item own).mp ⟨item.quantity, inside⟩
      exact none _ there own
    · intro none item inside own
      obtain ⟨quantity, there⟩ := (rows item own).mpr ⟨item.quantity, inside⟩
      exact none _ there own
  stores storeId set item inside own := by
    obtain ⟨quantity, there⟩ := (rows item own).mp ⟨item.quantity, inside⟩
    obtain ⟨listing, listed, same, store⟩ := kept.stores storeId set _ there own
    obtain ⟨row, held, agree⟩ := listings listing listed
    exact ⟨row, held, agree.id.trans same, agree.store.trans store⟩

theorem OneStore.cleared (unset : cart.storeId = none)
    (rows : ∀ item ∈ db.catalogue.cartItems, item.cartId ≠ cart.id) : OneStore db cart where
  empty := ⟨fun _ => rows, fun _ => unset⟩
  stores _ _ item inside own := absurd own (rows item inside)

theorem OneStore.congr (kept : OneStore db cart) (id : other.id = cart.id)
    (store : other.storeId = cart.storeId) : OneStore db other where
  empty := by
    rw [id, store]
    exact kept.empty
  stores := by
    rw [id, store]
    exact kept.stores

/-- What a cart's row says of its store, read by its key. -/
theorem cartStore_eq (ids : Unique Cart.id db.catalogue.carts) (inside : cart ∈ db.catalogue.carts) :
    cartStore db cart.id = cart.storeId := by
  rw [cartStore, (lookup_eq_some_iff ids).mpr ⟨inside, rfl⟩]
  rfl

theorem cartStore_some (set : cartStore db cartId = some storeId) :
    ∃ cart ∈ db.catalogue.carts, cart.id = cartId ∧ cart.storeId = some storeId := by
  obtain ⟨cart, found, set⟩ := Option.bind_eq_some_iff.mp set
  exact ⟨cart, lookup_mem found, lookup_col found, set⟩

/-! ## Checkout -/

theorem CheckoutRun.commits (run : CheckoutRun singleStoreDiscipline customer key draws start)
    (value : Option Order) :
    singleStoreDiscipline.Commits (fun market => CartConstraints market.tables) value run.standing
      run.last := by
  rintro now ⟨rely, kept, whole⟩ - constraints
  refine ⟨⟨constraints, ?_⟩, trivial, fun other apart => run.relies rely.listings kept apart⟩
  have listings := run.change_listings rely.listings kept
  change SingleStore (run.change now).tables
  intro cart inside
  rw [run.change_carts] at inside
  obtain ⟨old, there, rfl⟩ := List.mem_map.mp inside
  split
  · next own =>
    refine .cleared rfl fun item held same => ?_
    rw [run.change_cartItems, List.mem_filter] at held
    have gone := run.deletes_all rely held.1 (same.trans own)
    rw [gone] at held
    exact Bool.false_ne_true held.2
  · next differ =>
    refine (whole old there).frame listings fun item own => exists_congr fun quantity => ?_
    rw [run.change_cartItems, List.mem_filter]
    refine ⟨fun held => held.1, fun held => ⟨held, ?_⟩⟩
    have elsewhere : ¬item.cartId = run.cart.id := fun same => differ (own.symm.trans same)
    simp [foundByDelete, elsewhere]

/-! ## Adding -/

/-- An upsert brings no row but its own. -/
theorem upsert_rows {db : Tables} {item : CartItem}
    (other : row = none → item.cartId ≠ cartId) :
    (∃ now, { item with quantity := now } ∈
        (upsert cartId storeProductId quantity draws row db).catalogue.cartItems) ↔
      ∃ now, { item with quantity := now } ∈ db.catalogue.cartItems := by
  constructor
  · rintro ⟨now, inside⟩
    rcases mem_upsert inside with ⟨missing, fresh⟩ | before
    · exact absurd (congrArg CartItem.cartId fresh) (other missing)
    · exact before
  · rintro ⟨now, inside⟩
    exact mem_upsert_of { item with quantity := now } inside

/-- A cart that is there is the one that was read, or nobody has its key yet. -/
theorem CartRead.carts (read : CartRead draws seen cart create) {db : Tables}
    (inside : row ∈ (create db).catalogue.carts) :
    row ∈ db.catalogue.carts ∨ (row = cart ∧ cart.storeId = none) := by
  cases read with
  | found => exact .inl inside
  | created userId =>
    rcases List.mem_append.mp inside with there | fresh
    · exact .inl there
    · exact .inr ⟨List.mem_singleton.mp fresh, rfl⟩

/-- If a cart's store is one store or unset, its rows are from that store. -/
theorem rows_from (kept : CartConstraints db) (whole : SingleStore db)
    (set : cartStore db cartId = none ∨ cartStore db cartId = some storeId) :
    ∀ item ∈ db.catalogue.cartItems, item.cartId = cartId → ∃ listing ∈ db.catalogue.storeProducts,
      listing.id = item.storeProductId ∧ listing.storeId = storeId := by
  rintro item inside rfl
  obtain ⟨cart, there, own⟩ := kept.itemCarts item inside
  rw [← own, cartStore_eq kept.declared.cartIds there] at set
  rcases set with unset | set
  · exact absurd own.symm ((whole cart there).empty.mp unset item inside)
  · exact (whole cart there).stores storeId set item inside own.symm

namespace AdditionRun

/-- The carts an addition leaves: those there were, and its own with the listing's store. -/
theorem write_carts (run : AdditionRun D quantity draws start) {db : Tables} {cart : Cart}
    (inside : cart ∈ (run.write db).catalogue.carts) :
    (cart ∈ db.catalogue.carts ∧
        (cart.id = run.cart.id → run.cart.storeId = some run.listing.storeId)) ∨
      (cart.id = run.cart.id ∧ cart.storeId = some run.listing.storeId ∧
        run.cart.storeId ≠ some run.listing.storeId) := by
  rw [write, upsert_carts, assignment_carts] at inside
  split at inside
  · next same =>
    rcases run.cartRead.carts inside with there | ⟨rfl, unset⟩
    · exact .inl ⟨there, fun _ => same⟩
    · cases unset.symm.trans same
  · next differ =>
    obtain ⟨old, there, rfl⟩ := List.mem_map.mp inside
    split
    · next own => exact .inr ⟨own, rfl, differ⟩
    · next elsewhere =>
      rcases run.cartRead.carts there with before | ⟨rfl, -⟩
      · exact .inl ⟨before, fun own => absurd own elsewhere⟩
      · exact absurd rfl elsewhere

theorem commits (run : AdditionRun singleStoreDiscipline quantity draws start) (value : Option Order) :
    singleStoreDiscipline.Commits (fun market => CartConstraints market.tables) value run.standing
      run.last := by
  rintro now ⟨rely, kept, whole⟩ admitted constraints
  refine ⟨⟨constraints, ?_⟩, trivial, fun other apart => run.relies apart now⟩
  change SingleStore (run.write now.tables)
  have still := admitted (.adding run.cart run.listing.storeId run.item.isNone)
    (List.mem_singleton_self _)
  have listings : ListingsKept now.tables (run.write now.tables) := .of_eq (run.write_storeProducts _)
  intro cart inside
  by_cases own : cart.id = run.cart.id
  · cases found : run.item with
    | some row =>
      -- the rows are those there were, so the cart's row must be too
      have rows : ∀ item : CartItem, item.cartId = cart.id →
          ((∃ quantity, { item with quantity } ∈ (run.write now.tables).catalogue.cartItems) ↔
            ∃ quantity, { item with quantity } ∈ now.tables.catalogue.cartItems) := by
        intro item _
        rw [write, found, upsert_rows (fun missing => by cases missing), assignment_cartItems, run.cartRead.cartItems]
      rcases run.write_carts inside with ⟨there, -⟩ | ⟨-, set, differ⟩
      · exact (whole cart there).frame listings rows
      · rw [found] at still
        obtain ⟨old, there, same, before⟩ := cartStore_some (still.resolve_left differ)
        have agree : cart.id = old.id := own.trans same.symm
        refine ((whole old there).frame listings fun item mine => ?_).congr agree (set.trans before.symm)
        exact rows item (mine.trans agree.symm)
    | none =>
      rw [found] at still
      have fromStore : cart.storeId = some run.listing.storeId ∧
          (cartStore now.tables run.cart.id = none ∨
            cartStore now.tables run.cart.id = some run.listing.storeId) := by
        rcases run.write_carts inside with ⟨there, unchanged⟩ | ⟨-, set, differ⟩
        · have stored := still.elim (·.trans (unchanged own)) id
          rw [← own, cartStore_eq kept.declared.cartIds there] at stored ⊢
          exact ⟨stored, .inr stored⟩
        · refine ⟨set, still.imp_left fun same => same.trans ?_⟩
          cases read : run.cart.storeId with
          | none => rfl
          | some storeId => exact absurd (read.trans (congrArg some (run.mayBuy storeId read))) differ
      obtain ⟨set, stored⟩ := fromStore
      have since := (((run.reading.1.listings.trans run.looking.1.listings).trans
        run.noting.1.listings).trans run.ending.1.listings).trans rely.listings
      obtain ⟨mine, listed, same⟩ := since run.listing run.listingRead
      have added : (run.write now.tables).catalogue.cartItems = now.tables.catalogue.cartItems ++
          [⟨draws.itemId, run.cart.id, run.listing.id, quantity⟩] := by
        rw [write, found]
        change (assignment run.cart _ (run.create now.tables)).catalogue.cartItems ++ [_] = _
        rw [assignment_cartItems, run.cartRead.cartItems]
      refine ⟨⟨fun unset => absurd (set.symm.trans unset) (by simp), fun none => ?_⟩, ?_⟩
      · refine absurd own.symm (none ⟨draws.itemId, run.cart.id, run.listing.id, quantity⟩ ?_)
        rw [added]
        exact List.mem_append_right _ (List.mem_singleton_self _)
      · intro storeId set' item held mine'
        cases Option.some.inj (set.symm.trans set')
        rw [added] at held
        rw [run.write_storeProducts]
        rcases List.mem_append.mp held with there | fresh
        · exact rows_from kept whole stored item there (mine'.trans own)
        · cases List.mem_singleton.mp fresh
          exact ⟨mine, listed, same.id, same.store⟩
  · rcases run.write_carts inside with ⟨there, -⟩ | ⟨same, -⟩
    · refine (whole cart there).frame listings fun item mine => ?_
      rw [write, upsert_rows fun _ same => own (mine.symm.trans same), assignment_cartItems,
        run.cartRead.cartItems]
    · exact absurd same own

end AdditionRun

/-! ## Removing and clearing -/

namespace RemovalRun

/-- The carts a removal leaves: those there were, and perhaps its own without a store. -/
theorem write_carts (run : RemovalRun D draws start) {db : Tables} {cart : Cart}
    (inside : cart ∈ (run.write db).catalogue.carts) :
    (cart ∈ (run.create db).catalogue.carts ∧ (cart.id = run.cart.id → run.clears = false)) ∨
      (cart.id = run.cart.id ∧ cart.storeId = none ∧ run.clears = true) := by
  unfold write at inside
  dsimp only at inside
  split at inside
  · next clears =>
    obtain ⟨old, there, rfl⟩ := List.mem_map.mp inside
    split
    · next own => exact .inr ⟨own, rfl, clears⟩
    · next elsewhere => exact .inl ⟨there, fun own => absurd own elsewhere⟩
  · next keeps => exact .inl ⟨inside, fun _ => Bool.eq_false_iff.mpr keeps⟩

theorem commits (run : RemovalRun singleStoreDiscipline draws start) (value : Option Order) :
    singleStoreDiscipline.Commits (fun market => CartConstraints market.tables) value run.standing
      run.last := by
  rintro now ⟨rely, kept, whole⟩ admitted constraints
  refine ⟨⟨constraints, ?_⟩, trivial, fun other _ => run.relies other.held now⟩
  change SingleStore (run.write now.tables)
  have still := admitted (.removing run.cart.id run.deletes run.clears) (List.mem_singleton_self _)
  have listings : ListingsKept now.tables (run.write now.tables) := .of_eq (run.write_storeProducts _)
  have before : ∀ item ∈ (run.write now.tables).catalogue.cartItems,
      item ∈ now.tables.catalogue.cartItems := by
    intro item inside
    rw [run.write_cartItems] at inside
    exact (List.mem_filter.mp inside).1
  intro cart inside
  rcases run.write_carts inside with ⟨created, leaves⟩ | ⟨own, unset, clears⟩
  · by_cases there : cart ∈ now.tables.catalogue.carts
    · by_cases own : cart.id = run.cart.id
      · rw [leaves own] at still
        rcases still with ⟨row, held, mine, stays⟩ | unset
        · have set : cart.storeId ≠ none := fun unset =>
            (whole cart there).empty.mp unset row held (mine.trans own.symm)
          have kept : row ∈ (run.write now.tables).catalogue.cartItems := by
            rw [run.write_cartItems]
            exact List.mem_filter.mpr ⟨held, by rw [stays]; rfl⟩
          refine ⟨⟨fun unset => absurd unset set, fun none => ?_⟩, fun storeId store item here same => ?_⟩
          · exact absurd (mine.trans own.symm) (none row kept)
          · obtain ⟨listing, listed, agree⟩ := (whole cart there).stores storeId store item
              (before item here) same
            rw [run.write_storeProducts]
            exact ⟨listing, listed, agree⟩
        · rw [← own, cartStore_eq kept.declared.cartIds there] at unset
          exact .cleared unset fun item here => (whole cart there).empty.mp unset item (before item here)
      · refine (whole cart there).frame listings fun item mine => exists_congr fun quantity => ?_
        rw [run.write_cartItems, List.mem_filter]
        refine ⟨fun held => held.1, fun held => ⟨held, ?_⟩⟩
        cases deletes : run.deletes { item with quantity } with
        | false => rfl
        | true => exact absurd (mine.symm.trans (run.own { item with quantity } deletes)) own
    · -- a new cart: no row names it yet
      rcases run.cartRead.carts created with old | ⟨rfl, unset⟩
      · exact absurd old there
      · refine .cleared unset fun item here same => there ?_
        obtain ⟨parent, held, mine⟩ := kept.itemCarts item (before item here)
        have stays : parent ∈ (run.write now.tables).catalogue.carts := by
          rw [write, leaves rfl]
          exact run.cartRead.mem held
        rwa [← unique_eq constraints.declared.cartIds stays inside (mine.trans same)]
  · rw [clears] at still
    refine .cleared unset fun item here same => ?_
    have gone := still item (before item here) (same.trans own)
    rw [run.write_cartItems, List.mem_filter, gone] at here
    exact Bool.false_ne_true here.2

end RemovalRun

/-! ## Runs -/

/-- Others leave the carts and the listings as they are; a request that commits on
what it read of an unlocked cart commits while that is still so. -/
def Unraced (state : State Market RowLock Note HTTPException (Option Order)) :
    ReadCommitted.Action Market CartRequest → Prop
  | .other after => LeavesCarts state.database after
  | .advance index =>
    match state.sessions[index]? with
    | some (.running (.done _) footing) =>
      ∀ note ∈ footing.notes, StillSo state.database.tables note
    | _ => True
  | _ => True

instance (state : State Market RowLock Note HTTPException (Option Order))
    (action : ReadCommitted.Action Market CartRequest) : Decidable (Unraced state action) :=
  match action with
  | .other after => inferInstanceAs (Decidable (LeavesCarts _ after))
  | .start _ => .isTrue trivial
  | .abort _ => .isTrue trivial
  | .advance index =>
    decidable_of_iff (∀ footing ∈ state.sessions[index]?.bind Session.committing,
      ∀ note ∈ footing.notes, StillSo state.database.tables note)
      (by
        simp only [Unraced]
        rcases state.sessions[index]? with - | (⟨⟨⟩, footing⟩ | value | -) <;> simp [Session.committing])

theorem singleStore_upheld (env : Environment) (settings : Settings) :
    Discipline.Upheld (cartService env settings) singleStoreDiscipline Unraced where
  starts := by
    intro state request _ kept
    cases request with
    | addCartItem => exact holds_addCartItem fun run => run.commits none
    | removeCartItem => exact holds_removeCartItem fun run => run.commits none
    | clearCart => exact holds_clearCart fun run => run.commits none
    | safeCheckout =>
      refine holds_safeCheckout ?_ fun user _ run => run.commits (some run.order)
      rintro user order held now - - - next ⟨rely, kept⟩ - -
      exact ⟨kept, trivial, fun other _ => singleStoreDiscipline.refl other.held other.notes next⟩
  others := by
    rintro state after leaves ⟨-, whole⟩
    refine ⟨⟨leaves.constraints, fun cart inside => ?_⟩, fun held notes => leaves.relies held⟩
    rw [leaves.carts] at inside
    refine (whole cart inside).frame leaves.listings fun item _ => ?_
    rw [leaves.items]
  admitted := by
    intro state index value footing admitted standing
    unfold Unraced at admitted
    dsimp only at admitted
    rw [standing] at admitted
    exact admitted
  separated := fun _ _ _ _ _ _ _ _ _ _ _ apart => apart

/-- In every run in which no request commits on what is no longer so, every cart has a
store exactly if it has items, and all of them are from that store. -/
theorem carts_keep_one_store (env : Environment) (settings : Settings) {start : Market}
    (constraints : CartConstraints start.tables) (whole : SingleStore start.tables)
    (reached : System.ReachableWhile ((cartService env settings).system start) Unraced state) :
    SingleStore state.database.tables :=
  ((singleStore_upheld env settings).safe ⟨constraints, whole⟩ reached).invariant.2

/-! A customer changes a quantity and clears the cart at once. -/

def sharedCart : Market where
  tables := { catalogue := sampleCatalogue }

/-- The addition makes some of its statements, the clearing all, then the addition the rest. -/
def addAndClear (statements : Nat) : List (ReadCommitted.Action Market CartRequest) :=
  [.start (.addCartItem 1 1 3 ⟨8, 9⟩), .start (.clearCart 1 ⟨8, 9⟩)] ++
    List.replicate statements (.advance 0) ++ List.replicate 12 (.advance 1) ++
      List.replicate 12 (.advance 0)

def clearedCart (statements : Nat) : Market :=
  (((cartService sampleEnvironment sampleSettings).system sharedCart).run ⟨sharedCart, []⟩
    (addAndClear statements)).database

/-- The addition reads the cart after it was cleared, and sets its store again. -/
theorem carts_keep_one_store_cleared :
    CartConstraints sharedCart.tables ∧ SingleStore sharedCart.tables ∧
      SingleStore (clearedCart 4).tables := by
  have constraints : CartConstraints sharedCart.tables := by decide +kernel
  have whole : SingleStore sharedCart.tables := by decide +kernel
  have admitted : System.RunWhile ((cartService sampleEnvironment sampleSettings).system sharedCart)
      Unraced ⟨sharedCart, []⟩ (addAndClear 4) := by
    decide +kernel
  exact ⟨constraints, whole, carts_keep_one_store sampleEnvironment sampleSettings constraints whole
    (.run .initial (addAndClear 4) admitted)⟩

/-- The addition reads the store before the cart is cleared and inserts its row after:
the row is in a cart without a store. -/
theorem cart_left_without_store :
    CartConstraints sharedCart.tables ∧ SingleStore sharedCart.tables ∧
      (clearedCart 5).tables.catalogue.carts = [⟨1, 1, none⟩] ∧
      (clearedCart 5).tables.catalogue.cartItems = [⟨9, 1, 1, 3⟩] ∧
      ¬SingleStore (clearedCart 5).tables := by
  refine ⟨?_, ?_, ?_, ?_, ?_⟩ <;> decide +kernel

end GaonOne
