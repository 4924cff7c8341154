import GaonOne.CartDiscipline
import GaonOne.PaymentProgress

/-! What a checkout deletes from the cart is in the order it makes, unless a quantity
changed after checkout read it: a change of quantity waits for no lock that checkout
holds, and the delete takes the row whatever its quantity is by then. -/
namespace GaonOne
open Relational UnitOfWork ReadCommitted Transitions

/-- A cart row is in an order that was not there before, with its quantity. -/
def InNewOrder (before after : Tables) (item : CartItem) : Prop :=
  ∃ order ∈ after.orders, order ∉ before.orders ∧ ∃ line ∈ after.orderItems,
    line.orderId = order.id ∧ line.quantity = item.quantity ∧
      ∃ listing ∈ before.catalogue.storeProducts,
        listing.id = item.storeProductId ∧ listing.productId = line.productId

/-- Every cart row stays, or is in the new order; only a commit without an order may
change its quantity. -/
def KeepsRows (before after : Tables) : Prop :=
  ∀ item ∈ before.catalogue.cartItems, item ∈ after.catalogue.cartItems ∨
    InNewOrder before after item ∨
      (after.orders = before.orders ∧ ∃ quantity, { item with quantity } ∈ after.catalogue.cartItems)

/-- No row that a checkout has read has another quantity by now. -/
def QuantitiesStand (db : Tables) : Note → Prop
  | .itemsRead rows => ∀ row ∈ rows, ∀ item ∈ db.catalogue.cartItems,
      item.id = row.id → item.quantity = row.quantity
  | _ => True

instance (db : Tables) (note : Note) : Decidable (QuantitiesStand db note) :=
  match note with
  | .itemsRead _ => inferInstanceAs (Decidable (∀ _ ∈ _, ∀ _ ∈ _, _))
  | .adding _ _ _ => .isTrue trivial
  | .removing _ _ _ => .isTrue trivial
  | .claims _ => .isTrue trivial
  | .flushing _ => .isTrue trivial

def keepingDiscipline : Discipline Market RowLock Note :=
  cartDiscipline (fun _ => True) (fun before after => KeepsRows before.tables after.tables)
    fun footing market =>
    ∀ note ∈ footing.notes, QuantitiesStand market.tables note

theorem KeepsRows.of_items (same : after.catalogue.cartItems = before.catalogue.cartItems) :
    KeepsRows before after :=
  fun _ inside => .inl (same ▸ inside)

/-- An order is new if the database takes it. -/
theorem CheckoutRun.order_new (run : CheckoutRun D customer key draws start)
    (constraints : CartConstraints (run.change now).tables) : run.order ∉ now.tables.orders := by
  have ids := constraints.declared.orderIds
  rw [run.change_orders, unique_append] at ids
  exact fun inside => ids.2 run.order inside rfl

theorem CheckoutRun.keeps (run : CheckoutRun keepingDiscipline customer key draws start)
    (value : Option Order) :
    keepingDiscipline.Commits (fun market => CartConstraints market.tables) value run.standing
      run.last := by
  rintro now ⟨rely, kept, -⟩ admitted constraints
  refine ⟨⟨constraints, trivial⟩, ?_, fun other apart => run.relies rely.listings kept apart⟩
  change KeepsRows now.tables (run.change now).tables
  have stands := admitted (.itemsRead run.items) (List.mem_singleton_self _)
  intro item inside
  by_cases deleted : foundByDelete run.rows (fun item => item.cartId = run.cart.id) item = true
  · -- a deleted row is one that checkout read, and its quantity is what it read
    have own : item.cartId = run.cart.id :=
      of_decide_eq_true (Bool.and_eq_true_iff.mp deleted).2
    obtain ⟨last, there⟩ := rely.rows run.cart.id (by simp [standing]) item inside own
    have read : item ∈ run.items := by
      obtain ⟨quantity, read⟩ := run.rows_read there own
      have same : item.quantity = quantity := stands _ read item inside rfl
      subst same
      exact read
    obtain ⟨items, -, -⟩ := run.validated_items
    rw [← items] at read
    obtain ⟨pair, bought, rfl⟩ := List.mem_map.mp read
    obtain ⟨line, lined, lineOf⟩ := exists_line run.lined bought
    obtain ⟨listing, listed, same, -⟩ := run.listings_kept rely.listings kept.declared.listingIds bought
    refine .inr (.inl ⟨run.order, ?_, run.order_new constraints, line, ?_, lineOf.order, lineOf.quantity,
      listing, listed, same.id.trans (run.mem_listings bought).2.1, same.product.trans lineOf.product.symm⟩)
    · rw [run.change_orders]
      exact List.mem_append_right _ (List.mem_singleton_self _)
    · rw [run.change_orderItems]
      exact List.mem_append_right _ lined
  · refine .inl ?_
    rw [run.change_cartItems, List.mem_filter]
    exact ⟨inside, by simpa using deleted⟩

theorem AdditionRun.keeps (run : AdditionRun keepingDiscipline quantity draws start)
    (value : Option Order) :
    keepingDiscipline.Commits (fun market => CartConstraints market.tables) value run.standing
      run.last := by
  rintro now ⟨-, -, -⟩ - constraints
  refine ⟨⟨constraints, trivial⟩, ?_, fun other apart => run.relies apart now⟩
  change KeepsRows now.tables (run.write now.tables)
  intro item inside
  obtain ⟨_, _, same⟩ := run.touches now.tables
  refine .inr (.inr ⟨by rw [same], ?_⟩)
  refine mem_upsert_of item ?_
  rw [assignment_cartItems, run.cartRead.cartItems]
  exact inside

/-! ## Runs -/

/-- Requests are checkouts and additions, others leave carts alone, and no quantity that
a checkout has read is another when it commits. -/
def QuantitiesKept (state : State Market RowLock Note HTTPException (Option Order)) :
    ReadCommitted.Action Market CartRequest → Prop
  | .start (.removeCartItem ..) => False
  | .start (.clearCart ..) => False
  | .start _ => True
  | .other after => LeavesCarts state.database after
  | .advance index =>
    match state.sessions[index]? with
    | some (.running (.done _) footing) =>
      ∀ note ∈ footing.notes, QuantitiesStand state.database.tables note
    | _ => True
  | .abort _ => True

instance (state : State Market RowLock Note HTTPException (Option Order))
    (action : ReadCommitted.Action Market CartRequest) : Decidable (QuantitiesKept state action) :=
  match action with
  | .start (.removeCartItem ..) => .isFalse id
  | .start (.clearCart ..) => .isFalse id
  | .start (.addCartItem ..) => .isTrue trivial
  | .start (.safeCheckout ..) => .isTrue trivial
  | .other after => inferInstanceAs (Decidable (LeavesCarts _ after))
  | .abort _ => .isTrue trivial
  | .advance index =>
    decidable_of_iff (∀ footing ∈ state.sessions[index]?.bind Session.committing,
      ∀ note ∈ footing.notes, QuantitiesStand state.database.tables note)
      (by
        simp only [QuantitiesKept]
        rcases state.sessions[index]? with - | (⟨⟨⟩, footing⟩ | value | -) <;> simp [Session.committing])

theorem keeping_upheld (env : Environment) (settings : Settings) :
    Discipline.Upheld (cartService env settings) keepingDiscipline QuantitiesKept where
  starts := by
    intro state request admitted kept
    cases request with
    | addCartItem => exact holds_addCartItem fun run => run.keeps none
    | removeCartItem => exact admitted.elim
    | clearCart => exact admitted.elim
    | safeCheckout =>
      refine holds_safeCheckout ?_ fun user _ run => run.keeps (some run.order)
      rintro user order held now - - - next ⟨-, kept⟩ - -
      exact ⟨kept, .of_items rfl, fun other _ => keepingDiscipline.refl other.held other.notes next⟩
  others := fun state after leaves _ =>
    ⟨⟨leaves.constraints, trivial⟩, fun held _ => leaves.relies held⟩
  admitted := by
    intro state index value footing admitted standing
    unfold QuantitiesKept at admitted
    dsimp only at admitted
    rw [standing] at admitted
    exact admitted
  separated := fun _ _ _ _ _ _ _ _ _ _ _ apart => apart

/-- A step that meets the condition keeps every row, or puts it into the order it makes. -/
theorem step_keeps_rows (env : Environment) (settings : Settings)
    (safe : Discipline.Safe (cartService env settings) keepingDiscipline state)
    (admitted : QuantitiesKept state action) :
    KeepsRows state.database.tables ((cartService env settings).step state action).database.tables := by
  cases action with
  | start request => exact .of_items rfl
  | abort index => exact .of_items rfl
  | advance index =>
    rcases safe.advance (keeping_upheld env settings) admitted with same | done
    · rw [same]
      exact .of_items rfl
    · exact done
  | other after => exact .of_items admitted.items

/-- In every run of checkouts and additions whose steps all meet the condition, no commit
loses a row or a quantity; and every committed row is still in the cart at the end, or
one of the commits made an order of it with the quantity it then had. -/
theorem checkout_loses_nothing (env : Environment) (settings : Settings) {start : Market}
    (constraints : CartConstraints start.tables)
    (reached : System.ReachableWhile ((cartService env settings).system start) QuantitiesKept state) :
    (∀ action, QuantitiesKept state action → KeepsRows state.database.tables
      ((cartService env settings).step state action).database.tables) ∧
    ∀ actions, System.RunWhile ((cartService env settings).system start) QuantitiesKept state actions →
      ∀ item ∈ state.database.tables.catalogue.cartItems,
        (∃ quantity, { item with quantity } ∈ (((cartService env settings).system start).run state
          actions).database.tables.catalogue.cartItems) ∨
        ∃ before action after quantity, actions = before ++ action :: after ∧
          { item with quantity } ∈ (((cartService env settings).system start).run state
            before).database.tables.catalogue.cartItems ∧
          InNewOrder (((cartService env settings).system start).run state before).database.tables
            (((cartService env settings).system start).run state (before ++ [action])).database.tables
            { item with quantity } := by
  have keeps : ∀ state, System.ReachableWhile ((cartService env settings).system start)
      QuantitiesKept state → ∀ action, QuantitiesKept state action → KeepsRows state.database.tables
        ((cartService env settings).step state action).database.tables :=
    fun _ reached _ admitted => step_keeps_rows env settings
      ((keeping_upheld env settings).safe ⟨constraints, trivial⟩ reached) admitted
  refine ⟨keeps state reached, fun actions => ?_⟩
  induction actions generalizing state with
  | nil => exact fun _ item committed => .inl ⟨item.quantity, committed⟩
  | cons action rest ih =>
    intro admitted item committed
    have later := ih (reached.next admitted.1) admitted.2
    rcases keeps state reached action admitted.1 item committed with
      stays | ordered | ⟨-, quantity, stays⟩
    · rcases later item stays with here | ⟨before, next, after, quantity, rfl, inside, ordered⟩
      · exact .inl here
      · exact .inr ⟨action :: before, next, after, quantity, rfl, inside, ordered⟩
    · exact .inr ⟨[], action, rest, item.quantity, rfl, committed, ordered⟩
    · rcases later _ stays with here | ⟨before, next, after, quantity, rfl, inside, ordered⟩
      · exact .inl here
      · exact .inr ⟨action :: before, next, after, quantity, rfl, inside, ordered⟩

/-! A customer changes a quantity while a checkout is under way. -/

def rawCart : Market where
  tables := { catalogue := sampleCatalogue }

/-- The checkout makes some of its statements, the change of quantity all, then the
checkout some more. -/
def checkoutAndAdd (first second : Nat) : List (ReadCommitted.Action Market CartRequest) :=
  [.start (.safeCheckout 1 ⟨1, .cod⟩ none "GO-1" (sampleDraws 1)),
    .start (.addCartItem 1 1 3 ⟨8, 9⟩)] ++
    List.replicate first (.advance 0) ++ List.replicate 14 (.advance 1) ++
      List.replicate second (.advance 0)

def underCheckout (first second : Nat) : State Market RowLock Note HTTPException (Option Order) :=
  ((cartService sampleEnvironment sampleSettings).system rawCart).run ⟨rawCart, []⟩
    (checkoutAndAdd first second)

/-- The quantity changes before checkout reads it: the order has the new one. -/
theorem checkout_loses_nothing_early :
    (underCheckout 4 20).database.tables.orderItems.map (·.quantity) = [3] ∧
      KeepsRows (underCheckout 4 19).database.tables ((cartService sampleEnvironment
        sampleSettings).step (underCheckout 4 19) (.advance 0)).database.tables := by
  have constraints : CartConstraints rawCart.tables := by decide +kernel
  have admitted : System.RunWhile ((cartService sampleEnvironment sampleSettings).system rawCart)
      QuantitiesKept ⟨rawCart, []⟩ (checkoutAndAdd 4 19) := by
    decide +kernel
  have last : QuantitiesKept (underCheckout 4 19) (.advance 0) := by decide +kernel
  exact ⟨by decide +kernel, (checkout_loses_nothing sampleEnvironment sampleSettings constraints
    (.run .initial (checkoutAndAdd 4 19) admitted)).1 (.advance 0) last⟩

/-- The quantity changes after checkout has read it: three are committed, two are
ordered, and the row is gone. -/
theorem quantity_lost :
    CartConstraints rawCart.tables ∧
      (underCheckout 8 15).database.tables.catalogue.cartItems = [⟨1, 1, 1, 3⟩] ∧
      (underCheckout 8 16).database.tables.catalogue.cartItems = [] ∧
      (underCheckout 8 16).database.tables.orderItems.map (·.quantity) = [2] ∧
      ¬KeepsRows (underCheckout 8 15).database.tables (underCheckout 8 16).database.tables := by
  have before : (underCheckout 8 15).database.tables.catalogue.cartItems = [⟨1, 1, 1, 3⟩] := by
    decide +kernel
  have after : (underCheckout 8 16).database.tables.catalogue.cartItems = [] := by decide +kernel
  have ordered : (underCheckout 8 16).database.tables.orderItems.map (·.quantity) = [2] := by
    decide +kernel
  refine ⟨by decide +kernel, before, after, ordered, fun keeps => ?_⟩
  have lost := keeps ⟨1, 1, 1, 3⟩ (before ▸ List.mem_singleton_self _)
  rw [after] at lost
  rcases lost with stays | ⟨order, -, -, line, inside, -, quantity, -⟩ | ⟨-, _, stays⟩
  · cases stays
  · have listed : line.quantity ∈ [2] := ordered ▸ List.mem_map_of_mem inside
    rw [List.mem_singleton, quantity] at listed
    cases listed
  · cases stays

end GaonOne
