import GaonOne.CartDiscipline
import GaonOne.PaymentProgress

/-! Checkout is idempotent per key. A key has one order; a request that comes when there
is one answers with it after two queries and writes nothing; and no cart row goes into
two orders, since the cart's row is held from its reading to the commit that empties it. -/
namespace GaonOne
open Relational UnitOfWork ReadCommitted Transitions

/-- A row of a cart. -/
def rowKey (item : CartItem) : UUID × UUID := (item.cartId, item.id)

/-- The cart rows that orders were made from. -/
def consumed (market : Market) : List (UUID × UUID) :=
  market.ordered.map fun entry => rowKey entry.2

/-- No row was ordered twice, and none that was ordered is in a cart. -/
structure OrderedOnce (market : Market) : Prop where
  distinct : (consumed market).Nodup
  gone : ∀ item ∈ market.tables.catalogue.cartItems, rowKey item ∉ consumed market

/-- Orders keep their keys, and customers can still be told. -/
structure KeysKept (before after : Market) : Prop where
  orders : OrdersKept before.tables after.tables
  users : after.tables.catalogue.users = before.tables.catalogue.users

/-- `uuid4` draws no identifier of a row that was ordered. -/
def FreshRows (footing : Standing) (market : Market) : Prop :=
  ∀ item ∈ (footing.change market).tables.catalogue.cartItems,
    item ∈ market.tables.catalogue.cartItems ∨ rowKey item ∉ consumed market

instance (footing : Standing) (market : Market) : Decidable (FreshRows footing market) :=
  inferInstanceAs (Decidable (∀ _ ∈ _, _ ∨ _))

def keyDiscipline : Discipline Market RowLock Note := cartDiscipline OrderedOnce KeysKept FreshRows

/-! ## Cart rows -/

theorem CheckoutRun.change_consumed (run : CheckoutRun D customer key draws start) (market : Market) :
    consumed (run.change market) = consumed market ++ run.items.map rowKey := by
  simp [consumed, change, List.map_append, Function.comp_def]

theorem CheckoutRun.rows_distinct (run : CheckoutRun D customer key draws start)
    (unique : Unique CartItem.id run.read.tables.catalogue.cartItems) :
    (run.items.map rowKey).Nodup := by
  refine List.Nodup.of_map Prod.snd ?_
  rw [List.map_map, run.itemsRead]
  have sorted := List.perm_insertionSort (fun left right : CartItem =>
    left.storeProductId.toNat ≤ right.storeProductId.toNat)
    (belonging CartItem.cartId run.cart.id run.read.tables.catalogue.cartItems)
  refine (sorted.map _).nodup_iff.mpr ?_
  exact unique.sublist (List.filter_sublist.map _)

/-- What a commit adds to the ordered rows was in the cart until now. -/
theorem CheckoutRun.once (run : CheckoutRun keyDiscipline customer key draws start)
    (later : CartsRely run.standing.held run.last now) (once : OrderedOnce now) :
    OrderedOnce (run.change now) where
  distinct := by
    rw [run.change_consumed]
    refine List.nodup_append.mpr ⟨once.distinct, run.rows_distinct run.reading.2.1.declared.cartItemIds, ?_⟩
    intro row before _ fresh same
    subst same
    obtain ⟨entry, ordered, agree⟩ := List.mem_map.mp before
    obtain ⟨item, read, rfl⟩ := List.mem_map.mp fresh
    obtain ⟨inside, own⟩ := run.mem_items.mp read
    have since := run.since_read.trans (later.mono (by simp [standing]))
    have earlier := since.ordered run.cart.id (List.mem_singleton_self _) entry ordered
      ((congrArg Prod.fst agree).trans own)
    exact run.reading.2.2.gone item inside (agree ▸ List.mem_map_of_mem earlier)
  gone := by
    intro item inside
    rw [run.change_cartItems, List.mem_filter] at inside
    rw [run.change_consumed, List.mem_append]
    rintro (before | fresh)
    · exact once.gone item inside.1 before
    · obtain ⟨row, read, agree⟩ := List.mem_map.mp fresh
      have own : item.cartId = run.cart.id :=
        (congrArg Prod.fst agree).symm.trans (run.mem_items.mp read).2
      rw [run.deletes_all later inside.1 own] at inside
      exact Bool.false_ne_true inside.2

/-- A commit that orders nothing. -/
theorem OrderedOnce.of_rows (once : OrderedOnce before) (same : after.ordered = before.ordered)
    (rows : ∀ item ∈ after.tables.catalogue.cartItems,
      item ∈ before.tables.catalogue.cartItems ∨ rowKey item ∉ consumed before) : OrderedOnce after where
  distinct := by
    rw [consumed, same]
    exact once.distinct
  gone item inside := by
    rw [consumed, same]
    exact (rows item inside).elim (once.gone item) id

theorem CheckoutRun.keepsKeys (run : CheckoutRun keyDiscipline customer key draws start)
    (value : Option Order) :
    keyDiscipline.Commits (fun market => CartConstraints market.tables) value run.standing run.last := by
  rintro now ⟨rely, kept, once⟩ - constraints
  have orders : OrdersKept now.tables (run.change now).tables := by
    intro order inside
    refine ⟨order, ?_, .refl order⟩
    rw [run.change_orders]
    exact List.mem_append_left _ inside
  exact ⟨⟨constraints, run.once rely once⟩, ⟨orders, run.change_users now⟩,
    fun other apart => run.relies rely.listings kept apart⟩

theorem AdditionRun.keepsKeys (run : AdditionRun keyDiscipline quantity draws start)
    (value : Option Order) :
    keyDiscipline.Commits (fun market => CartConstraints market.tables) value run.standing run.last := by
  rintro now ⟨-, -, once⟩ fresh constraints
  obtain ⟨_, _, same⟩ := run.touches now.tables
  refine ⟨⟨constraints, once.of_rows rfl fresh⟩, ⟨.of_eq ?_, ?_⟩, fun other apart => run.relies apart now⟩
  · rw [standing, Market.change_tables, same]
  · rw [standing, Market.change_tables, same]

theorem RemovalRun.keepsKeys (run : RemovalRun keyDiscipline draws start) (value : Option Order) :
    keyDiscipline.Commits (fun market => CartConstraints market.tables) value run.standing run.last := by
  rintro now ⟨-, -, once⟩ fresh constraints
  obtain ⟨_, _, same⟩ := run.touches now.tables
  refine ⟨⟨constraints, once.of_rows rfl fresh⟩, ⟨.of_eq ?_, ?_⟩, fun other _ => run.relies other.held now⟩
  · rw [standing, Market.change_tables, same]
  · rw [standing, Market.change_tables, same]

/-! ## A request whose key has an order -/

/-- The rest of a checkout that asks for an order under its key first. -/
def Asks (subject : UUID) (key : String) (rest : Market → Statements (Option Order)) : Prop :=
  ∀ market answer, existingIdempotentOrder market.tables subject (some key) = some answer →
    rest market = .done (some answer)

/-- How far a checkout whose key has an order has come: it has not begun, it knows its
customer, it knows the order, it has answered with it. -/
def AnswerStage (subject : UUID) (key : String) (order : Order) :
    Nat → Session Market RowLock Note HTTPException (Option Order) → Prop
  | 0, session => ∃ next, session = .running (.select next) {} ∧
      ∀ market user, getCurrentUser market.tables subject = .ok user →
        ∃ rest, next market = .select rest ∧ Asks subject key rest
  | 1, session => ∃ rest, session = .running (.select rest) {} ∧ Asks subject key rest
  | 2, session => ∃ answer, SameOrder answer order ∧ session = .running (.done (some answer)) {}
  | _, session => ∃ answer, SameOrder answer order ∧ session = .committed (some answer)

/-- A key that the header may carry. -/
def ValidKey (header : Option String) (key : String) : Prop :=
  header.map Text.strip = some key ∧ key ≠ "" ∧ key.length ≤ 128

theorem safeCheckout_asks (valid : ValidKey header key) :
    AnswerStage subject key order 0 (.running
      (Statement.safeCheckout env settings subject payload header orderNumber draws) {}) := by
  obtain ⟨same, filled, short⟩ := valid
  refine ⟨_, rfl, fun market user current => ?_⟩
  have named : user.id = subject := by
    simp only [getCurrentUser, found_ok, Option.filter_eq_some_iff] at current
    exact lookup_col current.1
  have accepted : UnitOfWork.require (∀ held ∈ header.map Text.strip, held ≠ "" ∧ held.length ≤ 128)
      (⟨400, "Idempotency-Key must contain 1 to 128 characters"⟩ : HTTPException) = .ok () := by
    rw [require_ok, same]
    rintro held ⟨⟩
    exact ⟨filled, short⟩
  change ∃ rest, Program.bind (Program.ofExcept (getCurrentUser market.tables subject)) _ =
    .select rest ∧ _
  rw [current]
  change ∃ rest, Program.bind (Program.ofExcept (UnitOfWork.require (∀ held ∈ header.map Text.strip, _) _)) _ =
    .select rest ∧ _
  rw [accepted]
  refine ⟨_, rfl, fun market answer found => ?_⟩
  rw [← named, ← same] at found
  simp only [Program.bind, found]
  rfl

/-- The order of a key is the one that the lookup finds. -/
theorem existingIdempotentOrder_eq (keys : UniqueWhenSet (fun order : Order =>
      order.idempotencyKey.map (order.userId, ·)) db.orders) (held : order ∈ db.orders)
    (owner : order.userId = subject) (named : order.idempotencyKey = some key) (filled : key ≠ "") :
    existingIdempotentOrder db subject (some key) = some order := by
  have usable : configured (some key) = some key := by simp [configured, filled]
  rw [existingIdempotentOrder, usable, Option.bind_some]
  cases found : db.orders.find? fun order =>
      order.userId = subject ∧ order.idempotencyKey = some key with
  | none =>
    rw [List.find?_eq_none] at found
    exact absurd (decide_eq_true ⟨owner, named⟩) (found order held)
  | some other =>
    have fits : other.userId = subject ∧ other.idempotencyKey = some key := by
      simpa using List.find?_some found
    have its : other.idempotencyKey.map (other.userId, ·) = some (subject, key) := by
      rw [fits.1, fits.2, Option.map_some]
    have own : order.idempotencyKey.map (order.userId, ·) = some (subject, key) := by
      rw [owner, named, Option.map_some]
    rw [uniqueWhenSet_eq keys (List.mem_of_find?_eq_some found) held its own]

/-! ## Runs -/

/-- Others leave carts and keys alone, and no identifier of an ordered row is drawn again. -/
def KeysStand (state : State Market RowLock Note HTTPException (Option Order)) :
    ReadCommitted.Action Market CartRequest → Prop
  | .other after => LeavesCarts state.database after
  | .advance index =>
    match state.sessions[index]? with
    | some (.running (.done _) footing) => FreshRows footing state.database
    | _ => True
  | _ => True

instance (state : State Market RowLock Note HTTPException (Option Order))
    (action : ReadCommitted.Action Market CartRequest) : Decidable (KeysStand state action) :=
  match action with
  | .other after => inferInstanceAs (Decidable (LeavesCarts _ after))
  | .start _ => .isTrue trivial
  | .abort _ => .isTrue trivial
  | .advance index =>
    decidable_of_iff (∀ footing ∈ state.sessions[index]?.bind Session.committing,
      FreshRows footing state.database)
      (by
        simp only [KeysStand]
        rcases state.sessions[index]? with - | (⟨⟨⟩, footing⟩ | value | -) <;> simp [Session.committing])

theorem keys_upheld (env : Environment) (settings : Settings) :
    Discipline.Upheld (cartService env settings) keyDiscipline KeysStand where
  starts := by
    intro state request _ kept
    cases request with
    | addCartItem => exact holds_addCartItem fun run => run.keepsKeys none
    | removeCartItem => exact holds_removeCartItem fun run => run.keepsKeys none
    | clearCart => exact holds_clearCart fun run => run.keepsKeys none
    | safeCheckout =>
      refine holds_safeCheckout ?_ fun user _ run => run.keepsKeys (some run.order)
      rintro user order held now - - - next ⟨-, kept⟩ - -
      exact ⟨kept, ⟨.refl _, rfl⟩, fun other _ => keyDiscipline.refl other.held other.notes next⟩
  others := by
    rintro state after leaves ⟨-, once⟩
    refine ⟨⟨leaves.constraints, once.of_rows leaves.ordered fun item inside => .inl ?_⟩,
      fun held _ => leaves.relies held⟩
    exact leaves.items ▸ inside
  admitted := by
    intro state index value footing admitted standing
    unfold KeysStand at admitted
    dsimp only at admitted
    rw [standing] at admitted
    exact admitted
  separated := fun _ _ _ _ _ _ _ _ _ _ _ apart => apart

/-- Every step keeps keys and customers. -/
theorem step_keeps_keys (env : Environment) (settings : Settings)
    (safe : Discipline.Safe (cartService env settings) keyDiscipline state)
    (admitted : KeysStand state action) :
    KeysKept state.database ((cartService env settings).step state action).database := by
  cases action with
  | start request => exact ⟨.refl _, rfl⟩
  | abort index => exact ⟨.refl _, rfl⟩
  | advance index =>
    rcases safe.advance (keys_upheld env settings) admitted with same | done
    · rw [same]
      exact ⟨.refl _, rfl⟩
    · exact done
  | other after => exact ⟨admitted.orders, admitted.users⟩

/-- The statements of one session in a run. -/
def statementsOf (index : Nat) (actions : List (ReadCommitted.Action Market CartRequest)) : Nat :=
  actions.countP fun
    | .advance other => other == index
    | _ => false

/-- What holds of a session whose key has an order, so many statements after its start. -/
structure Answering (subject : UUID) (key : String) (order : Order) (index statements : Nat)
    (state : State Market RowLock Note HTTPException (Option Order)) : Prop where
  known : ∃ user, getCurrentUser state.database.tables subject = .ok user
  held : ∃ now ∈ state.database.tables.orders, SameOrder now order
  stage : ∃ session, state.sessions[index]? = some session ∧
    AnswerStage subject key order statements session

theorem Answering.step (safe : Discipline.Safe (cartService env settings) keyDiscipline state)
    (admitted : KeysStand state action) (owner : order.userId = subject)
    (named : order.idempotencyKey = some key) (filled : key ≠ "")
    (answering : Answering subject key order index statements state) (alive : action ≠ .abort index) :
    Answering subject key order index (statements + statementsOf index [action])
      ((cartService env settings).step state action) := by
  have kept := step_keeps_keys env settings safe admitted
  obtain ⟨⟨user, current⟩, ⟨now, there, same⟩, session, at_, stage⟩ := answering
  refine ⟨⟨user, ?_⟩, ?_, ?_⟩
  · rw [getCurrentUser, Tables.user?, kept.users]
    exact current
  · obtain ⟨later, inside, agree⟩ := kept.orders now there
    exact ⟨later, inside, agree.trans same⟩
  cases action with
  | start request =>
    refine ⟨session, ?_, stage⟩
    have bound : index < state.sessions.length := (List.getElem?_eq_some_iff.mp at_).1
    exact (List.getElem?_append_left bound).trans at_
  | abort other =>
    refine ⟨session, (List.getElem?_set_ne fun agree => alive (by rw [agree])).trans at_, stage⟩
  | other after => exact ⟨session, at_, stage⟩
  | advance other =>
    by_cases own : other = index
    · subst own
      have bound : other < state.sessions.length := (List.getElem?_eq_some_iff.mp at_).1
      have more : statements + statementsOf other [.advance other] = statements + 1 := by
        simp [statementsOf]
      rw [more]
      rcases statements with - | - | - | count
      · obtain ⟨next, running, knows⟩ := stage
        subst running
        rw [Service.step_advance _ at_]
        obtain ⟨rest, asked, asks⟩ := knows state.database user current
        exact ⟨_, List.getElem?_set_self bound, rest, congrArg (Session.running · {}) asked, asks⟩
      · obtain ⟨rest, running, asks⟩ := stage
        subst running
        rw [Service.step_advance _ at_]
        have found := existingIdempotentOrder_eq safe.invariant.1.declared.orderKeys there
          (same.user.trans owner) (same.key.trans named) filled
        exact ⟨_, List.getElem?_set_self bound, now, same,
          congrArg (Session.running · {}) (asks state.database now found)⟩
      · obtain ⟨answer, agree, running⟩ := stage
        subst running
        rw [Service.step_advance _ at_]
        have valid : (cartService env settings).valid (({} : Standing).change state.database) :=
          safe.invariant.1
        refine ⟨.committed (some answer), ?_, answer, agree, rfl⟩
        rw [Service.advance, if_pos valid]
        exact List.getElem?_set_self bound
      · obtain ⟨answer, agree, done⟩ := stage
        subst done
        refine ⟨.committed (some answer), ?_, answer, agree, rfl⟩
        simp only [Service.step, at_]
    · refine ⟨session, ((cartService env settings).advance_other own state).trans at_, ?_⟩
      simpa [statementsOf, own] using stage

/-- Its statements write nothing. -/
theorem Answering.silent (answering : Answering subject key order index statements state) :
    ((cartService env settings).step state (.advance index)).database = state.database := by
  obtain ⟨-, -, session, at_, stage⟩ := answering
  match statements, stage with
  | 0, ⟨next, running, _⟩ =>
    subst running
    rw [Service.step_advance _ at_]
    rfl
  | 1, ⟨rest, running, _⟩ =>
    subst running
    rw [Service.step_advance _ at_]
    rfl
  | 2, ⟨answer, _, running⟩ =>
    subst running
    rw [Service.step_advance _ at_, Service.advance]
    split <;> rfl
  | count + 3, ⟨answer, _, done⟩ =>
    subst done
    simp only [Service.step, at_]

/-- It answers with that order only. -/
theorem Answering.answer (answering : Answering subject key order index statements state)
    (committed : state.sessions[index]? = some (.committed value)) :
    ∃ answer, value = some answer ∧ SameOrder answer order := by
  obtain ⟨-, -, session, at_, stage⟩ := answering
  cases Option.some.inj (at_.symm.trans committed)
  match statements, stage with
  | 0, ⟨_, running, _⟩ => cases running
  | 1, ⟨_, running, _⟩ => cases running
  | 2, ⟨_, _, running⟩ => cases running
  | count + 3, ⟨answer, agree, done⟩ =>
    cases done
    exact ⟨answer, rfl, agree⟩

theorem Answering.done (answering : Answering subject key order index statements state)
    (enough : 3 ≤ statements) :
    ∃ answer, SameOrder answer order ∧ state.sessions[index]? = some (.committed (some answer)) := by
  obtain ⟨-, -, session, at_, stage⟩ := answering
  obtain ⟨count, rfl⟩ := Nat.exists_eq_add_of_le' enough
  obtain ⟨answer, agree, done⟩ := stage
  exact ⟨answer, agree, done ▸ at_⟩

/-- A session that has failed stays so, and writes nothing. -/
theorem failed_step (failed : state.sessions[index]? = some .failed)
    (action : ReadCommitted.Action Market CartRequest) :
    ((cartService env settings).step state action).sessions[index]? = some .failed ∧
      ((cartService env settings).step state (.advance index)).database = state.database := by
  have bound : index < state.sessions.length := (List.getElem?_eq_some_iff.mp failed).1
  refine ⟨?_, by simp only [Service.step, failed]⟩
  cases action with
  | start request => exact (List.getElem?_append_left bound).trans failed
  | other after => exact failed
  | abort other =>
    by_cases own : other = index
    · subst own
      exact List.getElem?_set_self bound
    · exact (List.getElem?_set_ne own).trans failed
  | advance other =>
    by_cases own : other = index
    · subst own
      simp only [Service.step, failed]
    · exact ((cartService env settings).advance_other own state).trans failed

/-- A request whose key has an order goes on answering, or was aborted. -/
theorem Answering.run {start : Market}
    (constraints : CartConstraints start.tables) (once : OrderedOnce start)
    (reached : System.ReachableWhile ((cartService env settings).system start) KeysStand state)
    (owner : order.userId = subject) (named : order.idempotencyKey = some key) (filled : key ≠ "")
    (answering : Answering subject key order index statements state) :
    ∀ actions, System.RunWhile ((cartService env settings).system start) KeysStand state actions →
      Answering subject key order index (statements + statementsOf index actions)
          (((cartService env settings).system start).run state actions) ∨
        (.abort index ∈ actions ∧ (((cartService env settings).system start).run state
          actions).sessions[index]? = some .failed) := by
  intro actions
  induction actions generalizing state statements with
  | nil => exact fun _ => .inl answering
  | cons action rest ih =>
    intro admitted
    have safe := (keys_upheld env settings).safe ⟨constraints, once⟩ reached
    by_cases alive : action = .abort index
    · subst alive
      have bound : index < state.sessions.length := by
        obtain ⟨-, -, session, at_, -⟩ := answering
        exact (List.getElem?_eq_some_iff.mp at_).1
      refine .inr ⟨List.mem_cons_self, ?_⟩
      exact (reached.next admitted.1).persists (P := fun state => state.sessions[index]? = some .failed)
        (List.getElem?_set_self bound) (fun _ action _ failed _ => (failed_step failed action).1) rest
        admitted.2
    · have next := answering.step safe admitted.1 owner named filled alive
      have total : statements + statementsOf index (action :: rest) =
          statements + statementsOf index [action] + statementsOf index rest := by
        simp only [statementsOf, List.countP_cons, List.countP_nil]
        omega
      rw [total]
      exact (ih (reached.next admitted.1) next admitted.2).imp_right
        fun aborted => ⟨List.mem_cons_of_mem _ aborted.1, aborted.2⟩

/-- In every state: a customer's key has one order; a checkout that then comes with the
key of an order writes nothing, answers with that order only, and has answered after
three statements of its own; and no cart row was ordered twice. -/
theorem checkout_idempotent (env : Environment) (settings : Settings) {start : Market}
    (constraints : CartConstraints start.tables) (unused : start.ordered = [])
    (reached : System.ReachableWhile ((cartService env settings).system start) KeysStand state) :
    (∀ first ∈ state.database.tables.orders, ∀ second ∈ state.database.tables.orders, ∀ key,
      first.userId = second.userId → first.idempotencyKey = some key →
        second.idempotencyKey = some key → first = second) ∧
    (∀ order ∈ state.database.tables.orders, ∀ payload header key orderNumber draws,
      order.idempotencyKey = some key → ValidKey header key →
      (∃ user, getCurrentUser state.database.tables order.userId = .ok user) →
      ∀ actions, System.RunWhile ((cartService env settings).system start) KeysStand
          ((cartService env settings).step state
            (.start (.safeCheckout order.userId payload header orderNumber draws))) actions →
        ∀ later, ((cartService env settings).system start).run ((cartService env settings).step state
            (.start (.safeCheckout order.userId payload header orderNumber draws))) actions = later →
          ((cartService env settings).step later (.advance state.sessions.length)).database =
              later.database ∧
            (∀ value, later.sessions[state.sessions.length]? = some (.committed value) →
              ∃ answer, value = some answer ∧ SameOrder answer order) ∧
            (.abort state.sessions.length ∉ actions → 3 ≤ statementsOf state.sessions.length actions →
              ∃ answer, SameOrder answer order ∧
                later.sessions[state.sessions.length]? = some (.committed (some answer)))) ∧
    (consumed state.database).Nodup := by
  have once : OrderedOnce start := ⟨by simp [consumed, unused], by simp [consumed, unused]⟩
  have safe := (keys_upheld env settings).safe ⟨constraints, once⟩ reached
  refine ⟨fun first left second right key same one two => ?_, ?_, safe.invariant.2.distinct⟩
  · have its : first.idempotencyKey.map (first.userId, ·) = some (second.userId, key) := by
      rw [same, one, Option.map_some]
    have own : second.idempotencyKey.map (second.userId, ·) = some (second.userId, key) := by
      rw [two, Option.map_some]
    exact uniqueWhenSet_eq safe.invariant.1.declared.orderKeys left right its own
  · rintro order held payload header key orderNumber draws named valid known actions admitted later rfl
    have begun : Answering order.userId key order state.sessions.length 0
        ((cartService env settings).step state
          (.start (.safeCheckout order.userId payload header orderNumber draws))) :=
      ⟨known, ⟨order, held, .refl order⟩, _, List.getElem?_concat_length,
        safeCheckout_asks valid⟩
    have opened : KeysStand state
        (.start (.safeCheckout order.userId payload header orderNumber draws)) := trivial
    rcases begun.run constraints once (reached.next opened) rfl named valid.2.1 actions admitted with
      answering | ⟨aborted, failed⟩
    · rw [Nat.zero_add] at answering
      exact ⟨answering.silent, fun value committed => answering.answer committed,
        fun _ enough => answering.done enough⟩
    · refine ⟨(failed_step failed (.advance state.sessions.length)).2, fun value committed => ?_,
        fun alive => absurd aborted alive⟩
      cases failed.symm.trans committed

/-! A customer retries a checkout at once with one key, and again after it. -/

def filledCart : Market where
  tables := { catalogue := sampleCatalogue }

/-- Both checkouts, statement by statement in turn. -/
def retries : List (ReadCommitted.Action Market CartRequest) :=
  [.start (.safeCheckout 1 ⟨1, .cod⟩ (some " k ") "GO-1" (sampleDraws 1)),
    .start (.safeCheckout 1 ⟨1, .cod⟩ (some "k") "GO-2" (sampleDraws 2))] ++
    (List.replicate 30 [.advance 0, .advance 1]).flatten

def retried : State Market RowLock Note HTTPException (Option Order) :=
  ((cartService sampleEnvironment sampleSettings).system filledCart).run ⟨filledCart, []⟩ retries

/-- The one order is sold once, and a third checkout with the key answers with it after
three statements. -/
theorem checkout_idempotent_retried :
    retried.database.tables.orders.map (·.orderNumber) = ["GO-1"] ∧
      (consumed retried.database).Nodup ∧
      ∃ order ∈ retried.database.tables.orders, ∃ answer, SameOrder answer order ∧
        (((cartService sampleEnvironment sampleSettings).system filledCart).run
          ((cartService sampleEnvironment sampleSettings).step retried
            (.start (.safeCheckout order.userId ⟨1, .cod⟩ (some "k") "GO-3" (sampleDraws 3))))
          (List.replicate 3 (.advance 2))).sessions[2]? = some (.committed (some answer)) := by
  have constraints : CartConstraints filledCart.tables := by decide +kernel
  have admitted : System.RunWhile ((cartService sampleEnvironment sampleSettings).system filledCart)
      KeysStand ⟨filledCart, []⟩ retries := by
    decide +kernel
  have numbers : retried.database.tables.orders.map (·.orderNumber) = ["GO-1"] := by decide +kernel
  have reached : System.ReachableWhile ((cartService sampleEnvironment sampleSettings).system
      filledCart) KeysStand retried :=
    .run .initial retries admitted
  have result := checkout_idempotent sampleEnvironment sampleSettings constraints rfl reached
  refine ⟨numbers, result.2.2, ?_⟩
  have placed : ∃ order ∈ retried.database.tables.orders, order.userId = 1 ∧
      order.idempotencyKey = some "k" := by
    decide +kernel
  have known : (getCurrentUser retried.database.tables 1).isOk = true := by decide +kernel
  obtain ⟨order, held, owner, named⟩ := placed
  rw [← owner] at known
  have user : ∃ user, getCurrentUser retried.database.tables order.userId = .ok user := by
    cases current : getCurrentUser retried.database.tables order.userId with
    | ok user => exact ⟨user, rfl⟩
    | error refusal => rw [current] at known; cases known
  have count : retried.sessions.length = 2 := by decide +kernel
  have third := result.2.1 order held ⟨1, .cod⟩ (some "k") "k" "GO-3" (sampleDraws 3) named
    ⟨by decide +kernel, by decide, by decide⟩ user (List.replicate 3 (.advance 2))
    (by rw [owner]; decide +kernel) _ rfl
  rw [count] at third
  obtain ⟨answer, same, committed⟩ := third.2.2 (by simp) (by decide)
  exact ⟨order, held, answer, same, committed⟩

end GaonOne
