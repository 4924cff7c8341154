import GaonOne.SupportReferences

/-! What a ticket may be about. The order, delivery and store that `_validate_references`
returns are the ones that were named, belong to each other, and are the requester's. -/
namespace GaonOne
open Relational UnitOfWork

/-- The rows a ticket is about, as its request named them. -/
structure Coherent (payload : TicketCreate) (order : Option Order) (delivery : Option Delivery)
    (store : Option Store) : Prop where
  namedOrder : ∀ key ∈ payload.orderId, ∃ row ∈ order, row.id = key
  namedDelivery : ∀ key ∈ payload.deliveryId, ∃ row ∈ delivery, row.id = key
  namedStore : ∀ key ∈ payload.storeId, ∃ row ∈ store, row.id = key
  deliveryOrder : ∀ carried ∈ delivery, ∃ row ∈ order, carried.orderId = row.id
  orderStore : ∀ placed ∈ order, ∃ row ∈ store, placed.storeId = row.id

/-- The rows are the requester's, each role by what it owns. -/
def Owned (db : Tables) (user : User) (order : Option Order) (delivery : Option Delivery)
    (store : Option Store) : Prop :=
  match user.role with
  | .customer => ∀ placed ∈ order, placed.userId = user.id
  | .merchant => ∀ sold ∈ store, ∃ merchant ∈ db.catalogue.merchants,
      merchant.ownerUserId = user.id ∧ sold.merchantId = merchant.id
  | .delivery => ∀ carried ∈ delivery, carried.deliveryPartnerId = some user.id
  | .admin => True

variable {db : Tables} {payload : TicketCreate} {user : User} {rows : ReferencedRows}
  {order : Option Order} {delivery : Option Delivery} {store : Option Store}

theorem Fetched.named {get : UUID → Option ρ} {key : Option UUID} {row : Option ρ}
    (fetched : Fetched get key row) : ∀ wanted ∈ key, ∃ held ∈ row, get wanted = some held := by
  cases fetched with
  | unnamed => exact fun _ wanted => nomatch wanted
  | stored held =>
    rintro wanted ⟨⟩
    exact ⟨_, rfl, held⟩

/-- The relationship checks, as what passes them. -/
theorem related_ok (answered : rows.related db = .ok (order, delivery, store)) :
    rows.ordersDiffer = false ∧ order = (rows.explicitOrder <|> rows.deliveryOrder) ∧
      delivery = rows.explicitDelivery ∧
      store = (rows.explicitStore <|> order.bind fun order => db.store? order.storeId) ∧
      (∀ sold ∈ rows.explicitStore, ∀ placed ∈ order, placed.storeId = sold.id) ∧
      ¬(order.isSome ∧ store.isNone) := by
  simp only [ReferencedRows.related, require_bind_ok, pure_ok] at answered
  obtain ⟨alike, sold, present, same⟩ := answered
  cases same
  refine ⟨alike, rfl, rfl, rfl, ?_, present⟩
  intro store named placed held
  by_contra differ
  have refused : (rows.explicitStore.any fun store =>
      (rows.explicitOrder <|> rows.deliveryOrder).any fun order => order.storeId ≠ store.id) = true := by
    rw [Option.mem_def.mp named, Option.mem_def.mp held]
    simpa using differ
  rw [sold] at refused
  cases refused

theorem related_coherent (names : Names db payload rows)
    (answered : rows.related db = .ok (order, delivery, store)) :
    Coherent payload order delivery store := by
  obtain ⟨alike, rfl, rfl, rfl, sold, present⟩ := related_ok answered
  constructor
  · intro key wanted
    obtain ⟨row, held, stored⟩ := names.order.named key wanted
    refine ⟨row, ?_, lookup_col stored⟩
    rw [Option.mem_def.mp held]
    rfl
  · intro key wanted
    obtain ⟨row, held, stored⟩ := names.delivery.named key wanted
    exact ⟨row, held, lookup_col stored⟩
  · intro key wanted
    obtain ⟨row, held, stored⟩ := names.store.named key wanted
    refine ⟨row, ?_, lookup_col stored⟩
    rw [Option.mem_def.mp held]
    rfl
  · intro carried held
    have parent : carried.orderId ∈ rows.explicitDelivery.map Delivery.orderId :=
      Option.mem_map_of_mem _ held
    obtain ⟨row, there, stored⟩ := names.deliveryOrder.named _ parent
    have own : row.id = carried.orderId := lookup_col stored
    cases explicit : rows.explicitOrder with
    | none => exact ⟨row, there, own.symm⟩
    | some placed => exact ⟨placed, rfl, own.symm.trans (ReferencedRows.ordersDiffer_eq_false.mp alike placed row explicit there).symm⟩
  · intro placed held
    cases explicit : rows.explicitStore with
    | some row => exact ⟨row, rfl, sold row explicit placed held⟩
    | none =>
      have derived : ((rows.explicitOrder <|> rows.deliveryOrder).bind fun order =>
          db.store? order.storeId) = db.store? placed.storeId := by
        rw [Option.mem_def.mp held]
        rfl
      cases stored : db.store? placed.storeId with
      | some row =>
        refine ⟨row, ?_, (lookup_col stored).symm⟩
        exact derived.trans stored
      | none =>
        refine absurd ⟨?_, ?_⟩ present
        · rw [Option.mem_def.mp held]
          rfl
        · rw [explicit]
          exact Option.isNone_iff_eq_none.mpr (derived.trans stored)

/-! ## Whose the rows are -/

/-- The order that is returned is one of those the role's check looks at. -/
theorem chosen_order {placed : Order}
    (held : (rows.explicitOrder <|> rows.deliveryOrder) = some placed) : placed ∈ rows.orders := by
  apply ReferencedRows.mem_orders.mpr
  cases explicit : rows.explicitOrder with
  | some named =>
    rw [explicit] at held
    exact .inl held
  | none =>
    rw [explicit] at held
    exact .inr held

/-- So is the store. -/
theorem chosen_store {sold : Store} (held : (rows.explicitStore <|>
      (rows.explicitOrder <|> rows.deliveryOrder).bind fun order => db.store? order.storeId) = some sold) :
    sold ∈ rows.stores db := by
  apply ReferencedRows.mem_stores.mpr
  cases explicit : rows.explicitStore with
  | some named =>
    rw [explicit] at held
    exact .inl held
  | none =>
    rw [explicit] at held
    obtain ⟨placed, chosen, stored⟩ := Option.bind_eq_some_iff.mp held
    exact .inr ⟨placed, chosen_order chosen, stored⟩

theorem related_owned (names : Names db payload rows)
    (admitted : payload.hasReference → rows.refused db user = false)
    (answered : rows.related db = .ok (order, delivery, store)) :
    Owned db user order delivery store := by
  obtain ⟨-, rfl, rfl, rfl, -, -⟩ := related_ok answered
  -- without a reference no row is returned
  by_cases reference : payload.hasReference = true
  · have checked := admitted reference
    unfold Owned
    unfold ReferencedRows.refused at checked
    cases role : user.role with
    | admin => trivial
    | customer =>
      rw [role] at checked
      intro placed held
      exact (ReferencedRows.customerRefused_eq_false.mp checked).placed placed (chosen_order held)
    | merchant =>
      rw [role] at checked
      obtain ⟨merchant, owner, -, owned⟩ := ReferencedRows.merchantRefused_eq_false.mp checked
      intro sold held
      exact ⟨merchant, lookup_mem owner, lookup_col owner, owned sold (chosen_store held)⟩
    | delivery =>
      rw [role] at checked
      obtain ⟨⟨carried, explicit, assigned⟩, -⟩ := ReferencedRows.riderRefused_eq_false.mp checked
      intro other held
      cases explicit.symm.trans held
      exact assigned
  · rw [names.nothing (Bool.eq_false_iff.mpr reference)]
    unfold Owned
    split
    · exact fun _ held => nomatch held
    · exact fun _ held => nomatch held
    · exact fun _ held => nomatch held
    · trivial

/-- What `_validate_references` returns is what was named, coherent, and the requester's. -/
theorem support_references_coherent
    (accepted : validateReferences db payload user = .ok (order, delivery, store)) :
    Coherent payload order delivery store ∧ Owned db user order delivery store := by
  simp only [validateReferences, bind_ok, require_ok] at accepted
  obtain ⟨-, -, rows, named, -, admitted, related⟩ := accepted
  have names := referencedRows_ok.mp named
  refine ⟨related_coherent names related, related_owned names (fun reference => ?_) related⟩
  exact Bool.eq_false_iff.mpr fun refused => admitted ⟨reference, refused⟩

/-- A ticket about the customer's own order. -/
def aboutOwn : TicketCreate := { aboutNeighbour with orderId := some 2#128 }

theorem support_references_coherent_own :
    Coherent aboutOwn (some (villageOrder 2#128 1#128)) none (some villageStore) ∧
      Owned neighbourhood villager (some (villageOrder 2#128 1#128)) none (some villageStore) :=
  support_references_coherent (by decide)

end GaonOne
