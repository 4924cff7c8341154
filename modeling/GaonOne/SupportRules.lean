import GaonOne.SupportTickets

/-! What each commit of a support request does, whatever the others do between its
statements: it creates one ticket, or it edits one ticket whose row it holds, or it
changes nothing. -/
namespace GaonOne
open Relational UnitOfWork ReadCommitted

/-! ## What a ticket was asked for -/

/-- What no later change of a ticket touches. -/
structure SameAsk (before after : SupportTicket) : Prop where
  id : after.id = before.id
  userId : after.userId = before.userId
  idempotencyKey : after.idempotencyKey = before.idempotencyKey
  subject : after.subject = before.subject
  description : after.description = before.description
  references : after.references = before.references

theorem SameAsk.refl (ticket : SupportTicket) : SameAsk ticket ticket := ⟨rfl, rfl, rfl, rfl, rfl, rfl⟩

theorem SameAsk.trans (first : SameAsk before middle) (second : SameAsk middle after) :
    SameAsk before after where
  id := second.id.trans first.id
  userId := second.userId.trans first.userId
  idempotencyKey := second.idempotencyKey.trans first.idempotencyKey
  subject := second.subject.trans first.subject
  description := second.description.trans first.description
  references := second.references.trans first.references

theorem SameAsk.ticketKey (same : SameAsk before after) :
    SupportDesk.ticketKey after = SupportDesk.ticketKey before := by
  rw [SupportDesk.ticketKey, SupportDesk.ticketKey, same.idempotencyKey, same.userId]

theorem SameAsk.matches (same : SameAsk before after) (payload : TicketCreate)
    (references : TicketReferences) :
    ticketReplayMatches after payload references ↔ ticketReplayMatches before payload references := by
  rw [ticketReplayMatches, ticketReplayMatches, same.subject, same.description, same.references]

/-- Rows a ticket may refer to keep what they say of each other. -/
structure ReferencesKept (before after : Tables) : Prop where
  orders : ∀ id order, before.order? id = some order →
    ∃ now, after.order? id = some now ∧ now.storeId = order.storeId
  deliveries : ∀ id delivery, before.delivery? id = some delivery →
    ∃ now, after.delivery? id = some now ∧ now.orderId = delivery.orderId

theorem ReferencesKept.refl (db : Tables) : ReferencesKept db db :=
  ⟨fun _ order held => ⟨order, held, rfl⟩, fun _ delivery held => ⟨delivery, held, rfl⟩⟩

theorem ReferencesKept.trans (first : ReferencesKept before middle)
    (second : ReferencesKept middle after) : ReferencesKept before after where
  orders id order held := by
    obtain ⟨between, there, same⟩ := first.orders id order held
    obtain ⟨now, here, agree⟩ := second.orders id between there
    exact ⟨now, here, agree.trans same⟩
  deliveries id delivery held := by
    obtain ⟨between, there, same⟩ := first.deliveries id delivery held
    obtain ⟨now, here, agree⟩ := second.deliveries id between there
    exact ⟨now, here, agree.trans same⟩

/-- The order a payload is about: the one it names, or that of its delivery. -/
inductive ResolvesOrder (db : Tables) (payload : TicketCreate) : Option UUID → Prop where
  | unnamed (noOrder : payload.orderId = none) (noDelivery : payload.deliveryId = none) :
      ResolvesOrder db payload none
  | named (order : payload.orderId = some key) : ResolvesOrder db payload (some key)
  | carried (noOrder : payload.orderId = none) (named : payload.deliveryId = some key)
      (held : db.delivery? key = some delivery) : ResolvesOrder db payload (some delivery.orderId)

/-- The store a payload is about: the one it names, or that of its order. -/
inductive ResolvesStore (db : Tables) (payload : TicketCreate) : Option UUID → Option UUID → Prop where
  | unnamed (noStore : payload.storeId = none) : ResolvesStore db payload none none
  | named (store : payload.storeId = some key) : ResolvesStore db payload orderId (some key)
  | sold (noStore : payload.storeId = none) (held : db.order? key = some order) :
      ResolvesStore db payload (some key) (some order.storeId)

/-- What a payload refers to, whoever asks. -/
structure Resolves (db : Tables) (payload : TicketCreate) (references : TicketReferences) : Prop where
  delivery : references.deliveryId = payload.deliveryId
  order : ResolvesOrder db payload references.orderId
  store : ResolvesStore db payload references.orderId references.storeId

theorem Resolves.kept (resolves : Resolves before payload references)
    (kept : ReferencesKept before after) : Resolves after payload references := by
  obtain ⟨orderId, deliveryId, storeId⟩ := references
  obtain ⟨delivery, order, store⟩ := resolves
  refine ⟨delivery, ?_, ?_⟩
  · cases order with
    | unnamed noOrder noDelivery => exact .unnamed noOrder noDelivery
    | named order => exact .named order
    | carried noOrder named held =>
      obtain ⟨now, there, same⟩ := kept.deliveries _ _ held
      rw [← same]
      exact .carried noOrder named there
  · cases store with
    | unnamed noStore => exact .unnamed noStore
    | named store => exact .named store
    | sold noStore held =>
      obtain ⟨now, there, same⟩ := kept.orders _ _ held
      rw [← same]
      exact .sold noStore there

/-- A payload refers to one thing. -/
theorem Resolves.unique (first : Resolves db payload references) (second : Resolves db payload other) :
    references = other := by
  have orders : references.orderId = other.orderId := by
    have left := first.order
    have right := second.order
    generalize references.orderId = ours at left
    generalize other.orderId = theirs at right
    cases left <;> cases right <;> simp_all
  have stores : references.storeId = other.storeId := by
    have left := first.store
    have right := second.store
    rw [orders] at left
    generalize references.storeId = ours at left
    generalize other.storeId = theirs at right
    generalize other.orderId = order at left right
    cases left <;> cases right <;> simp_all
  have deliveries := first.delivery.trans second.delivery.symm
  cases references
  cases other
  simp_all

theorem ReferencedRows.related_ok {rows : ReferencedRows} (answered : rows.related db = .ok context) :
    context = (rows.explicitOrder <|> rows.deliveryOrder, rows.explicitDelivery,
        rows.explicitStore <|>
          (rows.explicitOrder <|> rows.deliveryOrder).bind fun order => db.store? order.storeId) ∧
      ((rows.explicitOrder <|> rows.deliveryOrder).isSome → context.2.2.isSome) := by
  unfold ReferencedRows.related at answered
  simp only [require_bind_ok, pure_ok] at answered
  obtain ⟨-, -, sold, rfl⟩ := answered
  refine ⟨rfl, fun named => ?_⟩
  by_contra none
  exact sold ⟨named, Option.isNone_iff_eq_none.mpr (Option.not_isSome_iff_eq_none.mp none)⟩

theorem Fetched.elim {get : UUID → Option ρ} (fetched : Fetched get key row) :
    (key = none ∧ row = none) ∨ ∃ own held, key = some own ∧ get own = some held ∧ row = some held := by
  cases fetched with
  | unnamed => exact .inl ⟨rfl, rfl⟩
  | stored held => exact .inr ⟨_, _, rfl, held, rfl⟩

/-- The order a ticket is about is the one its payload refers to. -/
theorem Names.resolves_order (names : Names db payload rows) :
    ResolvesOrder db payload ((rows.explicitOrder <|> rows.deliveryOrder).map Order.id) := by
  rcases names.order.elim with ⟨noOrder, none⟩ | ⟨key, order, named, held, explicit⟩
  · rw [none]
    rcases names.delivery.elim with ⟨noDelivery, absent⟩ | ⟨key, delivery, named, held, carried⟩
    · have parent := names.deliveryOrder
      rw [absent] at parent
      rw [parent.eq_none]
      exact .unnamed noOrder noDelivery
    · obtain ⟨-, -, order, belongs, parent⟩ := names.carries carried
      rw [belongs]
      change ResolvesOrder db payload (some order.id)
      rw [order_key _ _ parent]
      exact .carried noOrder named held
  · rw [explicit]
    change ResolvesOrder db payload (some order.id)
    rw [order_key _ _ held]
    exact .named named

/-- What validation answers is what the payload refers to. -/
theorem validateReferences_resolves (valid : validateReferences db payload user = .ok context) :
    Resolves db payload (referencesOf context) := by
  unfold validateReferences at valid
  simp only [bind_ok] at valid
  obtain ⟨-, -, rows, named, -, -, answered⟩ := valid
  obtain ⟨same, sold⟩ := ReferencedRows.related_ok answered
  have names := referencedRows_ok.mp named
  subst same
  refine ⟨?_, names.resolves_order, ?_⟩
  · rcases names.delivery.elim with ⟨noDelivery, absent⟩ | ⟨key, delivery, named, held, carried⟩
    · change rows.explicitDelivery.map Delivery.id = payload.deliveryId
      rw [absent, noDelivery]
      rfl
    · change rows.explicitDelivery.map Delivery.id = payload.deliveryId
      rw [carried, named, Option.map_some, delivery_key _ _ held]
  · change ResolvesStore db payload ((rows.explicitOrder <|> rows.deliveryOrder).map Order.id)
      ((rows.explicitStore <|> _).map Store.id)
    rcases names.store.elim with ⟨noStore, absent⟩ | ⟨key, store, named, held, explicit⟩
    · rw [absent] at sold ⊢
      cases concerned : (rows.explicitOrder <|> rows.deliveryOrder) with
      | none => exact .unnamed noStore
      | some order =>
        rw [concerned] at sold
        obtain ⟨store, stored⟩ := Option.isSome_iff_exists.mp (sold rfl)
        have parent : db.store? order.storeId = some store := stored
        change ResolvesStore db payload (some order.id) ((db.store? order.storeId).map Store.id)
        rw [parent, Option.map_some, store_key _ _ parent]
        exact .sold noStore (names.held (explicitOrder_or_mem concerned))
    · rw [explicit]
      change ResolvesStore db payload _ (some store.id)
      rw [store_key _ _ held]
      exact .named named

/-! ## What a request that takes effect does -/

/-- No ticket of the user has this key. -/
def SupportDesk.KeyFree (desk : SupportDesk) (userId idempotencyKey : UUID) : Prop :=
  ∀ ticket ∈ desk.tickets, SupportDesk.ticketKey ticket ≠ some (userId, idempotencyKey)

/-- No message of the ticket has this key. -/
def SupportDesk.MessageFree (desk : SupportDesk) (ticketId idempotencyKey : UUID) : Prop :=
  ∀ message ∈ desk.messages, SupportDesk.messageKey message ≠ (ticketId, idempotencyKey)

/-- What a request that takes effect makes of a ticket, its messages and the outbox. -/
inductive Edits (ticket : SupportTicket) :
    SupportRequest → SupportTicket → List SupportMessage → List NotificationEvent → Prop where
  | replied (user : User) (owner : ticket.userId = user.id) (standing : ticket.status ≠ .closed) :
      Edits ticket (.addRequesterMessage user.id ticket.id payload draws) ticket.bumped.takenUp
        [newMessage ticket user .everyone payload draws] (requesterReplied ticket.bumped draws)
  | answered (admin : User) (standing : ticket.status ≠ .closed) :
      Edits ticket (.addAdminPublicMessage admin.id ticket.id payload draws) ticket.bumped
        [newMessage ticket admin .everyone payload draws] (publicMessageAdded ticket.bumped draws)
  | noted (admin : User) :
      Edits ticket (.addInternalNote admin.id ticket.id payload draws) ticket.bumped
        [newMessage ticket admin .staff payload draws] []
  | updated (expected : ∀ version ∈ payload.expectedVersion, ticket.version = version)
      (changes : ¬(payload.status = ticket.status ∧ ticket.nextNotes payload = ticket.resolutionNotes))
      (allowed : payload.status = ticket.status ∨ payload.status ∈ allowedTransitions ticket.status) :
      Edits ticket (.updateTicket subject ticket.id payload draws) (ticket.updated payload draws.now)
        [] (ticketUpdated (ticket.updated payload draws.now) draws)
  | assigned (expected : ticket.version = payload.expectedVersion)
      (changes : ticket.assignedAdminId ≠ payload.assignedAdminId) :
      Edits ticket (.assignTicket subject ticket.id payload draws) (ticket.assigned payload) [] []

theorem Edits.sameAsk (edits : Edits ticket request next messages events) : SameAsk ticket next := by
  cases edits <;> exact ⟨rfl, rfl, rfl, rfl, rfl, rfl⟩

theorem Edits.version (edits : Edits ticket request next messages events) :
    next.version = ticket.version + 1 := by
  cases edits <;> rfl

theorem Edits.own (edits : Edits ticket request next messages events) :
    ∀ message ∈ messages, message.ticketId = ticket.id := by
  intro message listed
  cases edits <;> simp only [List.mem_singleton, List.not_mem_nil] at listed <;> exact listed ▸ rfl

theorem Edits.status (edits : Edits ticket request next messages events) :
    next.status = ticket.status ∨ next.status ∈ allowedTransitions ticket.status := by
  cases edits with
  | replied user owner standing =>
    change (if ticket.status = .waitingCustomer then _ else _) = _ ∨
      (if ticket.status = .waitingCustomer then _ else _) ∈ _
    by_cases waits : ticket.status = .waitingCustomer
    · right
      rw [if_pos waits, waits]
      decide
    · exact .inl (if_neg waits)
  | answered | noted | assigned => exact .inl rfl
  | updated expected changes allowed => exact allowed

/-- A ticket is resolved at some time iff it is resolved or closed. -/
def SupportTicket.Dated (ticket : SupportTicket) : Prop :=
  ticket.resolvedAt.isSome = true ↔ ticket.status = .resolved ∨ ticket.status = .closed

theorem Edits.dated (edits : Edits ticket request next messages events) (dated : ticket.Dated) :
    next.Dated := by
  cases edits with
  | replied user owner standing =>
    unfold SupportTicket.Dated at dated ⊢
    change ticket.resolvedAt.isSome = true ↔
      (if ticket.status = .waitingCustomer then _ else _) = _ ∨
        (if ticket.status = .waitingCustomer then _ else _) = _
    rw [dated]
    by_cases waits : ticket.status = .waitingCustomer
    · rw [if_pos waits, waits]
      decide
    · rw [if_neg waits]
      rfl
  | answered | noted | assigned => exact dated
  | @updated payload subject draws expected changes allowed =>
    unfold SupportTicket.Dated
    change (if payload.status.isFinal = true then ticket.resolvedAt <|> some draws.now
      else none).isSome = true ↔ payload.status = .resolved ∨ payload.status = .closed
    by_cases final : payload.status.isFinal = true
    · rw [if_pos final]
      have resolved : payload.status = .resolved ∨ payload.status = .closed := of_decide_eq_true final
      refine ⟨fun _ => resolved, fun _ => ?_⟩
      cases ticket.resolvedAt <;> rfl
    · rw [if_neg final]
      constructor
      · intro dated
        cases dated
      · intro resolved
        exact absurd (decide_eq_true resolved) final

/-- The commit of an edit. -/
def SupportDesk.edit (next : SupportTicket) (messages : List SupportMessage)
    (events : List NotificationEvent) (request : SupportRequest) (desk : SupportDesk) : SupportDesk :=
  { desk with
    tickets := put SupportTicket.id next desk.tickets
    messages := desk.messages ++ messages
    notifications := desk.notifications ++ events
    served := desk.served ++ [request] }

/-- The commit of a creation. -/
def SupportDesk.create (ticket : SupportTicket) (request : SupportRequest) (desk : SupportDesk) :
    SupportDesk :=
  (desk.addTicket ticket).serve request

/-- What one request that takes effect does to the desk. -/
inductive TakesEffect (before : SupportDesk) : SupportRequest → SupportDesk → Prop where
  | creates (user : User) (resolves : Resolves before.marketplace payload references)
      (fresh : ∀ key ∈ payload.idempotencyKey, before.KeyFree user.id key) :
      TakesEffect before (.createTicket user.id payload draws)
        (before.create (newTicket user payload references draws) (.createTicket user.id payload draws))
  | edits (held : before.ticket? ticket.id = some ticket)
      (edits : Edits ticket request next messages events)
      (fresh : ∀ message ∈ messages, before.MessageFree ticket.id message.idempotencyKey) :
      TakesEffect before request (before.edit next messages events request)

/-- What holds of the desk between any two commits. -/
structure DeskSound (desk : SupportDesk) : Prop where
  declared : desk.Constraints
  dated : ∀ ticket ∈ desk.tickets, ticket.Dated
  /-- A creation that took effect has its ticket. -/
  created : ∀ subject payload draws, .createTicket subject payload draws ∈ desk.served →
    ∃ ticket ∈ desk.tickets, ticket.id = draws.rowId ∧ ticket.userId = subject ∧
      ticket.idempotencyKey = payload.idempotencyKey ∧ ∃ references,
        Resolves desk.marketplace payload references ∧ ticketReplayMatches ticket payload references

/-- What a request may rely on between two of its statements, given what it has locked. -/
structure DeskRely (held : List DeskLock) (before after : SupportDesk) : Prop where
  tickets : ∀ ticket ∈ before.tickets, ∃ now ∈ after.tickets, SameAsk ticket now
  messages : ∀ message ∈ before.messages, message ∈ after.messages
  lockedTickets : ∀ id ticket, .ticket id ∈ held → before.ticket? id = some ticket →
    after.ticket? id = some ticket ∧ ∀ message ∈ after.messages, message.ticketId = id →
      message ∈ before.messages
  lockedKeys : ∀ userId key, .ticketKey userId key ∈ held → before.KeyFree userId key →
    after.KeyFree userId key
  kept : ReferencesKept before.marketplace after.marketplace

theorem DeskRely.refl (held : List DeskLock) (desk : SupportDesk) : DeskRely held desk desk where
  tickets := fun ticket listed => ⟨ticket, listed, .refl ticket⟩
  messages := fun _ listed => listed
  lockedTickets := fun _ _ _ stored => ⟨stored, fun _ listed _ => listed⟩
  lockedKeys := fun _ _ _ free => free
  kept := .refl _

theorem DeskRely.trans (first : DeskRely held before middle) (second : DeskRely held middle after) :
    DeskRely held before after where
  tickets ticket listed := by
    obtain ⟨between, there, same⟩ := first.tickets ticket listed
    obtain ⟨now, here, agree⟩ := second.tickets between there
    exact ⟨now, here, same.trans agree⟩
  messages message listed := second.messages message (first.messages message listed)
  lockedTickets id ticket locked stored := by
    obtain ⟨there, own⟩ := first.lockedTickets id ticket locked stored
    obtain ⟨here, since⟩ := second.lockedTickets id ticket locked there
    exact ⟨here, fun message listed parent => own message (since message listed parent) parent⟩
  lockedKeys userId key locked free :=
    second.lockedKeys userId key locked (first.lockedKeys userId key locked free)
  kept := first.kept.trans second.kept

theorem DeskRely.weaken (rely : DeskRely (lock :: held) before after) : DeskRely held before after where
  tickets := rely.tickets
  messages := rely.messages
  lockedTickets := fun id ticket locked => rely.lockedTickets id ticket (List.mem_cons_of_mem _ locked)
  lockedKeys := fun userId key locked => rely.lockedKeys userId key (List.mem_cons_of_mem _ locked)
  kept := rely.kept

def deskDiscipline : Discipline SupportDesk DeskLock DeskNote where
  invariant := DeskSound
  guarantee before after := after = before ∨ ∃ request, TakesEffect before request after
  rely held _ := DeskRely held
  refl held _ := DeskRely.refl held
  trans := DeskRely.trans
  weaken := DeskRely.weaken
  admits _ _ := True
  apart mine theirs := ∀ lock ∈ mine.held, lock ∉ theirs.held

/-! ## What a commit leaves to the others -/

section
variable {before now : SupportDesk} {ticket next : SupportTicket} {request : SupportRequest}
  {messages : List SupportMessage} {events : List NotificationEvent}

theorem SupportDesk.ticket?_iff (sound : DeskSound now) :
    now.ticket? key = some ticket ↔ ticket ∈ now.tickets ∧ ticket.id = key :=
  lookup_eq_some_iff sound.declared.ticketIds

/-- Tickets persist, and so does what they were asked for. -/
theorem Edits.keeps (edits : Edits ticket request next messages events) (sound : DeskSound now)
    (held : now.ticket? ticket.id = some ticket) :
    ∀ other ∈ now.tickets, ∃ after ∈ (now.edit next messages events request).tickets,
      SameAsk other after := by
  intro other inside
  have listed : ticket ∈ now.tickets := lookup_mem held
  have same := edits.sameAsk
  by_cases own : other.id = ticket.id
  · have one := unique_eq sound.declared.ticketIds inside listed own
    subst one
    exact ⟨next, mem_put.mpr (.inl ⟨rfl, other, inside, same.id.symm⟩), same⟩
  · have differ : other.id ≠ next.id := by
      rw [same.id]
      exact own
    exact ⟨other, mem_put.mpr (.inr ⟨inside, differ⟩), .refl other⟩

/-- A key that is free stays free, as no ticket's key changes. -/
theorem Edits.keyFree (edits : Edits ticket request next messages events)
    (held : now.ticket? ticket.id = some ticket) (free : now.KeyFree userId key) :
    (now.edit next messages events request).KeyFree userId key := by
  intro other inside
  rcases mem_put.mp inside with ⟨rfl, -⟩ | ⟨member, -⟩
  · rw [edits.sameAsk.ticketKey]
    exact free ticket (lookup_mem held)
  · exact free other member

theorem Edits.ne_creation (edits : Edits ticket request next messages events) :
    request ≠ .createTicket subject payload draws := by
  intro same
  subst same
  cases edits

theorem DeskSound.edit (sound : DeskSound now) (held : now.ticket? ticket.id = some ticket)
    (edits : Edits ticket request next messages events)
    (valid : (now.edit next messages events request).Constraints) :
    DeskSound (now.edit next messages events request) where
  declared := valid
  dated := by
    intro other inside
    rcases mem_put.mp inside with ⟨rfl, -⟩ | ⟨member, -⟩
    · exact edits.dated (sound.dated ticket (lookup_mem held))
    · exact sound.dated other member
  created := by
    intro subject payload draws asked
    rcases List.mem_append.mp asked with earlier | new
    · obtain ⟨first, inside, key, owner, named, references, resolves, alike⟩ :=
        sound.created subject payload draws earlier
      obtain ⟨after, kept, same⟩ := edits.keeps sound held first inside
      refine ⟨after, kept, same.id.trans key, same.userId.trans owner,
        same.idempotencyKey.trans named, references, resolves, ?_⟩
      exact (same.matches payload references).mpr alike
    · exact absurd (List.mem_singleton.mp new).symm edits.ne_creation

/-- An edit leaves alone what the others have locked. -/
theorem DeskRely.edit (sound : DeskSound now) (held : now.ticket? ticket.id = some ticket)
    (edits : Edits ticket request next messages events)
    (valid : (now.edit next messages events request).Constraints)
    (elsewhere : .ticket ticket.id ∉ locks) :
    DeskRely locks now (now.edit next messages events request) where
  tickets := edits.keeps sound held
  messages := fun message listed => List.mem_append_left _ listed
  lockedTickets := by
    intro key other locked stored
    have differ : key ≠ ticket.id := fun same => elsewhere (same ▸ locked)
    refine ⟨?_, ?_⟩
    · obtain ⟨inside, own⟩ := (SupportDesk.ticket?_iff sound).mp stored
      refine (SupportDesk.ticket?_iff (sound.edit held edits valid)).mpr ⟨mem_put.mpr (.inr ⟨inside, ?_⟩), own⟩
      rw [own, edits.sameAsk.id]
      exact differ
    · intro message listed parent
      rcases List.mem_append.mp listed with earlier | new
      · exact earlier
      · exact absurd (parent.symm.trans (edits.own message new)) differ
  lockedKeys := fun userId key _ free => edits.keyFree held free
  kept := .refl _

theorem DeskSound.create (sound : DeskSound now) (user : User)
    (resolves : Resolves now.marketplace payload references)
    (valid : (now.create (newTicket user payload references draws)
      (.createTicket user.id payload draws)).Constraints) :
    DeskSound (now.create (newTicket user payload references draws)
      (.createTicket user.id payload draws)) where
  declared := valid
  dated := by
    intro other inside
    rcases List.mem_append.mp inside with earlier | new
    · exact sound.dated other earlier
    · rw [List.mem_singleton.mp new]
      simp [SupportTicket.Dated, newTicket]
  created := by
    intro subject asked drawn listed
    rcases List.mem_append.mp listed with earlier | new
    · obtain ⟨first, inside, rest⟩ := sound.created subject asked drawn earlier
      exact ⟨first, List.mem_append_left _ inside, rest⟩
    · cases List.mem_singleton.mp new
      exact ⟨_, List.mem_append_right _ (List.mem_singleton_self _), rfl, rfl, rfl, references, resolves,
        rfl, rfl, rfl⟩

theorem DeskRely.create (user : User)
    (elsewhere : ∀ key ∈ payload.idempotencyKey, .ticketKey user.id key ∉ locks) :
    DeskRely locks now (now.create (newTicket user payload references draws) request) where
  tickets := fun other inside => ⟨other, List.mem_append_left _ inside, .refl other⟩
  messages := fun _ listed => listed
  lockedTickets := by
    intro key other locked stored
    refine ⟨?_, fun message listed _ => listed⟩
    change lookup _ _ (now.tickets ++ [_]) = _
    rw [lookup_append]
    exact congrArg (Option.or · _) stored
  lockedKeys := by
    intro userId key locked free other inside
    rcases List.mem_append.mp inside with earlier | new
    · exact free other earlier
    · rw [List.mem_singleton.mp new]
      intro named
      obtain ⟨own, given, same⟩ := Option.map_eq_some_iff.mp named
      cases same
      exact elsewhere _ given locked
  kept := .refl _

end

/-! ## How a request ends -/

/-- The visibility and the content of the message a request posts. -/
def SupportRequest.posts : SupportRequest → Option (UUID × UUID × Visibility × MessageCreate)
  | .addRequesterMessage subject ticketId payload _ => some (subject, ticketId, .everyone, payload)
  | .addAdminPublicMessage subject ticketId payload _ => some (subject, ticketId, .everyone, payload)
  | .addInternalNote subject ticketId payload _ => some (subject, ticketId, .staff, payload)
  | _ => none

/-- The ticket a creation answers with has its key and its content. -/
def RepliesTicket (subject : UUID) (payload : TicketCreate) (references : TicketReferences)
    (reply : SupportReply) (desk : SupportDesk) : Prop :=
  ∃ ticket key, reply = .ticket ticket ∧ payload.idempotencyKey = some key ∧
    SupportDesk.ticketKey ticket = some (subject, key) ∧ ticketReplayMatches ticket payload references ∧
      ∃ now ∈ desk.tickets, SameAsk ticket now

/-- The message a post answers with has its key and its content. -/
def RepliesMessage (subject ticketId : UUID) (visibility : Visibility) (payload : MessageCreate)
    (reply : SupportReply) (desk : SupportDesk) : Prop :=
  ∃ message ∈ desk.messages, reply = .message message ∧
    SupportDesk.messageKey message = (ticketId, payload.idempotencyKey) ∧
      messageReplayMatches message subject visibility payload.body

/-- A request that changes nothing answers with what an earlier one of its key made. -/
structure Replays (request : SupportRequest) (reply : SupportReply) (notes : List DeskNote)
    (desk : SupportDesk) : Prop where
  creation : ∀ subject payload draws, request = .createTicket subject payload draws →
    ∃ references, .authorized request references ∈ notes ∧ Resolves desk.marketplace payload references ∧
      RepliesTicket subject payload references reply desk
  message : ∀ subject ticketId visibility payload,
    request.posts = some (subject, ticketId, visibility, payload) →
      RepliesMessage subject ticketId visibility payload reply desk

/-- What a request that passed authorisation is refused for. -/
inductive Refused (desk : SupportDesk) (held : List DeskLock) :
    SupportRequest → TicketReferences → HTTPException → Prop where
  | otherTicket (resolves : Resolves desk.marketplace payload references)
      (listed : ticket ∈ desk.tickets)
      (key : SupportDesk.ticketKey ticket = payload.idempotencyKey.map (subject, ·))
      (keyed : payload.idempotencyKey.isSome = true)
      (differs : ¬ticketReplayMatches ticket payload references) :
      Refused desk held (.createTicket subject payload draws) references payloadMismatch
  | otherMessage (asked : request.posts = some (subject, ticketId, visibility, payload))
      (listed : message ∈ desk.messages)
      (key : SupportDesk.messageKey message = (ticketId, payload.idempotencyKey))
      (differs : ¬messageReplayMatches message subject visibility payload.body) :
      Refused desk held request references payloadMismatch
  | closed (asked : request.posts = some (subject, ticketId, visibility, payload))
      (locked : .ticket ticketId ∈ held) (stored : desk.ticket? ticketId = some ticket)
      (fresh : desk.MessageFree ticketId payload.idempotencyKey) :
      Refused desk held request references closedTicket

/-- What a request is about to commit. -/
inductive Answered (desk : SupportDesk) (footing : Footing SupportDesk DeskLock DeskNote) :
    SupportRequest → SupportReply → Prop where
  | unchanged (same : footing.change = id) (replays : Replays request reply footing.notes desk) :
      Answered desk footing request reply
  | created (user : User) (resolves : Resolves desk.marketplace payload references)
      (locked : ∀ key ∈ payload.idempotencyKey, .ticketKey user.id key ∈ footing.held)
      (fresh : ∀ key ∈ payload.idempotencyKey, desk.KeyFree user.id key)
      (change : footing.change = SupportDesk.create (newTicket user payload references draws)
        (.createTicket user.id payload draws)) :
      Answered desk footing (.createTicket user.id payload draws)
        (.ticket (newTicket user payload references draws))
  | edited (locked : .ticket ticket.id ∈ footing.held) (held : desk.ticket? ticket.id = some ticket)
      (edits : Edits ticket request next messages events)
      (fresh : ∀ message ∈ messages, desk.MessageFree ticket.id message.idempotencyKey)
      (answers : ∀ message ∈ messages, reply = .message message)
      (change : footing.change = SupportDesk.edit next messages events request) :
      Answered desk footing request reply

/-- How every request ends. -/
def RequestEnds (request : SupportRequest) (result : Except HTTPException SupportReply)
    (footing : Footing SupportDesk DeskLock DeskNote) (desk : SupportDesk) : Prop :=
  (∃ references, ∀ note ∈ footing.notes, note = .authorized request references) ∧
    match result with
    | .ok reply => Answered desk footing request reply
    | .error error => ∀ references, .authorized request references ∈ footing.notes →
        Refused desk footing.held request references error

/-! ### What the others cannot undo -/

section
variable {held : List DeskLock} {before after : SupportDesk}

/-- A key of a locked ticket that no message has stays so. -/
theorem DeskRely.messageFree (rely : DeskRely held before after) (locked : .ticket ticketId ∈ held)
    (stored : before.ticket? ticketId = some ticket) (free : before.MessageFree ticketId key) :
    after.MessageFree ticketId key := by
  intro message listed named
  have parent : message.ticketId = ticketId := congrArg Prod.fst named
  exact free message ((rely.lockedTickets ticketId ticket locked stored).2 message listed parent) named

/-- A key that is taken stays taken. -/
theorem DeskRely.keyTaken (rely : DeskRely held before after)
    (taken : (before.existingTicketReplay userId idempotencyKey).isSome) :
    (after.existingTicketReplay userId idempotencyKey).isSome := by
  obtain ⟨ticket, found⟩ := Option.isSome_iff_exists.mp taken
  obtain ⟨key, rfl, stored⟩ := Option.bind_eq_some_iff.mp found
  obtain ⟨now, there, same⟩ := rely.tickets ticket (lookup_mem stored)
  have named := same.ticketKey.trans (lookup_col stored)
  cases answer : after.existingTicketReplay userId (some key) with
  | some other => rfl
  | none => exact absurd named (lookup_eq_none_iff.mp answer now there)

theorem DeskRely.replies (rely : DeskRely held before after)
    (replies : RepliesTicket subject payload references reply before) :
    RepliesTicket subject payload references reply after := by
  obtain ⟨ticket, key, answered, keyed, named, alike, now, listed, same⟩ := replies
  obtain ⟨later, there, agree⟩ := rely.tickets now listed
  exact ⟨ticket, key, answered, keyed, named, alike, later, there, same.trans agree⟩

theorem DeskRely.replays (rely : DeskRely held before after)
    (replays : Replays request reply notes before) : Replays request reply notes after where
  creation subject payload draws asked := by
    obtain ⟨references, noted, resolves, replies⟩ := replays.creation subject payload draws asked
    exact ⟨references, noted, resolves.kept rely.kept, rely.replies replies⟩
  message subject ticketId visibility payload asked := by
    obtain ⟨message, listed, replies⟩ := replays.message subject ticketId visibility payload asked
    exact ⟨message, rely.messages message listed, replies⟩

theorem DeskRely.refused (rely : DeskRely held before after)
    (refused : Refused before held request references error) :
    Refused after held request references error := by
  cases refused with
  | otherTicket resolves listed key keyed differs =>
    obtain ⟨now, there, same⟩ := rely.tickets _ listed
    refine .otherTicket (resolves.kept rely.kept) there (same.ticketKey.trans key) keyed ?_
    rw [same.matches]
    exact differs
  | otherMessage asked listed key differs =>
    exact .otherMessage asked (rely.messages _ listed) key differs
  | closed asked locked stored fresh =>
    exact .closed asked locked (rely.lockedTickets _ _ locked stored).1
      (rely.messageFree locked stored fresh)

theorem DeskRely.answered {footing : Footing SupportDesk DeskLock DeskNote}
    (rely : DeskRely footing.held before after) (answered : Answered before footing request reply) :
    Answered after footing request reply := by
  cases answered with
  | unchanged same replays => exact .unchanged same (rely.replays replays)
  | created user resolves locked fresh change =>
    refine .created user (resolves.kept rely.kept) locked (fun key asked => ?_) change
    exact rely.lockedKeys user.id key (locked key asked) (fresh key asked)
  | edited locked stored edits fresh answers change =>
    refine .edited locked (rely.lockedTickets _ _ locked stored).1 edits (fun message new => ?_) answers
      change
    exact rely.messageFree locked stored (fresh message new)

end

theorem requestEnds_stable (request : SupportRequest) :
    deskDiscipline.Stable (RequestEnds request) := by
  rintro result footing db now ⟨rely, -⟩ ⟨noted, ends⟩
  refine ⟨noted, ?_⟩
  cases result with
  | ok reply => exact rely.answered ends
  | error error => exact fun references passed => rely.refused (ends references passed)

/-- What a request is about to commit keeps the desk sound, takes effect as one request
does, and leaves to the others what they rely on. -/
theorem Answered.commits {footing : Footing SupportDesk DeskLock DeskNote}
    (answered : Answered desk footing request reply) :
    deskDiscipline.Commits SupportDesk.Constraints reply footing desk := by
  rintro now ⟨rely, sound⟩ - valid
  cases rely.answered answered with
  | unchanged same replays =>
    rw [same]
    exact ⟨sound, .inl rfl, fun other _ => .refl other.held now⟩
  | created user resolves locked fresh change =>
    rw [change] at valid ⊢
    refine ⟨sound.create user resolves valid, .inr ⟨_, .creates user resolves fresh⟩, ?_⟩
    intro other apart
    exact .create user fun key asked theirs => apart _ (locked key asked) theirs
  | edited locked stored edits fresh answers change =>
    rw [change] at valid ⊢
    refine ⟨sound.edit stored edits valid, .inr ⟨_, .edits stored edits fresh⟩, ?_⟩
    exact fun other apart => .edit sound stored edits valid (apart _ locked)

/-! ## The statements of each request -/

section
variable {footing : Footing SupportDesk DeskLock DeskNote} {desk : SupportDesk}
  {post : Except HTTPException SupportReply → Footing SupportDesk DeskLock DeskNote → SupportDesk → Prop}

theorem RequestEnds.unauthorized (request : SupportRequest) (error : HTTPException)
    (held : List DeskLock) (desk : SupportDesk) : RequestEnds request (.error error) ⟨held, [], id⟩ desk :=
  ⟨⟨⟨none, none, none⟩, fun _ noted => absurd noted List.not_mem_nil⟩,
    fun _ noted => absurd noted List.not_mem_nil⟩

/-- A request that passed authorisation, and may have locked rows. -/
def passed (request : SupportRequest) (references : TicketReferences) (held : List DeskLock) :
    Footing SupportDesk DeskLock DeskNote :=
  ⟨held, [.authorized request references], id⟩

theorem RequestEnds.refused
    (refused : Refused desk held request references error) :
    RequestEnds request (.error error) (passed request references held) desk := by
  refine ⟨⟨references, fun note noted => List.mem_singleton.mp noted⟩, fun others noted => ?_⟩
  cases List.mem_singleton.mp noted
  exact refused

theorem RequestEnds.answered
    (notes : (∃ references, footing.notes = [.authorized request references]) ∨ footing.notes = [])
    (answered : Answered desk footing request reply) :
    RequestEnds request (.ok reply) footing desk := by
  refine ⟨?_, answered⟩
  rcases notes with ⟨references, one⟩ | empty
  · exact ⟨references, fun note noted => List.mem_singleton.mp (one ▸ noted)⟩
  · exact ⟨⟨none, none, none⟩, fun note noted => absurd (empty ▸ noted) List.not_mem_nil⟩

/-- An update or an assignment that finds nothing to change. -/
theorem Replays.idle (other : ∀ subject payload draws, request ≠ .createTicket subject payload draws)
    (wordless : request.posts = none) : Replays request reply notes desk where
  creation subject payload draws same := absurd same (other subject payload draws)
  message subject ticketId visibility payload same := by
    rw [wordless] at same
    cases same

/-- Who asks, before anything is locked. -/
theorem ends_currentUser {next : User → DeskProgram SupportReply}
    (raises : ∀ error now, post (.error error) {} now)
    (rest : ∀ now user, deskDiscipline.Later {} desk now → getCurrentUser now.marketplace subject = .ok user →
      deskDiscipline.Ends (next user) post {} now) :
    deskDiscipline.Ends (DeskProgram.currentUser subject >>= next) post {} desk := by
  rw [Discipline.ends_bind]
  refine Discipline.Ends.query fun now later => ?_
  exact Discipline.Ends.last (fun user answered => rest now user later answered)
    fun error _ => raises error now

theorem ends_supportManager {next : User → DeskProgram SupportReply}
    (raises : ∀ error now, post (.error error) {} now)
    (rest : ∀ now user, deskDiscipline.Later {} desk now →
      requireCapability now.marketplace subject .supportManage = .ok user →
        deskDiscipline.Ends (next user) post {} now) :
    deskDiscipline.Ends (DeskProgram.supportManager subject >>= next) post {} desk := by
  rw [Discipline.ends_bind]
  refine Discipline.Ends.query fun now later => ?_
  exact Discipline.Ends.last (fun user answered => rest now user later answered)
    fun error _ => raises error now

/-- The ticket a request has locked, as it stays until the request ends. -/
theorem ends_lockedTicket {next : SupportTicket → DeskProgram SupportReply}
    (raises : ∀ held error now, post (.error error) ⟨held, [], id⟩ now)
    (rest : ∀ now ticket, deskDiscipline.Later ⟨[.ticket ticketId], [], id⟩ now now →
      now.ticket? ticketId = some ticket → ticket.id = ticketId →
        deskDiscipline.Ends (next ticket) post ⟨[.ticket ticketId], [], id⟩ now) :
    deskDiscipline.Ends (DeskProgram.lockedTicket ticketId >>= next) post {} desk := by
  rw [Discipline.ends_bind]
  refine Discipline.Ends.query fun first _ => ?_
  refine Discipline.Ends.check (fun seen _ => ?_) fun error _ => raises [] error first
  refine Discipline.Ends.lockRow fun second _ => ?_
  refine Discipline.Ends.query fun now later => ?_
  refine Discipline.Ends.last (fun ticket stored => ?_) fun error _ => raises _ error now
  have held : now.ticket? ticketId = some ticket := (found_ok ..).mp stored
  exact rest now ticket (.refl later.2) held (lookup_col held)

/-- A message under the key, or none: it is a replay, or the key is another's, or the
request goes on. -/
theorem ends_idempotentReplay {request : SupportRequest} {next : Option SupportMessage → DeskProgram SupportReply}
    (asked : request.posts = some (author.id, ticketId, visibility, payload)) (own : ticket.id = ticketId)
    (replay : ∀ now message, message ∈ now.messages →
      SupportDesk.messageKey message = (ticketId, payload.idempotencyKey) →
      messageReplayMatches message author.id visibility payload.body →
        deskDiscipline.Ends (next (some message)) (RequestEnds request)
          (passed request references [.ticket ticketId]) now)
    (fresh : ∀ now, deskDiscipline.Later (passed request references [.ticket ticketId]) desk now →
      now.MessageFree ticketId payload.idempotencyKey →
        deskDiscipline.Ends (next none) (RequestEnds request)
          (passed request references [.ticket ticketId]) now) :
    deskDiscipline.Ends (DeskProgram.idempotentReplay ticket author visibility payload >>= next)
      (RequestEnds request) (passed request references [.ticket ticketId]) desk := by
  subst own
  rw [Discipline.ends_bind]
  refine Discipline.Ends.query fun now later => ?_
  dsimp only [passed, id]
  cases found : now.message? ticket.id payload.idempotencyKey with
  | none => exact Discipline.Ends.pure (fresh now later (lookup_eq_none_iff.mp found))
  | some message =>
    refine Discipline.Ends.check (fun _ matched => Discipline.Ends.pure ?_) fun error mismatch => ?_
    · exact replay now message (lookup_mem found) (lookup_col found) ((require_ok ..).mp matched)
    · obtain ⟨differs, rfl⟩ := require_error.mp mismatch
      exact .refused (.otherMessage asked (lookup_mem found) (lookup_col found) differs)

/-- A ticket written twice is the ticket as last written. -/
theorem edit_twice (first second : SupportTicket) (same : first.id = second.id) (desk : SupportDesk) :
    SupportDesk.serve request (SupportDesk.notify events (SupportDesk.putTicket second
        (SupportDesk.addMessage message (SupportDesk.putTicket first desk)))) =
      desk.edit second [message] events request := by
  simp only [SupportDesk.serve, SupportDesk.notify, SupportDesk.putTicket, SupportDesk.addMessage,
    SupportDesk.edit, put_put first same]

/-- A change that notifies nobody adds nothing to the outbox. -/
theorem edit_silently (next : SupportTicket) (message : SupportMessage) (desk : SupportDesk) :
    SupportDesk.serve request (SupportDesk.addMessage message (SupportDesk.putTicket next desk)) =
      desk.edit next [message] [] request := by
  simp only [SupportDesk.serve, SupportDesk.putTicket, SupportDesk.addMessage, SupportDesk.edit,
    List.append_nil]

theorem edit_wordless (next : SupportTicket) (events : List NotificationEvent) (desk : SupportDesk) :
    SupportDesk.serve request (SupportDesk.notify events (SupportDesk.putTicket next desk)) =
      desk.edit next [] events request := by
  simp only [SupportDesk.serve, SupportDesk.notify, SupportDesk.putTicket, SupportDesk.edit,
    List.append_nil]

theorem edit_alone (next : SupportTicket) (desk : SupportDesk) :
    SupportDesk.serve request (SupportDesk.putTicket next desk) = desk.edit next [] [] request := by
  simp only [SupportDesk.serve, SupportDesk.putTicket, SupportDesk.edit, List.append_nil]

/-- The same lookup, and a new message where there is none. -/
theorem ends_addMessage {request : SupportRequest}
    {next : SupportMessage × SupportTicket × Bool → DeskProgram SupportReply}
    (asked : request.posts = some (author.id, ticketId, visibility, payload)) (own : ticket.id = ticketId)
    (replay : ∀ now message, message ∈ now.messages →
      SupportDesk.messageKey message = (ticketId, payload.idempotencyKey) →
      messageReplayMatches message author.id visibility payload.body →
        deskDiscipline.Ends (next (message, ticket, false)) (RequestEnds request)
          (passed request references [.ticket ticketId]) now)
    (fresh : ∀ now, deskDiscipline.Later (passed request references [.ticket ticketId]) desk now →
      now.MessageFree ticketId payload.idempotencyKey →
        deskDiscipline.Ends (next (newMessage ticket author visibility payload draws, ticket.bumped, true))
          (RequestEnds request)
          { passed request references [.ticket ticketId] with
            change := SupportDesk.addMessage (newMessage ticket author visibility payload draws) ∘
              SupportDesk.putTicket ticket.bumped } now) :
    deskDiscipline.Ends (DeskProgram.addMessage ticket author visibility payload draws >>= next)
      (RequestEnds request) (passed request references [.ticket ticketId]) desk := by
  subst own
  rw [Discipline.ends_bind]
  refine Discipline.Ends.query fun now later => ?_
  dsimp only [passed, id]
  cases found : now.message? ticket.id payload.idempotencyKey with
  | none => exact Discipline.Ends.flush (Discipline.Ends.pure (fresh now later (lookup_eq_none_iff.mp found)))
  | some message =>
    rw [payload.stripped]
    refine Discipline.Ends.check (fun _ matched => Discipline.Ends.pure ?_) fun error mismatch => ?_
    · exact replay now message (lookup_mem found) (lookup_col found) ((require_ok ..).mp matched)
    · obtain ⟨differs, rfl⟩ := require_error.mp mismatch
      exact .refused (.otherMessage asked (lookup_mem found) (lookup_col found) differs)

/-- A message that is there already is the answer, and nothing changes. -/
theorem ends_replayed {request : SupportRequest} {message : SupportMessage}
    (asked : request.posts = some (author, ticketId, visibility, payload))
    (listed : message ∈ desk.messages)
    (key : SupportDesk.messageKey message = (ticketId, payload.idempotencyKey))
    (alike : messageReplayMatches message author visibility payload.body) :
    deskDiscipline.Ends (pure (.message message)) (RequestEnds request)
      (passed request references held) desk := by
  refine Discipline.Ends.pure (.answered (.inl ⟨_, rfl⟩) (.unchanged rfl ⟨?_, ?_⟩))
  · intro subject created draws same
    subst same
    cases asked
  · intro subject parent seen content same
    cases asked.symm.trans same
    exact ⟨message, listed, rfl, key, alike⟩

theorem ends_addRequesterMessage (subject ticketId : UUID) (payload : MessageCreate)
    (draws : DeskDraws) (desk : SupportDesk) :
    deskDiscipline.Ends (DeskProgram.addRequesterMessage subject ticketId payload draws)
      (RequestEnds (.addRequesterMessage subject ticketId payload draws)) {} desk := by
  unfold DeskProgram.addRequesterMessage
  refine ends_currentUser (fun error now => .unauthorized _ error [] now) fun _ user _ current => ?_
  have named : user.id = subject := by
    simp only [getCurrentUser, found_ok, Option.filter_eq_some_iff] at current
    exact lookup_col current.1
  subst named
  refine ends_lockedTicket (fun held error now => .unauthorized _ error held now) ?_
  intro now ticket _ stored own
  refine Discipline.Ends.check (fun _ owner => ?_) fun error _ => .unauthorized _ error _ now
  have owns : ticket.userId = user.id := (require_ok ..).mp owner
  refine Discipline.Ends.remember fun now later => ?_
  have standing := (later.1.lockedTickets ticketId ticket (List.mem_singleton_self _) stored).1
  refine ends_idempotentReplay rfl own (fun now message listed key alike => ?_) fun now since free => ?_
  · exact ends_replayed rfl listed key alike
  have there := (since.1.lockedTickets ticketId ticket (List.mem_singleton_self _) standing).1
  refine Discipline.Ends.check (fun _ opened => ?_) fun error closed => ?_
  · have isOpen : ticket.status ≠ .closed := (require_ok ..).mp opened
    refine ends_addMessage rfl own (fun now message listed key alike => ?_) fun now after fresh => ?_
    · exact ends_replayed rfl listed key alike
    have held := (after.1.lockedTickets ticketId ticket (List.mem_singleton_self _) there).1
    subst own
    refine Discipline.Ends.flush (Discipline.Ends.flush (Discipline.Ends.flush (Discipline.Ends.pure ?_)))
    refine .answered (.inl ⟨_, rfl⟩) (.edited (List.mem_singleton_self _) held (.replied user owns isOpen)
      (fun message new => ?_) (fun message new => ?_) ?_)
    · rw [List.mem_singleton.mp new]
      exact fresh
    · rw [List.mem_singleton.mp new]
    · funext desk
      exact edit_twice ticket.bumped ticket.bumped.takenUp rfl desk
  · obtain ⟨-, rfl⟩ := require_error.mp closed
    exact .refused (.closed rfl (List.mem_singleton_self _) there free)

theorem ends_addAdminPublicMessage (subject ticketId : UUID) (payload : MessageCreate)
    (draws : DeskDraws) (desk : SupportDesk) :
    deskDiscipline.Ends (DeskProgram.addAdminPublicMessage subject ticketId payload draws)
      (RequestEnds (.addAdminPublicMessage subject ticketId payload draws)) {} desk := by
  unfold DeskProgram.addAdminPublicMessage
  refine ends_supportManager (fun error now => .unauthorized _ error [] now) fun _ admin _ current => ?_
  have named : admin.id = subject := lookup_col ((requireCapability_ok ..).mp current).1
  subst named
  refine ends_lockedTicket (fun held error now => .unauthorized _ error held now) ?_
  intro now ticket _ stored own
  refine Discipline.Ends.remember fun now later => ?_
  have standing := (later.1.lockedTickets ticketId ticket (List.mem_singleton_self _) stored).1
  refine ends_idempotentReplay rfl own (fun now message listed key alike => ?_) fun now since free => ?_
  · exact ends_replayed rfl listed key alike
  have there := (since.1.lockedTickets ticketId ticket (List.mem_singleton_self _) standing).1
  refine Discipline.Ends.check (fun _ opened => ?_) fun error closed => ?_
  · have isOpen : ticket.status ≠ .closed := (require_ok ..).mp opened
    refine ends_addMessage rfl own (fun now message listed key alike => ?_) fun now after fresh => ?_
    · exact ends_replayed rfl listed key alike
    have held := (after.1.lockedTickets ticketId ticket (List.mem_singleton_self _) there).1
    subst own
    refine Discipline.Ends.flush (Discipline.Ends.flush (Discipline.Ends.pure ?_))
    refine .answered (.inl ⟨_, rfl⟩) (.edited (List.mem_singleton_self _) held (.answered admin isOpen)
      (fun message new => ?_) (fun message new => ?_) rfl)
    · rw [List.mem_singleton.mp new]
      exact fresh
    · rw [List.mem_singleton.mp new]
  · obtain ⟨-, rfl⟩ := require_error.mp closed
    exact .refused (.closed rfl (List.mem_singleton_self _) there free)

theorem ends_addInternalNote (subject ticketId : UUID) (payload : MessageCreate)
    (draws : DeskDraws) (desk : SupportDesk) :
    deskDiscipline.Ends (DeskProgram.addInternalNote subject ticketId payload draws)
      (RequestEnds (.addInternalNote subject ticketId payload draws)) {} desk := by
  unfold DeskProgram.addInternalNote
  refine ends_supportManager (fun error now => .unauthorized _ error [] now) fun _ admin _ current => ?_
  have named : admin.id = subject := lookup_col ((requireCapability_ok ..).mp current).1
  subst named
  refine ends_lockedTicket (fun held error now => .unauthorized _ error held now) ?_
  intro now ticket _ stored own
  refine Discipline.Ends.remember fun now later => ?_
  have standing := (later.1.lockedTickets ticketId ticket (List.mem_singleton_self _) stored).1
  refine ends_addMessage rfl own (fun now message listed key alike => ?_) fun now after fresh => ?_
  · exact ends_replayed rfl listed key alike
  have held := (after.1.lockedTickets ticketId ticket (List.mem_singleton_self _) standing).1
  subst own
  refine Discipline.Ends.flush (Discipline.Ends.pure ?_)
  refine .answered (.inl ⟨_, rfl⟩) (.edited (List.mem_singleton_self _) held (.noted admin)
    (fun message new => ?_) (fun message new => ?_) ?_)
  · rw [List.mem_singleton.mp new]
    exact fresh
  · rw [List.mem_singleton.mp new]
  · funext desk
    exact edit_silently ticket.bumped _ desk

theorem ends_updateTicket (subject ticketId : UUID) (payload : TicketUpdate) (draws : DeskDraws)
    (desk : SupportDesk) :
    deskDiscipline.Ends (DeskProgram.updateTicket subject ticketId payload draws)
      (RequestEnds (.updateTicket subject ticketId payload draws)) {} desk := by
  unfold DeskProgram.updateTicket
  refine ends_supportManager (fun error now => .unauthorized _ error [] now) fun _ admin _ _ => ?_
  refine ends_lockedTicket (fun held error now => .unauthorized _ error held now) ?_
  intro now ticket _ stored own
  refine Discipline.Ends.check (fun _ checked => ?_) fun error _ => .unauthorized _ error _ now
  have expected := (require_ok ..).mp checked
  refine Discipline.Ends.branch (fun same => ?_) fun changes => ?_
  · exact Discipline.Ends.pure <| .answered (.inr rfl) (.unchanged rfl (.idle (fun _ _ _ same => by cases same) rfl))
  · refine Discipline.Ends.check (fun _ moves => ?_) fun error _ => .unauthorized _ error _ now
    subst own
    refine Discipline.Ends.flush (Discipline.Ends.flush (Discipline.Ends.flush (Discipline.Ends.pure ?_)))
    refine .answered (.inr rfl) (.edited (List.mem_singleton_self _) stored
      (.updated expected changes ((require_ok ..).mp moves)) (fun _ new => absurd new List.not_mem_nil)
      (fun _ new => absurd new List.not_mem_nil) ?_)
    funext desk
    exact edit_wordless (ticket.updated payload draws.now) _ desk

theorem ends_assignTicket (subject ticketId : UUID) (payload : TicketAssignment) (draws : DeskDraws)
    (desk : SupportDesk) :
    deskDiscipline.Ends (DeskProgram.assignTicket subject ticketId payload draws)
      (RequestEnds (.assignTicket subject ticketId payload draws)) {} desk := by
  unfold DeskProgram.assignTicket
  refine ends_supportManager (fun error now => .unauthorized _ error [] now) fun _ admin _ _ => ?_
  refine ends_lockedTicket (fun held error now => .unauthorized _ error held now) ?_
  intro now ticket _ stored own
  refine Discipline.Ends.check (fun _ checked => ?_) fun error _ => .unauthorized _ error _ now
  have agreed := (require_ok ..).mp checked
  have expected : ticket.version = payload.expectedVersion := agreed _ (Option.mem_some.mpr rfl)
  dsimp only
  refine Discipline.Ends.query fun now later => ?_
  have held := (later.1.lockedTickets ticketId ticket (List.mem_singleton_self _) stored).1
  refine Discipline.Ends.check (fun _ _ => ?_) fun error _ => .unauthorized _ error _ now
  refine Discipline.Ends.branch (fun same => ?_) fun changes => ?_
  · exact Discipline.Ends.pure <| .answered (.inr rfl) (.unchanged rfl (.idle (fun _ _ _ same => by cases same) rfl))
  · subst own
    refine Discipline.Ends.flush (Discipline.Ends.flush (Discipline.Ends.pure ?_))
    refine .answered (.inr rfl) (.edited (List.mem_singleton_self _) held
      (.assigned expected changes) (fun _ new => absurd new List.not_mem_nil)
      (fun _ new => absurd new List.not_mem_nil) ?_)
    funext desk
    exact edit_alone (ticket.assigned payload) desk

/-- The ticket a creation answers with, or refuses for. -/
theorem ends_replayedTicketOrConflict {request : SupportRequest} {ticket : SupportTicket}
    (asked : request = .createTicket subject payload draws)
    (resolves : Resolves desk.marketplace payload references)
    (found : desk.existingTicketReplay subject payload.idempotencyKey = some ticket) :
    deskDiscipline.Ends (DeskProgram.replayedTicketOrConflict ticket payload references)
      (RequestEnds request) (passed request references held) desk := by
  obtain ⟨key, keyed, stored⟩ := Option.bind_eq_some_iff.mp found
  have listed : ticket ∈ desk.tickets := lookup_mem stored
  have named : SupportDesk.ticketKey ticket = some (subject, key) := lookup_col stored
  subst asked
  refine Discipline.Ends.check (fun _ matched => ?_) fun error mismatch => ?_
  · have alike := (require_ok ..).mp matched
    refine Discipline.Ends.pure (.answered (.inl ⟨_, rfl⟩) (.unchanged rfl ⟨?_, fun _ _ _ _ same => by cases same⟩))
    intro _ _ _ same
    cases same
    refine ⟨references, List.mem_singleton_self _, resolves, ticket, key, rfl, keyed, named, alike, ?_⟩
    exact ⟨ticket, listed, .refl ticket⟩
  · obtain ⟨differs, rfl⟩ := require_error.mp mismatch
    refine .refused (.otherTicket resolves listed ?_ ?_ differs)
    · rw [named, keyed]
      rfl
    · rw [keyed]
      rfl

theorem keyFree_of_none (none : SupportDesk.existingTicketReplay desk userId (some key) = none) :
    desk.KeyFree userId key :=
  lookup_eq_none_iff.mp none

/-- A new ticket is inserted while its key is held and free; otherwise there is one. -/
theorem ends_insertTicket {ticket : SupportTicket} {next : Bool → DeskProgram SupportReply}
    {notes : List DeskNote} (start : deskDiscipline.Later ⟨[], notes, id⟩ desk desk)
    (inserted : ∀ now held, deskDiscipline.Later ⟨[], notes, id⟩ desk now →
      (∀ key ∈ ticket.idempotencyKey,
        .ticketKey ticket.userId key ∈ held ∧ now.KeyFree ticket.userId key) →
      deskDiscipline.Ends (next true) post ⟨held, notes, SupportDesk.addTicket ticket⟩ now)
    (clashed : ∀ now held, deskDiscipline.Later ⟨[], notes, id⟩ desk now →
      (now.existingTicketReplay ticket.userId ticket.idempotencyKey).isSome →
        deskDiscipline.Ends (next false) post ⟨held, notes, id⟩ now) :
    deskDiscipline.Ends (DeskProgram.insertTicket ticket >>= next) post ⟨[], notes, id⟩ desk := by
  rw [Discipline.ends_bind]
  unfold DeskProgram.insertTicket
  cases keyed : ticket.idempotencyKey with
  | none =>
    refine Discipline.Ends.flush (Discipline.Ends.pure ?_)
    refine inserted desk [] start fun key named => ?_
    rw [keyed] at named
    cases named
  | some key =>
    refine Discipline.Ends.lockRow fun first earlier => ?_
    refine Discipline.Ends.query fun now later => ?_
    have since := earlier.trans later.weaken
    refine Discipline.Ends.branch (fun clash => Discipline.Ends.pure ?_)
      fun fresh => Discipline.Ends.flush (Discipline.Ends.pure ?_)
    · exact clashed now _ since (keyed ▸ clash)
    · refine inserted now _ since fun other named => ?_
      cases keyed.symm.trans named
      exact ⟨List.mem_singleton_self _, keyFree_of_none (Option.not_isSome_iff_eq_none.mp fresh)⟩

theorem ends_createTicket (subject : UUID) (payload : TicketCreate) (draws : DeskDraws)
    (desk : SupportDesk) :
    deskDiscipline.Ends (DeskProgram.createTicket subject payload draws)
      (RequestEnds (.createTicket subject payload draws)) {} desk := by
  unfold DeskProgram.createTicket
  refine ends_currentUser (fun error now => .unauthorized _ error [] now) fun _ user _ current => ?_
  have named : user.id = subject := by
    simp only [getCurrentUser, found_ok, Option.filter_eq_some_iff] at current
    exact lookup_col current.1
  subst named
  refine Discipline.Ends.query fun now _ => ?_
  refine Discipline.Ends.check (fun context valid => ?_) fun error _ => .unauthorized _ error [] now
  have resolves := validateReferences_resolves valid
  refine Discipline.Ends.remember fun now later => ?_
  have resolves := resolves.kept later.1.kept
  refine Discipline.Ends.query fun now later => ?_
  have resolves := resolves.kept later.1.kept
  dsimp only [id]
  cases found : now.existingTicketReplay user.id payload.idempotencyKey with
  | some ticket => exact ends_replayedTicketOrConflict rfl resolves found
  | none =>
    dsimp only
    refine ends_insertTicket (.refl later.2) ?_ ?_
    · intro now held since free
      refine Discipline.Ends.flush (Discipline.Ends.pure ?_)
      exact .answered (.inl ⟨_, rfl⟩) (.created user (resolves.kept since.1.kept)
        (fun key asked => (free key asked).1) (fun key asked => (free key asked).2) rfl)
    · intro now held since taken
      refine Discipline.Ends.query fun now after => ?_
      refine Discipline.Ends.check (fun ticket stored => ?_) fun error missing => ?_
      · exact ends_replayedTicketOrConflict rfl ((resolves.kept since.1.kept).kept after.1.kept)
          ((found_ok ..).mp stored)
      · have still : (now.existingTicketReplay user.id payload.idempotencyKey).isSome :=
          after.1.keyTaken taken
        have gone : now.existingTicketReplay user.id payload.idempotencyKey = none :=
          (found_error.mp missing).1
        rw [gone] at still
        cases still

/-- How every request ends, whatever the others do meanwhile. -/
theorem request_ends (request : SupportRequest) (desk : SupportDesk) :
    deskDiscipline.Ends request.program (RequestEnds request) {} desk := by
  cases request with
  | createTicket => exact ends_createTicket ..
  | addRequesterMessage => exact ends_addRequesterMessage ..
  | updateTicket => exact ends_updateTicket ..
  | assignTicket => exact ends_assignTicket ..
  | addAdminPublicMessage => exact ends_addAdminPublicMessage ..
  | addInternalNote => exact ends_addInternalNote ..

end

/-! ## Runs -/

/-- The rest of the program leaves tickets and messages alone, and no order, delivery or
store is taken away from what a ticket refers to. -/
structure LeavesSupport (before after : SupportDesk) : Prop where
  tickets : after.tickets = before.tickets
  messages : after.messages = before.messages
  served : after.served = before.served
  references : ReferencesKept before.marketplace after.marketplace

/-- What other parts of the program may do in a run. -/
def SupportUndisturbed (state : State SupportDesk DeskLock DeskNote HTTPException SupportReply) :
    ReadCommitted.Action SupportDesk SupportRequest → Prop
  | .other after => LeavesSupport state.database after
  | _ => True

theorem LeavesSupport.sound (leaves : LeavesSupport before after) (sound : DeskSound before) :
    DeskSound after where
  declared := by
    obtain ⟨ticketIds, ticketKeys, messageIds, messageKeys, messageTickets, versions⟩ := sound.declared
    constructor <;> simp only [leaves.tickets, leaves.messages] <;> assumption
  dated := leaves.tickets ▸ sound.dated
  created := by
    intro subject payload draws asked
    rw [leaves.served] at asked
    obtain ⟨ticket, listed, key, owner, named, references, resolves, alike⟩ :=
      sound.created subject payload draws asked
    refine ⟨ticket, leaves.tickets ▸ listed, key, owner, named, references, ?_, alike⟩
    exact resolves.kept leaves.references

theorem LeavesSupport.relies (leaves : LeavesSupport before after) (held : List DeskLock) :
    DeskRely held before after where
  tickets := fun ticket listed => ⟨ticket, leaves.tickets ▸ listed, .refl ticket⟩
  messages := fun message listed => leaves.messages ▸ listed
  lockedTickets := by
    intro key ticket _ stored
    refine ⟨?_, fun message listed _ => leaves.messages ▸ listed⟩
    unfold SupportDesk.ticket? at stored ⊢
    rw [leaves.tickets]
    exact stored
  lockedKeys := fun userId key _ free ticket listed => free ticket (leaves.tickets ▸ listed)
  kept := leaves.references

theorem support_upheld : Discipline.Upheld supportService deskDiscipline SupportUndisturbed where
  starts state request _ _ :=
    ((request_ends request state.database).holds).mono fun _ _ _ ended => ended.2.commits
  others _ _ leaves sound := ⟨leaves.sound sound, fun held _ => leaves.relies held⟩
  admitted _ _ _ _ _ _ := trivial
  separated _ _ _ _ _ _ _ _ _ _ _ apart := fun lock mine theirs => apart lock mine lock theirs rfl

/-- Every request of a run will end as its program does alone. -/
theorem support_answers (sound : DeskSound start)
    (reached : Transitions.System.ReachableWhile (supportService.system start) SupportUndisturbed state) :
    deskDiscipline.Answers
      (fun result footing desk => ∃ request, RequestEnds request result footing desk) state := by
  refine support_upheld.answers sound ?_ (fun request db _ => ?_) reached
  · rintro result footing db now later ⟨request, ends⟩
    exact ⟨request, requestEnds_stable request _ _ _ _ later ends⟩
  · exact (request_ends request db).mono fun _ _ _ ends => ⟨request, ends⟩

end GaonOne
