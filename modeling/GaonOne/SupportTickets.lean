import GaonOne.Library.Answers
import GaonOne.Notifications
import GaonOne.SupportReferences

/-! Support tickets and their messages, statement by statement. A ticket's row is locked
by everything that changes the ticket; its creation waits for another of the same key, as
the unique index makes it. -/
namespace GaonOne
open Relational UnitOfWork ReadCommitted

inductive TicketStatus where
  /-- `"open"`. -/
  | opened
  | inProgress | waitingCustomer | resolved | closed
  deriving DecidableEq, Repr

def TicketStatus.value : TicketStatus → String
  | opened => "open"
  | inProgress => "in_progress"
  | waitingCustomer => "waiting_customer"
  | resolved => "resolved"
  | closed => "closed"

/-- `ALLOWED_TRANSITIONS`. -/
def allowedTransitions : TicketStatus → List TicketStatus
  | .opened => [.inProgress, .waitingCustomer, .resolved, .closed]
  | .inProgress => [.waitingCustomer, .resolved, .closed]
  | .waitingCustomer => [.inProgress, .resolved, .closed]
  | .resolved => [.inProgress, .closed]
  | .closed => [.opened]

/-- `status in {"resolved", "closed"}`. -/
def TicketStatus.isFinal (status : TicketStatus) : Bool := status = .resolved ∨ status = .closed

/-- The order, the delivery and the store a ticket is about. -/
structure TicketReferences where
  orderId : Option UUID
  deliveryId : Option UUID
  storeId : Option UUID
  deriving DecidableEq

structure SupportTicket where
  id : UUID
  userId : UUID
  references : TicketReferences
  requesterType : UserRole
  assignedAdminId : Option UUID
  idempotencyKey : Option UUID
  subject : String
  description : String
  status : TicketStatus
  resolutionNotes : Option String
  version : Nat
  resolvedAt : Option Instant
  deriving DecidableEq

/-- `"public"` and `"internal"`. -/
inductive Visibility where
  | everyone | staff
  deriving DecidableEq, Repr

structure SupportMessage where
  id : UUID
  ticketId : UUID
  authorUserId : UUID
  authorType : UserRole
  visibility : Visibility
  idempotencyKey : UUID
  body : String
  deriving DecidableEq

/-- `resolution_notes` is `none` where the payload leaves it out. -/
structure TicketUpdate where
  status : TicketStatus
  resolutionNotes : Option (Option String)
  expectedVersion : Option Nat
  deriving DecidableEq

structure TicketAssignment where
  assignedAdminId : Option UUID
  expectedVersion : Nat
  deriving DecidableEq

/-- A message whose body the validator has stripped. -/
structure MessageCreate where
  body : String
  idempotencyKey : UUID
  stripped : Text.strip body = body
  nonempty : body ≠ ""
  deriving DecidableEq

/-- The identifiers and the clock a request takes from outside. -/
structure DeskDraws where
  rowId : UUID
  eventId : UUID
  now : Instant
  deriving DecidableEq

/-- The requests that create or change a ticket. -/
inductive SupportRequest where
  | createTicket (subject : UUID) (payload : TicketCreate) (draws : DeskDraws)
  | addRequesterMessage (subject ticketId : UUID) (payload : MessageCreate) (draws : DeskDraws)
  | updateTicket (subject ticketId : UUID) (payload : TicketUpdate) (draws : DeskDraws)
  | assignTicket (subject ticketId : UUID) (payload : TicketAssignment) (draws : DeskDraws)
  | addAdminPublicMessage (subject ticketId : UUID) (payload : MessageCreate) (draws : DeskDraws)
  | addInternalNote (subject ticketId : UUID) (payload : MessageCreate) (draws : DeskDraws)
  deriving DecidableEq

/-- The tables these requests read and write. -/
structure SupportDesk where
  marketplace : Tables := {}
  tickets : List SupportTicket := []
  messages : List SupportMessage := []
  notifications : List NotificationEvent := []
  /-- The requests that took effect; no table records them. -/
  served : List SupportRequest := []

namespace SupportDesk

/-- `(user_id, idempotency_key)`, where there is a key. -/
def ticketKey (ticket : SupportTicket) : Option (UUID × UUID) :=
  ticket.idempotencyKey.map (ticket.userId, ·)

def messageKey (message : SupportMessage) : UUID × UUID := (message.ticketId, message.idempotencyKey)

@[mk_iff]
structure Constraints (desk : SupportDesk) : Prop where
  ticketIds : Unique SupportTicket.id desk.tickets
  ticketKeys : UniqueWhenSet ticketKey desk.tickets
  messageIds : Unique SupportMessage.id desk.messages
  messageKeys : Unique messageKey desk.messages
  messageTickets : References SupportMessage.ticketId SupportTicket.id desk.messages desk.tickets
  /-- `version` is a 32-bit integer. -/
  versions : ∀ ticket ∈ desk.tickets, ticket.version < 2 ^ 31

instance (desk : SupportDesk) : Decidable desk.Constraints :=
  decidable_of_iff _ (constraints_iff desk).symm

def ticket? (desk : SupportDesk) (id : UUID) : Option SupportTicket :=
  lookup SupportTicket.id id desk.tickets

/-- `_existing_ticket_replay`. -/
def existingTicketReplay (desk : SupportDesk) (userId : UUID) (idempotencyKey : Option UUID) :
    Option SupportTicket :=
  idempotencyKey.bind fun key => lookup ticketKey (some (userId, key)) desk.tickets

/-- The message of a ticket with this key. -/
def message? (desk : SupportDesk) (ticketId idempotencyKey : UUID) : Option SupportMessage :=
  lookup messageKey (ticketId, idempotencyKey) desk.messages

def addTicket (ticket : SupportTicket) (desk : SupportDesk) : SupportDesk :=
  { desk with tickets := desk.tickets ++ [ticket] }

def putTicket (ticket : SupportTicket) (desk : SupportDesk) : SupportDesk :=
  { desk with tickets := put SupportTicket.id ticket desk.tickets }

def addMessage (message : SupportMessage) (desk : SupportDesk) : SupportDesk :=
  { desk with messages := desk.messages ++ [message] }

def notify (events : List NotificationEvent) (desk : SupportDesk) : SupportDesk :=
  { desk with notifications := desk.notifications ++ events }

/-- The commit of a request that has taken effect. -/
def serve (request : SupportRequest) (desk : SupportDesk) : SupportDesk :=
  { desk with served := desk.served ++ [request] }

end SupportDesk

/-- What transactions lock: a ticket's row, and the entry of a key in the unique index. -/
inductive DeskLock where
  | ticket (id : UUID)
  | ticketKey (userId idempotencyKey : UUID)
  deriving DecidableEq, Repr

/-- What a request has passed. -/
inductive DeskNote where
  /-- The requester is who they say, and may see what they refer to. -/
  | authorized (request : SupportRequest) (references : TicketReferences)
  deriving DecidableEq

abbrev DeskProgram := Program SupportDesk DeskLock DeskNote HTTPException

/-- What a request answers. -/
inductive SupportReply where
  | ticket (ticket : SupportTicket)
  | message (message : SupportMessage)
  deriving DecidableEq

def payloadMismatch : HTTPException := ⟨409, "Idempotency key payload mismatch"⟩

def ticketNotFound : HTTPException := ⟨404, "Support ticket not found"⟩

def closedTicket : HTTPException := ⟨409, "Closed tickets must be reopened before replying"⟩

/-- `_ticket_replay_matches`. -/
def ticketReplayMatches (ticket : SupportTicket) (payload : TicketCreate)
    (references : TicketReferences) : Prop :=
  ticket.subject = Text.strip payload.subject ∧
    ticket.description = Text.strip payload.description ∧ ticket.references = references

instance (ticket : SupportTicket) (payload : TicketCreate) (references : TicketReferences) :
    Decidable (ticketReplayMatches ticket payload references) :=
  inferInstanceAs (Decidable (_ ∧ _ ∧ _))

/-- A message is the one a retry asks for. -/
def messageReplayMatches (message : SupportMessage) (author : UUID) (visibility : Visibility)
    (body : String) : Prop :=
  message.authorUserId = author ∧ message.visibility = visibility ∧ message.body = body

instance (message : SupportMessage) (author : UUID) (visibility : Visibility) (body : String) :
    Decidable (messageReplayMatches message author visibility body) :=
  inferInstanceAs (Decidable (_ ∧ _ ∧ _))

/-- The order, delivery and store of a ticket, as validated. -/
def referencesOf (context : Option Order × Option Delivery × Option Store) : TicketReferences where
  orderId := context.1.map Order.id
  deliveryId := context.2.1.map Delivery.id
  storeId := context.2.2.map Store.id

/-- The row a creation inserts. -/
def newTicket (user : User) (payload : TicketCreate) (references : TicketReferences)
    (draws : DeskDraws) : SupportTicket where
  id := draws.rowId
  userId := user.id
  references
  requesterType := user.role
  assignedAdminId := none
  idempotencyKey := payload.idempotencyKey
  subject := Text.strip payload.subject
  description := Text.strip payload.description
  status := .opened
  resolutionNotes := none
  version := 0
  resolvedAt := none

/-- The row a new message inserts. -/
def newMessage (ticket : SupportTicket) (author : User) (visibility : Visibility)
    (payload : MessageCreate) (draws : DeskDraws) : SupportMessage where
  id := draws.rowId
  ticketId := ticket.id
  authorUserId := author.id
  authorType := author.role
  visibility
  idempotencyKey := payload.idempotencyKey
  body := Text.strip payload.body

/-! ## What a change makes of a ticket, and whom it notifies -/

namespace SupportTicket

/-- The version a new message gives its ticket. -/
def bumped (ticket : SupportTicket) : SupportTicket := { ticket with version := ticket.version + 1 }

/-- A reply of the requester takes up a ticket that waits for it. -/
def takenUp (ticket : SupportTicket) : SupportTicket :=
  { ticket with status := if ticket.status = .waitingCustomer then .inProgress else ticket.status }

def nextNotes (ticket : SupportTicket) (payload : TicketUpdate) : Option String :=
  payload.resolutionNotes.getD ticket.resolutionNotes

def updated (ticket : SupportTicket) (payload : TicketUpdate) (now : Instant) : SupportTicket :=
  { ticket with
    status := payload.status
    resolutionNotes := ticket.nextNotes payload
    resolvedAt := if payload.status.isFinal then ticket.resolvedAt <|> some now else none
    version := ticket.version + 1 }

def assigned (ticket : SupportTicket) (payload : TicketAssignment) : SupportTicket :=
  { ticket with assignedAdminId := payload.assignedAdminId, version := ticket.version + 1 }

/-- `data={"ticket_id": str(ticket.id)}`. -/
def eventData (ticket : SupportTicket) : List (String × String) := [("ticket_id", uuidText ticket.id)]

end SupportTicket

def requesterReplied (ticket : SupportTicket) (draws : DeskDraws) : List NotificationEvent :=
  ticket.assignedAdminId.toList.map fun adminId =>
    enqueueNotification draws.eventId draws.now adminId "support.requester_replied" "Requester replied"
      "A requester replied to an assigned support ticket." ticket.eventData

def ticketUpdated (ticket : SupportTicket) (draws : DeskDraws) : List NotificationEvent :=
  [enqueueNotification draws.eventId draws.now ticket.userId "support.ticket_updated"
    "Support ticket updated"
    ("Your support ticket is now " ++ Text.replace '_' ' ' ticket.status.value ++ ".")
    (ticket.eventData ++ [("status", ticket.status.value)])]

def publicMessageAdded (ticket : SupportTicket) (draws : DeskDraws) : List NotificationEvent :=
  [enqueueNotification draws.eventId draws.now ticket.userId "support.public_message"
    "New support reply" "GaonOne support replied to your ticket." ticket.eventData]

namespace DeskProgram

def require (check : Prop) [Decidable check] (error : HTTPException) : DeskProgram Unit :=
  Program.ofExcept (UnitOfWork.require check error)

def found (value : Option α) (error : HTTPException) : DeskProgram α :=
  Program.ofExcept (UnitOfWork.found value error)

/-- The user a valid token names. -/
def currentUser (subject : UUID) : DeskProgram User := do
  let db ← Program.query SupportDesk.marketplace
  Program.ofExcept (getCurrentUser db subject)

def supportManager (subject : UUID) : DeskProgram User := do
  let db ← Program.query SupportDesk.marketplace
  Program.ofExcept (requireCapability db subject .supportManage)

/-- `_locked_ticket`. -/
def lockedTicket (ticketId : UUID) : DeskProgram SupportTicket := do
  let seen ← Program.query (SupportDesk.ticket? · ticketId)
  let _ ← found seen ticketNotFound
  Program.lockRow (.ticket ticketId)
  let current ← Program.query (SupportDesk.ticket? · ticketId)
  found current ticketNotFound

/-- `_check_version`. -/
def checkVersion (ticket : SupportTicket) (expectedVersion : Option Nat) : DeskProgram Unit :=
  require (∀ version ∈ expectedVersion, ticket.version = version)
    ⟨409, "Support ticket changed; refresh and retry"⟩

/-- `_replayed_ticket_or_conflict`. -/
def replayedTicketOrConflict (ticket : SupportTicket) (payload : TicketCreate)
    (references : TicketReferences) : DeskProgram SupportReply := do
  require (ticketReplayMatches ticket payload references) payloadMismatch
  pure (.ticket ticket)

/-- `db.add(ticket)` and `db.flush()`, with whether the unique key let it in. The insert
waits for another one of its key. -/
def insertTicket (ticket : SupportTicket) : DeskProgram Bool :=
  match ticket.idempotencyKey with
  | none => do
    Program.flush (SupportDesk.addTicket ticket)
    pure true
  | some key => do
    Program.lockRow (.ticketKey ticket.userId key)
    let clash ← Program.query (SupportDesk.existingTicketReplay · ticket.userId (some key))
    if clash.isSome then pure false
    else do
      Program.flush (SupportDesk.addTicket ticket)
      pure true

/-- `POST /support/tickets`. The lookups of `_validate_references` are taken together. -/
def createTicket (subject : UUID) (payload : TicketCreate) (draws : DeskDraws) :
    DeskProgram SupportReply := do
  let user ← currentUser subject
  let db ← Program.query SupportDesk.marketplace
  let context ← Program.ofExcept (validateReferences db payload user)
  let references := referencesOf context
  Program.remember (.authorized (.createTicket subject payload draws) references)
  let existing ← Program.query (SupportDesk.existingTicketReplay · user.id payload.idempotencyKey)
  match existing with
  | some ticket => replayedTicketOrConflict ticket payload references
  | none => do
    let ticket := newTicket user payload references draws
    let inserted ← insertTicket ticket
    if inserted then do
      Program.flush (SupportDesk.serve (.createTicket subject payload draws))
      pure (.ticket ticket)
    else do
      -- the competing transaction committed: nothing of this one is kept
      let existing ← Program.query (SupportDesk.existingTicketReplay · user.id payload.idempotencyKey)
      let ticket ← found existing ⟨500, "IntegrityError"⟩
      replayedTicketOrConflict ticket payload references

/-- `_idempotent_replay`. -/
def idempotentReplay (ticket : SupportTicket) (author : User) (visibility : Visibility)
    (payload : MessageCreate) : DeskProgram (Option SupportMessage) := do
  let existing ← Program.query (SupportDesk.message? · ticket.id payload.idempotencyKey)
  match existing with
  | none => pure none
  | some message => do
    require (messageReplayMatches message author.id visibility payload.body) payloadMismatch
    pure (some message)

/-- `_add_message`: the message, the ticket as it now is, and whether it was created. -/
def addMessage (ticket : SupportTicket) (author : User) (visibility : Visibility)
    (payload : MessageCreate) (draws : DeskDraws) :
    DeskProgram (SupportMessage × SupportTicket × Bool) := do
  let existing ← Program.query (SupportDesk.message? · ticket.id payload.idempotencyKey)
  match existing with
  | some message => do
    require (messageReplayMatches message author.id visibility (Text.strip payload.body)) payloadMismatch
    pure (message, ticket, false)
  | none => do
    let message := newMessage ticket author visibility payload draws
    Program.flush (SupportDesk.addMessage message ∘ SupportDesk.putTicket ticket.bumped)
    pure (message, ticket.bumped, true)

/-- `POST /support/tickets/{ticket_id}/messages`. -/
def addRequesterMessage (subject ticketId : UUID) (payload : MessageCreate) (draws : DeskDraws) :
    DeskProgram SupportReply := do
  let user ← currentUser subject
  let ticket ← lockedTicket ticketId
  require (ticket.userId = user.id) ticketNotFound
  Program.remember
    (.authorized (.addRequesterMessage subject ticketId payload draws) ticket.references)
  let replay ← idempotentReplay ticket user .everyone payload
  match replay with
  | some message => pure (.message message)
  | none => do
    require (ticket.status ≠ .closed) closedTicket
    let (message, ticket, created) ← addMessage ticket user .everyone payload draws
    if created then do
      Program.flush (SupportDesk.putTicket ticket.takenUp)
      Program.flush (SupportDesk.notify (requesterReplied ticket draws))
      Program.flush (SupportDesk.serve (.addRequesterMessage subject ticketId payload draws))
    pure (.message message)

/-- `PATCH /admin/support/tickets/{ticket_id}`. -/
def updateTicket (subject ticketId : UUID) (payload : TicketUpdate) (draws : DeskDraws) :
    DeskProgram SupportReply := do
  let _ ← supportManager subject
  let ticket ← lockedTicket ticketId
  checkVersion ticket payload.expectedVersion
  if payload.status = ticket.status ∧ ticket.nextNotes payload = ticket.resolutionNotes then
    pure (.ticket ticket)
  else do
    require (payload.status = ticket.status ∨ payload.status ∈ allowedTransitions ticket.status)
      ⟨409, "Invalid support transition from " ++ ticket.status.value ++ " to " ++ payload.status.value⟩
    let ticket := ticket.updated payload draws.now
    Program.flush (SupportDesk.putTicket ticket)
    Program.flush (SupportDesk.notify (ticketUpdated ticket draws))
    Program.flush (SupportDesk.serve (.updateTicket subject ticketId payload draws))
    pure (.ticket ticket)

/-- Nobody, or an active verified user who manages support. -/
def assignable (db : Tables) (assignedAdminId : Option UUID) : Bool :=
  assignedAdminId.all fun assigneeId => (db.user? assigneeId).any fun assignee =>
    hasCapability assignee .supportManage && assignee.isActive && assignee.isVerified

/-- `PATCH /admin/support/tickets/{ticket_id}/assignment`. -/
def assignTicket (subject ticketId : UUID) (payload : TicketAssignment) (draws : DeskDraws) :
    DeskProgram SupportReply := do
  let _ ← supportManager subject
  let ticket ← lockedTicket ticketId
  checkVersion ticket (some payload.expectedVersion)
  let db ← Program.query SupportDesk.marketplace
  require (assignable db payload.assignedAdminId) ⟨422, "Select an active verified administrator"⟩
  if ticket.assignedAdminId = payload.assignedAdminId then pure (.ticket ticket)
  else do
    let ticket := ticket.assigned payload
    Program.flush (SupportDesk.putTicket ticket)
    Program.flush (SupportDesk.serve (.assignTicket subject ticketId payload draws))
    pure (.ticket ticket)

/-- `POST /admin/support/tickets/{ticket_id}/messages`. -/
def addAdminPublicMessage (subject ticketId : UUID) (payload : MessageCreate) (draws : DeskDraws) :
    DeskProgram SupportReply := do
  let admin ← supportManager subject
  let ticket ← lockedTicket ticketId
  Program.remember
    (.authorized (.addAdminPublicMessage subject ticketId payload draws) ticket.references)
  let replay ← idempotentReplay ticket admin .everyone payload
  match replay with
  | some message => pure (.message message)
  | none => do
    require (ticket.status ≠ .closed) closedTicket
    let (message, ticket, created) ← addMessage ticket admin .everyone payload draws
    if created then do
      Program.flush (SupportDesk.notify (publicMessageAdded ticket draws))
      Program.flush (SupportDesk.serve (.addAdminPublicMessage subject ticketId payload draws))
    pure (.message message)

/-- `POST /admin/support/tickets/{ticket_id}/internal-notes`. A closed ticket takes notes,
and nobody is notified of them. -/
def addInternalNote (subject ticketId : UUID) (payload : MessageCreate) (draws : DeskDraws) :
    DeskProgram SupportReply := do
  let admin ← supportManager subject
  let ticket ← lockedTicket ticketId
  Program.remember (.authorized (.addInternalNote subject ticketId payload draws) ticket.references)
  let (message, _, created) ← addMessage ticket admin .staff payload draws
  if created then
    Program.flush (SupportDesk.serve (.addInternalNote subject ticketId payload draws))
  pure (.message message)

end DeskProgram

def SupportRequest.program : SupportRequest → DeskProgram SupportReply
  | createTicket subject payload draws => DeskProgram.createTicket subject payload draws
  | addRequesterMessage subject ticketId payload draws =>
    DeskProgram.addRequesterMessage subject ticketId payload draws
  | updateTicket subject ticketId payload draws =>
    DeskProgram.updateTicket subject ticketId payload draws
  | assignTicket subject ticketId payload draws =>
    DeskProgram.assignTicket subject ticketId payload draws
  | addAdminPublicMessage subject ticketId payload draws =>
    DeskProgram.addAdminPublicMessage subject ticketId payload draws
  | addInternalNote subject ticketId payload draws =>
    DeskProgram.addInternalNote subject ticketId payload draws

def supportService :
    Service SupportDesk DeskLock DeskNote HTTPException SupportReply SupportRequest where
  program := SupportRequest.program
  conflicts left right := left = right
  symmetric := Eq.symm
  valid := SupportDesk.Constraints
  decideConflicts := inferInstance
  decideValid _ := inferInstance

end GaonOne
