import GaonOne.SupportVersions

/-! Support requests are idempotent. A key has one ticket, a key of a ticket has one
message, and a retry ends with that ticket or message, or is refused for asking something
else under the key; neither way does it change anything. -/
namespace GaonOne
open Relational UnitOfWork ReadCommitted Transitions

/-! ## Every request ends -/

namespace DeskProgram
open Program

theorem within_currentUser (subject : UUID) : (currentUser subject).Within 1 :=
  (Within.query _).bind fun _ => Within.ofExcept _

theorem within_supportManager (subject : UUID) : (supportManager subject).Within 1 :=
  (Within.query _).bind fun _ => Within.ofExcept _

theorem within_lockedTicket (ticketId : UUID) : (lockedTicket ticketId).Within 3 :=
  (Within.query _).bind fun _ => (Within.ofExcept _).bind fun _ => (Within.lockRow _).bind fun _ =>
    (Within.query _).bind fun _ => Within.ofExcept _

theorem within_replayedTicketOrConflict (ticket : SupportTicket) (payload : TicketCreate)
    (references : TicketReferences) : (replayedTicketOrConflict ticket payload references).Within 0 :=
  (Within.ofExcept _).bind fun _ => within_done _

theorem within_insertTicket (ticket : SupportTicket) : (insertTicket ticket).Within 3 := by
  unfold insertTicket
  split
  · exact (Within.flush _).bind fun _ => within_done _
  · refine (Within.lockRow _).bind fun _ => (Within.query _).bind fun _ => ?_
    split
    · exact within_done _
    · exact (Within.flush _).bind fun _ => within_done _

theorem within_idempotentReplay (ticket : SupportTicket) (author : User) (visibility : Visibility)
    (payload : MessageCreate) : (idempotentReplay ticket author visibility payload).Within 1 := by
  refine (Within.query _).bind fun existing => ?_
  split
  · exact within_done _
  · exact (Within.ofExcept _).bind fun _ => within_done _

theorem within_addMessage (ticket : SupportTicket) (author : User) (visibility : Visibility)
    (payload : MessageCreate) (draws : DeskDraws) :
    (addMessage ticket author visibility payload draws).Within 2 := by
  refine (Within.query _).bind fun existing => ?_
  split
  · exact (Within.ofExcept _).bind fun _ => within_done _
  · exact (Within.flush _).bind fun _ => within_done _

theorem within_createTicket (subject : UUID) (payload : TicketCreate) (draws : DeskDraws) :
    (createTicket subject payload draws).Within 8 := by
  refine (within_currentUser _).bind fun user => (Within.query _).bind fun _ =>
    (Within.ofExcept _).bind fun context => (Within.remember _).bind fun _ =>
      (Within.query _).bind fun existing => ?_
  split
  · exact (within_replayedTicketOrConflict _ _ _).mono (by omega)
  · refine (within_insertTicket _).bind fun inserted => ?_
    split
    · exact (Within.flush _).bind fun _ => within_done _
    · exact (Within.query _).bind fun _ => (Within.ofExcept _).bind fun _ =>
        within_replayedTicketOrConflict _ _ _

theorem within_addRequesterMessage (subject ticketId : UUID) (payload : MessageCreate)
    (draws : DeskDraws) : (addRequesterMessage subject ticketId payload draws).Within 11 := by
  refine (within_currentUser _).bind fun user => (within_lockedTicket _).bind fun ticket =>
    (Within.ofExcept _).bind fun _ => (Within.remember _).bind fun _ =>
      (within_idempotentReplay _ _ _ _).bind fun replay => ?_
  split
  · exact within_done _
  · refine (Within.ofExcept _).bind fun _ => (within_addMessage _ _ _ _ _).bind fun added => ?_
    obtain ⟨message, ticket, created⟩ := added
    cases created with
    | true => exact (Within.flush _).bind fun _ => (Within.flush _).bind fun _ =>
        (Within.flush _).bind fun _ => within_done _
    | false => exact within_done _

theorem within_addAdminPublicMessage (subject ticketId : UUID) (payload : MessageCreate)
    (draws : DeskDraws) : (addAdminPublicMessage subject ticketId payload draws).Within 10 := by
  refine (within_supportManager _).bind fun admin => (within_lockedTicket _).bind fun ticket =>
    (Within.remember _).bind fun _ => (within_idempotentReplay _ _ _ _).bind fun replay => ?_
  split
  · exact within_done _
  · refine (Within.ofExcept _).bind fun _ => (within_addMessage _ _ _ _ _).bind fun added => ?_
    obtain ⟨message, ticket, created⟩ := added
    cases created with
    | true => exact (Within.flush _).bind fun _ => (Within.flush _).bind fun _ => within_done _
    | false => exact within_done _

theorem within_addInternalNote (subject ticketId : UUID) (payload : MessageCreate)
    (draws : DeskDraws) : (addInternalNote subject ticketId payload draws).Within 8 := by
  refine (within_supportManager _).bind fun admin => (within_lockedTicket _).bind fun ticket =>
    (Within.remember _).bind fun _ => (within_addMessage _ _ _ _ _).bind fun added => ?_
  obtain ⟨message, ticket, created⟩ := added
  cases created with
  | true => exact (Within.flush _).bind fun _ => within_done _
  | false => exact within_done _

theorem within_updateTicket (subject ticketId : UUID) (payload : TicketUpdate) (draws : DeskDraws) :
    (updateTicket subject ticketId payload draws).Within 7 := by
  refine (within_supportManager _).bind fun admin => (within_lockedTicket _).bind fun ticket =>
    (Within.ofExcept _).bind fun _ => ?_
  split
  · exact within_done _
  · exact (Within.ofExcept _).bind fun _ => (Within.flush _).bind fun _ => (Within.flush _).bind fun _ =>
      (Within.flush _).bind fun _ => within_done _

theorem within_assignTicket (subject ticketId : UUID) (payload : TicketAssignment) (draws : DeskDraws) :
    (assignTicket subject ticketId payload draws).Within 7 := by
  refine (within_supportManager _).bind fun admin => (within_lockedTicket _).bind fun ticket =>
    (Within.ofExcept _).bind fun _ => (Within.query _).bind fun _ => (Within.ofExcept _).bind fun _ => ?_
  split
  · exact within_done _
  · exact (Within.flush _).bind fun _ => (Within.flush _).bind fun _ => within_done _

end DeskProgram

/-- The statements of the longest request. -/
def longestRequest : Nat := 11

theorem request_within (request : SupportRequest) : request.program.Within longestRequest := by
  cases request with
  | createTicket => exact (DeskProgram.within_createTicket _ _ _).mono (by decide)
  | addRequesterMessage => exact DeskProgram.within_addRequesterMessage _ _ _ _
  | updateTicket => exact (DeskProgram.within_updateTicket _ _ _ _).mono (by decide)
  | assignTicket => exact (DeskProgram.within_assignTicket _ _ _ _).mono (by decide)
  | addAdminPublicMessage => exact (DeskProgram.within_addAdminPublicMessage _ _ _ _).mono (by decide)
  | addInternalNote => exact (DeskProgram.within_addInternalNote _ _ _ _).mono (by decide)

/-! ## What a retry ends with -/

section
variable {start : SupportDesk} {state : State SupportDesk DeskLock DeskNote HTTPException SupportReply}
  {action : ReadCommitted.Action SupportDesk SupportRequest} {index : Nat}
  {request : SupportRequest} {references : TicketReferences}

/-- What every step leaves to a request that holds nothing. -/
theorem step_relies (sound : DeskSound start)
    (reached : System.ReachableWhile (supportService.system start) SupportUndisturbed state)
    (admitted : SupportUndisturbed state action) :
    DeskRely [] state.database (supportService.step state action).database := by
  have kept := support_sound sound (reached.next admitted)
  rcases support_step sound reached admitted with leaves | ⟨request, takes⟩
  · exact leaves.relies []
  · change DeskSound (supportService.step state action).database at kept
    generalize (supportService.step state action).database = after at takes kept
    cases takes with
    | creates user resolves fresh => exact .create user fun _ _ => List.not_mem_nil
    | edits held edits fresh =>
      exact .edit (support_sound sound reached) held edits kept.declared List.not_mem_nil

/-- What is due to a request, and how it may end while it is: what it answers then, if it
answers, and what it raises, if it raises. -/
structure Due (request : SupportRequest) (references : TicketReferences)
    (due : SupportDesk → Prop) (right : SupportReply → Prop) (wrong : HTTPException → Prop) : Prop where
  stays : ∀ before after, DeskRely [] before after → due before → due after
  answers : ∀ desk footing reply, DeskSound desk → due desk →
    (∀ note ∈ footing.notes, note = .authorized request references) →
      Answered desk footing request reply → right reply ∧ footing.change = id
  refuses : ∀ desk held error, DeskSound desk → due desk →
    Refused desk held request references error → wrong error

/-- How far a request has come that something is due to. -/
def OnTheWay (request : SupportRequest) (references : TicketReferences) (right : SupportReply → Prop)
    (refused : Prop) : Session SupportDesk DeskLock DeskNote HTTPException SupportReply → Prop
  | .running _ footing => .authorized request references ∈ footing.notes
  | .committed reply => right reply
  | .failed => refused

variable {due : SupportDesk → Prop} {right : SupportReply → Prop} {wrong : HTTPException → Prop}

theorem Due.step (owed : Due request references due right wrong) (sound : DeskSound start)
    (reached : System.ReachableWhile (supportService.system start) SupportUndisturbed state)
    (now : due state.database) (standing : state.sessions[index]? = some session)
    (way : OnTheWay request references right (∃ error, wrong error) session)
    (spared : action ≠ .abort index) :
    ∃ next, (supportService.step state action).sessions[index]? = some next ∧
      OnTheWay request references right (∃ error, wrong error) next := by
  have kept := support_sound sound reached
  rcases Service.step_session standing spared with rfl | same
  · cases session with
    | committed reply =>
      have past : (Session.committed reply : Session SupportDesk DeskLock DeskNote HTTPException _).Over :=
        trivial
      exact ⟨_, past.step standing spared, way⟩
    | failed =>
      have past : (Session.failed : Session SupportDesk DeskLock DeskNote HTTPException SupportReply).Over :=
        trivial
      exact ⟨_, past.step standing spared, way⟩
    | running program footing =>
      have ends := support_answers sound reached index program footing standing
      obtain ⟨next, there, turned⟩ := supportService.turned standing
      refine ⟨next, there, ?_⟩
      cases turned with
      | @committed reply valid =>
        obtain ⟨other, ⟨_, noted⟩, answered⟩ := (Discipline.ends_done _).mp ends
        cases noted _ way
        exact (owed.answers _ footing reply kept now noted answered).1
      | @invalid reply broken =>
        obtain ⟨other, ⟨_, noted⟩, answered⟩ := (Discipline.ends_done _).mp ends
        cases noted _ way
        rw [(owed.answers _ footing reply kept now noted answered).2] at broken
        exact absurd kept.declared broken
      | @raised error =>
        obtain ⟨other, ⟨_, noted⟩, refused⟩ := (Discipline.ends_raise _).mp ends
        cases noted _ way
        exact ⟨error, owed.refuses _ footing.held error kept now (refused _ way)⟩
      | waits held => exact way
      | goes next later notes shorter => exact notes _ way
  · exact ⟨session, same, way⟩

/-- A request that something is due to, and that takes its turns, ends with it or is
refused, whatever the others do. -/
theorem Due.run (owed : Due request references due right wrong) (sound : DeskSound start)
    (reached : System.ReachableWhile (supportService.system start) SupportUndisturbed state)
    (now : due state.database) (standing : state.sessions[index]? = some session)
    (way : OnTheWay request references right (∃ error, wrong error) session)
    (admitted : System.RunWhile (supportService.system start) SupportUndisturbed state actions)
    (turns : supportService.Turns index count state actions) :
    ∃ last, ((supportService.system start).run state actions).sessions[index]? = some last ∧
      OnTheWay request references right (∃ error, wrong error) last := by
  induction turns generalizing session with
  | past => exact ⟨session, standing, way⟩
  | own moving rest ih =>
    have spared : (.advance index : ReadCommitted.Action SupportDesk SupportRequest) ≠ .abort index := by simp
    obtain ⟨next, there, onward⟩ := owed.step sound reached now standing way spared
    exact ih (reached.next admitted.1)
      (owed.stays _ _ (step_relies sound reached admitted.1) now) there onward admitted.2
  | other spared rest ih =>
    obtain ⟨next, there, onward⟩ := owed.step sound reached now standing way spared
    exact ih (reached.next admitted.1)
      (owed.stays _ _ (step_relies sound reached admitted.1) now) there onward admitted.2

/-- A retry that has passed authorisation ends with what is due to it, or is refused. -/
theorem Due.settles (owed : Due request references due right wrong) (sound : DeskSound start)
    (reached : System.ReachableWhile (supportService.system start) SupportUndisturbed state)
    (now : due state.database)
    (standing : state.sessions[index]? = some (.running program footing))
    (passed : .authorized request references ∈ footing.notes)
    (admitted : System.RunWhile (supportService.system start) SupportUndisturbed state actions)
    (turns : supportService.Turns index count state actions) (enough : longestRequest < count) :
    (∃ reply, ((supportService.system start).run state actions).sessions[index]? =
        some (.committed reply) ∧ right reply) ∨
      ((supportService.system start).run state actions).sessions[index]? = some .failed ∧
        ∃ error, wrong error := by
  have within := supportService.reached_within request_within reached index _ standing
  obtain ⟨last, there, past⟩ := Service.over_of_turns turns standing within (.inr enough)
  obtain ⟨same, here, way⟩ := owed.run sound reached now standing passed admitted turns
  cases there.symm.trans here
  cases last with
  | running => exact past.elim
  | committed reply => exact .inl ⟨reply, there, way⟩
  | failed => exact .inr ⟨there, way⟩

/-- Until then it changes nothing. -/
theorem Due.leaves (owed : Due request references due right wrong) (sound : DeskSound start)
    (reached : System.ReachableWhile (supportService.system start) SupportUndisturbed state)
    (now : due state.database)
    (standing : state.sessions[index]? = some (.running program footing))
    (passed : .authorized request references ∈ footing.notes) :
    (supportService.step state (.advance index)).database = state.database := by
  rcases supportService.step_advance_database state index with same | ⟨reply, own, about, valid, same⟩
  · exact same
  · cases standing.symm.trans about
    obtain ⟨other, ⟨_, noted⟩, answered⟩ :=
      (Discipline.ends_done _).mp (support_answers sound reached index _ footing standing)
    cases noted _ passed
    have kept := support_sound sound reached
    rw [same, (owed.answers _ footing reply kept now noted answered).2]
    rfl

end

/-! ### Tickets -/

section
variable {subject key : UUID} {payload : TicketCreate} {draws : DeskDraws}
  {references : TicketReferences} {ticket : SupportTicket} {desk : SupportDesk}
  {footing : Footing SupportDesk DeskLock DeskNote} {reply : SupportReply}

/-- The ticket of a key, among the tickets of a desk. -/
def TicketHeld (ticket : SupportTicket) (desk : SupportDesk) : Prop :=
  ∃ now ∈ desk.tickets, SameAsk ticket now

theorem TicketHeld.stays (before after : SupportDesk) (rely : DeskRely [] before after)
    (held : TicketHeld ticket before) : TicketHeld ticket after := by
  obtain ⟨now, listed, same⟩ := held
  obtain ⟨later, there, agree⟩ := rely.tickets now listed
  exact ⟨later, there, same.trans agree⟩

/-- A ticket under the same key is the same. -/
theorem TicketHeld.same (held : TicketHeld ticket desk) (sound : DeskSound desk)
    (named : SupportDesk.ticketKey ticket = some (subject, key)) (listed : other ∈ desk.tickets)
    (agrees : SupportDesk.ticketKey other = some (subject, key)) : SameAsk ticket other := by
  obtain ⟨now, there, same⟩ := held
  have one := uniqueWhenSet_eq sound.declared.ticketKeys there listed (same.ticketKey.trans named) agrees
  exact one ▸ same

/-- A creation whose key is taken commits nothing, and answers with the ticket of its key. -/
theorem TicketHeld.answered (held : TicketHeld ticket desk) (sound : DeskSound desk)
    (keyed : payload.idempotencyKey = some key)
    (named : SupportDesk.ticketKey ticket = some (subject, key))
    (noted : ∀ note ∈ footing.notes, note = .authorized (.createTicket subject payload draws) references)
    (answered : Answered desk footing (.createTicket subject payload draws) reply) :
    footing.change = id ∧ ticketReplayMatches ticket payload references ∧
      ∃ same, reply = .ticket same ∧ same.id = ticket.id := by
  cases answered with
  | unchanged same replays =>
    obtain ⟨_, passed, -, first, own, rfl, asked, agrees, alike, now, listed, later⟩ :=
      replays.creation subject payload draws rfl
    cases noted _ passed
    cases keyed.symm.trans asked
    have one := held.same sound named listed (later.ticketKey.trans agrees)
    refine ⟨same, ?_, first, rfl, later.id.symm.trans one.id⟩
    exact (one.matches payload references).mp ((later.matches payload references).mpr alike)
  | created user resolves locked fresh change =>
    obtain ⟨now, listed, same⟩ := held
    exact absurd (same.ticketKey.trans named) (fresh key keyed now listed)
  | edited locked stored edits fresh answers change => exact absurd rfl edits.ne_creation

/-- A creation whose key is taken is refused for asking something else. -/
theorem TicketHeld.refused (held : TicketHeld ticket desk) (sound : DeskSound desk)
    (keyed : payload.idempotencyKey = some key)
    (named : SupportDesk.ticketKey ticket = some (subject, key))
    (refused : Refused desk locks (.createTicket subject payload draws) references error) :
    error = payloadMismatch ∧ Resolves desk.marketplace payload references ∧
      ¬ticketReplayMatches ticket payload references := by
  cases refused with
  | otherTicket resolves listed agrees _ differs =>
    rw [keyed] at agrees
    have one := held.same sound named listed agrees
    exact ⟨rfl, resolves, fun alike => differs ((one.matches payload references).mpr alike)⟩
  | otherMessage asked => cases asked
  | closed asked => cases asked

theorem due_ticket (keyed : payload.idempotencyKey = some key)
    (named : SupportDesk.ticketKey ticket = some (subject, key))
    (alike : ticketReplayMatches ticket payload references) :
    Due (.createTicket subject payload draws) references (TicketHeld ticket)
      (fun reply => ∃ same, reply = .ticket same ∧ same.id = ticket.id) (fun _ => False) where
  stays := TicketHeld.stays
  answers _ _ _ sound held noted answered :=
    have settled := held.answered sound keyed named noted answered
    ⟨settled.2.2, settled.1⟩
  refuses _ _ _ sound held refused := (held.refused sound keyed named refused).2.2 alike

theorem due_mismatch (keyed : payload.idempotencyKey = some key)
    (named : SupportDesk.ticketKey ticket = some (subject, key))
    (differs : ¬ticketReplayMatches ticket payload references) :
    Due (.createTicket subject payload draws) references (TicketHeld ticket) (fun _ => False)
      (· = payloadMismatch) where
  stays := TicketHeld.stays
  answers _ _ _ sound held noted answered :=
    absurd (held.answered sound keyed named noted answered).2.1 differs
  refuses _ _ _ sound held refused := (held.refused sound keyed named refused).1

/-- What was created for a payload, and what the payload refers to. -/
def CreatedFor (payload : TicketCreate) (ticket : SupportTicket) (desk : SupportDesk) : Prop :=
  TicketHeld ticket desk ∧ ∃ own, Resolves desk.marketplace payload own ∧
    ticketReplayMatches ticket payload own

theorem due_same_payload (keyed : payload.idempotencyKey = some key)
    (named : SupportDesk.ticketKey ticket = some (subject, key)) :
    Due (.createTicket subject payload draws) references (CreatedFor payload ticket)
      (fun reply => ∃ same, reply = .ticket same ∧ same.id = ticket.id) (fun _ => False) where
  stays before after rely created := by
    obtain ⟨held, own, resolves, alike⟩ := created
    exact ⟨held.stays before after rely, own, resolves.kept rely.kept, alike⟩
  answers _ _ _ sound created noted answered :=
    have settled := created.1.answered sound keyed named noted answered
    ⟨settled.2.2, settled.1⟩
  refuses desk locks error sound created refused := by
    obtain ⟨held, own, resolves, alike⟩ := created
    obtain ⟨-, again, differs⟩ := held.refused sound keyed named refused
    exact differs (resolves.unique again ▸ alike)

end

/-! ### Messages -/

section
variable {request : SupportRequest} {subject ticketId : UUID} {visibility : Visibility}
  {payload : MessageCreate} {references : TicketReferences} {message : SupportMessage}
  {desk : SupportDesk} {footing : Footing SupportDesk DeskLock DeskNote} {reply : SupportReply}

/-- A request that posts adds one message, under its key. -/
theorem Edits.posts (edits : Edits ticket request next messages events)
    (asked : request.posts = some (subject, ticketId, visibility, payload)) :
    ticket.id = ticketId ∧ ∃ message, messages = [message] ∧
      SupportDesk.messageKey message = (ticketId, payload.idempotencyKey) ∧
      messageReplayMatches message subject visibility payload.body := by
  cases edits with
  | updated | assigned => cases asked
  | replied user owner standing =>
    cases asked
    exact ⟨rfl, _, rfl, rfl, rfl, rfl, payload.stripped⟩
  | answered admin standing =>
    cases asked
    exact ⟨rfl, _, rfl, rfl, rfl, rfl, payload.stripped⟩
  | noted admin =>
    cases asked
    exact ⟨rfl, _, rfl, rfl, rfl, rfl, payload.stripped⟩

/-- A post whose key is taken commits nothing, and answers with the message of its key. -/
theorem posted_answered (sound : DeskSound desk) (listed : message ∈ desk.messages)
    (asked : request.posts = some (subject, ticketId, visibility, payload))
    (named : SupportDesk.messageKey message = (ticketId, payload.idempotencyKey))
    (answered : Answered desk footing request reply) :
    footing.change = id ∧ messageReplayMatches message subject visibility payload.body ∧
      reply = .message message := by
  cases answered with
  | unchanged same replays =>
    obtain ⟨other, there, rfl, key, alike⟩ := replays.message subject ticketId visibility payload asked
    have one := unique_eq sound.declared.messageKeys there listed (key.trans named.symm)
    subst one
    exact ⟨same, alike, rfl⟩
  | created => cases asked
  | edited locked stored edits fresh answers change =>
    obtain ⟨rfl, added, rfl, key, -⟩ := edits.posts asked
    refine absurd ?_ (fresh added (List.mem_singleton_self _) message listed)
    have word : added.idempotencyKey = payload.idempotencyKey := congrArg Prod.snd key
    rw [named, word]

theorem posted_refused (sound : DeskSound desk) (listed : message ∈ desk.messages)
    (asked : request.posts = some (subject, ticketId, visibility, payload))
    (named : SupportDesk.messageKey message = (ticketId, payload.idempotencyKey))
    (refused : Refused desk locks request references error) :
    error = payloadMismatch ∧ ¬messageReplayMatches message subject visibility payload.body := by
  cases refused with
  | otherTicket => cases asked
  | otherMessage posts there key differs =>
    cases asked.symm.trans posts
    have one := unique_eq sound.declared.messageKeys there listed (key.trans named.symm)
    exact ⟨rfl, one ▸ differs⟩
  | closed posts locked stored fresh =>
    cases asked.symm.trans posts
    exact absurd named (fresh message listed)

theorem due_message (asked : request.posts = some (subject, ticketId, visibility, payload))
    (named : SupportDesk.messageKey message = (ticketId, payload.idempotencyKey))
    (alike : messageReplayMatches message subject visibility payload.body) :
    Due request references (message ∈ ·.messages) (· = .message message) (fun _ => False) where
  stays _ _ rely listed := rely.messages message listed
  answers _ _ _ sound listed _ answered :=
    have settled := posted_answered sound listed asked named answered
    ⟨settled.2.2, settled.1⟩
  refuses _ _ _ sound listed refused := (posted_refused sound listed asked named refused).2 alike

theorem due_message_mismatch (asked : request.posts = some (subject, ticketId, visibility, payload))
    (named : SupportDesk.messageKey message = (ticketId, payload.idempotencyKey))
    (differs : ¬messageReplayMatches message subject visibility payload.body) :
    Due request references (message ∈ ·.messages) (fun _ => False) (· = payloadMismatch) where
  stays _ _ rely listed := rely.messages message listed
  answers _ _ _ sound listed _ answered :=
    absurd (posted_answered sound listed asked named answered).2.1 differs
  refuses _ _ _ sound listed refused := (posted_refused sound listed asked named refused).1

end

/-! ## One effect for each key -/

/-- The key of a creation. -/
def SupportRequest.creationKey : SupportRequest → Option (UUID × UUID)
  | .createTicket subject payload _ => payload.idempotencyKey.map (subject, ·)
  | _ => none

/-- The ticket and the key of a post. -/
def SupportRequest.postKey (request : SupportRequest) : Option (UUID × UUID) :=
  request.posts.map fun (_, ticketId, _, payload) => (ticketId, payload.idempotencyKey)

/-- No key took effect twice. -/
structure ServedOnce (desk : SupportDesk) : Prop where
  creations : UniqueWhenSet SupportRequest.creationKey desk.served
  posts : UniqueWhenSet SupportRequest.postKey desk.served
  created : ∀ request ∈ desk.served, ∀ key, request.creationKey = some key →
    ∃ ticket ∈ desk.tickets, SupportDesk.ticketKey ticket = some key
  posted : ∀ request ∈ desk.served, ∀ key, request.postKey = some key →
    ∃ message ∈ desk.messages, SupportDesk.messageKey message = key

section
variable {before after : SupportDesk} {request : SupportRequest}

/-- A request that takes effect has a key of its own, and leaves a row under it. -/
theorem TakesEffect.keys (takes : TakesEffect before request after) :
    (∀ key, request.creationKey = some key →
      (∀ ticket ∈ before.tickets, SupportDesk.ticketKey ticket ≠ some key) ∧
        ∃ ticket ∈ after.tickets, SupportDesk.ticketKey ticket = some key) ∧
      ∀ key, request.postKey = some key →
        (∀ message ∈ before.messages, SupportDesk.messageKey message ≠ key) ∧
          ∃ message ∈ after.messages, SupportDesk.messageKey message = key := by
  cases takes with
  | creates user resolves fresh =>
    constructor
    · intro key named
      obtain ⟨own, given, rfl⟩ := Option.map_eq_some_iff.mp named
      refine ⟨fresh own given, _, List.mem_append_right _ (List.mem_singleton_self _), ?_⟩
      exact congrArg (Option.map _) given
    · intro key named
      cases named
  | @edits ticket request next messages events held edits fresh =>
    constructor
    · intro key named
      cases request with
      | createTicket => exact absurd rfl edits.ne_creation
      | _ => cases named
    · intro key named
      obtain ⟨⟨subject, ticketId, visibility, payload⟩, asked, rfl⟩ := Option.map_eq_some_iff.mp named
      obtain ⟨rfl, message, rfl, own, -⟩ := edits.posts asked
      have free := fresh message (List.mem_singleton_self _)
      have word : message.idempotencyKey = payload.idempotencyKey := congrArg Prod.snd own
      rw [word] at free
      exact ⟨free, message, List.mem_append_right _ (List.mem_singleton_self _), own⟩

theorem ServedOnce.takes (once : ServedOnce before) (takes : TakesEffect before request after)
    (rely : DeskRely [] before after) : ServedOnce after := by
  have served := takes.served
  obtain ⟨creation, post⟩ := takes.keys
  constructor
  · rw [served, uniqueWhenSet_append]
    refine ⟨once.creations, fun key named old listed clash => ?_⟩
    obtain ⟨ticket, there, taken⟩ := once.created old listed key clash
    exact (creation key named).1 ticket there taken
  · rw [served, uniqueWhenSet_append]
    refine ⟨once.posts, fun key named old listed clash => ?_⟩
    obtain ⟨message, there, taken⟩ := once.posted old listed key clash
    exact (post key named).1 message there taken
  · intro other listed key named
    rw [served] at listed
    rcases List.mem_append.mp listed with earlier | new
    · obtain ⟨ticket, there, taken⟩ := once.created other earlier key named
      obtain ⟨now, here, same⟩ := rely.tickets ticket there
      exact ⟨now, here, same.ticketKey.trans taken⟩
    · cases List.mem_singleton.mp new
      exact (creation key named).2
  · intro other listed key named
    rw [served] at listed
    rcases List.mem_append.mp listed with earlier | new
    · obtain ⟨message, there, taken⟩ := once.posted other earlier key named
      exact ⟨message, rely.messages message there, taken⟩
    · cases List.mem_singleton.mp new
      exact (post key named).2

theorem ServedOnce.leaves (once : ServedOnce before) (leaves : LeavesSupport before after) :
    ServedOnce after := by
  obtain ⟨creations, posts, created, posted⟩ := once
  constructor <;> simp only [leaves.served, leaves.tickets, leaves.messages] <;> assumption

end

section
variable {start : SupportDesk} {state : State SupportDesk DeskLock DeskNote HTTPException SupportReply}

theorem served_once (sound : DeskSound start) (unserved : start.served = [])
    (reached : System.ReachableWhile (supportService.system start) SupportUndisturbed state) :
    ServedOnce state.database := by
  induction reached with
  | initial =>
    have none : (supportService.system start).initial.database.served = [] := unserved
    constructor <;> rw [none]
    · exact List.nodup_nil
    · exact List.nodup_nil
    · exact fun _ listed => absurd listed List.not_mem_nil
    · exact fun _ listed => absurd listed List.not_mem_nil
  | next earlier admitted ih =>
    rcases support_step sound earlier admitted with leaves | ⟨request, takes⟩
    · exact ih.leaves leaves
    · exact ih.takes takes (step_relies sound earlier admitted)

/-- A session that takes its turns answers as asked, whatever the others do. -/
def Returns (start : SupportDesk)
    (state : State SupportDesk DeskLock DeskNote HTTPException SupportReply) (index : Nat)
    (right : SupportReply → Prop) : Prop :=
  ∀ actions count, System.RunWhile (supportService.system start) SupportUndisturbed state actions →
    supportService.Turns index count state actions → longestRequest < count →
      ∃ reply, ((supportService.system start).run state actions).sessions[index]? =
        some (.committed reply) ∧ right reply

/-- A session that takes its turns is refused. -/
def IsRefused (start : SupportDesk)
    (state : State SupportDesk DeskLock DeskNote HTTPException SupportReply) (index : Nat) : Prop :=
  ∀ actions count, System.RunWhile (supportService.system start) SupportUndisturbed state actions →
    supportService.Turns index count state actions → longestRequest < count →
      ((supportService.system start).run state actions).sessions[index]? = some .failed

/-- The retries of a creation: with the same content, or the payload of the request that
created the ticket, they return it; with other content they are refused. -/
def TicketRetries (start : SupportDesk)
    (state : State SupportDesk DeskLock DeskNote HTTPException SupportReply) : Prop :=
  ∀ (index : Nat) program footing subject payload draws references key ticket,
    state.sessions[index]? = some (.running program footing) →
    .authorized (.createTicket subject payload draws) references ∈ footing.notes →
    payload.idempotencyKey = some key → ticket ∈ state.database.tickets →
    SupportDesk.ticketKey ticket = some (subject, key) →
      (supportService.step state (.advance index)).database = state.database ∧
        (ticketReplayMatches ticket payload references ∨
            (∃ original, .createTicket subject payload original ∈ state.database.served) →
          Returns start state index fun reply => ∃ same, reply = .ticket same ∧ same.id = ticket.id) ∧
        (¬ticketReplayMatches ticket payload references → IsRefused start state index ∧
          ∀ error, program = .raise error → error = payloadMismatch)

/-- The retries of a post: of the same author, visibility and body they return the message,
closed ticket or not; otherwise they are refused. -/
def MessageRetries (start : SupportDesk)
    (state : State SupportDesk DeskLock DeskNote HTTPException SupportReply) : Prop :=
  ∀ (index : Nat) program footing request subject ticketId visibility payload references message,
    state.sessions[index]? = some (.running program footing) →
    .authorized request references ∈ footing.notes →
    request.posts = some (subject, ticketId, visibility, payload) →
    message ∈ state.database.messages →
    SupportDesk.messageKey message = (ticketId, payload.idempotencyKey) →
      (supportService.step state (.advance index)).database = state.database ∧
        (messageReplayMatches message subject visibility payload.body →
          Returns start state index (· = .message message)) ∧
        (¬messageReplayMatches message subject visibility payload.body → IsRefused start state index ∧
          ∀ error, program = .raise error → error = payloadMismatch)

/-- A creation or a post that commits its answer leaves what the answer names on record, as it was
asked for. -/
def AnswersStored (state : State SupportDesk DeskLock DeskNote HTTPException SupportReply) : Prop :=
  ∀ (index : Nat) reply footing request references,
    state.sessions[index]? = some (.running (.done reply) footing) →
    .authorized request references ∈ footing.notes →
      let after := supportService.step state (.advance index)
      after.sessions[index]? = some (.committed reply) →
        (∀ subject payload draws, request = .createTicket subject payload draws →
          ∃ ticket, reply = .ticket ticket ∧ ticket.userId = subject ∧
            ticket.idempotencyKey = payload.idempotencyKey ∧
            (∃ own, Resolves state.database.marketplace payload own ∧ ticketReplayMatches ticket payload own) ∧
            ∃ now ∈ after.database.tickets, SameAsk ticket now) ∧
        ∀ subject ticketId visibility payload,
          request.posts = some (subject, ticketId, visibility, payload) →
            RepliesMessage subject ticketId visibility payload reply after.database

/-- A request that can only be answered returns. -/
theorem Due.returns (owed : Due request references due right fun _ => False) (sound : DeskSound start)
    (reached : System.ReachableWhile (supportService.system start) SupportUndisturbed state)
    (now : due state.database)
    (standing : state.sessions[index]? = some (.running program footing))
    (passed : .authorized request references ∈ footing.notes) : Returns start state index right := by
  intro actions count admitted turns enough
  rcases owed.settles sound reached now standing passed admitted turns enough with
    answered | ⟨-, _, impossible⟩
  · exact answered
  · exact impossible.elim

/-- A request that can only be refused is. -/
theorem Due.isRefused (owed : Due request references due (fun _ => False) wrong) (sound : DeskSound start)
    (reached : System.ReachableWhile (supportService.system start) SupportUndisturbed state)
    (now : due state.database)
    (standing : state.sessions[index]? = some (.running program footing))
    (passed : .authorized request references ∈ footing.notes) :
    IsRefused start state index ∧ ∀ error, program = .raise error → wrong error := by
  constructor
  · intro actions count admitted turns enough
    rcases owed.settles sound reached now standing passed admitted turns enough with
      ⟨_, -, impossible⟩ | refused
    · exact impossible.elim
    · exact refused.1
  · rintro error rfl
    obtain ⟨other, ⟨_, noted⟩, refused⟩ :=
      (Discipline.ends_raise _).mp (support_answers sound reached index _ footing standing)
    cases noted _ passed
    exact owed.refuses _ _ error (support_sound sound reached) now (refused _ passed)

theorem ticket_retries (sound : DeskSound start)
    (reached : System.ReachableWhile (supportService.system start) SupportUndisturbed state) :
    TicketRetries start state := by
  intro index program footing subject payload draws references key ticket standing passed keyed listed named
  have held : TicketHeld ticket state.database := ⟨ticket, listed, .refl ticket⟩
  by_cases alike : ticketReplayMatches ticket payload references
  · have owed : Due (.createTicket subject payload draws) references _ _ _ := due_ticket keyed named alike
    refine ⟨owed.leaves sound reached held standing passed, fun _ => ?_, fun differs => absurd alike differs⟩
    exact owed.returns sound reached held standing passed
  · have owed : Due (.createTicket subject payload draws) references _ _ _ := due_mismatch keyed named alike
    refine ⟨owed.leaves sound reached held standing passed, ?_, fun _ => ?_⟩
    · rintro (same | ⟨original, served⟩)
      · exact absurd same alike
      · obtain ⟨first, there, -, owner, asked, created⟩ :=
          (support_sound sound reached).created subject payload original served
        have agrees : SupportDesk.ticketKey first = some (subject, key) := by
          rw [SupportDesk.ticketKey, asked, keyed, owner]
          rfl
        have one := uniqueWhenSet_eq (support_sound sound reached).declared.ticketKeys there listed agrees named
        subst one
        have again : Due (.createTicket subject payload draws) references _ _ _ :=
          due_same_payload keyed named
        exact again.returns sound reached ⟨held, created⟩ standing passed
    · exact owed.isRefused sound reached held standing passed

theorem message_retries (sound : DeskSound start)
    (reached : System.ReachableWhile (supportService.system start) SupportUndisturbed state) :
    MessageRetries start state := by
  intro index program footing request subject ticketId visibility payload references message standing
    passed asked listed named
  by_cases alike : messageReplayMatches message subject visibility payload.body
  · have owed : Due request references _ _ _ := due_message asked named alike
    refine ⟨owed.leaves sound reached listed standing passed, fun _ => ?_, fun differs => absurd alike differs⟩
    exact owed.returns sound reached listed standing passed
  · have owed : Due request references _ _ _ := due_message_mismatch asked named alike
    refine ⟨owed.leaves sound reached listed standing passed, fun same => absurd same alike, fun _ => ?_⟩
    exact owed.isRefused sound reached listed standing passed

theorem answers_stored (sound : DeskSound start)
    (reached : System.ReachableWhile (supportService.system start) SupportUndisturbed state) :
    AnswersStored state := by
  intro index reply footing request references standing passed
  obtain ⟨other, ⟨_, noted⟩, answered⟩ :=
    (Discipline.ends_done _).mp (support_answers sound reached index _ footing standing)
  cases noted _ passed
  rw [supportService.step_advance standing]
  simp only [Service.advance]
  split
  · intro _
    dsimp only
    cases answered with
    | unchanged same replays =>
      rw [same]
      refine ⟨fun subject payload draws asked => ?_, fun subject ticketId visibility payload asked => ?_⟩
      · obtain ⟨own, -, resolves, ticket, key, replied, keyed, named, alike, stored⟩ :=
          replays.creation subject payload draws asked
        obtain ⟨given, had, both⟩ := Option.map_eq_some_iff.mp named
        obtain ⟨rfl, rfl⟩ := Prod.mk.inj both
        exact ⟨ticket, replied, rfl, had.trans keyed.symm, ⟨own, resolves, alike⟩, stored⟩
      · exact replays.message subject ticketId visibility payload asked
    | created user resolves locked fresh change =>
      rw [change]
      refine ⟨fun subject payload draws asked => ?_, fun _ _ _ _ asked => by cases asked⟩
      cases asked
      refine ⟨_, rfl, rfl, rfl, ⟨_, resolves, rfl, rfl, rfl⟩, _, ?_, .refl _⟩
      exact List.mem_append_right _ (List.mem_singleton_self _)
    | edited locked stored edits fresh answers change =>
      rw [change]
      refine ⟨fun subject payload draws asked => ?_, fun subject ticketId visibility payload asked => ?_⟩
      · subst asked
        exact absurd rfl edits.ne_creation
      · obtain ⟨-, message, rfl, key, alike⟩ := edits.posts asked
        have own := List.mem_singleton_self message
        exact ⟨message, List.mem_append_right _ own, answers message own, key, alike⟩
  · intro failed
    rw [Service.set_session standing] at failed
    cases failed

/-- Support requests are idempotent. In every state of every interleaving, no key has two
tickets, no key of a ticket two messages, and no key took effect twice; a statement commits
nothing, or one request with its one effect; the retries of a key return what it has, or are
refused; and what a creation or a post answers is on record. -/
theorem support_requests_idempotent (sound : DeskSound start) (unserved : start.served = [])
    (reached : System.ReachableWhile (supportService.system start) SupportUndisturbed state) :
    (UniqueWhenSet SupportDesk.ticketKey state.database.tickets ∧
        Unique SupportDesk.messageKey state.database.messages) ∧
      (UniqueWhenSet SupportRequest.creationKey state.database.served ∧
        UniqueWhenSet SupportRequest.postKey state.database.served) ∧
      (∀ index, (supportService.step state (.advance index)).database = state.database ∨
        ∃ request, TakesEffect state.database request (supportService.step state (.advance index)).database ∧
          (supportService.step state (.advance index)).database.served =
            state.database.served ++ [request]) ∧
      TicketRetries start state ∧ MessageRetries start state ∧ AnswersStored state := by
  have kept := support_sound sound reached
  have once := served_once sound unserved reached
  refine ⟨⟨kept.declared.ticketKeys, kept.declared.messageKeys⟩, ⟨once.creations, once.posts⟩, ?_,
    ticket_retries sound reached, message_retries sound reached, answers_stored sound reached⟩
  intro index
  have admitted : SupportUndisturbed state (.advance index) := trivial
  rcases (support_upheld.safe sound reached).advance support_upheld admitted with
    same | same | ⟨request, takes⟩
  · exact .inl same
  · exact .inl same
  · exact .inr ⟨request, takes, takes.served⟩

end

/-- What a session has noted that is still under way. -/
theorem noted_running (state : State SupportDesk DeskLock DeskNote HTTPException SupportReply) (index : Nat)
    (note : DeskNote) (noted : state.sessions[index]?.map Session.notes = some [note]) :
    ∃ program footing, state.sessions[index]? = some (.running program footing) ∧ note ∈ footing.notes := by
  obtain ⟨session, standing, notes⟩ := Option.map_eq_some_iff.mp noted
  cases session with
  | committed | failed => cases notes
  | running program footing =>
    refine ⟨program, footing, standing, ?_⟩
    rw [show footing.notes = _ from notes]
    exact List.mem_singleton_self _

theorem support_admitted {start : SupportDesk} (actions : List (ReadCommitted.Action SupportDesk SupportRequest))
    (quiet : (actions.all fun action => action matches .start _ | .advance _) = true) :
    System.RunWhile (supportService.system start) SupportUndisturbed ⟨start, []⟩ actions := by
  apply System.RunWhile.of_forall
  intro action listed state
  have alone := List.all_eq_true.mp quiet action listed
  cases action with
  | start | advance => trivial
  | abort | other => cases alone

/-! ### A ticket and a reply, each sent twice -/

def whereIsIt : MessageCreate := ⟨"Still waiting", 40#128, by decide +kernel, by decide⟩

def replying (rowId : UUID) : SupportRequest :=
  .addRequesterMessage villager.id lateTicket.id whereIsIt ⟨rowId, 42#128, 1000⟩

def firstReply : SupportMessage := newMessage lateTicket villager .everyone whereIsIt ⟨41#128, 42#128, 1000⟩

/-- The first reply has committed, and the retry has passed authorisation. -/
def repliedTwice : List (ReadCommitted.Action SupportDesk SupportRequest) :=
  .start (replying 41#128) :: List.replicate 12 (.advance 0) ++
    .start (replying 43#128) :: List.replicate 5 (.advance 1)

def lateOrder (subject : String) : TicketCreate :=
  { subject, description := "Not here yet", storeId := none, orderId := some 2#128, deliveryId := none
    idempotencyKey := some 50#128 }

def creating (rowId : UUID) (subject : String) : SupportRequest :=
  .createTicket villager.id (lateOrder subject) ⟨rowId, 52#128, 1000⟩

def firstTicket : SupportTicket :=
  newTicket villager (lateOrder "Late order") lateTicket.references ⟨51#128, 52#128, 1000⟩

/-- The retry, with a wide space behind its subject, looks for its key before the first creation
commits. -/
def createdTwice : List (ReadCommitted.Action SupportDesk SupportRequest) :=
  .start (creating 51#128 "Late order") :: .start (creating 53#128 "Late order\u2003") ::
    List.replicate 4 (.advance 1) ++ List.replicate 9 (.advance 0)

theorem support_requests_idempotent_reply :
    Returns helpDesk ((supportService.system helpDesk).run ⟨helpDesk, []⟩ createdTwice) 1
        (fun reply => ∃ same, reply = .ticket same ∧ same.id = firstTicket.id) ∧
      Returns helpDesk ((supportService.system helpDesk).run ⟨helpDesk, []⟩ repliedTwice) 1
        (· = .message firstReply) := by
  constructor
  · have reached : System.ReachableWhile (supportService.system helpDesk) SupportUndisturbed _ :=
      System.ReachableWhile.initial.run createdTwice (support_admitted _ rfl)
    obtain ⟨program, footing, standing, passed⟩ := noted_running
      ((supportService.system helpDesk).run ⟨helpDesk, []⟩ createdTwice) 1
      (.authorized (creating 53#128 "Late order\u2003") lateTicket.references) (by decide +kernel)
    have listed : firstTicket ∈
        ((supportService.system helpDesk).run ⟨helpDesk, []⟩ createdTwice).database.tickets := by
      decide +kernel
    have retries := (support_requests_idempotent helpDesk_sound rfl reached).2.2.2.1
    have retry := retries 1 program footing villager.id (lateOrder "Late order\u2003") ⟨53#128, 52#128, 1000⟩
      lateTicket.references 50#128 firstTicket standing passed rfl listed (by decide +kernel)
    exact retry.2.1 (.inl (by decide +kernel))
  · have reached : System.ReachableWhile (supportService.system helpDesk) SupportUndisturbed _ :=
      System.ReachableWhile.initial.run repliedTwice (support_admitted _ rfl)
    obtain ⟨program, footing, standing, passed⟩ := noted_running
      ((supportService.system helpDesk).run ⟨helpDesk, []⟩ repliedTwice) 1
      (.authorized (replying 43#128) lateTicket.references) (by decide +kernel)
    have listed : firstReply ∈
        ((supportService.system helpDesk).run ⟨helpDesk, []⟩ repliedTwice).database.messages := by
      decide +kernel
    have retries := (support_requests_idempotent helpDesk_sound rfl reached).2.2.2.2.1
    have retry := retries 1 program footing (replying 43#128) villager.id lateTicket.id .everyone whereIsIt
      lateTicket.references firstReply standing passed rfl listed rfl
    exact retry.2.1 ⟨rfl, rfl, whereIsIt.stripped⟩

end GaonOne
