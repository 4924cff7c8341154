import GaonOne.SupportRules

/-! The version of a ticket counts its changes: each commit that changes its status, its
notes, its assignee or its messages adds one, no other commit does, and so an update that
expects a version meets the ticket as it was then. -/
namespace GaonOne
open Relational UnitOfWork ReadCommitted Transitions

/-- What a version is a version of. -/
structure TicketContent where
  status : TicketStatus
  resolutionNotes : Option String
  assignedAdminId : Option UUID
  messages : List SupportMessage
  deriving DecidableEq

def SupportDesk.content (desk : SupportDesk) (ticket : SupportTicket) : TicketContent where
  status := ticket.status
  resolutionNotes := ticket.resolutionNotes
  assignedAdminId := ticket.assignedAdminId
  messages := belonging SupportMessage.ticketId ticket.id desk.messages

/-- What one commit may do to a ticket. -/
structure VersionKept (before after : SupportDesk) (ticket now : SupportTicket) : Prop where
  changed : after.content now ≠ before.content ticket → now.version = ticket.version + 1
  unchanged : after.content now = before.content ticket → now.version = ticket.version
  status : now.status = ticket.status ∨ now.status ∈ allowedTransitions ticket.status

/-- The ticket and the version an update or an assignment expects. -/
def SupportRequest.expects : SupportRequest → Option (UUID × Nat)
  | .updateTicket _ ticketId payload _ => payload.expectedVersion.map (ticketId, ·)
  | .assignTicket _ ticketId payload _ => some (ticketId, payload.expectedVersion)
  | _ => none

section
variable {before after : SupportDesk} {ticket next : SupportTicket} {request : SupportRequest}
  {messages : List SupportMessage} {events : List NotificationEvent}

/-- An edit changes what a version is a version of. -/
theorem Edits.changes (edits : Edits ticket request next messages events) :
    (before.edit next messages events request).content next ≠ before.content ticket := by
  intro same
  have word : belonging SupportMessage.ticketId next.id (before.messages ++ messages) =
      belonging SupportMessage.ticketId ticket.id before.messages := congrArg TicketContent.messages same
  have posted (message : SupportMessage) (one : messages = [message]) : False := by
    have own : message.ticketId = next.id := by
      rw [edits.sameAsk.id]
      exact edits.own message (one ▸ List.mem_singleton_self _)
    rw [one, belonging_append, if_pos own, edits.sameAsk.id] at word
    exact absurd (congrArg List.length word) (by simp)
  cases edits with
  | replied => exact posted _ rfl
  | answered => exact posted _ rfl
  | noted => exact posted _ rfl
  | updated expected changes allowed =>
    exact changes ⟨congrArg TicketContent.status same, congrArg TicketContent.resolutionNotes same⟩
  | assigned expected changes => exact changes (congrArg TicketContent.assignedAdminId same).symm

theorem VersionKept.of_same (messages : belonging SupportMessage.ticketId ticket.id after.messages =
    belonging SupportMessage.ticketId ticket.id before.messages) :
    VersionKept before after ticket ticket where
  changed := by
    intro changed
    refine absurd ?_ changed
    rw [SupportDesk.content, SupportDesk.content, messages]
  unchanged _ := rfl
  status := .inl rfl

/-- What a request that takes effect does to the version of every ticket. -/
theorem TakesEffect.versions (takes : TakesEffect before request after) (sound : DeskSound before)
    (kept : DeskSound after) (held : before.ticket? key = some ticket) :
    ∃ now, after.ticket? key = some now ∧ VersionKept before after ticket now := by
  obtain ⟨listed, own⟩ := (SupportDesk.ticket?_iff sound).mp held
  cases takes with
  | creates user resolves fresh =>
    refine ⟨ticket, (SupportDesk.ticket?_iff kept).mpr ⟨List.mem_append_left _ listed, own⟩, ?_⟩
    exact .of_same rfl
  | @edits edited request next messages events stored edits fresh =>
    by_cases same : edited.id = key
    · subst same
      cases stored.symm.trans held
      refine ⟨next, (SupportDesk.ticket?_iff kept).mpr ⟨mem_put.mpr (.inl ?_), edits.sameAsk.id⟩, ?_⟩
      · exact ⟨rfl, ticket, listed, edits.sameAsk.id.symm⟩
      · exact ⟨fun _ => edits.version, fun same => absurd same edits.changes, edits.status⟩
    · have differ : ticket.id ≠ next.id := by
        rw [own, edits.sameAsk.id]
        exact fun agree => same agree.symm
      refine ⟨ticket, (SupportDesk.ticket?_iff kept).mpr ⟨mem_put.mpr (.inr ⟨listed, differ⟩), own⟩, ?_⟩
      apply VersionKept.of_same
      change (before.messages ++ messages).filter _ = _
      rw [List.filter_append]
      have none : messages.filter (fun message => decide (message.ticketId = ticket.id)) = [] := by
        rw [List.filter_eq_nil_iff]
        intro message new
        rw [edits.own message new, own]
        exact fun agree => same (of_decide_eq_true agree)
      rw [none, List.append_nil]
      rfl

end

section
variable {start : SupportDesk} {state : State SupportDesk DeskLock DeskNote HTTPException SupportReply}
  {action : ReadCommitted.Action SupportDesk SupportRequest}

/-- What a step of a run may do to the desk. -/
theorem support_step (sound : DeskSound start)
    (reached : System.ReachableWhile (supportService.system start) SupportUndisturbed state)
    (admitted : SupportUndisturbed state action) :
    LeavesSupport state.database (supportService.step state action).database ∨
      ∃ request, TakesEffect state.database request (supportService.step state action).database := by
  have still (same : (supportService.step state action).database = state.database) :
      LeavesSupport state.database (supportService.step state action).database := by
    rw [same]
    exact ⟨rfl, rfl, rfl, .refl _⟩
  cases action with
  | start request => exact .inl (still rfl)
  | abort index => exact .inl (still rfl)
  | other after => exact .inl admitted
  | advance index =>
    have safe := support_upheld.safe sound reached
    rcases safe.advance support_upheld admitted with same | same | takes
    · exact .inl (still same)
    · exact .inl (still same)
    · exact .inr takes

theorem support_sound (sound : DeskSound start)
    (reached : System.ReachableWhile (supportService.system start) SupportUndisturbed state) :
    DeskSound state.database :=
  (support_upheld.safe sound reached).invariant

theorem step_versions (sound : DeskSound start)
    (reached : System.ReachableWhile (supportService.system start) SupportUndisturbed state)
    (admitted : SupportUndisturbed state action) (held : state.database.ticket? key = some ticket) :
    ∃ now, (supportService.step state action).database.ticket? key = some now ∧
      VersionKept state.database (supportService.step state action).database ticket now := by
  rcases support_step sound reached admitted with leaves | ⟨request, takes⟩
  · refine ⟨ticket, ?_, .of_same ?_⟩
    · unfold SupportDesk.ticket? at held ⊢
      rw [leaves.tickets]
      exact held
    · rw [leaves.messages]
  · exact takes.versions (support_sound sound reached) (support_sound sound (reached.next admitted)) held

/-- As long as a ticket keeps its version, it keeps what that is a version of. -/
theorem run_versions (sound : DeskSound start)
    (reached : System.ReachableWhile (supportService.system start) SupportUndisturbed state)
    (held : state.database.ticket? key = some ticket)
    (actions : List (ReadCommitted.Action SupportDesk SupportRequest))
    (admitted : System.RunWhile (supportService.system start) SupportUndisturbed state actions) :
    ∃ now, ((supportService.system start).run state actions).database.ticket? key = some now ∧
      ticket.version ≤ now.version ∧ (now.version = ticket.version →
        ((supportService.system start).run state actions).database.content now =
          state.database.content ticket) := by
  refine reached.persists (P := fun later => ∃ now, later.database.ticket? key = some now ∧
    ticket.version ≤ now.version ∧ (now.version = ticket.version →
      later.database.content now = state.database.content ticket)) ?_ ?_ actions admitted
  · exact ⟨ticket, held, le_rfl, fun _ => rfl⟩
  · rintro middle action between ⟨now, there, least, same⟩ allowed
    obtain ⟨later, here, kept⟩ := step_versions sound between allowed there
    change ∃ now, (supportService.step middle action).database.ticket? key = some now ∧ _
    refine ⟨later, here, ?_, fun stays => ?_⟩
    · by_cases agree : (supportService.step middle action).database.content later =
          middle.database.content now
      · rw [kept.unchanged agree]
        exact least
      · rw [kept.changed agree]
        omega
    · have agree : (supportService.step middle action).database.content later =
          middle.database.content now := by
        by_contra differs
        have more := kept.changed differs
        omega
      exact agree.trans (same ((kept.unchanged agree).symm.trans stays))

/-- An update or an assignment takes effect on the version it expects. -/
theorem TakesEffect.expected (takes : TakesEffect before request after)
    (expects : request.expects = some (key, version)) :
    ∃ ticket, before.ticket? key = some ticket ∧ ticket.version = version := by
  cases takes with
  | creates => cases expects
  | @edits ticket request next messages events held edits fresh =>
    cases edits with
    | replied => cases expects
    | answered => cases expects
    | noted => cases expects
    | updated expected changes allowed =>
      obtain ⟨own, named, same⟩ := Option.map_eq_some_iff.mp expects
      cases same
      exact ⟨ticket, held, expected _ named⟩
    | assigned expected changes =>
      cases expects
      exact ⟨ticket, held, expected⟩

theorem TakesEffect.served (takes : TakesEffect before request after) : after.served = before.served ++ [request] := by
  cases takes <;> rfl

end

/-- Support ticket versioning. In every state of every interleaving, a ticket has a time
of resolution iff it is resolved or closed; every commit adds one to the version of the
tickets whose status, notes, assignee or messages it changes, leaves the others' alone, and
moves statuses along `ALLOWED_TRANSITIONS`; and a request that expects a version takes
effect only while the ticket says what it said when it had that version. -/
theorem ticket_versions (sound : DeskSound start)
    (reached : System.ReachableWhile (supportService.system start) SupportUndisturbed state) :
    (∀ ticket ∈ state.database.tickets,
        ticket.resolvedAt.isSome = true ↔ ticket.status = .resolved ∨ ticket.status = .closed) ∧
      (∀ action, SupportUndisturbed state action → ∀ key ticket,
        state.database.ticket? key = some ticket →
          ∃ now, (supportService.step state action).database.ticket? key = some now ∧
            VersionKept state.database (supportService.step state action).database ticket now) ∧
      ∀ actions, System.RunWhile (supportService.system start) SupportUndisturbed state actions →
        ∀ action, SupportUndisturbed ((supportService.system start).run state actions) action →
          ∀ request, (supportService.step ((supportService.system start).run state actions)
              action).database.served =
              ((supportService.system start).run state actions).database.served ++ [request] →
            ∀ key version, request.expects = some (key, version) →
              ∀ ticket, state.database.ticket? key = some ticket → ticket.version = version →
                ∃ now, ((supportService.system start).run state actions).database.ticket? key = some now ∧
                  now.version = version ∧
                  ((supportService.system start).run state actions).database.content now =
                    state.database.content ticket := by
  refine ⟨(support_sound sound reached).dated, ?_, ?_⟩
  · exact fun action admitted key ticket held => step_versions sound reached admitted held
  · intro actions admitted action allowed request effect key version expects ticket held same
    have after := reached.run actions admitted
    obtain ⟨now, there, -, content⟩ := run_versions sound reached held actions admitted
    rcases support_step sound after allowed with leaves | ⟨other, takes⟩
    · rw [leaves.served] at effect
      exact absurd (congrArg List.length effect) (by simp)
    · have one : other = request := by
        have both := takes.served.symm.trans effect
        simpa using both
      subst one
      obtain ⟨found, here, expected⟩ := takes.expected expects
      cases there.symm.trans here
      exact ⟨now, there, expected, content (expected.trans same.symm)⟩

/-! ### A ticket resolved once -/

def supportAdmin : User :=
  { id := 8#128, role := .admin, isSuperAdmin := false, isActive := true, isVerified := true }

def lateTicket : SupportTicket :=
  { id := 20#128, userId := villager.id, references := ⟨some 2#128, none, some 5#128⟩
    requesterType := .customer, assignedAdminId := none, idempotencyKey := some 21#128
    subject := "Late", description := "Where is it?", status := .opened, resolutionNotes := none
    version := 0, resolvedAt := none }

def helpDesk : SupportDesk :=
  { marketplace := { household with catalogue.users := [villager, supportAdmin] }
    tickets := [lateTicket] }

theorem helpDesk_sound : DeskSound helpDesk where
  declared := by decide +kernel
  dated := by
    intro ticket listed
    rw [List.mem_singleton.mp listed]
    unfold SupportTicket.Dated
    decide
  created := fun _ _ _ listed => absurd listed List.not_mem_nil

def resolving : SupportRequest :=
  .updateTicket supportAdmin.id lateTicket.id ⟨.resolved, some (some "Delivered"), some 0⟩
    ⟨30#128, 31#128, 1000⟩

/-- The request is about to commit. -/
def resolved : List (ReadCommitted.Action SupportDesk SupportRequest) :=
  .start resolving :: List.replicate 7 (.advance 0)

theorem ticket_versions_resolved :
    ((supportService.system helpDesk).run ⟨helpDesk, []⟩ (resolved ++ [.advance 0])).database.tickets.map
        SupportTicket.version = [1] ∧
      ∃ now, (supportService.step ((supportService.system helpDesk).run ⟨helpDesk, []⟩ resolved)
          (.advance 0)).database.ticket? lateTicket.id = some now ∧
        VersionKept ((supportService.system helpDesk).run ⟨helpDesk, []⟩ resolved).database
          (supportService.step ((supportService.system helpDesk).run ⟨helpDesk, []⟩ resolved)
            (.advance 0)).database lateTicket now := by
  have admitted : System.RunWhile (supportService.system helpDesk) SupportUndisturbed ⟨helpDesk, []⟩ resolved := by
    apply System.RunWhile.of_forall
    intro action listed state
    rcases List.mem_cons.mp listed with rfl | again
    · trivial
    · cases List.eq_of_mem_replicate again
      trivial
  have reached : System.ReachableWhile (supportService.system helpDesk) SupportUndisturbed _ :=
    System.ReachableWhile.initial.run resolved admitted
  have held : ((supportService.system helpDesk).run ⟨helpDesk, []⟩ resolved).database.ticket? lateTicket.id =
      some lateTicket := by decide +kernel
  have version : ((supportService.system helpDesk).run ⟨helpDesk, []⟩
      (resolved ++ [.advance 0])).database.tickets.map SupportTicket.version = [1] := by decide +kernel
  exact And.intro version
    ((ticket_versions helpDesk_sound reached).2.1 (.advance 0) trivial lateTicket.id lateTicket held)

end GaonOne
