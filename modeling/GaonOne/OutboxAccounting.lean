import GaonOne.RestartSafety

/-! The accounts of the outbox over any sequence of flushes. What the devices answered is
folded into one status: a push that was accepted settles the event, a push that failed is
counted and deferred, and tokens that are all stale leave nobody to deliver to. The fold
goes by the text of the last error, and an error without a text is taken for none. -/
namespace GaonOne
open Relational Transitions System

/-! ## One flush -/

/-- What one `deliver_event` meets: the configuration, the provider, and the clock. -/
structure DeliveryAnswers where
  configured : Bool
  /-- Firebase could be initialised. -/
  usable : Bool
  reply : DeviceRegistration → SendReply
  now : Instant

/-- The loop over the devices. -/
def PushRound.run (reply : DeviceRegistration → SendReply) (round : PushRound) :
    List DeviceRegistration → PushRound
  | [] => round
  | device :: rest => (round.turn device rest (reply device)).run reply rest

/-- `deliver_event`: the row it leaves in the session, and the registrations it
deactivates. -/
def Outbox.deliverEvent (outbox : Outbox) (event : NotificationEvent) (answers : DeliveryAnswers) :
    NotificationEvent × List UUID :=
  if answers.configured = false then ({ event with status := .inAppOnly, nextAttemptAt := none }, [])
  else if answers.usable = false then
    (event.defer "FCM is configured but could not be initialised" answers.now, [])
  else
    match outbox.devicesOf event.userId with
    | [] => ({ event with status := .noDevices, nextAttemptAt := none }, [])
    | devices =>
      let round := PushRound.run answers.reply { event, rest := devices } devices
      (round.outcome answers.now, round.stale)

/-- `flush_pending`. -/
def Outbox.flushPending (outbox : Outbox) (limit : Nat) (now : Instant)
    (answers : UUID → DeliveryAnswers) : Outbox :=
  let delivered := (outbox.dueEvents limit now).map fun event =>
    outbox.deliverEvent event (answers event.id)
  outbox.record
    { remaining := [], settled := delivered.map Prod.fst, stale := delivered.flatMap Prod.snd }

/-! ## What is recorded of a flush -/

/-- The token is reported stale. -/
def SendReply.stale : SendReply → Bool
  | sent => false
  | raised error _ => isUnregistered error

/-- The text of any other error. -/
def SendReply.error? : SendReply → Option String
  | sent => none
  | raised error _ => if isUnregistered error then none else some error

/-- A committed delivery of one event. -/
structure PushDelivery where
  eventId : UUID
  configured : Bool
  usable : Bool
  /-- The devices it was sent to, in order, and what came back. -/
  replies : List (DeviceRegistration × SendReply)
  now : Instant

namespace PushDelivery

/-- Some device took the push. -/
def Accepted (delivery : PushDelivery) : Prop := ∃ entry ∈ delivery.replies, entry.2 = .sent

/-- Push is configured and reached nobody, though not for want of a live token. -/
def Failed (delivery : PushDelivery) : Prop :=
  delivery.configured = true ∧ (delivery.usable = false ∨
    delivery.replies ≠ [] ∧ ¬delivery.Accepted ∧ ∃ entry ∈ delivery.replies, entry.2.stale = false)

/-- Nobody took the push, some token was stale, and the last other error has no text. -/
def Misfolded (delivery : PushDelivery) : Prop :=
  ¬delivery.Accepted ∧ (∃ entry ∈ delivery.replies, entry.2.stale = true) ∧
    (delivery.replies.filterMap (·.2.error?)).getLast? = some ""

instance (delivery : PushDelivery) : Decidable delivery.Accepted :=
  inferInstanceAs (Decidable (∃ entry ∈ delivery.replies, entry.2 = .sent))

instance (delivery : PushDelivery) : Decidable delivery.Failed := inferInstanceAs (Decidable (_ ∧ _))

instance (delivery : PushDelivery) : Decidable delivery.Misfolded :=
  inferInstanceAs (Decidable (_ ∧ _))

end PushDelivery

def Outbox.delivery (outbox : Outbox) (event : NotificationEvent) (answers : DeliveryAnswers) :
    PushDelivery where
  eventId := event.id
  configured := answers.configured
  usable := answers.usable
  replies :=
    if answers.configured = true ∧ answers.usable = true then
      (outbox.devicesOf event.userId).map fun device => (device, answers.reply device)
    else []
  now := answers.now

/-- The outbox and its committed deliveries, those of the latest flush first. -/
structure OutboxHistory where
  outbox : Outbox := {}
  log : List PushDelivery := []

inductive FlushAction where
  | enqueue (id : UUID) (createdAt : Instant) (userId : UUID) (eventType title body : String)
      (data : List (String × String))
  | register (devices : List DeviceRegistration)
  | flush (limit : Nat) (now : Instant) (answers : UUID → DeliveryAnswers)

namespace OutboxHistory

/-- The deliveries that an action commits. -/
def delivered (history : OutboxHistory) : FlushAction → List PushDelivery
  | .flush limit now answers =>
    (history.outbox.dueEvents limit now).map fun event =>
      history.outbox.delivery event (answers event.id)
  | _ => []

def step (history : OutboxHistory) (action : FlushAction) : OutboxHistory where
  outbox :=
    match action with
    | .enqueue id createdAt userId eventType title body data =>
      history.outbox.step true (.enqueue id createdAt userId eventType title body data)
    | .register devices =>
      if Unique DeviceRegistration.id devices then history.outbox.step true (.register devices)
      else history.outbox
    | .flush limit now answers => history.outbox.flushPending limit now answers
  log := history.delivered action ++ history.log

/-- Any sequence of flushes, among new events and registrations. -/
def system : System OutboxHistory FlushAction where
  initial := {}
  step := step

/-- The committed deliveries of one event, the latest first. -/
def deliveriesOf (history : OutboxHistory) (id : UUID) : List PushDelivery :=
  belonging PushDelivery.eventId id history.log

/-- No delivery that failed is taken for one whose tokens were all stale. -/
def Folded (history : OutboxHistory) (action : FlushAction) : Prop :=
  ∀ delivery ∈ history.delivered action, ¬delivery.Misfolded

instance (history : OutboxHistory) (action : FlushAction) : Decidable (history.Folded action) :=
  inferInstanceAs (Decidable (∀ delivery ∈ history.delivered action, ¬delivery.Misfolded))

end OutboxHistory

/-! ## The fold over the devices -/

section
variable {round : PushRound} {reply : DeviceRegistration → SendReply}
  {devices : List DeviceRegistration}

theorem PushRound.run_event : (round.run reply devices).event = round.event := by
  induction devices generalizing round with
  | nil => rfl
  | cons device rest ih =>
    rw [PushRound.run, ih]
    unfold PushRound.turn
    split
    · rfl
    · split <;> rfl

theorem PushRound.run_sent : (round.run reply devices).sent = 0 ↔
    round.sent = 0 ∧ ∀ device ∈ devices, reply device ≠ .sent := by
  induction devices generalizing round with
  | nil => simp [PushRound.run]
  | cons device rest ih =>
    rw [PushRound.run, ih]
    cases answer : reply device with
    | sent => simp [PushRound.turn, answer]
    | raised error arrived =>
      have same : (round.turn device rest (.raised error arrived)).sent = round.sent := by
        unfold PushRound.turn
        dsimp only
        split <;> rfl
      simp [same, answer]

theorem PushRound.run_invalid : (round.run reply devices).invalid =
    round.invalid ++ (devices.filter fun device => (reply device).stale).map DeviceRegistration.token := by
  induction devices generalizing round with
  | nil => simp [PushRound.run]
  | cons device rest ih =>
    rw [PushRound.run, ih]
    cases answer : reply device with
    | sent => simp [PushRound.turn, SendReply.stale, answer]
    | raised error arrived =>
      by_cases stale : isUnregistered error = true
      · simp [PushRound.turn, SendReply.stale, answer, stale]
      · simp [PushRound.turn, SendReply.stale, answer, stale]

theorem PushRound.run_lastError : (round.run reply devices).lastError =
    ((devices.filterMap fun device => (reply device).error?).getLast?).getD round.lastError := by
  induction devices generalizing round with
  | nil => rfl
  | cons device rest ih =>
    rw [PushRound.run, ih]
    cases answer : reply device with
    | sent => simp [PushRound.turn, SendReply.error?, answer]
    | raised error arrived =>
      by_cases stale : isUnregistered error = true
      · simp [PushRound.turn, SendReply.error?, answer, stale]
      · simp [PushRound.turn, SendReply.error?, answer, stale, List.getLast?_cons]

theorem PushRound.run_tried : (round.run reply devices).tried = round.tried ++ devices := by
  induction devices generalizing round with
  | nil => simp [PushRound.run]
  | cons device rest ih =>
    rw [PushRound.run, ih]
    have same : (round.turn device rest (reply device)).tried = round.tried ++ [device] := by
      unfold PushRound.turn
      split
      · rfl
      · split <;> rfl
    simp [same]

end

/-! ## One delivery -/

/-- What a delivery makes of its event. -/
inductive Delivered (event : NotificationEvent) (delivery : PushDelivery) : NotificationEvent → Prop where
  | accepted (took : delivery.Accepted) (unfailed : ¬delivery.Failed) : Delivered event delivery
      { event with
        status := .sent, sentAt := some delivery.now, nextAttemptAt := none, lastError := none }
  | deferred (failed : delivery.Failed) (refused : ¬delivery.Accepted) (message : String) :
      Delivered event delivery (event.defer message delivery.now)
  | past (neither : ¬delivery.Accepted ∧ ¬delivery.Failed) (status : NotificationStatus)
      (nobody : status = .noDevices ∨ status = .inAppOnly) :
      Delivered event delivery { event with status, nextAttemptAt := none }

section
variable {outbox : Outbox} {event row : NotificationEvent} {answers : DeliveryAnswers}

theorem not_accepted_nil {delivery : PushDelivery} (none : delivery.replies = []) :
    ¬delivery.Accepted := by
  rintro ⟨entry, member, -⟩
  rw [none] at member
  cases member

/-- The replies of a delivery that got as far as its devices. -/
theorem delivery_replies (outbox : Outbox) (event : NotificationEvent) (configured : answers.configured = true) (usable : answers.usable = true) :
    (outbox.delivery event answers).replies =
      (outbox.devicesOf event.userId).map fun device => (device, answers.reply device) :=
  if_pos ⟨configured, usable⟩

/-- An answer that is no acceptance and no stale token is another error. -/
theorem SendReply.error_of {reply : SendReply} (refused : reply ≠ .sent) (live : reply.stale = false) :
    ∃ error, reply.error? = some error := by
  cases reply with
  | sent => exact absurd rfl refused
  | raised error arrived =>
    have other : isUnregistered error = false := live
    exact ⟨error, by simp [SendReply.error?, other]⟩

theorem SendReply.error_none {reply : SendReply} (stale : reply.stale = true) : reply.error? = none := by
  cases reply with
  | sent => cases stale
  | raised error arrived =>
    have unregistered : isUnregistered error = true := stale
    simp [SendReply.error?, unregistered]

/-- The fold of a round over the devices of its event. -/
theorem outcome_delivered {delivery : PushDelivery} {reply : DeviceRegistration → SendReply}
    {devices : List DeviceRegistration}
    (replies : delivery.replies = devices.map fun device => (device, reply device))
    (configured : delivery.configured = true) (usable : delivery.usable = true) (some : devices ≠ [])
    (folded : ¬delivery.Misfolded) :
    Delivered event delivery
      ((PushRound.run reply { event, rest := devices } devices).outcome delivery.now) := by
  have among (test : SendReply → Prop) : (∃ entry ∈ delivery.replies, test entry.2) ↔
      ∃ device ∈ devices, test (reply device) := by
    simp [replies]
  have accepted : delivery.Accepted ↔ ∃ device ∈ devices, reply device = .sent := among (· = .sent)
  have errors : delivery.replies.filterMap (·.2.error?) =
      devices.filterMap fun device => (reply device).error? := by
    rw [replies, List.filterMap_map]
    rfl
  have sent : (PushRound.run reply { event, rest := devices } devices).sent = 0 ↔
      ∀ device ∈ devices, reply device ≠ .sent := PushRound.run_sent.trans (and_iff_right rfl)
  have invalid : (PushRound.run reply { event, rest := devices } devices).invalid =
      (devices.filter fun device => (reply device).stale).map DeviceRegistration.token :=
    PushRound.run_invalid
  have lastError : (PushRound.run reply { event, rest := devices } devices).lastError =
      ((devices.filterMap fun device => (reply device).error?).getLast?).getD "" :=
    PushRound.run_lastError
  have own : (PushRound.run reply { event, rest := devices } devices).event = event :=
    PushRound.run_event
  unfold PushRound.outcome
  rw [own]
  by_cases took : delivery.Accepted
  · obtain ⟨device, member, answer⟩ := accepted.mp took
    rw [if_pos fun none => sent.mp none device member answer]
    refine .accepted took fun failed => ?_
    rcases failed.2 with off | ⟨-, refused, -⟩
    · rw [usable] at off
      cases off
    · exact refused took
  · have refused : ∀ device ∈ devices, reply device ≠ .sent := fun device member answer =>
      took (accepted.mpr ⟨device, member, answer⟩)
    rw [if_neg (not_not.mpr (sent.mpr refused))]
    by_cases live : ∃ device ∈ devices, (reply device).stale = false
    · have failed : delivery.Failed :=
        ⟨configured, .inr ⟨by simpa [replies] using some, took, (among (·.stale = false)).mpr live⟩⟩
      rw [if_neg]
      · exact .deferred failed took _
      · rintro ⟨stale, empty⟩
        apply folded
        refine ⟨took, (among (·.stale = true)).mpr ?_, ?_⟩
        · rw [invalid] at stale
          simpa using stale
        · obtain ⟨device, member, alive⟩ := live
          obtain ⟨error, text⟩ := SendReply.error_of (refused device member) alive
          have listed : error ∈ devices.filterMap fun device => (reply device).error? :=
            List.mem_filterMap.mpr ⟨device, member, text⟩
          rw [errors]
          rw [lastError] at empty
          cases last : (devices.filterMap fun device => (reply device).error?).getLast? with
          | none =>
            rw [List.getLast?_eq_none_iff.mp last] at listed
            cases listed
          | some error =>
            rw [last] at empty
            exact congrArg Option.some empty
    · have stale : ∀ device ∈ devices, (reply device).stale = true := by
        intro device member
        by_contra alive
        exact live ⟨device, member, by simpa using alive⟩
      rw [if_pos]
      · refine .past ⟨took, fun failed => ?_⟩ .noDevices (.inl rfl)
        rcases failed.2 with off | ⟨-, -, alive⟩
        · rw [usable] at off
          cases off
        · exact live ((among (·.stale = false)).mp alive)
      · constructor
        · rw [invalid, Ne, List.map_eq_nil_iff, List.filter_eq_nil_iff]
          obtain ⟨device, member⟩ := List.exists_mem_of_ne_nil devices some
          exact fun none => none device member (stale device member)
        · have none : (devices.filterMap fun device => (reply device).error?) = [] :=
            List.filterMap_eq_nil_iff.mpr fun device member => SendReply.error_none (stale device member)
          rw [lastError, none]
          rfl

/-- A delivery that is folded right does to its event what its devices answered. -/
theorem deliverEvent_delivered (folded : ¬(outbox.delivery event answers).Misfolded) :
    Delivered event (outbox.delivery event answers) (outbox.deliverEvent event answers).1 := by
  unfold Outbox.deliverEvent
  by_cases unconfigured : answers.configured = false
  · rw [if_pos unconfigured]
    have none : (outbox.delivery event answers).replies = [] := if_neg (by simp [unconfigured])
    refine .past ⟨not_accepted_nil none, fun failed => ?_⟩ .inAppOnly (.inr rfl)
    have configured : answers.configured = true := failed.1
    rw [unconfigured] at configured
    cases configured
  rw [if_neg unconfigured]
  by_cases unusable : answers.usable = false
  · rw [if_pos unusable]
    have none : (outbox.delivery event answers).replies = [] := if_neg (by simp [unusable])
    exact .deferred ⟨by simpa [Outbox.delivery] using unconfigured, .inl unusable⟩
      (not_accepted_nil none) _
  rw [if_neg unusable]
  have on : answers.configured = true := by simpa using unconfigured
  have replies := delivery_replies outbox event on (by simpa using unusable)
  cases devices : outbox.devicesOf event.userId with
  | nil =>
    rw [devices] at replies
    refine .past ⟨not_accepted_nil replies, fun failed => ?_⟩ .noDevices (.inl rfl)
    rcases failed.2 with off | ⟨some, -⟩
    · exact unusable off
    · exact some replies
  | cons first rest =>
    rw [devices] at replies
    dsimp only
    have configured : (outbox.delivery event answers).configured = true := on
    have usable : (outbox.delivery event answers).usable = true := by
      simpa [Outbox.delivery] using unusable
    exact outcome_delivered replies configured usable (List.cons_ne_nil first rest) folded

end

/-! ## The accounts -/

def failures (deliveries : List PushDelivery) : List PushDelivery :=
  deliveries.filter fun delivery => decide delivery.Failed

/-- The back-off after a number of failures, in microseconds. -/
def backoffAfter (failed : Nat) : Nat := BACKOFF_SECONDS.getD (failed - 1) 0 * 1000000

/-- What the columns of an event say of its committed deliveries, the latest first. -/
structure Accounted (deliveries : List PushDelivery) (event : NotificationEvent) : Prop where
  attempts : event.attemptCount = (failures deliveries).length
  bound : event.attemptCount ≤ MAX_DELIVERY_ATTEMPTS
  dead : event.status = .dead ↔ event.attemptCount = MAX_DELIVERY_ATTEMPTS
  sent : event.status = .sent ↔ ∃ delivery ∈ deliveries, delivery.Accepted
  waits : event.status = .pending → ∀ failure, (failures deliveries).head? = some failure →
    event.nextAttemptAt = some (failure.now + backoffAfter event.attemptCount)

section
variable {deliveries : List PushDelivery} {delivery : PushDelivery} {event row : NotificationEvent}

theorem failures_cons (failed : delivery.Failed) :
    failures (delivery :: deliveries) = delivery :: failures deliveries :=
  List.filter_cons_of_pos (decide_eq_true failed)

theorem failures_skip (unfailed : ¬delivery.Failed) :
    failures (delivery :: deliveries) = failures deliveries :=
  List.filter_cons_of_neg (by simpa using unfailed)

/-- One more committed delivery of a pending event. -/
theorem Accounted.next (accounted : Accounted deliveries event) (pending : event.status = .pending)
    (delivered : Delivered event delivery row) : Accounted (delivery :: deliveries) row := by
  have tries : event.attemptCount < MAX_DELIVERY_ATTEMPTS := by
    have differ : event.attemptCount ≠ MAX_DELIVERY_ATTEMPTS := fun most => by
      rw [accounted.dead.mpr most] at pending
      cases pending
    have bound := accounted.bound
    omega
  have untaken : ¬∃ delivery ∈ deliveries, delivery.Accepted := fun taken => by
    rw [accounted.sent.mpr taken] at pending
    cases pending
  have counted := accounted.attempts
  cases delivered with
  | accepted took unfailed =>
    constructor
    · rw [failures_skip unfailed]
      exact counted
    · exact tries.le
    · exact ⟨fun dead => (nomatch dead), fun most => absurd most tries.ne⟩
    · exact ⟨fun _ => ⟨delivery, List.mem_cons_self, took⟩, fun _ => rfl⟩
    · exact fun waiting => nomatch waiting
  | past neither status nobody =>
    constructor
    · rw [failures_skip neither.2]
      exact counted
    · exact tries.le
    · refine ⟨fun dead => ?_, fun most => absurd most tries.ne⟩
      rcases nobody with rfl | rfl <;> cases dead
    · constructor
      · intro sent
        rcases nobody with rfl | rfl <;> cases sent
      · rintro ⟨taken, member, took⟩
        rcases List.mem_cons.mp member with rfl | before
        · exact absurd took neither.1
        · exact absurd ⟨taken, before, took⟩ untaken
    · intro waiting
      rcases nobody with rfl | rfl <;> cases waiting
  | deferred failed refused message =>
    have none : ¬∃ taken ∈ delivery :: deliveries, taken.Accepted := by
      rintro ⟨taken, member, took⟩
      rcases List.mem_cons.mp member with rfl | before
      · exact refused took
      · exact untaken ⟨taken, before, took⟩
    unfold NotificationEvent.defer
    dsimp only
    split
    · next most =>
      constructor
      · rw [failures_cons failed, List.length_cons, ← counted]
      · exact Nat.succ_le_of_lt tries
      · exact ⟨fun _ => le_antisymm (Nat.succ_le_of_lt tries) most, fun _ => rfl⟩
      · exact ⟨fun sent => (nomatch sent), fun taken => absurd taken none⟩
      · exact fun waiting => nomatch waiting
    · next more =>
      constructor
      · rw [failures_cons failed, List.length_cons, ← counted]
      · exact Nat.succ_le_of_lt tries
      · exact ⟨fun dead => (nomatch dead), fun most => absurd most.ge more⟩
      · exact ⟨fun sent => (nomatch sent), fun taken => absurd taken none⟩
      · intro _ failure latest
        rw [failures_cons failed] at latest
        cases latest
        have within : event.attemptCount ≤ BACKOFF_SECONDS.length - 1 := by
          simp only [MAX_DELIVERY_ATTEMPTS, BACKOFF_SECONDS, List.length_cons, List.length_nil] at tries ⊢
          omega
        simp only [NotificationEvent.backoff, backoffAfter, Nat.add_sub_cancel, Nat.min_eq_left within]

end

/-! ## A flush over the whole outbox -/

section
variable {outbox : Outbox} {event : NotificationEvent} {limit : Nat} {now : Instant}
  {answers : UUID → DeliveryAnswers}

theorem Outbox.unique_dueEvents (ids : Unique NotificationEvent.id outbox.events) :
    Unique NotificationEvent.id (outbox.dueEvents limit now) := by
  have selected : Unique NotificationEvent.id
      (outbox.events.filter fun event => event.Due now ∧ event.id ∉ outbox.locked) :=
    ids.sublist (List.filter_sublist.map _)
  have sorted := List.mergeSort_perm
    (outbox.events.filter fun event => decide (event.Due now ∧ event.id ∉ outbox.locked))
    fun left right => decide (left.createdAt ≤ right.createdAt)
  exact ((sorted.map NotificationEvent.id).nodup_iff.mpr selected).sublist
    ((List.take_sublist _ _).map _)

theorem NotificationEvent.defer_id (event : NotificationEvent) (message : String) (now : Instant) :
    (event.defer message now).id = event.id := by
  unfold defer
  dsimp only
  split <;> rfl

theorem PushRound.outcome_id (round : PushRound) (now : Instant) :
    (round.outcome now).id = round.event.id := by
  unfold outcome
  split
  · rfl
  split
  · rfl
  · exact NotificationEvent.defer_id ..

theorem Outbox.deliverEvent_id (outbox : Outbox) (event : NotificationEvent)
    (answers : DeliveryAnswers) : (outbox.deliverEvent event answers).1.id = event.id := by
  unfold deliverEvent
  split
  · rfl
  split
  · exact NotificationEvent.defer_id ..
  split
  · rfl
  · exact (PushRound.outcome_id ..).trans (congrArg NotificationEvent.id PushRound.run_event)

theorem lookup_map {ρ κ : Type*} [DecidableEq κ] {col : ρ → κ} {set : ρ → ρ}
    (keeps : ∀ row, col (set row) = col row) (value : κ) (rows : List ρ) :
    lookup col value (rows.map set) = (lookup col value rows).map set := by
  have same : ((fun row => decide (col row = value)) ∘ set) = fun row => decide (col row = value) := by
    funext row
    rw [Function.comp_apply, keeps]
  rw [lookup, List.find?_map, same, lookup]

/-- What a flush makes of one row: delivered when it was due, and left alone otherwise. -/
theorem Outbox.flushed_row (ids : Unique NotificationEvent.id outbox.events)
    (listed : event ∈ outbox.events) :
    tracked NotificationEvent.id event (((outbox.dueEvents limit now).map fun event =>
        outbox.deliverEvent event (answers event.id)).map Prod.fst) =
      if event ∈ outbox.dueEvents limit now then (outbox.deliverEvent event (answers event.id)).1
      else event := by
  have keeps : ∀ event : NotificationEvent, ((Prod.fst ∘ fun event : NotificationEvent =>
      outbox.deliverEvent event (answers event.id)) event).id = event.id :=
    fun event => outbox.deliverEvent_id event (answers event.id)
  rw [List.map_map, tracked, lookup_map keeps]
  cases found : lookup NotificationEvent.id event.id (outbox.dueEvents limit now) with
  | none =>
    have absent := fun member => lookup_eq_none_iff.mp found event member rfl
    rw [if_neg absent]
    rfl
  | some other =>
    have member := lookup_mem found
    have same := unique_eq ids (mem_dueEvents member).1 listed (lookup_col found)
    subst same
    rw [if_pos member]
    rfl

/-- The deliveries a flush commits for one event. -/
theorem OutboxHistory.delivered_belonging {history : OutboxHistory}
    (ids : Unique NotificationEvent.id history.outbox.events) (listed : event ∈ history.outbox.events) :
    belonging PushDelivery.eventId event.id (history.delivered (.flush limit now answers)) =
      if event ∈ history.outbox.dueEvents limit now then
        [history.outbox.delivery event (answers event.id)] else [] := by
  have kept : belonging PushDelivery.eventId event.id (history.delivered (.flush limit now answers)) =
      (belonging NotificationEvent.id event.id (history.outbox.dueEvents limit now)).map fun event =>
        history.outbox.delivery event (answers event.id) := by
    simp only [belonging, OutboxHistory.delivered, List.filter_map]
    rfl
  rw [kept, belonging_eq_toList (Outbox.unique_dueEvents ids)]
  cases found : lookup NotificationEvent.id event.id (history.outbox.dueEvents limit now) with
  | none =>
    have absent := fun member => lookup_eq_none_iff.mp found event member rfl
    rw [if_neg absent]
    rfl
  | some other =>
    have member := lookup_mem found
    have same := unique_eq ids (Outbox.mem_dueEvents member).1 listed (lookup_col found)
    subst same
    rw [if_pos member]
    rfl

end

/-! ## Runs -/

/-- The keys of the tables, and that every delivery is of a row. -/
structure OutboxHistory.Keyed (history : OutboxHistory) : Prop where
  ids : Unique NotificationEvent.id history.outbox.events
  devices : Unique DeviceRegistration.id history.outbox.devices
  known : ∀ delivery ∈ history.log, ∃ event ∈ history.outbox.events, event.id = delivery.eventId

def OutboxHistory.AllAccounted (history : OutboxHistory) : Prop :=
  ∀ event ∈ history.outbox.events, Accounted (history.deliveriesOf event.id) event

section
variable {history : OutboxHistory}

theorem OutboxHistory.Keyed.step (keyed : history.Keyed) (action : FlushAction) :
    (history.step action).Keyed := by
  cases action with
  | enqueue key createdAt userId eventType title body data =>
    unfold OutboxHistory.step OutboxHistory.delivered Outbox.step
    dsimp only
    split
    · exact keyed
    · next absent =>
      have new : lookup NotificationEvent.id key history.outbox.events = none := by simpa using absent
      refine ⟨unique_append.mpr ⟨keyed.ids, lookup_eq_none_iff.mp new⟩, keyed.devices, ?_⟩
      intro delivery logged
      obtain ⟨event, listed, same⟩ := keyed.known delivery logged
      exact ⟨event, List.mem_append_left _ listed, same⟩
  | register devices =>
    unfold OutboxHistory.step OutboxHistory.delivered Outbox.step
    dsimp only
    split
    · next ids =>
      split
      · exact ⟨keyed.ids, ids, keyed.known⟩
      · exact keyed
    · exact keyed
  | flush limit now answers =>
    refine ⟨unique_map (tracked_id · _) keyed.ids, ?_, ?_⟩
    · refine unique_map (fun device => ?_) keyed.devices
      split <;> rfl
    · intro delivery logged
      have kept : ∀ event ∈ history.outbox.events,
          ∃ later ∈ (history.step (.flush limit now answers)).outbox.events, later.id = event.id :=
        fun event listed => ⟨_, List.mem_map_of_mem listed, tracked_id ..⟩
      rcases List.mem_append.mp logged with new | before
      · obtain ⟨event, selected, rfl⟩ := List.mem_map.mp new
        exact kept event (Outbox.mem_dueEvents selected).1
      · obtain ⟨event, listed, same⟩ := keyed.known delivery before
        obtain ⟨later, there, own⟩ := kept event listed
        exact ⟨later, there, own.trans same⟩

theorem reachable_keyed (reached : Reachable OutboxHistory.system history) : history.Keyed := by
  refine reached.invariant ?_ fun history action keyed => keyed.step action
  exact ⟨List.nodup_nil, List.nodup_nil, fun _ logged => nomatch logged⟩

/-- A new event has no deliveries. -/
theorem Accounted.fresh (event : NotificationEvent) (pending : event.status = .pending)
    (untried : event.attemptCount = 0) : Accounted [] event := by
  constructor
  · exact untried
  · rw [untried]
    exact Nat.zero_le _
  · rw [pending, untried]
    exact ⟨fun dead => (nomatch dead), fun most => (nomatch most)⟩
  · rw [pending]
    refine ⟨fun sent => (nomatch sent), ?_⟩
    rintro ⟨_, member, -⟩
    cases member
  · exact fun _ _ latest => nomatch latest

theorem OutboxHistory.Keyed.accounted (keyed : history.Keyed) (accounted : history.AllAccounted)
    (action : FlushAction) (folded : history.Folded action) :
    (history.step action).AllAccounted := by
  cases action with
  | enqueue key createdAt userId eventType title body data =>
    unfold OutboxHistory.step OutboxHistory.delivered Outbox.step
    dsimp only
    split
    · exact accounted
    · next absent =>
      have new : lookup NotificationEvent.id key history.outbox.events = none := by simpa using absent
      intro event listed
      rcases List.mem_append.mp listed with before | last
      · exact accounted event before
      · rw [List.mem_singleton.mp last]
        have none : history.deliveriesOf key = [] := by
          refine List.filter_eq_nil_iff.mpr fun delivery logged => ?_
          obtain ⟨event, inside, same⟩ := keyed.known delivery logged
          have differ := lookup_eq_none_iff.mp new event inside
          simpa [← same] using differ
        have fresh := Accounted.fresh
          (enqueueNotification key createdAt userId eventType title body data) rfl rfl
        rw [← none] at fresh
        exact fresh
  | register devices =>
    unfold OutboxHistory.step OutboxHistory.delivered Outbox.step
    dsimp only
    split
    · split <;> exact accounted
    · exact accounted
  | flush limit now answers =>
    intro later written
    obtain ⟨event, listed, rfl⟩ := List.mem_map.mp written
    have before := accounted event listed
    have deliveries : (history.step (.flush limit now answers)).deliveriesOf
        (tracked NotificationEvent.id event (((history.outbox.dueEvents limit now).map fun event =>
          history.outbox.deliverEvent event (answers event.id)).map Prod.fst)).id =
        (if event ∈ history.outbox.dueEvents limit now then
          [history.outbox.delivery event (answers event.id)] else []) ++
          history.deliveriesOf event.id := by
      rw [tracked_id, ← delivered_belonging keyed.ids listed]
      exact List.filter_append ..
    rw [deliveries, Outbox.flushed_row keyed.ids listed]
    by_cases selected : event ∈ history.outbox.dueEvents limit now
    · rw [if_pos selected, if_pos selected]
      have pending : event.status = .pending := (Outbox.mem_dueEvents selected).2.1.1
      exact before.next pending (deliverEvent_delivered (folded _ (List.mem_map_of_mem selected)))
    · rw [if_neg selected, if_neg selected]
      exact before

theorem reachable_accounted
    (reached : ReachableWhile OutboxHistory.system OutboxHistory.Folded history) :
    history.AllAccounted := by
  refine reached.invariant_given ?_ (fun _ => reachable_keyed) ?_
  · exact fun _ listed => nomatch listed
  · exact fun history action keyed accounted folded => keyed.accounted accounted action folded

/-! ## What no flush touches -/

/-- An event that is not pending is left alone, whatever the flush. -/
theorem OutboxHistory.keeps_settled (ids : Unique NotificationEvent.id history.outbox.events)
    {event : NotificationEvent} (listed : event ∈ history.outbox.events)
    (settled : event.status ≠ .pending) (action : FlushAction) :
    event ∈ (history.step action).outbox.events := by
  cases action with
  | enqueue key createdAt userId eventType title body data =>
    unfold OutboxHistory.step Outbox.step
    dsimp only
    split
    · exact listed
    · exact List.mem_append_left _ listed
  | register devices =>
    unfold OutboxHistory.step Outbox.step
    dsimp only
    split
    · split <;> exact listed
    · exact listed
  | flush limit now answers =>
    have unselected : event ∉ history.outbox.dueEvents limit now :=
      fun selected => settled (Outbox.mem_dueEvents selected).2.1.1
    have written : tracked NotificationEvent.id event (((history.outbox.dueEvents limit now).map
        fun event => history.outbox.deliverEvent event (answers event.id)).map Prod.fst) ∈
        (history.step (.flush limit now answers)).outbox.events := List.mem_map_of_mem listed
    rwa [Outbox.flushed_row ids listed, if_neg unselected] at written

/-- A delivery deactivates a device only for a token that was reported stale. -/
theorem Outbox.deliverEvent_stale {outbox : Outbox} {event : NotificationEvent}
    {answers : DeliveryAnswers} (stale : key ∈ (outbox.deliverEvent event answers).2) :
    ∃ device ∈ outbox.devices, device.id = key ∧ ∃ entry ∈ (outbox.delivery event answers).replies,
      entry.1.token = device.token ∧ entry.2.stale = true := by
  unfold deliverEvent at stale
  split at stale
  · cases stale
  next configured =>
  split at stale
  · cases stale
  next usable =>
  split at stale
  · cases stale
  · obtain ⟨device, tried, rfl⟩ := List.mem_map.mp stale
    obtain ⟨tried, reported⟩ := List.mem_filter.mp tried
    rw [PushRound.run_tried] at tried
    rw [decide_eq_true_eq, PushRound.run_invalid] at reported
    obtain ⟨other, listed, same⟩ := List.mem_map.mp reported
    obtain ⟨listed, answer⟩ := List.mem_filter.mp listed
    refine ⟨device, (List.mem_filter.mp tried).1, rfl, (other, answers.reply other), ?_, same, answer⟩
    rw [delivery_replies outbox event (by simpa using configured) (by simpa using usable)]
    exact List.mem_map_of_mem listed

theorem OutboxHistory.stale_reported (ids : Unique DeviceRegistration.id history.outbox.devices)
    {limit : Nat} {now : Instant} {answers : UUID → DeliveryAnswers} {device later : DeviceRegistration}
    (listed : device ∈ history.outbox.devices) (active : device.isActive = true)
    (written : later ∈ (history.step (.flush limit now answers)).outbox.devices)
    (same : later.id = device.id) (inactive : later.isActive = false) :
    ∃ delivery ∈ history.delivered (.flush limit now answers), ∃ entry ∈ delivery.replies,
      entry.1.token = device.token ∧ entry.2.stale = true := by
  obtain ⟨before, inside, rfl⟩ := List.mem_map.mp written
  have own : before.id = device.id := by
    rw [← same]
    split <;> rfl
  have sole := unique_eq ids inside listed own
  subst sole
  split at inactive
  · next stale =>
    obtain ⟨pair, delivered, among⟩ := List.mem_flatMap.mp stale
    obtain ⟨event, selected, rfl⟩ := List.mem_map.mp delivered
    obtain ⟨reported, held, agree, entry, member, token, answer⟩ := Outbox.deliverEvent_stale among
    have one := unique_eq ids held inside agree
    subst one
    exact ⟨_, List.mem_map_of_mem selected, entry, member, token, answer⟩
  · rw [active] at inactive
    cases inactive

/-- The outbox keeps its accounts in every run in which no failed delivery is taken for
one whose tokens were all stale: the attempts are the failed deliveries, at most six, and
dead means six; sent means that a device took the push; what is not pending is never
selected nor changed again; what failed waits its time out; and a flush deactivates a
device only for a token reported stale. -/
theorem outbox_accounts_hold
    (reached : ReachableWhile OutboxHistory.system OutboxHistory.Folded history) :
    (∀ event ∈ history.outbox.events, Accounted (history.deliveriesOf event.id) event) ∧
    (∀ event ∈ history.outbox.events, event.status ≠ .pending →
      (∀ limit now, event ∉ history.outbox.dueEvents limit now) ∧
        ∀ actions, event ∈ (OutboxHistory.system.run history actions).outbox.events) ∧
    (∀ limit now, ∀ event ∈ history.outbox.dueEvents limit now,
      ∀ failure, (failures (history.deliveriesOf event.id)).head? = some failure →
        failure.now + backoffAfter event.attemptCount ≤ now) ∧
    ∀ limit now answers, ∀ device ∈ history.outbox.devices, device.isActive = true →
      ∀ later ∈ (history.step (.flush limit now answers)).outbox.devices, later.id = device.id →
        later.isActive = false →
        ∃ delivery ∈ history.delivered (.flush limit now answers), ∃ entry ∈ delivery.replies,
          entry.1.token = device.token ∧ entry.2.stale = true := by
  have keyed := reachable_keyed reached.reachable
  refine ⟨reachable_accounted reached, ?_, ?_, ?_⟩
  · intro event listed settled
    refine ⟨fun limit now selected => settled (Outbox.mem_dueEvents selected).2.1.1, fun actions => ?_⟩
    refine ReachableWhile.persists (P := fun history => event ∈ history.outbox.events)
      reached.reachable listed ?_ actions (RunWhile.of_forall (fun _ _ _ => trivial) _)
    intro history action between held _
    exact OutboxHistory.keeps_settled (reachable_keyed between).ids held settled action
  · intro limit now event selected failure latest
    obtain ⟨listed, ⟨pending, due⟩, -⟩ := Outbox.mem_dueEvents selected
    have past : ∀ instant, event.nextAttemptAt = some instant → instant ≤ now := by
      intro instant waits
      rw [waits] at due
      simpa using due
    exact past _ ((reachable_accounted reached event listed).waits pending failure latest)
  · intro limit now answers device listed active later written same inactive
    exact OutboxHistory.stale_reported keyed.devices listed active written same inactive

end

/-! ## The same flush, step by step -/

/-- The steps of a worker that delivers one event. -/
def deliverySteps (outbox : Outbox) (index : Nat) (event : NotificationEvent)
    (answers : DeliveryAnswers) : List OutboxAction :=
  .next index answers.usable answers.now ::
    if answers.configured = true ∧ answers.usable = true ∧ outbox.devicesOf event.userId ≠ [] then
      (outbox.devicesOf event.userId).map (fun device => .send index (answers.reply device)) ++
        [.settle index answers.now]
    else []

section
variable {configured : Bool} {outbox : Outbox} {index : Nat} {remaining settled : List NotificationEvent}
  {stale : List UUID}

/-- What a worker's own steps leave alone, and the flush they lead to. -/
structure Outbox.LeadsTo (configured : Bool) (outbox : Outbox) (index : Nat)
    (steps : List OutboxAction) (flush : Flush) : Prop where
  events : ((Outbox.system configured).run outbox steps).events = outbox.events
  devices : ((Outbox.system configured).run outbox steps).devices = outbox.devices
  flush : ((Outbox.system configured).run outbox steps).flush? index = some flush

theorem Outbox.LeadsTo.append {first second : List OutboxAction} {middle last : Flush}
    (leads : outbox.LeadsTo configured index first middle)
    (next : ((Outbox.system configured).run outbox first).LeadsTo configured index second last) :
    outbox.LeadsTo configured index (first ++ second) last := by
  constructor
  · rw [run_append, next.events, leads.events]
  · rw [run_append, next.devices, leads.devices]
  · rw [run_append, next.flush]

theorem Outbox.sends_lead (configured : Bool) (reply : DeviceRegistration → SendReply) (devices : List DeviceRegistration)
    {round : PushRound} (rest : round.rest = devices)
    (held : outbox.flush? index = some ⟨remaining, some round, settled, stale⟩) :
    outbox.LeadsTo configured index (devices.map fun device => .send index (reply device))
      ⟨remaining, some (round.run reply devices), settled, stale⟩ ∧
      (round.run reply devices).rest = [] := by
  induction devices generalizing outbox round with
  | nil => exact ⟨⟨rfl, rfl, held⟩, rest⟩
  | cons device others ih =>
    have turned : (round.turn device others (reply device)).rest = others := by
      unfold PushRound.turn
      split
      · rfl
      · split <;> rfl
    have step : ∃ pushes, (Outbox.system configured).step outbox (.send index (reply device)) =
        { outbox.setFlush index
          (some ⟨remaining, some (round.turn device others (reply device)), settled, stale⟩) with
          pushes } := by
      simp only [Outbox.system, Outbox.step, held, rest]
      split
      · exact ⟨_, rfl⟩
      · exact ⟨_, rfl⟩
    obtain ⟨pushes, step⟩ := step
    have after : ((Outbox.system configured).step outbox (.send index (reply device))).flush? index =
        some ⟨remaining, some (round.turn device others (reply device)), settled, stale⟩ := by
      rw [step]
      exact (Outbox.flush?_setFlush held _ index).trans (if_pos rfl)
    obtain ⟨leads, done⟩ := ih turned after
    refine ⟨⟨?_, ?_, leads.flush⟩, done⟩
    · exact leads.events.trans (by rw [step]; rfl)
    · exact leads.devices.trans (by rw [step]; rfl)

/-- A first step of a worker, and where the others lead from there. -/
theorem Outbox.LeadsTo.cons {action : OutboxAction} {steps : List OutboxAction} {first last : Flush}
    (held : outbox.flush? index = some old)
    (step : (Outbox.system configured).step outbox action = outbox.setFlush index (some first))
    (next : ∀ after : Outbox, after.events = outbox.events → after.devices = outbox.devices →
      after.flush? index = some first → after.LeadsTo configured index steps last) :
    outbox.LeadsTo configured index (action :: steps) last := by
  have begun : ((Outbox.system configured).step outbox action).flush? index = some first := by
    rw [step]
    exact (Outbox.flush?_setFlush held _ index).trans (if_pos rfl)
  have events : ((Outbox.system configured).step outbox action).events = outbox.events := by
    rw [step]
    rfl
  have devices : ((Outbox.system configured).step outbox action).devices = outbox.devices := by
    rw [step]
    rfl
  have rest := next _ events devices begun
  exact ⟨rest.events.trans events, rest.devices.trans devices, rest.flush⟩

theorem Outbox.LeadsTo.nil {flush : Flush} (held : outbox.flush? index = some flush) :
    outbox.LeadsTo configured index [] flush := ⟨rfl, rfl, held⟩

theorem Outbox.step_settle {round : PushRound}
    (held : outbox.flush? index = some ⟨remaining, some round, settled, stale⟩) (done : round.rest = [])
    (now : Instant) : (Outbox.system configured).step outbox (.settle index now) = outbox.setFlush index
      (some ⟨remaining, none, settled ++ [round.outcome now], stale ++ round.stale⟩) := by
  simp only [Outbox.system, Outbox.step, held, done, if_true]

theorem Outbox.step_commit (held : outbox.flush? index = some ⟨[], none, settled, stale⟩) :
    (Outbox.system configured).step outbox (.commit index) =
      (outbox.record ⟨[], none, settled, stale⟩).setFlush index none := by
  simp only [Outbox.system, Outbox.step, held]

/-- A worker that delivers one event undisturbed does what `deliver_event` does. -/
theorem Outbox.delivery_leads {source : Outbox} {event : NotificationEvent} {answers : DeliveryAnswers}
    (same : answers.configured = configured) (devices : outbox.devices = source.devices)
    (held : outbox.flush? index = some ⟨event :: remaining, none, settled, stale⟩) :
    outbox.LeadsTo configured index (deliverySteps source index event answers)
      ⟨remaining, none, settled ++ [(source.deliverEvent event answers).1],
        stale ++ (source.deliverEvent event answers).2⟩ := by
  subst same
  have step : (Outbox.system answers.configured).step outbox (.next index answers.usable answers.now) =
      outbox.setFlush index (some (outbox.begin answers.configured
        ⟨event :: remaining, none, settled, stale⟩ event remaining answers.usable answers.now)) := by
    simp only [Outbox.system, Outbox.step, held]
  have own : outbox.devicesOf event.userId = source.devicesOf event.userId := by
    rw [Outbox.devicesOf, devices, Outbox.devicesOf]
  unfold deliverySteps Outbox.deliverEvent
  unfold Outbox.begin at step
  rw [own] at step
  refine .cons held step fun after _ _ begun => ?_
  by_cases unconfigured : answers.configured = false
  · simp only [unconfigured, if_true, Bool.false_eq_true, false_and, if_false, List.append_nil]
      at begun ⊢
    exact .nil begun
  by_cases unusable : answers.usable = false
  · have on : answers.configured = true := by simpa using unconfigured
    simp only [on, unusable, if_true, Bool.false_eq_true, Bool.true_eq_false, false_and, and_false,
      if_false, List.append_nil] at begun ⊢
    exact .nil begun
  have on : answers.configured = true := by simpa using unconfigured
  have usable : answers.usable = true := by simpa using unusable
  cases listed : source.devicesOf event.userId with
  | nil =>
    simp only [on, usable, listed, Bool.true_eq_false, if_false, ne_eq, not_true_eq_false, and_false,
      List.append_nil] at begun ⊢
    exact .nil begun
  | cons first rest =>
    simp only [on, usable, listed, Bool.true_eq_false, if_false, ne_eq, reduceCtorEq, not_false_eq_true,
      and_self, if_true] at begun ⊢
    obtain ⟨leads, done⟩ := Outbox.sends_lead answers.configured answers.reply (first :: rest) rfl begun
    rw [on] at leads
    exact leads.append (.cons leads.flush (Outbox.step_settle leads.flush done answers.now)
      fun after _ _ ended => .nil ended)

theorem Outbox.deliveries_lead (source : Outbox) {answers : UUID → DeliveryAnswers}
    (same : ∀ key, (answers key).configured = configured) {events : List NotificationEvent}
    (devices : outbox.devices = source.devices)
    (held : outbox.flush? index = some ⟨events, none, settled, stale⟩) :
    outbox.LeadsTo configured index
      (events.flatMap fun event => deliverySteps source index event (answers event.id))
      ⟨[], none,
        settled ++ (events.map fun event => source.deliverEvent event (answers event.id)).map Prod.fst,
        stale ++ (events.map fun event => source.deliverEvent event (answers event.id)).flatMap Prod.snd⟩ := by
  induction events generalizing outbox settled stale with
  | nil =>
    simp only [List.flatMap_nil, List.map_nil, List.append_nil]
    exact .nil held
  | cons event rest ih =>
    have first := Outbox.delivery_leads (same event.id) devices held
    have later := ih (first.devices.trans devices) first.flush
    simp only [List.append_assoc] at later
    exact first.append later

/-- A flush that nobody disturbs, step by step: claim, deliver each event, commit. -/
def flushSteps (outbox : Outbox) (limit : Nat) (now : Instant) (answers : UUID → DeliveryAnswers) :
    List OutboxAction :=
  .start limit now ::
    ((outbox.dueEvents limit now).flatMap fun event =>
      deliverySteps outbox outbox.flushes.length event (answers event.id)) ++
    [.commit outbox.flushes.length]

/-- A worker that flushes alone writes what `flush_pending` writes. -/
theorem flush_alone (outbox : Outbox) (limit : Nat) (now : Instant)
    (answers : UUID → DeliveryAnswers) (same : ∀ key, (answers key).configured = configured) :
    ((Outbox.system configured).run outbox (flushSteps outbox limit now answers)).events =
        (outbox.flushPending limit now answers).events ∧
      ((Outbox.system configured).run outbox (flushSteps outbox limit now answers)).devices =
        (outbox.flushPending limit now answers).devices := by
  have begun : (outbox.step configured (.start limit now)).flush? outbox.flushes.length =
      some ⟨outbox.dueEvents limit now, none, [], []⟩ := by
    rw [outbox.flush?_start, if_pos rfl]
  have unchanged : (outbox.step configured (.start limit now)).devices = outbox.devices := rfl
  have leads := Outbox.deliveries_lead outbox same unchanged begun
  have run : (Outbox.system configured).run outbox (flushSteps outbox limit now answers) =
      (Outbox.system configured).step ((Outbox.system configured).run
        (outbox.step configured (.start limit now))
        ((outbox.dueEvents limit now).flatMap fun event =>
          deliverySteps outbox outbox.flushes.length event (answers event.id)))
        (.commit outbox.flushes.length) := by
    simp only [flushSteps, System.run, List.cons_append, List.foldl_cons, List.foldl_append,
      List.foldl_nil]
    rfl
  rw [run]
  obtain ⟨events, devices, ended⟩ := leads
  generalize (Outbox.system configured).run (outbox.step configured (.start limit now)) _ = last
    at events devices ended ⊢
  rw [Outbox.step_commit ended]
  simp only [List.nil_append, Outbox.setFlush, Outbox.record]
  rw [events, devices]
  exact ⟨rfl, rfl⟩

end

/-! ## One event, two devices -/

/-- A user with a tablet and a phone, and an event for her. -/
def twoDevices : List FlushAction :=
  [.register [⟨1#128, 2#128, "tablet", true⟩, ⟨4#128, 2#128, "phone", true⟩],
    .enqueue 3#128 0 2#128 "order.accepted" "Order accepted" "The store accepted your order." []]

/-- The tablet's token is stale, and sending to the phone raises an error with this text. -/
def phoneRaises (text : String) (now : Instant) : FlushAction :=
  .flush 100 now fun _ =>
    { configured := true
      usable := true
      reply := fun device =>
        if device.id = 1#128 then .raised "not found" false else .raised text false
      now }

theorem outbox_accounts_hold_quota :
    let history := OutboxHistory.system.run {} (twoDevices ++ [phoneRaises "quota" 0])
    (history.outbox.events.map fun event => (event.status, event.attemptCount)) = [(.pending, 1)] ∧
      ∀ event ∈ history.outbox.events, Accounted (history.deliveriesOf event.id) event := by
  intro history
  have folded : RunWhile OutboxHistory.system OutboxHistory.Folded {}
      (twoDevices ++ [phoneRaises "quota" 0]) := by decide +kernel
  exact ⟨by decide +kernel, (outbox_accounts_hold (ReachableWhile.initial.run _ folded)).1⟩

/-- The error has no text: the event is put away as if nobody were left to deliver to,
and the delivery that failed is not counted. -/
theorem outbox_failure_dropped :
    ¬∀ history, Reachable OutboxHistory.system history → ∀ event ∈ history.outbox.events,
      event.attemptCount = (failures (history.deliveriesOf event.id)).length := by
  intro counted
  have uncounted : ∃ event ∈
      (OutboxHistory.system.run {} (twoDevices ++ [phoneRaises "" 0])).outbox.events,
      event.status = .noDevices ∧ event.attemptCount ≠ (failures ((OutboxHistory.system.run {}
        (twoDevices ++ [phoneRaises "" 0])).deliveriesOf event.id)).length := by decide +kernel
  obtain ⟨event, listed, -, differ⟩ := uncounted
  exact differ (counted _ (Reachable.run ReachableWhile.initial _) event listed)

end GaonOne
