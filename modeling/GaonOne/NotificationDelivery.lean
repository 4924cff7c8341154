import GaonOne.Library.Relational
import GaonOne.Library.Text
import GaonOne.Library.Transitions
import GaonOne.Notifications
import Mathlib.Data.List.Infix

/-! Push delivery for the notification outbox, with any number of workers. A flush locks
the events it is to deliver, pushes each to its devices, and commits once at the end: the
pushes are out before what they were for is recorded. -/
namespace GaonOne
open Relational Transitions

def MAX_DELIVERY_ATTEMPTS : Nat := 6

/-- Backoff per attempt, capped. -/
def BACKOFF_SECONDS : List Nat := [30, 120, 600, 1800, 3600, 7200]

structure DeviceRegistration where
  id : UUID
  userId : UUID
  token : String
  isActive : Bool
  deriving DecidableEq

/-- How `messaging.send` ends: an exception may come after the push has arrived. -/
inductive SendReply where
  | sent
  | raised (error : String) (arrived : Bool)
  deriving DecidableEq

/-- `needle in text.lower()`, for an ASCII text. -/
def mentions (text needle : String) : Bool := decide (needle.toList <:+: Text.lower text)

/-- A provider error that says the token is stale. -/
def isUnregistered (error : String) : Bool :=
  mentions error "registration-token-not-registered" || mentions error "not found" ||
    mentions error "unregistered"

/-! ## One event -/

namespace NotificationEvent

/-- `_backoff`. -/
def backoff (attemptCount : Nat) (now : Instant) : Instant :=
  now + BACKOFF_SECONDS.getD (min (attemptCount - 1) (BACKOFF_SECONDS.length - 1)) 0 * 1000000

/-- `_defer`: keep the event pending with backoff, or retire it after enough tries. -/
def defer (event : NotificationEvent) (message : String) (now : Instant) : NotificationEvent :=
  let attemptCount := event.attemptCount + 1
  let lastError := some (Text.cut 300 message)
  if MAX_DELIVERY_ATTEMPTS ≤ attemptCount then
    { event with attemptCount, lastError, status := .dead, nextAttemptAt := none }
  else
    { event with
      attemptCount, lastError, status := .pending, nextAttemptAt := some (backoff attemptCount now) }

/-- The condition `due_events` selects by. -/
def Due (event : NotificationEvent) (now : Instant) : Prop :=
  event.status = .pending ∧ event.nextAttemptAt.all (· ≤ now) = true

instance (event : NotificationEvent) (now : Instant) : Decidable (event.Due now) :=
  inferInstanceAs (Decidable (_ ∧ _))

/-- What an event says, which no delivery changes. -/
structure SameNotice (event now : NotificationEvent) : Prop where
  id : now.id = event.id
  userId : now.userId = event.userId
  eventType : now.eventType = event.eventType
  title : now.title = event.title
  body : now.body = event.body
  data : now.data = event.data
  createdAt : now.createdAt = event.createdAt

end NotificationEvent

/-- The loop of `deliver_event` over the devices of one user. -/
structure PushRound where
  event : NotificationEvent
  tried : List DeviceRegistration := []
  rest : List DeviceRegistration
  sent : Nat := 0
  invalid : List String := []
  lastError : String := ""
  deriving DecidableEq

namespace PushRound

/-- One turn of the loop. -/
def turn (round : PushRound) (device : DeviceRegistration) (rest : List DeviceRegistration) :
    SendReply → PushRound
  | .sent => { round with tried := round.tried ++ [device], rest, sent := round.sent + 1 }
  | .raised error _ =>
    if isUnregistered error then
      { round with tried := round.tried ++ [device], rest, invalid := round.invalid ++ [device.token] }
    else { round with tried := round.tried ++ [device], rest, lastError := error }

/-- What the loop makes of the event. -/
def outcome (round : PushRound) (now : Instant) : NotificationEvent :=
  if round.sent ≠ 0 then
    { round.event with status := .sent, sentAt := some now, nextAttemptAt := none, lastError := none }
  else if round.invalid ≠ [] ∧ round.lastError = "" then
    -- every token was stale: there is nobody left to deliver to
    { round.event with status := .noDevices, nextAttemptAt := none }
  else
    round.event.defer
      (if round.lastError = "" then "No push could be delivered to any registered device" else round.lastError)
      now

/-- The registrations `is_active = False` is written to. -/
def stale (round : PushRound) : List UUID :=
  (round.tried.filter fun device => device.token ∈ round.invalid).map DeviceRegistration.id

end PushRound

/-! ## Flushes -/

/-- A `flush_pending` under way: the events it has locked, and what it will write. -/
structure Flush where
  remaining : List NotificationEvent
  round : Option PushRound := none
  settled : List NotificationEvent := []
  stale : List UUID := []
  deriving DecidableEq

/-- The rows a flush has locked. -/
def Flush.claims (flush : Flush) : List UUID :=
  (flush.remaining ++ flush.round.toList.map PushRound.event ++ flush.settled).map NotificationEvent.id

structure Outbox where
  events : List NotificationEvent := []
  devices : List DeviceRegistration := []
  /-- Each worker's or admin's flush, in the order they began; `none` once it has ended. -/
  flushes : List (Option Flush) := []
  /-- The pushes that reached a device: the event and the token. No table records them. -/
  pushes : List (UUID × String) := []
  deriving DecidableEq

inductive OutboxAction where
  /-- `enqueue_notification`, committed. -/
  | enqueue (id : UUID) (createdAt : Instant) (userId : UUID) (eventType title body : String)
      (data : List (String × String))
  /-- A commit of the registration endpoints. -/
  | register (devices : List DeviceRegistration)
  /-- A flush begins: `due_events` with `FOR UPDATE SKIP LOCKED`. -/
  | start (limit : Nat) (now : Instant)
  /-- `deliver_event` of the next event; `usable` where Firebase could be initialised. -/
  | next (index : Nat) (usable : Bool) (now : Instant)
  /-- One `messaging.send`. -/
  | send (index : Nat) (reply : SendReply)
  /-- After the last device. -/
  | settle (index : Nat) (now : Instant)
  | commit (index : Nat)
  /-- A crash, an exception, or a commit that fails: the locks go, nothing is written. -/
  | crash (index : Nat)
  deriving DecidableEq

namespace Outbox

def flush? (outbox : Outbox) (index : Nat) : Option Flush := outbox.flushes[index]?.join

def setFlush (outbox : Outbox) (index : Nat) (flush : Option Flush) : Outbox :=
  { outbox with flushes := outbox.flushes.set index flush }

def locked (outbox : Outbox) : List UUID :=
  outbox.flushes.flatMap fun flush => flush.toList.flatMap Flush.claims

/-- `due_events`, passing over what others have locked. -/
def dueEvents (outbox : Outbox) (limit : Nat) (now : Instant) : List NotificationEvent :=
  ((outbox.events.filter fun event => event.Due now ∧ event.id ∉ outbox.locked).mergeSort
    fun left right => left.createdAt ≤ right.createdAt).take limit

/-- The active devices of a user. -/
def devicesOf (outbox : Outbox) (userId : UUID) : List DeviceRegistration :=
  outbox.devices.filter fun device => device.userId = userId ∧ device.isActive = true

/-- `deliver_event` up to its loop. -/
def begin (configured : Bool) (outbox : Outbox) (flush : Flush) (event : NotificationEvent)
    (rest : List NotificationEvent) (usable : Bool) (now : Instant) : Flush :=
  let settle (event : NotificationEvent) :=
    { flush with remaining := rest, settled := flush.settled ++ [event] }
  if configured = false then settle { event with status := .inAppOnly, nextAttemptAt := none }
  else if usable = false then settle (event.defer "FCM is configured but could not be initialised" now)
  else
    match outbox.devicesOf event.userId with
    | [] => settle { event with status := .noDevices, nextAttemptAt := none }
    | devices => { flush with remaining := rest, round := some { event, rest := devices } }

/-- The commit of a flush. -/
def record (outbox : Outbox) (flush : Flush) : Outbox :=
  { outbox with
    events := outbox.events.map fun event => tracked NotificationEvent.id event flush.settled
    devices := outbox.devices.map fun device =>
      if device.id ∈ flush.stale then { device with isActive := false } else device }

def step (configured : Bool) (outbox : Outbox) : OutboxAction → Outbox
  | .enqueue id createdAt userId eventType title body data =>
    if (lookup NotificationEvent.id id outbox.events).isSome then outbox
    else
      { outbox with
        events := outbox.events ++ [enqueueNotification id createdAt userId eventType title body data] }
  | .register devices => if Unique DeviceRegistration.token devices then { outbox with devices } else outbox
  | .start limit now =>
    { outbox with flushes := outbox.flushes ++ [some { remaining := outbox.dueEvents limit now }] }
  | .next index usable now =>
    match outbox.flush? index with
    | some ⟨event :: rest, none, settled, stale⟩ =>
      outbox.setFlush index
        (some (outbox.begin configured ⟨event :: rest, none, settled, stale⟩ event rest usable now))
    | _ => outbox
  | .send index reply =>
    match outbox.flush? index with
    | some ⟨remaining, some round, settled, stale⟩ =>
      match round.rest with
      | [] => outbox
      | device :: rest =>
        let outbox := outbox.setFlush index
          (some ⟨remaining, some (round.turn device rest reply), settled, stale⟩)
        match reply with
        | .raised _ false => outbox
        | _ => { outbox with pushes := outbox.pushes ++ [(round.event.id, device.token)] }
    | _ => outbox
  | .settle index now =>
    match outbox.flush? index with
    | some ⟨remaining, some round, settled, stale⟩ =>
      if round.rest = [] then
        outbox.setFlush index
          (some ⟨remaining, none, settled ++ [round.outcome now], stale ++ round.stale⟩)
      else outbox
    | _ => outbox
  | .commit index =>
    match outbox.flush? index with
    | some ⟨[], none, settled, stale⟩ =>
      (outbox.record ⟨[], none, settled, stale⟩).setFlush index none
    | _ => outbox
  | .crash index => outbox.setFlush index none

/-- The outbox from its first row on. -/
def system (configured : Bool) : System Outbox OutboxAction where
  initial := {}
  step := step configured

end Outbox
end GaonOne
