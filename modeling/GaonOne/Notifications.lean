import GaonOne.Models

/-! The notification outbox: a durable record that something happened, not proof that a
push was delivered. -/
namespace GaonOne

/-- `STATUS_PENDING`, `STATUS_SENT`, `STATUS_NO_DEVICES`, `STATUS_IN_APP_ONLY` and
`STATUS_DEAD`. -/
inductive NotificationStatus where
  | pending | sent | noDevices | inAppOnly
  /-- Terminal. Repeated delivery attempts failed; the in-app record still stands. -/
  | dead
  deriving DecidableEq, Repr

structure NotificationEvent where
  id : UUID
  userId : UUID
  eventType : String
  title : String
  body : String
  data : List (String × String)
  status : NotificationStatus
  attemptCount : Nat
  nextAttemptAt : Option Instant
  lastError : Option String
  createdAt : Instant
  sentAt : Option Instant
  deriving DecidableEq

/-- `enqueue_notification`; `id` and `createdAt` are the column defaults. -/
def enqueueNotification (id : UUID) (createdAt : Instant) (userId : UUID)
    (eventType title body : String) (data : List (String × String)) : NotificationEvent :=
  { id, userId, eventType, title, body, data, status := .pending, attemptCount := 0
    nextAttemptAt := none, lastError := none, createdAt, sentAt := none }

end GaonOne
