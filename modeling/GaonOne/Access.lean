import GaonOne.Database

/-! Who is asking: the current user, the coarse roles a route admits, and the
capabilities a privileged operation requires. Capabilities are deny-by-default:
a role that is not mapped here grants nothing. -/
namespace GaonOne
open Relational UnitOfWork

/-- What a request answers when it raises. An exception no handler catches is
answered 500. -/
structure HTTPException where
  status : Nat
  detail : String
  deriving DecidableEq, Repr

/-- A request that raises before it commits leaves nothing behind. -/
abbrev Handler := Except HTTPException

abbrev DbSession := Session Tables

/-- What a request takes from outside: the clock, and the identifiers `uuid4`
draws for the rows it may insert. -/
structure Draws where
  now : Instant
  orderId : UUID
  deliveryId : UUID
  itemId : Nat → UUID
  proofId : UUID
  collectionId : UUID
  attemptId : UUID
  webhookEventId : UUID
  refundId : UUID
  settlementId : UUID
  adjustmentId : UUID

/-- `uuid4` draws no identifier that is in use. -/
@[mk_iff]
structure Draws.Fresh (draws : Draws) (db : Tables) : Prop where
  order : lookup Order.id draws.orderId db.orders = none
  delivery : lookup Delivery.id draws.deliveryId db.deliveries = none
  proof : lookup DeliveryProof.id draws.proofId db.deliveryProofs = none
  collection : lookup CodCollection.id draws.collectionId db.codCollections = none
  attempt : lookup PaymentAttempt.id draws.attemptId db.paymentAttempts = none
  webhookEvent :
    lookup PaymentWebhookEvent.id draws.webhookEventId db.paymentWebhookEvents = none
  refund : lookup PaymentRefund.id draws.refundId db.paymentRefunds = none
  settlement : lookup SettlementEntry.id draws.settlementId db.settlementEntries = none
  adjustment : lookup SettlementAdjustment.id draws.adjustmentId db.settlementAdjustments = none

instance (draws : Draws) (db : Tables) : Decidable (draws.Fresh db) :=
  decidable_of_iff _ (Draws.fresh_iff draws db).symm

/-- `db.flush()`: a broken constraint raises. -/
def flushRows (db : DbSession) : Handler DbSession := do
  require db.pending.Constraints ⟨500, "IntegrityError"⟩
  pure db.flush

/-- `try: db.flush()`, `except IntegrityError: db.rollback()`, with whether it flushed. -/
def flushOrRollback (db : DbSession) : DbSession × Bool :=
  if db.pending.Constraints then (db.flush, true) else (db.rollback, false)

inductive Capability where
  | userRead | userManage | adminManage | merchantRead | merchantManage | catalogManage
  | geographyManage | orderRead | orderOperations | riderRead | riderOperations | supportManage
  | mediaModerate | notificationOperations | paymentRead | refundRead | refundWrite
  | settlementRead | settlementWrite | deliveryFinancialWrite | auditRead
  deriving DecidableEq, Repr

def Capability.value : Capability → String
  | userRead => "user.read"
  | userManage => "user.manage"
  | adminManage => "admin.manage"
  | merchantRead => "merchant.read"
  | merchantManage => "merchant.manage"
  | catalogManage => "catalog.manage"
  | geographyManage => "geography.manage"
  | orderRead => "order.read"
  | orderOperations => "order.operations"
  | riderRead => "rider.read"
  | riderOperations => "rider.operations"
  | supportManage => "support.manage"
  | mediaModerate => "media.moderate"
  | notificationOperations => "notification.operations"
  | paymentRead => "payment.read"
  | refundRead => "refund.read"
  | refundWrite => "refund.write"
  | settlementRead => "settlement.read"
  | settlementWrite => "settlement.write"
  | deliveryFinancialWrite => "delivery_financial.write"
  | auditRead => "audit.read"

/-- Normal administrators operate the marketplace but receive no capability
that writes money state. -/
def adminCapabilities : List Capability :=
  [.userRead, .merchantRead, .merchantManage, .catalogManage, .geographyManage, .orderRead,
    .orderOperations, .riderRead, .riderOperations, .supportManage, .mediaModerate,
    .notificationOperations]

def superAdminCapabilities : List Capability :=
  adminCapabilities ++
    [.adminManage, .paymentRead, .refundRead, .refundWrite, .settlementWrite, .settlementRead,
      .deliveryFinancialWrite, .auditRead]

def capabilitiesFor (user : User) : List Capability :=
  if user.role ≠ .admin then []
  else if user.isSuperAdmin then superAdminCapabilities else adminCapabilities

def hasCapability (user : User) (capability : Capability) : Prop :=
  capability ∈ capabilitiesFor user

instance (user : User) (capability : Capability) : Decidable (hasCapability user capability) :=
  inferInstanceAs (Decidable (_ ∈ _))

def ensureCapability (user : User) (capability : Capability) : Handler Unit :=
  require (hasCapability user capability)
    ⟨403, "Missing required capability: " ++ capability.value⟩

/-- The user a valid token names: it must exist and be active. -/
def getCurrentUser (db : Tables) (subject : UUID) : Handler User :=
  found ((db.user? subject).filter (·.isActive)) ⟨401, "User not available"⟩

def requireRoles (user : User) (roles : List UserRole) : Handler Unit :=
  require (user.role ∈ roles) ⟨403, "Insufficient permissions"⟩

/-- `require_capability`: authentication, then the capability. -/
def requireCapability (db : Tables) (subject : UUID) (capability : Capability) : Handler User := do
  let user ← getCurrentUser db subject
  ensureCapability user capability
  pure user

/-- `if user.role == UserRole.ADMIN: ensure_capability(...)`. -/
def ensureAdminCapability (user : User) (capability : Capability) : Handler Unit :=
  if user.role = .admin then ensureCapability user capability else pure ()

/-- A capability is held only by an administrator. -/
theorem hasCapability_admin (held : hasCapability user capability) : user.role = .admin := by
  unfold hasCapability capabilitiesFor at held
  split at held
  · cases held
  · next role => exact not_not.mp role

@[simp]
theorem flushRows_bind_ok (db : DbSession) (next : DbSession → Handler β) (result : β) :
    (flushRows db >>= next) = .ok result ↔ db.pending.Constraints ∧ next db.flush = .ok result := by
  simp only [flushRows, bind_assoc, require_bind_ok, pure_bind]

@[simp]
theorem ensureCapability_bind_ok (user : User) (capability : Capability) (next : Unit → Handler β)
    (result : β) : (ensureCapability user capability >>= next) = .ok result ↔
      hasCapability user capability ∧ next () = .ok result :=
  require_bind_ok ..

@[simp]
theorem ensureAdminCapability_bind_ok (user : User) (capability : Capability)
    (next : Unit → Handler β) (result : β) :
    (ensureAdminCapability user capability >>= next) = .ok result ↔
      (user.role = .admin → hasCapability user capability) ∧ next () = .ok result := by
  unfold ensureAdminCapability
  split
  · next admin => simp [admin]
  · next other => simp [other]

@[simp]
theorem requireRoles_bind_ok (user : User) (roles : List UserRole) (next : Unit → Handler β)
    (result : β) : (requireRoles user roles >>= next) = .ok result ↔
      user.role ∈ roles ∧ next () = .ok result :=
  require_bind_ok ..

@[simp]
theorem getCurrentUser_bind_ok (db : Tables) (subject : UUID) (next : User → Handler β)
    (result : β) : (getCurrentUser db subject >>= next) = .ok result ↔
      ∃ user, (db.user? subject = some user ∧ user.isActive = true) ∧ next user = .ok result := by
  simp [getCurrentUser, Option.filter_eq_some_iff]

@[simp]
theorem requireCapability_bind_ok (db : Tables) (subject : UUID) (capability : Capability)
    (next : User → Handler β) (result : β) :
    (requireCapability db subject capability >>= next) = .ok result ↔
      ∃ user, (db.user? subject = some user ∧ user.isActive = true) ∧
        hasCapability user capability ∧ next user = .ok result := by
  simp only [requireCapability, bind_assoc, getCurrentUser_bind_ok, ensureCapability_bind_ok,
    pure_bind]

theorem requireCapability_ok (db : Tables) (subject : UUID) (capability : Capability) (user : User) :
    requireCapability db subject capability = .ok user ↔
      db.user? subject = some user ∧ user.isActive = true ∧ hasCapability user capability := by
  have answered := requireCapability_bind_ok db subject capability pure user
  simp only [bind_pure, pure_ok] at answered
  rw [answered]
  constructor
  · rintro ⟨found, ⟨stored, active⟩, held, rfl⟩
    exact ⟨stored, active, held⟩
  · rintro ⟨stored, active, held⟩
    exact ⟨user, ⟨stored, active⟩, held, rfl⟩

end GaonOne
