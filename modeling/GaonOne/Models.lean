import Mathlib.Data.Rat.Defs
import GaonOne.Library.Text

/-! The rows of the database, column by column as the modelled code reads and
writes them. Money is in paise, the exact content of a `Numeric(10, 2)` column;
an instant is in microseconds, so that opening hours compare as they do in the
source. -/
namespace GaonOne

/-- A 128-bit identifier, drawn by `uuid4`. -/
abbrev UUID := BitVec 128

instance : LawfulBEq UUID := inferInstance

/-- `str(uuid)`: thirty-two hexadecimal digits in five groups. -/
def uuidText (id : UUID) : String :=
  String.ofList (Text.grouped '-' [8, 4, 4, 4] (Text.hexDigits 32 id.toNat))

private theorem hyphen_outside : ∀ n < 16, Text.hexDigit n ≠ '-' := by decide

private theorem colon_outside : ∀ n < 16, Text.hexDigit n ≠ ':' := by decide

theorem uuidText_injective (same : uuidText left = uuidText right) : left = right := by
  have digits := Text.grouped_injective _ (Text.hexDigit_ne '-' hyphen_outside)
    (Text.hexDigit_ne '-' hyphen_outside) (String.ofList_inj.mp same)
  exact BitVec.eq_of_toNat_eq (Text.hexDigits_injective left.isLt right.isLt digits)

theorem length_uuidText (id : UUID) : (uuidText id).length = 36 := by
  rw [uuidText, String.length_ofList, Text.length_grouped, Text.length_hexDigits]
  rfl

/-- The text of an identifier has no colon, so it survives the normalisation of keys. -/
theorem colon_notMem_uuidText (id : UUID) : ':' ∉ (uuidText id).toList := by
  unfold uuidText
  rw [String.toList_ofList]
  exact Text.not_mem_grouped _ (by decide) (Text.hexDigit_ne ':' colon_outside)

/-- A timezone-aware instant, in microseconds since the epoch. -/
abbrev Instant := Nat

/-- An amount of a `Numeric(10, 2)` column, in paise. -/
abbrev Paise := Int

/-- What a `Numeric(10, 2)` column can hold. -/
def fitsNumeric (amount : Paise) : Prop := amount.natAbs < 10 ^ 10

instance (amount : Paise) : Decidable (fitsNumeric amount) := inferInstanceAs (Decidable (_ < _))

inductive UserRole where
  | customer | merchant | delivery | admin
  deriving DecidableEq, Repr

inductive MerchantStatus where
  | pending | approved | suspended
  deriving DecidableEq, Repr

inductive OrderStatus where
  | placed | accepted | preparing | ready | outForDelivery | delivered
  /-- Goods left the merchant but came back. -/
  | returned
  | cancelled
  deriving DecidableEq, Repr

def OrderStatus.value : OrderStatus → String
  | placed => "placed"
  | accepted => "accepted"
  | preparing => "preparing"
  | ready => "ready"
  | outForDelivery => "out_for_delivery"
  | delivered => "delivered"
  | returned => "returned"
  | cancelled => "cancelled"

inductive PaymentMethod where
  | cod | upi
  deriving DecidableEq, Repr

inductive PaymentStatus where
  | pending | paid | failed
  /-- Money was captured and a refund is owed but not confirmed. -/
  | refundPending
  | refunded
  deriving DecidableEq, Repr

inductive DeliveryStatus where
  | unassigned | assigned | pickedUp | delivered | failed
  deriving DecidableEq, Repr

def DeliveryStatus.value : DeliveryStatus → String
  | unassigned => "unassigned"
  | assigned => "assigned"
  | pickedUp => "picked_up"
  | delivered => "delivered"
  | failed => "failed"

/-- The status column of a payment attempt. -/
inductive AttemptStatus where
  | created | attempted | paid | failed
  deriving DecidableEq, Repr

/-- `REFUND_REQUESTED`, `REFUND_PROCESSING`, `REFUND_SUCCEEDED`, `REFUND_FAILED`. -/
inductive RefundStatus where
  | requested | processing | succeeded | failed
  deriving DecidableEq, Repr

/-- `SETTLEMENT_PENDING`, `SETTLEMENT_SETTLED`, `SETTLEMENT_VOIDED`. -/
inductive SettlementStatus where
  | pending | settled | voided
  deriving DecidableEq, Repr

/-! ## People, places and listings -/

structure User where
  id : UUID
  role : UserRole
  isSuperAdmin : Bool
  isActive : Bool
  isVerified : Bool
  deriving DecidableEq, Repr

structure Merchant where
  id : UUID
  ownerUserId : UUID
  status : MerchantStatus
  deriving DecidableEq, Repr

/-- A latitude and a longitude in degrees. -/
structure Point where
  latitude : ℚ
  longitude : ℚ
  deriving DecidableEq, Repr

structure Store where
  id : UUID
  merchantId : UUID
  villageId : UUID
  serviceAreaId : Option UUID
  name : String
  phone : Option String
  landmark : Option String
  latitude : Option ℚ
  longitude : Option ℚ
  /-- Microseconds after midnight. -/
  opensAt : Option Nat
  closesAt : Option Nat
  deliveryEnabled : Bool
  isActive : Bool
  deriving DecidableEq, Repr

structure Product where
  id : UUID
  categoryId : UUID
  name : String
  unit : String
  isActive : Bool
  deriving DecidableEq, Repr

structure StoreProduct where
  id : UUID
  storeId : UUID
  productId : UUID
  price : Paise
  stockQuantity : Int
  isAvailable : Bool
  deriving DecidableEq, Repr

structure Village where
  id : UUID
  name : String
  latitude : Option ℚ
  longitude : Option ℚ
  isActive : Bool
  deriving DecidableEq, Repr

structure ServiceArea where
  id : UUID
  name : String
  hubVillageId : UUID
  radiusKm : ℚ
  deliveryFee : Option Paise
  isActive : Bool
  deriving DecidableEq, Repr

structure Address where
  id : UUID
  userId : UUID
  villageId : UUID
  recipientName : Option String
  phone : Option String
  houseDetails : Option String
  landmark : String
  directions : Option String
  latitude : Option ℚ
  longitude : Option ℚ
  archivedAt : Option Instant
  deriving DecidableEq, Repr

structure RiderPresence where
  riderId : UUID
  latitude : ℚ
  longitude : ℚ
  isOnline : Bool
  lastSeenAt : Instant
  deriving DecidableEq, Repr

structure Cart where
  id : UUID
  userId : UUID
  storeId : Option UUID
  deriving DecidableEq, Repr

structure CartItem where
  id : UUID
  cartId : UUID
  storeProductId : UUID
  quantity : Int
  deriving DecidableEq, Repr

/-! ## Orders and deliveries -/

structure Order where
  id : UUID
  orderNumber : String
  userId : UUID
  storeId : UUID
  addressId : UUID
  idempotencyKey : Option String
  stockRestoredAt : Option Instant
  status : OrderStatus
  paymentMethod : PaymentMethod
  paymentStatus : PaymentStatus
  subtotal : Paise
  deliveryFee : Paise
  total : Paise
  deriving DecidableEq, Repr

structure OrderItem where
  id : UUID
  orderId : UUID
  productId : UUID
  productName : String
  unit : String
  unitPrice : Paise
  quantity : Int
  lineTotal : Paise
  deriving DecidableEq, Repr

structure Delivery where
  id : UUID
  orderId : UUID
  deliveryPartnerId : Option UUID
  status : DeliveryStatus
  assignedAt : Option Instant
  pickedUpAt : Option Instant
  deliveredAt : Option Instant
  failedAt : Option Instant
  failureReason : Option String
  failureNotes : Option String
  failureEvidenceUrl : Option String
  updatedAt : Instant
  deriving DecidableEq, Repr

structure DeliveryProof where
  id : UUID
  deliveryId : UUID
  otpHash : String
  otpExpiresAt : Instant
  lastChallengeAt : Option Instant
  challengeCount : Nat
  verificationAttemptCount : Nat
  verificationLockedAt : Option Instant
  verifiedAt : Option Instant
  evidenceUrl : Option String
  recipientName : Option String
  notes : Option String
  updatedAt : Instant
  deriving DecidableEq, Repr

/-! ## Payments, refunds and settlements -/

structure PaymentAttempt where
  id : UUID
  orderId : UUID
  providerOrderId : Option String
  providerPaymentId : Option String
  status : AttemptStatus
  amount : Paise
  currency : String
  createdAt : Instant
  updatedAt : Instant
  deriving DecidableEq, Repr

structure PaymentWebhookEvent where
  id : UUID
  eventKey : String
  eventType : String
  processedAt : Option Instant
  deriving DecidableEq, Repr

structure SettlementEntry where
  id : UUID
  orderId : UUID
  storeId : UUID
  merchantId : UUID
  paymentMethod : PaymentMethod
  grossAmount : Paise
  merchantAmount : Paise
  deliveryFeeAmount : Paise
  status : SettlementStatus
  settledAt : Option Instant
  voidedAt : Option Instant
  voidReason : Option String
  deriving DecidableEq, Repr

/-- A durable record of money owed back to a customer. -/
structure PaymentRefund where
  id : UUID
  orderId : UUID
  paymentAttemptId : Option UUID
  providerPaymentId : Option String
  providerRefundId : Option String
  amount : Paise
  currency : String
  status : RefundStatus
  reason : String
  idempotencyKey : String
  providerStatus : Option String
  failureReason : Option String
  attemptCount : Nat
  requestedAt : Instant
  processedAt : Option Instant
  failedAt : Option Instant
  deriving DecidableEq, Repr

/-- A correction to a settlement that was already paid out. -/
structure SettlementAdjustment where
  id : UUID
  settlementEntryId : UUID
  orderId : UUID
  merchantId : UUID
  amount : Paise
  reason : String
  idempotencyKey : String
  deriving DecidableEq, Repr

structure CodCollection where
  id : UUID
  deliveryId : UUID
  orderId : UUID
  amount : Paise
  collectedByUserId : Option UUID
  collectedAt : Instant
  deriving DecidableEq, Repr

end GaonOne
