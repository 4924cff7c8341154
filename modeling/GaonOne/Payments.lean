import GaonOne.Access
import GaonOne.Library.Decimal
import GaonOne.Library.Json
import GaonOne.Library.Text

/-! The payment provider as the backend sees it: configuration, amounts in
subunits, the decoding of its HTTP answers, and its signatures. The network, the
hash functions and the JSON parser are the environment's. -/
namespace GaonOne
open UnitOfWork

/-- The settings of one process. -/
structure Settings where
  razorpayKeyId : Option String
  razorpayKeySecret : Option String
  razorpayWebhookSecret : Option String
  defaultDeliveryFee : ℚ

/-- The functions the backend calls outside its own code. -/
structure Environment where
  /-- `hmac.new(key, message, hashlib.sha256).hexdigest()`. -/
  hmacSha256 : String → String → String
  /-- `hashlib.sha256(message).hexdigest()`. -/
  sha256 : String → String
  /-- `json.loads`, where it does not raise. -/
  loads : String → Option Json
  /-- `str` on lists and dictionaries. -/
  print : Json → String
  /-- `ST_DWithin`, in metres. -/
  within : Point → Point → ℚ → Bool
  /-- `ST_Distance`, in metres. -/
  distance : Point → Point → ℚ

/-- A setting that counts as configured: set, and not empty. -/
def configured (value : Option String) : Option String := value.filter (· ≠ "")

def razorpayEnabled (settings : Settings) : Bool :=
  (configured settings.razorpayKeyId).isSome && (configured settings.razorpayKeySecret).isSome

/-- Decimal amounts cross to the provider in subunits. -/
def amountToSubunits (amount : ℚ) : Int := Decimal.quantizeCentsHalfUp amount

@[simp]
theorem amountToSubunits_ofCents (amount : Paise) :
    amountToSubunits (Decimal.ofCents amount) = amount :=
  Decimal.quantizeCentsHalfUp_ofCents amount

/-- What the transport reports of one request to the provider. -/
inductive HttpResponse where
  | unreachable
  | answered (statusCode : Nat) (body : String)
  deriving DecidableEq, Repr

/-- What a provider call returns, or the text of the error it raises. -/
abbrev ProviderResult := Except String (List (String × Json))

/-- The object a provider answer carries: anything but a successful answer with
an identified object raises `PaymentProviderError`. -/
def decodeResponse (env : Environment) (kind : String) : HttpResponse → ProviderResult
  | .unreachable => .error "Unable to reach Razorpay"
  | .answered statusCode body =>
    if statusCode < 200 ∨ 300 ≤ statusCode then
      .error ("Razorpay rejected the " ++ kind ++ " request (" ++ toString statusCode ++ ")")
    else
      match (env.loads body).bind Json.fields? with
      | some data =>
        if (Json.get data "id").truthy then .ok data
        else .error ("Razorpay returned an invalid " ++ kind ++ " response")
      | none => .error ("Razorpay returned an invalid " ++ kind ++ " response")

/-- Without credentials the call raises `PaymentProviderUnavailable`. -/
def createRazorpayOrder (env : Environment) (settings : Settings) (response : HttpResponse) :
    ProviderResult :=
  if razorpayEnabled settings then decodeResponse env "order" response
  else .error "Razorpay credentials are not configured"

/-- The refund request as it reaches the provider. -/
structure RefundCall where
  providerPaymentId : String
  /-- In subunits. -/
  amount : Int
  /-- The `X-Refund-Idempotency` header. -/
  idempotencyKey : String
  /-- The `gaonone_order_id` note. -/
  orderNote : String
  deriving DecidableEq, Repr

/-- The provider accepts only letters, digits, hyphens and underscores in an
idempotency key, so the colon of the stored key is replaced. -/
def providerIdempotencyKey (idempotencyKey : String) : String :=
  Text.replace ':' '-' idempotencyKey

/-- The request `create_razorpay_refund` sends; none without credentials. -/
def refundCall (settings : Settings) (providerPaymentId : String) (amount : ℚ)
    (idempotencyKey orderNote : String) : Option RefundCall :=
  if razorpayEnabled settings then
    some ⟨providerPaymentId, amountToSubunits amount, providerIdempotencyKey idempotencyKey, orderNote⟩
  else none

/-- What `create_razorpay_refund` returns once the transport has reported. -/
def createRazorpayRefund (env : Environment) (settings : Settings) (response : HttpResponse) :
    ProviderResult :=
  if razorpayEnabled settings then decodeResponse env "refund" response
  else .error "Razorpay credentials are not configured"

/-- `hmac.compare_digest` refuses text outside ASCII. -/
def compareDigest (expected received : String) : Handler Bool := do
  require (received.toList.all fun c => c.val < 128) ⟨500, "TypeError"⟩
  pure (decide (expected = received))

def verifyRazorpaySignature (env : Environment) (settings : Settings)
    (providerOrderId providerPaymentId receivedSignature : String) : Handler Bool := do
  let secret ← found (configured settings.razorpayKeySecret)
    ⟨503, "Razorpay secret is not configured"⟩
  compareDigest (env.hmacSha256 secret (providerOrderId ++ "|" ++ providerPaymentId)) receivedSignature

def verifyRazorpayWebhookSignature (env : Environment) (settings : Settings)
    (rawBody receivedSignature : String) : Handler Bool := do
  let secret ← found (configured settings.razorpayWebhookSecret)
    ⟨503, "Razorpay webhook secret is not configured"⟩
  compareDigest (env.hmacSha256 secret rawBody) receivedSignature

end GaonOne
