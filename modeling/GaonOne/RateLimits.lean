import GaonOne.Library.ExpiringCounters

/-! Rate limits kept in Redis: the limiter of the routes, and the counters of one-time passwords
sent and tried. Each counts with one command and bounds the window with the next. -/
namespace GaonOne
open Counters Transitions

/-- The exceptions of the limiter and of the password service, and the one of `secrets`. -/
inductive LimitError where
  | valueError (text : String)
  | runtimeError (text : String)
  | rateLimitExceeded (text : String)
  | rateLimitUnavailable (text : String)
  | typeError (text : String)
  deriving DecidableEq

structure OTPResult where
  message : String
  devOtp : Option String := none
  expiresInSeconds : Option Int := none
  deriving DecidableEq

inductive LimitReply where
  | none
  | issued (result : OTPResult)
  | verified (verified : Bool)
  deriving DecidableEq

structure LimitSettings where
  development : Bool
  devOtp : String
  otpTtlSeconds : Int
  otpRateWindowSeconds : Int
  otpMaxRequestsPerWindow : Int
  otpMaxVerifyAttempts : Int
  /-- `SMS_PROVIDER == "msg91"`. -/
  msg91 : Bool

/-- What the provider of text messages makes of a request: a `RuntimeError`, or whether it
approves. -/
abbrev SmsReply := Except String Bool

abbrev LimitProgram := Program String SmsReply (Except LimitError LimitReply)

def refuse (error : LimitError) : LimitProgram := .done (.error error)

def respond (reply : LimitReply) : LimitProgram := .done (.ok reply)

/-- `count = incr(key)`, then `expire(key, window)` for the first; any `RedisError` leads to one
handler. -/
def countCall (key : String) (window : Int) (unavailable : LimitProgram) (next : Nat → LimitProgram) :
    LimitProgram :=
  .incr key fun
    | .none => unavailable
    | .some count =>
      if count = 1 then .expire key window fun set => if set then next count else unavailable
      else next count

/-! ## The limiter of the routes -/

def rateKey (sha256 : String → String) (scope identifier : String) : String :=
  "rate:" ++ scope ++ ":" ++ sha256 identifier

/-- `RateLimiter.enforce`. -/
def enforce (sha256 : String → String) (settings : LimitSettings) (scope identifier : String)
    (limit windowSeconds : Int) : LimitProgram :=
  if limit < 1 ∨ windowSeconds < 1 then
    refuse (.valueError "Rate limit configuration must be positive")
  else
    countCall (rateKey sha256 scope identifier) windowSeconds
      (if settings.development then .allow limit (respond .none)
        else refuse (.rateLimitUnavailable "Rate-limit storage is unavailable"))
      fun count =>
        if limit < count then refuse (.rateLimitExceeded "Too many requests. Try again shortly.")
        else .allow limit (respond .none)

/-! ## One-time passwords -/

def otpKey (sha256 : String → String) (phone : String) : String := "auth:otp:" ++ sha256 phone

def sendKey (sha256 : String → String) (phone : String) : String := "auth:otp-send:" ++ sha256 phone

def verifyKey (sha256 : String → String) (phone : String) : String := "auth:otp-verify:" ++ sha256 phone

/-- `_check_send_rate`, and what follows it. -/
def checkSendRate (sha256 : String → String) (settings : LimitSettings) (phone : String)
    (next : LimitProgram) : LimitProgram :=
  countCall (sendKey sha256 phone) settings.otpRateWindowSeconds
    (if settings.development then .allow settings.otpMaxRequestsPerWindow next
      else refuse (.runtimeError "OTP rate-limit storage is unavailable"))
    fun count =>
      if settings.otpMaxRequestsPerWindow < count then
        refuse (.valueError "Too many OTP requests. Please try again later.")
      else .allow settings.otpMaxRequestsPerWindow next

/-- `_check_verify_rate`, and what follows when it returns true; false is answered at once. -/
def checkVerifyRate (sha256 : String → String) (settings : LimitSettings) (phone : String)
    (next : LimitProgram) : LimitProgram :=
  countCall (verifyKey sha256 phone) settings.otpTtlSeconds
    (if settings.development then .allow settings.otpMaxVerifyAttempts next
      else respond (.verified false))
    fun count =>
      if (count : Int) ≤ settings.otpMaxVerifyAttempts then .allow settings.otpMaxVerifyAttempts next
      else respond (.verified false)

/-- `OTPService.issue`, with the code that `secrets` drew. -/
def issue (sha256 : String → String) (settings : LimitSettings) (phone drawn : String) : LimitProgram :=
  checkSendRate sha256 settings phone <|
    if settings.development then
      let otp := if settings.devOtp = "" then drawn else settings.devOtp
      .setText (otpKey sha256 phone) settings.otpTtlSeconds otp fun _ =>
        respond (.issued ⟨"Development OTP generated", some otp, some settings.otpTtlSeconds⟩)
    else if settings.msg91 then
      .ask fun
        | .error text => refuse (.runtimeError text)
        | .ok _ => respond (.issued { message := "OTP request accepted" })
    else
      refuse (.runtimeError "SMS OTP provider is not configured")

/-- `secrets.compare_digest` of two texts. -/
def secretsCompareDigest (left right : String) : Except LimitError Bool :=
  if (left ++ right).toList.all fun char : Char => decide (char.toNat < 128) then pure (decide (left = right))
  else throw (.typeError "comparing strings with non-ASCII characters is not supported")

/-- `OTPService.verify`. Only `RedisError` is handled around the comparison. -/
def verify (sha256 : String → String) (settings : LimitSettings) (phone suppliedOtp : String) :
    LimitProgram :=
  checkVerifyRate sha256 settings phone <|
    if settings.development then
      if suppliedOtp = settings.devOtp then
        .delete [otpKey sha256 phone, verifyKey sha256 phone] fun _ => respond (.verified true)
      else
        .getText (otpKey sha256 phone) fun
          | .none => respond (.verified false)
          | .some expected =>
            match expected.filter (· ≠ "") with
            | none => respond (.verified false)
            | some code =>
              match secretsCompareDigest code suppliedOtp with
              | .error error => refuse error
              | .ok same =>
                if same then
                  .delete [otpKey sha256 phone, verifyKey sha256 phone] fun deleted =>
                    respond (.verified deleted)
                else respond (.verified false)
    else if settings.msg91 then
      .ask fun
        | .error text => refuse (.runtimeError text)
        | .ok verified =>
          if verified then .delete [verifyKey sha256 phone] fun _ => respond (.verified verified)
          else respond (.verified verified)
    else
      respond (.verified false)

inductive LimitRequest where
  | enforce (scope identifier : String) (limit windowSeconds : Int)
  | issue (phone drawn : String)
  | verify (phone suppliedOtp : String)

def LimitRequest.program (sha256 : String → String) (settings : LimitSettings) :
    LimitRequest → LimitProgram
  | .enforce scope identifier limit windowSeconds =>
    GaonOne.enforce sha256 settings scope identifier limit windowSeconds
  | .issue phone drawn => GaonOne.issue sha256 settings phone drawn
  | .verify phone suppliedOtp => GaonOne.verify sha256 settings phone suppliedOtp

def limitSystem (sha256 : String → String) (settings : LimitSettings) :
    System (State String SmsReply (Except LimitError LimitReply)) (Action SmsReply LimitRequest) :=
  system (LimitRequest.program sha256 settings)

/-! ## Every request is well behaved -/

/-- A program that neither counts nor bounds nor passes a limit. -/
def Uncounted (waived : Bool) (program : LimitProgram) : Prop :=
  program.owes = none ∧ ∀ counted, program.Sound waived counted

theorem refuse_uncounted (error : LimitError) : Uncounted waived (refuse error) := ⟨rfl, fun _ => trivial⟩

theorem respond_uncounted (reply : LimitReply) : Uncounted waived (respond reply) := ⟨rfl, fun _ => trivial⟩

theorem countCall_sound (unavailable : Uncounted waived handler)
    (next : ∀ count, (rest count).owes = none ∧ (rest count).Sound waived (some count)) :
    (countCall key window handler rest).Sound waived none := by
  refine ⟨rfl, ⟨window, _, if_pos rfl⟩, unavailable.2 none, fun count => ?_⟩
  dsimp only
  split
  · rintro (_ | _)
    · exact ⟨unavailable.1, unavailable.2 _⟩
    · exact next count
  · exact (next count).2

/-- What is let through when the store is down, and what is let through within the limit. -/
theorem waived_sound (settings : LimitSettings) (next : Uncounted settings.development rest)
    (refused : Uncounted settings.development other) (limit : Int) :
    Uncounted settings.development (if settings.development then .allow limit rest else other) := by
  split
  · next waived => exact ⟨rfl, fun counted => ⟨.inl waived, next.2 counted⟩⟩
  · exact refused

theorem allow_sound {limit : Int} {count : Nat} (next : Uncounted waived rest) (le : (count : Int) ≤ limit) :
    (Program.allow limit rest : LimitProgram).owes = none ∧
      (Program.allow limit rest : LimitProgram).Sound waived (some count) :=
  ⟨rfl, .inr ⟨count, rfl, le⟩, next.2 _⟩

theorem enforce_sound (sha256 : String → String) (settings : LimitSettings) (scope identifier : String)
    (limit windowSeconds : Int) :
    (enforce sha256 settings scope identifier limit windowSeconds).Sound settings.development none := by
  unfold enforce
  split
  · exact trivial
  · refine countCall_sound
      (waived_sound settings (respond_uncounted _) (refuse_uncounted _) limit) fun count => ?_
    split
    · exact ⟨rfl, trivial⟩
    · exact allow_sound (respond_uncounted _) (by omega)

theorem checkSendRate_sound {settings : LimitSettings} (next : Uncounted settings.development rest) :
    (checkSendRate sha256 settings phone rest).Sound settings.development none := by
  refine countCall_sound (waived_sound settings next (refuse_uncounted _) _) fun count => ?_
  split
  · exact ⟨rfl, trivial⟩
  · exact allow_sound next (by omega)

theorem checkVerifyRate_sound {settings : LimitSettings} (next : Uncounted settings.development rest) :
    (checkVerifyRate sha256 settings phone rest).Sound settings.development none := by
  refine countCall_sound (waived_sound settings next (respond_uncounted _) _) fun count => ?_
  split
  · next le => exact allow_sound next le
  · exact ⟨rfl, trivial⟩

theorem issue_sound (sha256 : String → String) (settings : LimitSettings) (phone drawn : String) :
    (issue sha256 settings phone drawn).Sound settings.development none := by
  apply checkSendRate_sound
  split
  · exact ⟨rfl, fun counted _ => trivial⟩
  · split
    · refine ⟨rfl, fun counted reply => ?_⟩
      cases reply <;> exact trivial
    · exact refuse_uncounted _

theorem verify_sound (sha256 : String → String) (settings : LimitSettings) (phone suppliedOtp : String) :
    (verify sha256 settings phone suppliedOtp).Sound settings.development none := by
  apply checkVerifyRate_sound
  split
  · split
    · exact ⟨rfl, fun counted _ => trivial⟩
    · refine ⟨rfl, fun counted found => ?_⟩
      cases found with
      | none => exact trivial
      | some expected =>
        dsimp only
        cases expected.filter (· ≠ "") with
        | none => exact trivial
        | some code =>
          dsimp only
          cases secretsCompareDigest code suppliedOtp with
          | error error => exact trivial
          | ok same =>
            cases same with
            | false => exact trivial
            | true => exact fun _ => trivial
  · split
    · refine ⟨rfl, fun counted reply => ?_⟩
      cases reply with
      | error text => exact trivial
      | ok verified =>
        dsimp only
        split
        · exact fun _ => trivial
        · exact trivial
    · exact respond_uncounted _

theorem LimitRequest.sound (sha256 : String → String) (settings : LimitSettings) (request : LimitRequest) :
    (request.program sha256 settings).Sound settings.development none := by
  cases request with
  | enforce => exact enforce_sound ..
  | issue => exact issue_sound ..
  | verify => exact verify_sound ..

/-! ## Runs -/

/-- A step that breaks the condition leaves a key without an expiry that nobody will bound. -/
theorem limitSystem_strands {action : Action SmsReply LimitRequest}
    (reached : System.Reachable (limitSystem sha256 settings) state) (broken : ¬Bounding state action) :
    ∃ key counter, ((limitSystem sha256 settings).step state action).store.counters key = some counter ∧
      counter.expiresAt = none ∧
      ∀ index : Nat, ((limitSystem sha256 settings).step state action).calls[index]?.bind Call.owes ≠ some key :=
  strands (reachable_ordered (LimitRequest.sound sha256 settings) reached) broken

/-- However calls interleave, fail and die: outside development a key lets no more calls through
than its limit before it expires; and as long as no key loses the call that is to bound it, every
key that is left when all calls have ended expires. -/
theorem rate_limits_expire_and_hold (sha256 : String → String) (settings : LimitSettings) :
    (∀ actions,
      System.RunWhile (limitSystem sha256 settings) Bounding (limitSystem sha256 settings).initial actions →
      let state := (limitSystem sha256 settings).run (limitSystem sha256 settings).initial actions
      (∀ call ∈ state.calls, call.running = none) →
        ∀ key counter, state.store.counters key = some counter → counter.expiresAt.isSome = true) ∧
    (settings.development = false →
      ∀ (actions : List (Action SmsReply LimitRequest)) key (epoch limit : Nat),
      (((limitSystem sha256 settings).run (limitSystem sha256 settings).initial actions).calls.filter
        (Call.within key epoch limit)).length ≤ limit) := by
  constructor
  · intro actions bounding state ended key counter held
    have reached := System.ReachableWhile.initial.run actions bounding
    exact (reachable_owed (LimitRequest.sound sha256 settings) reached).settled ended held
  · intro production actions key epoch limit
    have starts := LimitRequest.sound sha256 settings
    rw [production] at starts
    have start : System.Reachable (limitSystem sha256 settings) (limitSystem sha256 settings).initial :=
      System.ReachableWhile.initial
    exact reachable_within starts (start.run actions) key epoch limit

def productionLimits : LimitSettings where
  development := false
  devOtp := ""
  otpTtlSeconds := 300
  otpRateWindowSeconds := 900
  otpMaxRequestsPerWindow := 1
  otpMaxVerifyAttempts := 6
  msg91 := true

/-- Two passwords are asked for at once, and the first caller dies when its key is bounded. -/
def passwordsAsked : List (Action SmsReply LimitRequest) :=
  [.call (.issue "+919876543210" "1"), .call (.issue "+919876543210" "2"), .answer 0 (.ok true),
    .answer 1 (.ok true), .lose 0, .answer 0 (.ok true), .answer 0 (.ok true), .die 0, .answer 1 (.ok true)]

theorem rate_limits_expire_and_hold_asked :
    let system := limitSystem (fun text => text) productionLimits
    let state := system.run system.initial passwordsAsked
    (∀ key counter, state.store.counters key = some counter → counter.expiresAt.isSome = true) ∧
      (state.calls.filter (Call.within "auth:otp-send:+919876543210" 0 1)).length ≤ 1 := by
  obtain ⟨expire, hold⟩ := rate_limits_expire_and_hold (fun text => text) productionLimits
  exact ⟨expire passwordsAsked (by decide +kernel) (by decide +kernel), hold rfl passwordsAsked _ 0 1⟩

/-- The first caller dies between counting and bounding; a year later the number is still refused. -/
def passwordBlocked : List (Action SmsReply LimitRequest) :=
  [.call (.issue "+919876543210" "1"), .answer 0 (.ok true), .die 0, .pass 31536000,
    .call (.issue "+919876543210" "2"), .answer 1 (.ok true), .answer 1 (.ok true)]

theorem rate_limit_never_expires :
    let system := limitSystem (fun text => text) productionLimits
    let state := system.run system.initial passwordBlocked
    (∀ call ∈ state.calls, call.running = none) ∧
      state.store.counters "auth:otp-send:+919876543210" = some ⟨2, none, 0⟩ ∧
      (state.calls[1]?.bind (·.result)) =
        some (.error (.valueError "Too many OTP requests. Please try again later.")) := by
  decide +kernel

end GaonOne
