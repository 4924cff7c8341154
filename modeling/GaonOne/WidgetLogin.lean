import GaonOne.Library.Json
import GaonOne.Logins
import GaonOne.Phones

/-! Login by the provider's widget. What the provider answers is not trusted: an identity is
returned only for an answer that is a success, that declares no error, and that names a
mobile number in one of the fields for it. -/
namespace GaonOne
open UnitOfWork Requests

/-! ## The provider's answer -/

/-- `fields.get(key, default)`. -/
def Json.getOr (fields : List (String × Json)) (key : String) (default : Json) : Json :=
  ((fields.find? fun field => field.1 = key).map (·.2)).getD default

/-- What `response.json()` makes of a body. -/
inductive WidgetBody where
  /-- A `ValueError`. -/
  | invalid
  /-- A `RecursionError`, which is a `RuntimeError`. -/
  | tooDeep
  | value (payload : Json)

structure WidgetResponse where
  statusCode : Nat
  body : WidgetBody

inductive WidgetReply where
  /-- An `httpx.HTTPError`. -/
  | failed
  | response (response : WidgetResponse)

/-- The exceptions of a verification. -/
inductive WidgetError where
  | valueError (detail : String)
  | runtimeError (detail : String)
  /-- A payload without `get`. -/
  | attributeError
  deriving DecidableEq

structure VerifiedWidgetIdentity where
  identifier : String
  raw : Json

abbrev Widget := Except WidgetError

section
variable (print : Json → Option String)

/-- `str(value)`, where `print` is `str` on lists and dictionaries; it may recurse too
deep. -/
def strOf (value : Json) : Widget String :=
  match value with
  | .arr _ | .obj _ =>
    match print value with
    | some text => .ok text
    | none => .error (.runtimeError "maximum recursion depth exceeded")
  | _ => .ok (value.printed fun _ => "")

/-- `str(fields.get("type", ""))`. -/
def typeText (fields : List (String × Json)) : Widget String :=
  strOf print (Json.getOr fields "type" (.str ""))

/-- The fields of a payload; anything else has no `get`. -/
def dictionary (payload : Json) : Widget (List (String × Json)) :=
  match payload.fields? with
  | some fields => .ok fields
  | none => .error .attributeError

def identifierKeys : List String := ["identifier", "mobile", "phone", "mobile_number"]

/-- The fields of one level that may name the number, the message only of a success. -/
def levelCandidates (fields : List (String × Json)) : Widget (List Json) := do
  let declared ← typeText print fields
  pure (identifierKeys.map (Json.get fields) ++
    if declared.toLower = "success" then [Json.get fields "message"] else [])

/-- The list `candidates`. -/
def candidates (fields : List (String × Json)) : Widget (List Json) := do
  let top ← levelCandidates print fields
  match Json.get fields "data" with
  | .obj data => do
    let inner ← levelCandidates print data
    pure (top ++ inner)
  | _ => pure top

/-- `value.strip()` of a text that is not blank. -/
def textOf : Json → Option String
  | .str text => if Text.strip text = "" then none else some (Text.strip text)
  | _ => none

/-- `_extract_identifier`. -/
def extractIdentifier (payload : Json) : Widget (Option String) := do
  let fields ← dictionary payload
  let values ← candidates print fields
  pure (values.findSome? textOf)

/-- `_provider_message`. -/
def providerMessage (payload : Json) (fallback : String) : Widget String := do
  let fields ← dictionary payload
  let keys := ["message", "error", "detail", "msg"]
  let inner := match Json.get fields "data" with
    | .obj data => keys.map (Json.get data)
    | _ => []
  pure (((keys.map (Json.get fields) ++ inner).findSome? textOf).getD fallback)

/-- A level declares an error. -/
def declaresError (fields : List (String × Json)) : Widget Bool := do
  let declared ← typeText print fields
  pure (decide ((Text.strip declared).toLower = "error"))

/-- `_provider_declared_error`. -/
def providerDeclaredError (payload : Json) : Widget Bool := do
  let fields ← dictionary payload
  let top ← declaresError print fields
  if top then pure true
  else match Json.get fields "data" with
    | .obj data => declaresError print data
    | _ => pure false

/-- `_normalize_indian_phone`. -/
def normalizeIdentifier (identifier : String) : Widget String :=
  match normalizeIndianPhone identifier with
  | some phone => .ok phone
  | none => .error (.valueError "MSG91 returned an unsupported mobile identifier")

/-- `response.status_code >= 400 or _provider_declared_error(payload)`. -/
def rejectsAnswer (statusCode : Nat) (payload : Json) : Widget Bool :=
  if 400 ≤ statusCode then pure true else providerDeclaredError print payload

/-- What is made of an answer that is JSON. -/
def judgeAnswer (statusCode : Nat) (payload : Json) : Widget VerifiedWidgetIdentity := do
  let rejected ← rejectsAnswer print statusCode payload
  if 500 ≤ statusCode then do
    let detail ← providerMessage payload "MSG91 verification service is unavailable"
    .error (.runtimeError detail)
  else if rejected then do
    let detail ← providerMessage payload "MSG91 access token is invalid or expired"
    .error (.valueError detail)
  else do
    let identifier ← extractIdentifier print payload
    match identifier with
    | none => do
      let detail ← providerMessage payload
        "MSG91 verification response did not contain a verified identifier"
      .error (.valueError detail)
    | some identifier => do
      let phone ← normalizeIdentifier identifier
      pure ⟨phone, payload⟩

/-- `verify_widget_access_token`, given the key that is configured and what the provider
replies. -/
def verifyWidgetAccessToken (authKey : Option String) (reply : WidgetReply) : Widget VerifiedWidgetIdentity :=
  if authKey.getD "" = "" then .error (.runtimeError "MSG91 server auth key is not configured")
  else match reply with
    | .failed => .error (.runtimeError "MSG91 verification service is unavailable")
    | .response response =>
      match response.body with
      | .invalid => .error (.runtimeError "MSG91 returned an invalid verification response")
      | .tooDeep => .error (.runtimeError "maximum recursion depth exceeded")
      | .value payload => judgeAnswer print response.statusCode payload

/-- `POST /auth/widget/exchange`; `enabled` is the configuration it asks for. -/
def exchangeWidgetToken (enabled : Bool) (authKey : Option String) (reply : WidgetReply)
    (fullName : Option String) (draws : AccountDraws) : LoginScript UUID :=
  if enabled = false then .raise ⟨404, "Widget authentication is disabled"⟩
  else match verifyWidgetAccessToken print authKey reply with
    | .ok identity => LoginScript.loginVerifiedPhone identity.identifier fullName draws
    | .error (.valueError detail) => .raise ⟨401, detail⟩
    | .error (.runtimeError detail) => .raise ⟨503, detail⟩
    | .error .attributeError => .raise ⟨500, "AttributeError"⟩

/-! ## Verdicts -/

/-- A level's type reads `error`, blanks and case aside. -/
def DeclaredError (fields : List (String × Json)) : Prop :=
  ∃ text, typeText print fields = .ok text ∧ (Text.strip text).toLower = "error"

/-- A field of one level that may name the number. -/
inductive NumberField (fields : List (String × Json)) : Json → Prop where
  | named (key : String) (listed : key ∈ identifierKeys) : NumberField fields (Json.get fields key)
  /-- A message counts only beside a type that reads `success`, case aside. -/
  | message (text : String) (declared : typeText print fields = .ok text) (success : text.toLower = "success") :
      NumberField fields (Json.get fields "message")

/-- A field of either level. -/
def AnswerField (fields : List (String × Json)) (value : Json) : Prop :=
  NumberField print fields value ∨ ∃ data, Json.get fields "data" = .obj data ∧ NumberField print data value

/-- An exception that the endpoint handles. -/
def Handled (result : Widget α) : Prop := result ≠ .error .attributeError

variable {print : Json → Option String} {fields : List (String × Json)} {values : List Json}

theorem Handled.bind {result : Widget α} {next : α → Widget β} (first : Handled result)
    (rest : ∀ value, Handled (next value)) : Handled (result >>= next) := by
  cases result with
  | ok value => exact rest value
  | error error =>
    intro same
    exact first (congrArg _ (Except.error.inj same))

theorem handled_ok (value : α) : Handled (.ok value : Widget α) := fun same => by cases same

theorem handled_pure (value : α) : Handled (pure value : Widget α) := fun same => by cases same

theorem handled_typeText (fields : List (String × Json)) : Handled (typeText print fields) := by
  unfold typeText strOf
  split
  · split
    · exact handled_ok _
    · exact fun same => by cases same
  · split
    · exact handled_ok _
    · exact fun same => by cases same
  · exact handled_ok _

theorem handled_levelCandidates (fields : List (String × Json)) : Handled (levelCandidates print fields) :=
  (handled_typeText fields).bind fun _ => handled_pure _

theorem handled_declaresError (fields : List (String × Json)) : Handled (declaresError print fields) :=
  (handled_typeText fields).bind fun _ => handled_pure _

theorem handled_candidates (fields : List (String × Json)) : Handled (candidates print fields) := by
  refine (handled_levelCandidates fields).bind fun top => ?_
  split
  · exact (handled_levelCandidates _).bind fun _ => handled_pure _
  · exact handled_pure _

theorem handled_providerDeclaredError (fields : List (String × Json)) :
    Handled (providerDeclaredError print (.obj fields)) := by
  refine (handled_ok fields).bind fun fields => (handled_declaresError fields).bind fun top => ?_
  split
  · exact handled_pure _
  · split
    · exact handled_declaresError _
    · exact handled_pure _

/-- The message for an exception that the endpoint handles. -/
theorem handled_message (fields : List (String × Json)) (fallback : String) {next : String → Widget α}
    (rest : ∀ detail, Handled (next detail)) : Handled (providerMessage (.obj fields) fallback >>= next) :=
  Handled.bind (fun same => by cases same) rest

/-- An object is judged without another exception. -/
theorem handled_judgeAnswer (statusCode : Nat) (fields : List (String × Json)) :
    Handled (judgeAnswer print statusCode (.obj fields)) := by
  have decided : Handled (rejectsAnswer print statusCode (.obj fields)) := by
    unfold rejectsAnswer
    split
    · exact handled_pure _
    · exact handled_providerDeclaredError fields
  refine decided.bind fun rejected => ?_
  split
  · exact handled_message fields _ fun _ => fun same => by cases same
  · split
    · exact handled_message fields _ fun _ => fun same => by cases same
    · have extracted : Handled (extractIdentifier print (.obj fields)) :=
        (handled_ok fields).bind fun fields => (handled_candidates fields).bind fun _ => handled_pure _
      refine extracted.bind fun identifier => ?_
      split
      · exact handled_message fields _ fun _ => fun same => by cases same
      · refine Handled.bind ?_ fun _ => handled_pure _
        unfold normalizeIdentifier
        split
        · exact handled_ok _
        · exact fun same => by cases same

theorem levelCandidates_fields (given : levelCandidates print fields = .ok values) :
    ∀ value ∈ values, NumberField print fields value := by
  obtain ⟨text, declared, rest⟩ := (bind_ok ..).mp given
  have same := (pure_ok ..).mp rest
  subst same
  intro value listed
  rcases List.mem_append.mp listed with named | message
  · obtain ⟨key, inside, rfl⟩ := List.mem_map.mp named
    exact .named key inside
  · split at message
    · next success =>
      rw [List.mem_singleton.mp message]
      exact .message text declared success
    · cases message

theorem candidates_fields (given : candidates print fields = .ok values) :
    ∀ value ∈ values, AnswerField print fields value := by
  obtain ⟨top, outer, rest⟩ := (bind_ok ..).mp given
  split at rest
  · next data within =>
    obtain ⟨more, inner, appended⟩ := (bind_ok ..).mp rest
    have same := (pure_ok ..).mp appended
    subst same
    intro value listed
    rcases List.mem_append.mp listed with first | second
    · exact .inl (levelCandidates_fields outer value first)
    · exact .inr ⟨data, within, levelCandidates_fields inner value second⟩
  · have same := (pure_ok ..).mp rest
    subst same
    exact fun value listed => .inl (levelCandidates_fields outer value listed)

theorem declaresError_false (given : declaresError print fields = .ok false) : ¬DeclaredError print fields := by
  rintro ⟨text, declared, error⟩
  obtain ⟨own, there, rest⟩ := (bind_ok ..).mp given
  cases declared.symm.trans there
  exact absurd error (of_decide_eq_false ((pure_ok ..).mp rest))

theorem providerDeclaredError_false (given : providerDeclaredError print (.obj fields) = .ok false) :
    ¬DeclaredError print fields ∧ ∀ data, Json.get fields "data" = .obj data → ¬DeclaredError print data := by
  obtain ⟨own, dictionary, rest⟩ := (bind_ok ..).mp given
  cases dictionary
  obtain ⟨top, declared, inner⟩ := (bind_ok ..).mp rest
  cases top with
  | true => cases (pure_ok ..).mp inner
  | false =>
    refine ⟨declaresError_false declared, fun data within => ?_⟩
    simp only [Bool.false_eq_true, if_false, within] at inner
    exact declaresError_false inner

/-- What an answer is that gives an identity. -/
theorem judgeAnswer_ok {payload : Json} {identity : VerifiedWidgetIdentity}
    (given : judgeAnswer print statusCode payload = .ok identity) :
    ∃ fields values identifier, payload = .obj fields ∧ statusCode < 400 ∧
      providerDeclaredError print (.obj fields) = .ok false ∧ candidates print fields = .ok values ∧
      values.findSome? textOf = some identifier ∧
      normalizeIndianPhone identifier = some identity.identifier ∧ identity.raw = payload := by
  obtain ⟨rejected, decided, rest⟩ := (bind_ok ..).mp given
  split at rest
  · obtain ⟨detail, -, failed⟩ := (bind_ok ..).mp rest
    cases failed
  · split at rest
    · obtain ⟨detail, -, failed⟩ := (bind_ok ..).mp rest
      cases failed
    · next accepted =>
      obtain ⟨found, extracted, last⟩ := (bind_ok ..).mp rest
      split at last
      · obtain ⟨detail, -, failed⟩ := (bind_ok ..).mp last
        cases failed
      · next identifier =>
        obtain ⟨phone, normal, same⟩ := (bind_ok ..).mp last
        have made := (pure_ok ..).mp same
        subst made
        obtain ⟨fields, object, more⟩ := (bind_ok ..).mp extracted
        obtain ⟨values, listed, first⟩ := (bind_ok ..).mp more
        have shape : payload = .obj fields := by
          unfold dictionary at object
          cases payload <;> cases object
          rfl
        subst shape
        refine ⟨fields, values, identifier, rfl, ?_, ?_, listed, (pure_ok ..).mp first, ?_, rfl⟩
        · by_contra high
          unfold rejectsAnswer at decided
          rw [if_pos (Nat.not_lt.mp high)] at decided
          exact accepted ((pure_ok ..).mp decided).symm
        · unfold rejectsAnswer at decided
          split at decided
          · exact absurd ((pure_ok ..).mp decided).symm accepted
          · rw [decided, Bool.eq_false_of_not_eq_true accepted]
        · unfold normalizeIdentifier at normal
          split at normal
          · next given => exact given.trans (congrArg some (Except.ok.inj normal))
          · cases normal

/-- The first field with a text that is not blank. -/
theorem findSome_textOf (first : values.findSome? textOf = some identifier) :
    ∃ before text after, values = before ++ .str text :: after ∧
      (∀ other, .str other ∈ before → Text.strip other = "") ∧ Text.strip text ≠ "" ∧ Text.strip text = identifier := by
  obtain ⟨before, value, after, split, found, skipped⟩ := List.findSome?_eq_some_iff.mp first
  cases value with
  | str text =>
    have given : (if Text.strip text = "" then none else some (Text.strip text)) = some identifier := found
    by_cases blank : Text.strip text = ""
    · rw [if_pos blank] at given
      cases given
    · rw [if_neg blank] at given
      refine ⟨before, text, after, split, fun other listed => ?_, blank, Option.some.inj given⟩
      have none : (if Text.strip other = "" then Option.none else some (Text.strip other)) = Option.none :=
        skipped _ listed
      by_contra nonblank
      rw [if_neg nonblank] at none
      cases none
  | _ => cases found

end

/-- Widget login fails closed. A verification whose answer is no JSON, or an object, ends in
an identity, a `ValueError`, which is answered 401, or a `RuntimeError`, which is answered
503. An identity comes only from an object answered with a status below 400 in which neither
level's type reads `error`; and it is the canonical phone of the first field with a text,
among the eight for a number and, beside a type that reads `success`, the message. -/
theorem widget_login_fails_closed (print : Json → Option String) (authKey : Option String)
    (reply : WidgetReply) :
    ((∀ response payload, reply = .response response → response.body = .value payload →
        payload.fields?.isSome = true) →
      verifyWidgetAccessToken print authKey reply ≠ .error .attributeError) ∧
    (∀ fullName draws detail,
      (verifyWidgetAccessToken print authKey reply = .error (.valueError detail) →
        exchangeWidgetToken print true authKey reply fullName draws = .raise ⟨401, detail⟩) ∧
      (verifyWidgetAccessToken print authKey reply = .error (.runtimeError detail) →
        exchangeWidgetToken print true authKey reply fullName draws = .raise ⟨503, detail⟩)) ∧
    ∀ identity, verifyWidgetAccessToken print authKey reply = .ok identity →
      ∃ statusCode fields, reply = .response ⟨statusCode, .value (.obj fields)⟩ ∧ statusCode < 400 ∧
        ¬DeclaredError print fields ∧
        (∀ data, Json.get fields "data" = .obj data → ¬DeclaredError print data) ∧
        ∃ before text after, candidates print fields = .ok (before ++ .str text :: after) ∧
          (∀ other, .str other ∈ before → Text.strip other = "") ∧ Text.strip text ≠ "" ∧
          AnswerField print fields (.str text) ∧
          normalizeIndianPhone (Text.strip text) = some identity.identifier ∧
          CanonicalPhone identity.identifier := by
  refine ⟨fun readable => ?_, fun fullName draws detail => ⟨fun given => ?_, fun given => ?_⟩,
    fun identity given => ?_⟩
  · unfold verifyWidgetAccessToken
    split
    · exact fun same => by cases same
    · split
      · exact fun same => by cases same
      · next response =>
        split
        · exact fun same => by cases same
        · exact fun same => by cases same
        · next payload body =>
          obtain ⟨fields, object⟩ := Option.isSome_iff_exists.mp (readable response payload rfl body)
          cases payload <;> cases object
          exact handled_judgeAnswer response.statusCode fields
  · simp only [exchangeWidgetToken, given, Bool.true_eq_false, if_false]
  · simp only [exchangeWidgetToken, given, Bool.true_eq_false, if_false]
  · unfold verifyWidgetAccessToken at given
    split at given
    · cases given
    · split at given
      · cases given
      · next response =>
        split at given
        · cases given
        · cases given
        · next payload body =>
          obtain ⟨fields, values, identifier, rfl, low, clean, listed, first, normal, -⟩ := judgeAnswer_ok given
          obtain ⟨top, inner⟩ := providerDeclaredError_false clean
          obtain ⟨before, text, after, rfl, blank, nonblank, rfl⟩ := findSome_textOf first
          obtain ⟨statusCode, content⟩ := response
          cases body
          exact ⟨statusCode, fields, rfl, low, top, inner, before, text, after, listed, blank, nonblank,
            candidates_fields listed _ (List.mem_append_right _ List.mem_cons_self), normal,
            normalizeIndianPhone_canonical normal⟩

/-! ### A success, and a failure that is let through -/

def successAnswer : List (String × Json) := [("type", .str "success"), ("message", .str "919876543210")]

/-- What the provider says, with status 200. -/
def widgetVerdict (payload : Json) : Widget VerifiedWidgetIdentity :=
  verifyWidgetAccessToken (fun _ => some "") (some "key") (.response ⟨200, .value payload⟩)

theorem widget_login_fails_closed_success :
    widgetVerdict (.obj successAnswer) ≠ .error .attributeError ∧
      ∃ identity, widgetVerdict (.obj successAnswer) = .ok identity ∧
        identity.identifier = "+919876543210" ∧ CanonicalPhone identity.identifier := by
  have closed := widget_login_fails_closed (fun _ => some "") (some "key")
    (.response ⟨200, .value (.obj successAnswer)⟩)
  have named : (widgetVerdict (.obj successAnswer)).map VerifiedWidgetIdentity.identifier = .ok "+919876543210" := by
    decide +kernel
  constructor
  · apply closed.1
    intro response payload same body
    cases same
    cases body
    rfl
  · cases given : widgetVerdict (.obj successAnswer) with
    | error error =>
      rw [given] at named
      cases named
    | ok identity =>
      rw [given] at named
      obtain ⟨_, _, _, _, _, _, _, _, _, _, _, _, _, _, canonical⟩ := closed.2.2 identity given
      exact ⟨identity, rfl, Except.ok.inj named, canonical⟩

def failedAnswer : List (String × Json) := [("type", .str "failed"), ("mobile", .str "+91 98765-43210")]

/-- An answer that is no object raises another exception; a type that reads neither
`success` nor `error` is let through. -/
theorem widget_login_lets_through :
    widgetVerdict (.arr []) = .error .attributeError ∧
      (widgetVerdict (.obj failedAnswer)).map VerifiedWidgetIdentity.identifier = .ok "+919876543210" :=
  ⟨rfl, by decide +kernel⟩

end GaonOne
