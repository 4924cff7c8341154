import GaonOne.Library.Json
import GaonOne.Statements

/-! The endpoints that write users: login, onboarding, an administrator's role update,
a merchant application and a profile edit, statement by statement. The session writes
the columns that differ from what it loaded, and an `UPDATE` locks its row. -/
namespace GaonOne
open Relational UnitOfWork ReadCommitted

def UserRole.value : UserRole → String
  | customer => "customer"
  | merchant => "merchant"
  | delivery => "delivery"
  | admin => "admin"

/-- A row of `users`, with its contact columns. -/
structure Account where
  user : User
  phone : Option String
  fullName : Option String
  deriving DecidableEq

structure ExternalIdentity where
  id : UUID
  userId : UUID
  provider : String
  subject : String
  lastAuthenticatedAt : Instant
  deriving DecidableEq

/-- `previous_state` and `resulting_state` of a change of access. -/
structure AccessState where
  role : String
  isActive : Option Bool
  isVerified : Bool
  deriving DecidableEq

structure AdministrativeAuditEvent where
  id : UUID
  actorUserId : UUID
  action : String
  capability : String
  resourceType : String
  resourceId : String
  previousState : Option AccessState
  resultingState : AccessState
  reason : String
  deriving DecidableEq

/-- The tables these endpoints read and write. -/
structure Directory where
  accounts : List Account := []
  merchants : List Merchant := []
  identities : List ExternalIdentity := []
  auditEvents : List AdministrativeAuditEvent := []
  deriving DecidableEq

namespace Directory

@[mk_iff]
structure Constraints (db : Directory) : Prop where
  userIds : Unique (fun account : Account => account.user.id) db.accounts
  phones : UniqueWhenSet Account.phone db.accounts
  merchantIds : Unique Merchant.id db.merchants
  merchantOwners : Unique Merchant.ownerUserId db.merchants
  identityIds : Unique ExternalIdentity.id db.identities
  identitySubjects :
    Unique (fun identity : ExternalIdentity => (identity.provider, identity.subject)) db.identities
  auditEventIds : Unique AdministrativeAuditEvent.id db.auditEvents

instance (db : Directory) : Decidable db.Constraints :=
  decidable_of_iff _ (constraints_iff db).symm

def account? (db : Directory) (id : UUID) : Option Account :=
  lookup (fun account : Account => account.user.id) id db.accounts

def byPhone (db : Directory) (phone : String) : Option Account :=
  lookup Account.phone (some phone) db.accounts

def identity? (db : Directory) (provider subject : String) : Option ExternalIdentity :=
  lookup (fun identity : ExternalIdentity => (identity.provider, identity.subject))
    (provider, subject) db.identities

/-- `UPDATE users SET ... WHERE id = ...`. -/
def updateAccount (id : UUID) (set : Account → Account) (db : Directory) : Directory :=
  { db with accounts := db.accounts.map fun account => if account.user.id = id then set account else account }

def addAccount (account : Account) (db : Directory) : Directory :=
  { db with accounts := db.accounts ++ [account] }

def addMerchant (merchant : Merchant) (db : Directory) : Directory :=
  { db with merchants := db.merchants ++ [merchant] }

def addIdentity (identity : ExternalIdentity) (db : Directory) : Directory :=
  { db with identities := db.identities ++ [identity] }

def addAuditEvent (event : AdministrativeAuditEvent) (db : Directory) : Directory :=
  { db with auditEvents := db.auditEvents ++ [event] }

end Directory

/-- What a session is about to commit, kept for conditions on runs. -/
inductive AccountNote where
  /-- An application that writes the role of its applicant, as loaded. -/
  | applies (applicant : Account)

abbrev AccountProgram := Program Directory RowLock AccountNote HTTPException

/-- What a request takes from outside: the identifiers it may use, and the clock. -/
structure AccountDraws where
  userId : UUID
  identityId : UUID
  merchantId : UUID
  auditEventId : UUID
  now : Instant

namespace AccountProgram

/-- The user a valid token names. -/
def currentUser (subject : UUID) : AccountProgram Account := do
  let account ← Program.query (Directory.account? · subject)
  Program.ofExcept (found (account.filter (·.user.isActive)) ⟨401, "User not available"⟩)

def requireCapability (subject : UUID) (capability : Capability) : AccountProgram Account := do
  let account ← currentUser subject
  Program.ofExcept (ensureCapability account.user capability)
  pure account

def require (check : Prop) [Decidable check] (error : HTTPException) : AccountProgram Unit :=
  Program.ofExcept (UnitOfWork.require check error)

/-- An `UPDATE` of columns other than the key. -/
def update (id : UUID) (set : Account → Account) : AccountProgram Unit := do
  Program.lockRow ⟨.user id, .noKeyUpdate⟩
  Program.flush (Directory.updateAccount id set)

/-- The `UPDATE` of a session whose object differs from what it loaded. -/
def updateIf (changed : Prop) [Decidable changed] (id : UUID) (set : Account → Account) :
    AccountProgram Unit :=
  if changed then update id set else pure ()

/-- `POST /merchants/apply`. -/
def applyAsMerchant (subject : UUID) (draws : AccountDraws) : AccountProgram Unit := do
  let user ← currentUser subject
  let existing ← Program.query fun db : Directory =>
    lookup Merchant.ownerUserId user.user.id db.merchants
  require (existing = none) ⟨409, "Merchant profile already exists"⟩
  if user.user.role ≠ .merchant then
    update user.user.id fun account => { account with user.role := .merchant }
    Program.remember (.applies user)
  Program.flush (Directory.addMerchant ⟨draws.merchantId, user.user.id, .pending⟩)

/-- `record_admin_action` for a change of access. -/
def recordAdminAction (actor : Account) (action : String) (resourceId : UUID)
    (previousState : Option AccessState) (resultingState : AccessState) (reason : String)
    (draws : AccountDraws) : AccountProgram Unit := do
  require (actor.user.role = .admin)
    ⟨500, "Administrative audit actors must be administrators"⟩
  Program.flush (Directory.addAuditEvent {
    id := draws.auditEventId
    actorUserId := actor.user.id
    action
    capability := Capability.adminManage.value
    resourceType := "user"
    resourceId := uuidText resourceId
    previousState
    resultingState
    reason })

/-- The columns of a role update that differ from the loaded row. -/
def accessWritten (loaded : User) (role : UserRole) (isActive : Bool) (account : Account) : Account :=
  { account with
    user.role := if role ≠ loaded.role then role else account.user.role
    user.isActive := if isActive ≠ loaded.isActive then isActive else account.user.isActive }

/-- `PATCH /admin/users/{user_id}/role`. An administrator who names themselves gets the
object that authentication loaded. -/
def adminUpdateUser (subject userId : UUID) (role : UserRole) (isActive : Bool)
    (draws : AccountDraws) : AccountProgram Unit := do
  let admin ← requireCapability subject .adminManage
  let loaded ← Program.query (Directory.account? · userId)
  let user ← Program.ofExcept (found (if userId = admin.user.id then some admin else loaded)
    ⟨404, "User not found"⟩)
  if user.user.isSuperAdmin then
    Program.ofExcept (ensureCapability admin.user .adminManage)
    require (¬(user.user.id ≠ admin.user.id ∨ role ≠ .admin ∨ isActive = false))
      ⟨403, "Super Admin account is protected"⟩
  else
    Program.ofExcept (if role ≠ user.user.role ∨ user.user.role = .admin then
      ensureCapability admin.user .adminManage else pure ())
    require (¬(user.user.id = admin.user.id ∧ (role ≠ .admin ∨ isActive = false)))
      ⟨400, "You cannot remove or deactivate your own admin access"⟩
    updateIf (role ≠ user.user.role ∨ isActive ≠ user.user.isActive) user.user.id
      (accessWritten user.user role isActive)
    recordAdminAction admin "user.access_updated" user.user.id
      (some ⟨user.user.role.value, some user.user.isActive, user.user.isVerified⟩)
      ⟨role.value, some isActive, user.user.isVerified⟩ "administrator_access_management" draws

/-- `POST /admin/users/onboard`; `enabled` is `_phone_onboarding_enabled()`. -/
def adminOnboardUser (enabled : Bool) (subject : UUID) (phone fullName : String) (role : UserRole)
    (draws : AccountDraws) : AccountProgram Unit := do
  let admin ← requireCapability subject .adminManage
  require (enabled = true)
    ⟨409, "Phone pre-registration requires enabled phone authentication. For Google users, have them sign in first and then assign their role."⟩
  require (role ≠ .admin) ⟨403, "Administrator onboarding requires a verified account"⟩
  let registered ← Program.query (Directory.byPhone · phone)
  require (registered = none) ⟨409, "Phone already registered; manage existing account"⟩
  Program.flush (Directory.addAccount
    ⟨⟨draws.userId, role, false, true, false⟩, some phone, some (Text.strip fullName)⟩)
  recordAdminAction admin "user.onboarded" draws.userId none ⟨role.value, none, false⟩
    "administrator_pre_registration" draws

/-- The first transaction of a login by phone: the account, if there is none yet. The name
comes with its blanks joined. -/
def registerPhone (phone : String) (fullName : Option String) (draws : AccountDraws) :
    AccountProgram Unit := do
  let registered ← Program.query (Directory.byPhone · phone)
  if registered = none then
    Program.flush (Directory.addAccount
      ⟨⟨draws.userId, .customer, false, true, true⟩, some phone, fullName⟩)

/-- The second: the account is verified, and named if it was not. -/
def loginPhone (phone : String) (fullName : Option String) : AccountProgram Unit := do
  let registered ← Program.query (Directory.byPhone · phone)
  let user ← Program.ofExcept (found registered ⟨500, "IntegrityError"⟩)
  require (user.user.isActive = true) ⟨403, "Account is disabled"⟩
  let named := fullName.isSome && !(user.fullName.any (· ≠ ""))
  updateIf (named = true ∨ user.user.isVerified = false) user.user.id fun account =>
    { account with
      user.isVerified := true
      fullName := if named then fullName else account.fullName }

/-- The first transaction of a login by Firebase subject. -/
def registerIdentity (subject : String) (displayName : Option String) (draws : AccountDraws) :
    AccountProgram Unit := do
  require (Text.strip subject ≠ "") ⟨401, "Firebase token did not contain a subject"⟩
  let identity ← Program.query (Directory.identity? · "firebase" subject)
  if identity = none then
    Program.flush (Directory.addAccount
      ⟨⟨draws.userId, .customer, false, true, true⟩, none, displayName⟩)
    Program.flush (Directory.addIdentity
      ⟨draws.identityId, draws.userId, "firebase", subject, draws.now⟩)

/-- The second: the identity's last authentication. -/
def loginIdentity (subject : String) (draws : AccountDraws) : AccountProgram Unit := do
  let known ← Program.query (Directory.identity? · "firebase" subject)
  let identity ← Program.ofExcept (found known ⟨500, "IntegrityError"⟩)
  let account ← Program.query (Directory.account? · identity.userId)
  let user ← Program.ofExcept (found account ⟨401, "Account is unavailable"⟩)
  require (user.user.isActive = true) ⟨403, "Account is disabled"⟩
  Program.flush fun db : Directory =>
    { db with
      identities := put ExternalIdentity.id { identity with lastAuthenticatedAt := draws.now }
        db.identities }

/-- `PATCH /users/me`. -/
def updateCurrentUser (subject : UUID) (fullName : Option String) : AccountProgram Unit := do
  let user ← currentUser subject
  updateIf (fullName ≠ user.fullName) user.user.id fun account => { account with fullName }

end AccountProgram

/-- The requests that write users. -/
inductive AccountRequest where
  | applyAsMerchant (subject : UUID) (draws : AccountDraws)
  | adminUpdateUser (subject userId : UUID) (role : UserRole) (isActive : Bool)
      (draws : AccountDraws)
  | adminOnboardUser (enabled : Bool) (subject : UUID) (phone fullName : String) (role : UserRole)
      (draws : AccountDraws)
  | registerPhone (phone : String) (fullName : Option String) (draws : AccountDraws)
  | loginPhone (phone : String) (fullName : Option String)
  | registerIdentity (subject : String) (displayName : Option String) (draws : AccountDraws)
  | loginIdentity (subject : String) (draws : AccountDraws)
  | updateCurrentUser (subject : UUID) (fullName : Option String)

def AccountRequest.program : AccountRequest → AccountProgram Unit
  | applyAsMerchant subject draws => AccountProgram.applyAsMerchant subject draws
  | adminUpdateUser subject userId role isActive draws =>
    AccountProgram.adminUpdateUser subject userId role isActive draws
  | adminOnboardUser enabled subject phone fullName role draws =>
    AccountProgram.adminOnboardUser enabled subject phone fullName role draws
  | registerPhone phone fullName draws => AccountProgram.registerPhone phone fullName draws
  | loginPhone phone fullName => AccountProgram.loginPhone phone fullName
  | registerIdentity subject displayName draws =>
    AccountProgram.registerIdentity subject displayName draws
  | loginIdentity subject draws => AccountProgram.loginIdentity subject draws
  | updateCurrentUser subject fullName => AccountProgram.updateCurrentUser subject fullName

def accountService : Service Directory RowLock AccountNote HTTPException Unit AccountRequest where
  program := AccountRequest.program
  conflicts := RowLock.conflicts
  symmetric := RowLock.conflicts_symm
  valid := Directory.Constraints
  decideConflicts := inferInstance
  decideValid _ := inferInstance

end GaonOne
