import GaonOne.AccountEndpoints
import GaonOne.Library.Requests

/-! Logins, and the pre-registration of phones. A first login inserts its account and
commits; where somebody else was first, the insert is rolled back and the account they
made is the one that logs in. -/
namespace GaonOne
open Relational UnitOfWork Requests Transitions

abbrev LoginScript := Script Directory HTTPException

/-- `" ".join(full_name.split())`, where there is a name. -/
def tidyName (fullName : Option String) : Option String :=
  (fullName.filter fun name => decide (Text.strip name ≠ "")).map fun name =>
    " ".intercalate (((name.toList.splitOnP Text.isSpace).filter (· ≠ [])).map String.ofList)

/-- `UPDATE external_identities SET last_authenticated_at = ... WHERE id = ...`. -/
def Directory.touchIdentity (identityId : UUID) (now : Instant) (db : Directory) : Directory :=
  { db with
    identities := db.identities.map fun identity =>
      if identity.id = identityId then { identity with lastAuthenticatedAt := now } else identity }

namespace LoginScript

def require (check : Prop) [Decidable check] (error : HTTPException) : LoginScript Unit :=
  Script.ofExcept (UnitOfWork.require check error)

def found (value : Option α) (error : HTTPException) : LoginScript α :=
  Script.ofExcept (UnitOfWork.found value error)

/-- A commit whose refusal nobody handles. -/
def commit : LoginScript Unit := do
  let kept ← Script.tryCommit
  require (kept = true) ⟨500, "IntegrityError"⟩

/-- The end of a login by phone: the account is verified, and named if it was not. -/
def settlePhone (user : Account) (fullName : Option String) : LoginScript UUID := do
  require (user.user.isActive = true) ⟨403, "Account is disabled"⟩
  let named := fullName.isSome && !(user.fullName.any (· ≠ ""))
  Script.flush (if named = true ∨ user.user.isVerified = false then
    Directory.updateAccount user.user.id fun account =>
      { account with
        user.isVerified := true
        fullName := if named then fullName else account.fullName }
    else id)
  commit
  let refreshed ← Script.query (Directory.account? · user.user.id)
  let _ ← found refreshed ⟨500, "InvalidRequestError"⟩
  pure user.user.id

/-- `_login_verified_phone`; the answer is the user of the token. -/
def loginVerifiedPhone (phone : String) (fullName : Option String) (draws : AccountDraws) :
    LoginScript UUID := do
  let known ← Script.query (Directory.byPhone · phone)
  match known with
  | some user => settlePhone user (tidyName fullName)
  | none => do
    Script.flush (Directory.addAccount
      ⟨⟨draws.userId, .customer, false, true, true⟩, some phone, tidyName fullName⟩)
    let kept ← Script.tryCommit
    if kept then do
      -- the object has expired with the commit, and is read again
      let stored ← Script.query (Directory.account? · draws.userId)
      let user ← found stored ⟨500, "ObjectDeletedError"⟩
      settlePhone user (tidyName fullName)
    else do
      let stored ← Script.query (Directory.byPhone · phone)
      let user ← found stored ⟨500, "IntegrityError"⟩
      settlePhone user (tidyName fullName)

/-- The end of a login by Firebase subject. -/
def settleIdentity (identity : ExternalIdentity) (now : Instant) : LoginScript UUID := do
  let account ← Script.query (Directory.account? · identity.userId)
  let user ← found account ⟨401, "Account is unavailable"⟩
  require (user.user.isActive = true) ⟨403, "Account is disabled"⟩
  Script.flush (Directory.touchIdentity identity.id now)
  commit
  pure user.user.id

/-- `_login_firebase_identity`. -/
def loginFirebaseIdentity (subject : String) (displayName : Option String) (draws : AccountDraws) :
    LoginScript UUID := do
  require (Text.strip subject ≠ "") ⟨401, "Firebase token did not contain a subject"⟩
  let known ← Script.query (Directory.identity? · "firebase" subject)
  match known with
  | some identity => settleIdentity identity draws.now
  | none => do
    -- the user is flushed outside the handler of the commit
    let taken ← Script.query (Directory.account? · draws.userId)
    require (taken.isNone = true) ⟨500, "IntegrityError"⟩
    Script.flush (Directory.addAccount ⟨⟨draws.userId, .customer, false, true, true⟩, none, displayName⟩)
    Script.flush (Directory.addIdentity
      ⟨draws.identityId, draws.userId, "firebase", subject, draws.now⟩)
    let kept ← Script.tryCommit
    if kept then do
      let stored ← Script.query fun db : Directory =>
        lookup ExternalIdentity.id draws.identityId db.identities
      let identity ← found stored ⟨500, "ObjectDeletedError"⟩
      settleIdentity identity draws.now
    else do
      let stored ← Script.query (Directory.identity? · "firebase" subject)
      let identity ← found stored ⟨500, "IntegrityError"⟩
      settleIdentity identity draws.now

/-- `admin_onboard_user`, with the answer to a phone that was registered meanwhile. -/
def onboardUser (enabled : Bool) (subject : UUID) (phone fullName : String) (role : UserRole)
    (draws : AccountDraws) : LoginScript UUID := do
  Script.ofProgram (AccountProgram.adminOnboardUser enabled subject phone fullName role draws)
  let kept ← Script.tryCommit
  require (kept = true) ⟨409, "Phone already registered"⟩
  pure draws.userId

end LoginScript

inductive LoginRequest where
  | verifiedPhone (phone : String) (fullName : Option String) (draws : AccountDraws)
  | firebaseIdentity (subject : String) (displayName : Option String) (draws : AccountDraws)
  | onboard (enabled : Bool) (admin : UUID) (phone fullName : String) (role : UserRole)
      (draws : AccountDraws)

/-- What an account is reached by. -/
inductive Credential where
  | phone (phone : String)
  | subject (subject : String)
  deriving DecidableEq

/-- What a login has proved, or a pre-registration names. -/
def LoginRequest.credential : LoginRequest → Credential
  | verifiedPhone phone _ _ | onboard _ _ phone _ _ _ => .phone phone
  | firebaseIdentity subject _ _ => .subject subject

def LoginRequest.script : LoginRequest → LoginScript UUID
  | verifiedPhone phone fullName draws => LoginScript.loginVerifiedPhone phone fullName draws
  | firebaseIdentity subject displayName draws =>
    LoginScript.loginFirebaseIdentity subject displayName draws
  | onboard enabled admin phone fullName role draws =>
    LoginScript.onboardUser enabled admin phone fullName role draws

def loginService : Service Directory HTTPException UUID LoginRequest where
  script := LoginRequest.script
  valid := Directory.Constraints
  decideValid _ := inferInstance

/-! ## Accounts and what reaches them -/

/-- The user a credential leads to. -/
def Directory.Reaches (db : Directory) : Credential → UUID → Prop
  | .phone phone, userId => ∃ account ∈ db.accounts, account.phone = some phone ∧ account.user.id = userId
  | .subject subject, userId => ∃ identity ∈ db.identities,
      identity.provider = "firebase" ∧ identity.subject = subject ∧ identity.userId = userId

/-- Every identity has its user, and every account a phone or an identity. -/
structure DirectorySound (db : Directory) : Prop where
  declared : db.Constraints
  owners : ∀ identity ∈ db.identities, ∃ account ∈ db.accounts, account.user.id = identity.userId
  reached : ∀ account ∈ db.accounts, account.phone.isSome = true ∨
    ∃ identity ∈ db.identities, identity.userId = account.user.id

/-- Accounts keep their phones, and identities their users. -/
structure LinksKept (before after : Directory) : Prop where
  accounts : ∀ account ∈ before.accounts, ∃ now ∈ after.accounts,
    now.user.id = account.user.id ∧ now.phone = account.phone
  identities : ∀ identity ∈ before.identities, ∃ now ∈ after.identities, now.id = identity.id ∧
    now.userId = identity.userId ∧ now.provider = identity.provider ∧ now.subject = identity.subject

/-- What a commit of a login may do: nobody is enabled or disabled either. -/
structure LoginKept (before after : Directory) : Prop extends LinksKept before after where
  active : ∀ account ∈ before.accounts, ∃ now ∈ after.accounts,
    now.user.id = account.user.id ∧ now.user.isActive = account.user.isActive

section
variable {db before middle after now : Directory} {account : Account} {identity : ExternalIdentity}

theorem LinksKept.trans (first : LinksKept before middle) (second : LinksKept middle after) :
    LinksKept before after where
  accounts account listed := by
    obtain ⟨between, there, key, phone⟩ := first.accounts account listed
    obtain ⟨now, here, same, agree⟩ := second.accounts between there
    exact ⟨now, here, same.trans key, agree.trans phone⟩
  identities identity listed := by
    obtain ⟨between, there, key, owner, provider, subject⟩ := first.identities identity listed
    obtain ⟨now, here, same, user, also, again⟩ := second.identities between there
    exact ⟨now, here, same.trans key, user.trans owner, also.trans provider, again.trans subject⟩

theorem LoginKept.refl (db : Directory) : LoginKept db db where
  accounts := fun account listed => ⟨account, listed, rfl, rfl⟩
  identities := fun identity listed => ⟨identity, listed, rfl, rfl, rfl, rfl⟩
  active := fun account listed => ⟨account, listed, rfl, rfl⟩

theorem LoginKept.trans (first : LoginKept before middle) (second : LoginKept middle after) :
    LoginKept before after where
  toLinksKept := first.toLinksKept.trans second.toLinksKept
  active account listed := by
    obtain ⟨between, there, key, active⟩ := first.active account listed
    obtain ⟨now, here, same, agree⟩ := second.active between there
    exact ⟨now, here, same.trans key, agree.trans active⟩

theorem LoginKept.addAccount (account : Account) (db : Directory) : LoginKept db (db.addAccount account) where
  accounts := fun old listed => ⟨old, List.mem_append_left _ listed, rfl, rfl⟩
  identities := fun identity listed => ⟨identity, listed, rfl, rfl, rfl, rfl⟩
  active := fun old listed => ⟨old, List.mem_append_left _ listed, rfl, rfl⟩

theorem LoginKept.addIdentity (identity : ExternalIdentity) (db : Directory) :
    LoginKept db (db.addIdentity identity) where
  accounts := fun account listed => ⟨account, listed, rfl, rfl⟩
  identities := fun old listed => ⟨old, List.mem_append_left _ listed, rfl, rfl, rfl, rfl⟩
  active := fun account listed => ⟨account, listed, rfl, rfl⟩

theorem LoginKept.addAuditEvent (event : AdministrativeAuditEvent) (db : Directory) :
    LoginKept db (db.addAuditEvent event) where
  accounts := fun account listed => ⟨account, listed, rfl, rfl⟩
  identities := fun identity listed => ⟨identity, listed, rfl, rfl, rfl, rfl⟩
  active := fun account listed => ⟨account, listed, rfl, rfl⟩

/-- An update of an account that leaves its key, its phone and its access alone. -/
structure KeepsAccess (set : Account → Account) : Prop where
  key : ∀ account, (set account).user.id = account.user.id
  phone : ∀ account, (set account).phone = account.phone
  active : ∀ account, (set account).user.isActive = account.user.isActive

theorem Directory.mem_updateAccount (id : UUID) (set : Account → Account) (listed : account ∈ db.accounts) :
    (if account.user.id = id then set account else account) ∈ (db.updateAccount id set).accounts :=
  List.mem_map_of_mem listed

theorem LoginKept.updateAccount (id : UUID) (set : Account → Account) (keeps : KeepsAccess set)
    (db : Directory) : LoginKept db (db.updateAccount id set) where
  accounts := by
    intro account listed
    refine ⟨_, Directory.mem_updateAccount id set listed, ?_, ?_⟩
    · split
      · exact keeps.key account
      · rfl
    · split
      · exact keeps.phone account
      · rfl
  identities := fun identity listed => ⟨identity, listed, rfl, rfl, rfl, rfl⟩
  active := by
    intro account listed
    refine ⟨_, Directory.mem_updateAccount id set listed, ?_, ?_⟩
    · split
      · exact keeps.key account
      · rfl
    · split
      · exact keeps.active account
      · rfl

theorem LoginKept.touchIdentity (identityId : UUID) (time : Instant) (db : Directory) :
    LoginKept db (db.touchIdentity identityId time) where
  accounts := fun account listed => ⟨account, listed, rfl, rfl⟩
  identities := by
    intro identity listed
    refine ⟨_, List.mem_map_of_mem listed, ?_, ?_, ?_, ?_⟩ <;> split <;> rfl
  active := fun account listed => ⟨account, listed, rfl, rfl⟩

/-- A credential that leads to a user leads to the same one from then on. -/
theorem LinksKept.reaches (kept : LinksKept before after) (reaches : before.Reaches credential userId) :
    after.Reaches credential userId := by
  cases credential with
  | phone phone =>
    obtain ⟨account, listed, own, key⟩ := reaches
    obtain ⟨now, here, same, agree⟩ := kept.accounts account listed
    exact ⟨now, here, agree.trans own, same.trans key⟩
  | subject subject =>
    obtain ⟨identity, listed, provider, own, user⟩ := reaches
    obtain ⟨now, here, -, same, also, agree⟩ := kept.identities identity listed
    exact ⟨now, here, also.trans provider, agree.trans own, same.trans user⟩

/-- A credential leads to one user. -/
theorem Directory.Constraints.reaches_unique (declared : db.Constraints)
    (first : db.Reaches credential userId) (second : db.Reaches credential other) : userId = other := by
  cases credential with
  | phone phone =>
    obtain ⟨left, here, one, rfl⟩ := first
    obtain ⟨right, there, two, rfl⟩ := second
    rw [uniqueWhenSet_eq declared.phones here there one two]
  | subject subject =>
    obtain ⟨left, here, provider, one, rfl⟩ := first
    obtain ⟨right, there, also, two, rfl⟩ := second
    have same : (left.provider, left.subject) = (right.provider, right.subject) := by
      rw [provider, one, also, two]
    rw [unique_eq declared.identitySubjects here there same]

/-- An account keeps being reached, and an identity keeps its user. -/
theorem DirectorySound.kept (sound : DirectorySound before) (declared : after.Constraints)
    (kept : LinksKept before after)
    (accounts : ∀ account ∈ after.accounts, (∃ old ∈ before.accounts, old.user.id = account.user.id ∧
      old.phone = account.phone) ∨ account.phone.isSome = true ∨
      ∃ identity ∈ after.identities, identity.userId = account.user.id)
    (identities : ∀ identity ∈ after.identities, (∃ old ∈ before.identities, old.userId = identity.userId) ∨
      ∃ account ∈ after.accounts, account.user.id = identity.userId) : DirectorySound after where
  declared := declared
  owners := by
    intro identity listed
    rcases identities identity listed with ⟨old, there, same⟩ | owned
    · obtain ⟨account, stored, own⟩ := sound.owners old there
      obtain ⟨now, here, key, -⟩ := kept.accounts account stored
      exact ⟨now, here, key.trans (own.trans same)⟩
    · exact owned
  reached := by
    intro account listed
    rcases accounts account listed with ⟨old, there, same, phone⟩ | reached
    · rcases sound.reached old there with set | ⟨identity, stored, own⟩
      · exact .inl (phone ▸ set)
      · obtain ⟨now, here, -, user, -⟩ := kept.identities identity stored
        exact .inr ⟨now, here, user.trans (own.trans same)⟩
    · exact reached

/-! ## What a request commits -/

def loginDiscipline : Discipline Directory where
  invariant := DirectorySound
  guarantee := LoginKept
  rely := LinksKept
  refl db := (LoginKept.refl db).toLinksKept
  trans := LinksKept.trans
  relied := LoginKept.toLinksKept

/-- The answer of a request is the user its credential leads to. -/
def AnswersFor (credential : Credential) (userId : UUID) (_ : Directory → Directory) (db : Directory) : Prop :=
  db.Reaches credential userId

variable {post : UUID → (Directory → Directory) → Directory → Prop} {change : Directory → Directory}
  {credential : Credential}

theorem holds_commit {next : Unit → LoginScript UUID}
    (kept : ∀ now, loginDiscipline.Later db now → (change now).Constraints →
      DirectorySound (change now) ∧ LoginKept now (change now))
    (rest : ∀ now, loginDiscipline.Later db (change now) →
      loginDiscipline.Holds Directory.Constraints (next ()) post id (change now)) :
    loginDiscipline.Holds Directory.Constraints (LoginScript.commit >>= next) post change db := by
  rw [Discipline.holds_bind]
  refine Discipline.Holds.tryCommit kept (fun now later since => ?_) fun now _ => ?_
  · exact rest now (later.trans since)
  · trivial

/-- An update that keeps every account's access commits. -/
theorem DirectorySound.updated (sound : DirectorySound db) (id : UUID) (set : Account → Account)
    (keeps : KeepsAccess set) (declared : (db.updateAccount id set).Constraints) :
    DirectorySound (db.updateAccount id set) := by
  have kept := LoginKept.updateAccount id set keeps db
  refine sound.kept declared kept.toLinksKept (fun account listed => .inl ?_)
    fun identity listed => .inl ⟨identity, listed, rfl⟩
  obtain ⟨old, there, rfl⟩ := List.mem_map.mp listed
  refine ⟨old, there, ?_, ?_⟩
  · split
    · exact (keeps.key old).symm
    · rfl
  · split
    · exact (keeps.phone old).symm
    · rfl

theorem DirectorySound.touched (sound : DirectorySound db) (identityId : UUID) (time : Instant)
    (declared : (db.touchIdentity identityId time).Constraints) :
    DirectorySound (db.touchIdentity identityId time) := by
  refine sound.kept declared (LoginKept.touchIdentity identityId time db).toLinksKept
    (fun account listed => .inl ⟨account, listed, rfl, rfl⟩) fun identity listed => .inl ?_
  obtain ⟨old, there, rfl⟩ := List.mem_map.mp listed
  refine ⟨old, there, ?_⟩
  split <;> rfl

/-- A new account that has a phone is reached by it. -/
theorem DirectorySound.addPhone (sound : DirectorySound db) (phoned : account.phone.isSome = true)
    (declared : (db.addAccount account).Constraints) : DirectorySound (db.addAccount account) := by
  refine sound.kept declared (LoginKept.addAccount account db).toLinksKept (fun other listed => ?_)
    fun identity listed => .inl ⟨identity, listed, rfl⟩
  rcases List.mem_append.mp listed with before | new
  · exact .inl ⟨other, before, rfl, rfl⟩
  · rw [List.mem_singleton.mp new]
    exact .inr (.inl phoned)

theorem DirectorySound.onboarded (sound : DirectorySound db) (phoned : account.phone.isSome = true)
    (declared : ((db.addAccount account).addAuditEvent event).Constraints) :
    DirectorySound ((db.addAccount account).addAuditEvent event) := by
  have kept := (LoginKept.addAccount account db).trans (.addAuditEvent event _)
  refine sound.kept declared kept.toLinksKept (fun other listed => ?_)
    fun identity listed => .inl ⟨identity, listed, rfl⟩
  rcases List.mem_append.mp listed with before | new
  · exact .inl ⟨other, before, rfl, rfl⟩
  · rw [List.mem_singleton.mp new]
    exact .inr (.inl phoned)

/-- A new account without a phone comes with the identity that reaches it. -/
theorem DirectorySound.addIdentity (sound : DirectorySound db) (own : identity.userId = account.user.id)
    (declared : ((db.addAccount account).addIdentity identity).Constraints) :
    DirectorySound ((db.addAccount account).addIdentity identity) := by
  have kept := (LoginKept.addAccount account db).trans (.addIdentity identity _)
  have inserted : account ∈ ((db.addAccount account).addIdentity identity).accounts :=
    List.mem_append_right _ (List.mem_singleton_self _)
  have linked : identity ∈ ((db.addAccount account).addIdentity identity).identities :=
    List.mem_append_right _ (List.mem_singleton_self _)
  refine sound.kept declared kept.toLinksKept (fun other listed => ?_) fun other listed => ?_
  · rcases List.mem_append.mp listed with before | new
    · exact .inl ⟨other, before, rfl, rfl⟩
    · rw [List.mem_singleton.mp new]
      exact .inr (.inr ⟨identity, linked, own⟩)
  · rcases List.mem_append.mp listed with before | new
    · exact .inl ⟨other, before, rfl⟩
    · rw [List.mem_singleton.mp new]
      exact .inr ⟨account, inserted, own.symm⟩

theorem holds_settlePhone {user : Account} (reaches : db.Reaches (.phone phone) user.user.id)
    (fullName : Option String) :
    loginDiscipline.Holds Directory.Constraints (LoginScript.settlePhone user fullName)
      (AnswersFor (.phone phone)) id db := by
  unfold LoginScript.settlePhone
  refine Discipline.Holds.check fun _ _ => Discipline.Holds.flush ?_
  refine holds_commit (fun now later declared => ?_) fun now later => ?_
  · dsimp only [Function.comp_id] at declared ⊢
    split at declared
    · next changed =>
      rw [if_pos changed]
      have keeps : KeepsAccess fun account : Account =>
          { account with
            user.isVerified := true
            fullName := if (fullName.isSome && !(user.fullName.any (· ≠ ""))) = true then fullName
              else account.fullName } := ⟨fun _ => rfl, fun _ => rfl, fun _ => rfl⟩
      exact ⟨later.2.updated _ _ keeps declared, .updateAccount _ _ keeps now⟩
    · next same =>
      rw [if_neg same]
      exact ⟨later.2, .refl now⟩
  · refine Discipline.Holds.query fun last since => ?_
    refine Discipline.Holds.check fun _ _ => ?_
    exact (later.trans since).1.reaches reaches

theorem holds_loginVerifiedPhone (phone : String) (fullName : Option String) (draws : AccountDraws)
    (db : Directory) :
    loginDiscipline.Holds Directory.Constraints (LoginScript.loginVerifiedPhone phone fullName draws)
      (AnswersFor (.phone phone)) id db := by
  unfold LoginScript.loginVerifiedPhone
  have known {now : Directory} {user : Account} (stored : now.byPhone phone = some user) :
      now.Reaches (.phone phone) user.user.id := ⟨user, lookup_mem stored, lookup_col stored, rfl⟩
  refine Discipline.Holds.query fun now _ => ?_
  dsimp only [id]
  cases stored : now.byPhone phone with
  | some user => exact holds_settlePhone (known stored) _
  | none =>
    refine Discipline.Holds.flush (Discipline.Holds.tryCommit ?_ ?_ ?_)
    · exact fun now later declared => ⟨later.2.addPhone rfl declared, .addAccount _ now⟩
    · intro now _ _
      rw [if_pos rfl]
      have inserted : (now.addAccount ⟨⟨draws.userId, .customer, false, true, true⟩, some phone,
          tidyName fullName⟩).Reaches (.phone phone) draws.userId :=
        ⟨_, List.mem_append_right _ (List.mem_singleton_self _), rfl, rfl⟩
      refine Discipline.Holds.query fun last since => ?_
      refine Discipline.Holds.check fun user stored => ?_
      have held := (found_ok ..).mp stored
      have own := lookup_col held
      exact holds_settlePhone (own ▸ since.1.reaches inserted) _
    · intro now _
      rw [if_neg (by decide)]
      refine Discipline.Holds.query fun last _ => ?_
      refine Discipline.Holds.check fun user stored => ?_
      exact holds_settlePhone (known ((found_ok ..).mp stored)) _

theorem holds_settleIdentity (reaches : db.Reaches (.subject subject) identity.userId) (time : Instant) :
    loginDiscipline.Holds Directory.Constraints (LoginScript.settleIdentity identity time)
      (AnswersFor (.subject subject)) id db := by
  unfold LoginScript.settleIdentity
  refine Discipline.Holds.query fun now later => ?_
  refine Discipline.Holds.check fun user stored => ?_
  have held := (found_ok ..).mp stored
  have own := lookup_col held
  refine Discipline.Holds.check fun _ _ => Discipline.Holds.flush ?_
  refine holds_commit (fun now later declared => ?_) fun last since => ?_
  · exact ⟨later.2.touched _ _ declared, .touchIdentity _ _ now⟩
  · exact (later.trans since).1.reaches (own ▸ reaches)

theorem holds_loginFirebaseIdentity (subject : String) (displayName : Option String) (draws : AccountDraws)
    (db : Directory) :
    loginDiscipline.Holds Directory.Constraints (LoginScript.loginFirebaseIdentity subject displayName draws)
      (AnswersFor (.subject subject)) id db := by
  unfold LoginScript.loginFirebaseIdentity
  have known {now : Directory} {identity : ExternalIdentity}
      (stored : now.identity? "firebase" subject = some identity) :
      now.Reaches (.subject subject) identity.userId := by
    have own := lookup_col stored
    exact ⟨identity, lookup_mem stored, congrArg Prod.fst own, congrArg Prod.snd own, rfl⟩
  refine Discipline.Holds.check fun _ _ => ?_
  refine Discipline.Holds.query fun now _ => ?_
  dsimp only [id]
  cases stored : now.identity? "firebase" subject with
  | some identity => exact holds_settleIdentity (known stored) _
  | none =>
    refine Discipline.Holds.query fun now _ => ?_
    refine Discipline.Holds.check fun _ _ => ?_
    refine Discipline.Holds.flush (Discipline.Holds.flush (Discipline.Holds.tryCommit ?_ ?_ ?_))
    · exact fun now later declared =>
        ⟨later.2.addIdentity rfl declared, (LoginKept.addAccount _ now).trans (.addIdentity _ _)⟩
    · intro now _ committed
      rw [if_pos rfl]
      refine Discipline.Holds.query fun last since => ?_
      refine Discipline.Holds.check fun identity stored => ?_
      -- the identity this request has just inserted
      have held := (found_ok ..).mp stored
      obtain ⟨mine, there, key, user, provider, own⟩ := since.1.identities
        ⟨draws.identityId, draws.userId, "firebase", subject, draws.now⟩
        (List.mem_append_right _ (List.mem_singleton_self _))
      have same := unique_eq since.2.declared.identityIds (lookup_mem held) there ((lookup_col held).trans key.symm)
      rw [same]
      exact holds_settleIdentity ⟨mine, there, provider, own, rfl⟩ _
    · intro now _
      rw [if_neg (by decide)]
      refine Discipline.Holds.query fun last _ => ?_
      refine Discipline.Holds.check fun identity stored => ?_
      exact holds_settleIdentity (known ((found_ok ..).mp stored)) _

theorem holds_onboardUser (enabled : Bool) (admin : UUID) (phone fullName : String) (role : UserRole)
    (draws : AccountDraws) (db : Directory) :
    loginDiscipline.Holds Directory.Constraints
      (LoginScript.onboardUser enabled admin phone fullName role draws) (AnswersFor (.phone phone)) id db := by
  unfold LoginScript.onboardUser AccountProgram.adminOnboardUser AccountProgram.recordAdminAction
    AccountProgram.require AccountProgram.requireCapability AccountProgram.currentUser
  simp only [Discipline.ofProgram_bind, Discipline.ofProgram_ofExcept, Discipline.ofProgram_query,
    Discipline.ofProgram_flush, Discipline.ofProgram_pure, bind_assoc, pure_bind]
  refine Discipline.Holds.query fun _ _ => ?_
  refine Discipline.Holds.check fun actor _ => ?_
  refine Discipline.Holds.check fun _ _ => Discipline.Holds.check fun _ _ => Discipline.Holds.check fun _ _ => ?_
  refine Discipline.Holds.query fun _ _ => ?_
  refine Discipline.Holds.check fun _ _ => Discipline.Holds.flush (Discipline.Holds.check fun _ _ => ?_)
  refine Discipline.Holds.flush (Discipline.Holds.tryCommit ?_ ?_ ?_)
  · exact fun now later declared =>
      ⟨later.2.onboarded rfl declared, (LoginKept.addAccount _ now).trans (.addAuditEvent _ _)⟩
  · intro now _ _
    refine Discipline.Holds.check fun _ _ => ?_
    exact ⟨_, List.mem_append_right _ (List.mem_singleton_self _), rfl, rfl⟩
  · intro now _
    trivial

end

/-! ## Runs -/

/-- The rest of the program edits accounts, and leaves their keys and phones and the
identities alone. -/
structure LeavesLogins (before after : Directory) : Prop where
  declared : after.Constraints
  accounts : ∃ set : Account → Account,
    (∀ account, (set account).user.id = account.user.id ∧ (set account).phone = account.phone) ∧
      after.accounts = before.accounts.map set
  identities : after.identities = before.identities

abbrev LoginState := Requests.State Directory HTTPException UUID LoginRequest

/-- What other parts of the program may do in a run. -/
def LoginsUndisturbed (state : LoginState) : ReadCommitted.Action Directory LoginRequest → Prop
  | .other after => LeavesLogins state.database after
  | _ => True

theorem LeavesLogins.later (leaves : LeavesLogins before after) (sound : DirectorySound before) :
    loginDiscipline.Later before after := by
  obtain ⟨set, keeps, same⟩ := leaves.accounts
  have kept : LinksKept before after := by
    constructor
    · intro account listed
      refine ⟨set account, ?_, keeps account⟩
      rw [same]
      exact List.mem_map_of_mem listed
    · exact fun identity listed => ⟨identity, leaves.identities ▸ listed, rfl, rfl, rfl, rfl⟩
  refine ⟨kept, sound.kept leaves.declared kept (fun account listed => .inl ?_) fun identity listed => .inl ?_⟩
  · rw [same] at listed
    obtain ⟨old, there, rfl⟩ := List.mem_map.mp listed
    exact ⟨old, there, (keeps old).1.symm, (keeps old).2.symm⟩
  · exact ⟨identity, leaves.identities ▸ listed, rfl⟩

/-- The user a request answers with is the one its credential leads to. -/
def LoginRequest.answers (request : LoginRequest) (userId : UUID) (db : Directory) : Prop :=
  db.Reaches request.credential userId

theorem logins_upheld : loginDiscipline.Upheld loginService LoginRequest.answers LoginsUndisturbed where
  starts request db _ := by
    cases request with
    | verifiedPhone phone fullName draws => exact holds_loginVerifiedPhone phone fullName draws db
    | firebaseIdentity subject displayName draws =>
      exact holds_loginFirebaseIdentity subject displayName draws db
    | onboard enabled admin phone fullName role draws =>
      exact holds_onboardUser enabled admin phone fullName role draws db
  others _ _ leaves sound := leaves.later sound
  lasting _ _ _ _ later reaches := later.1.reaches reaches

/-- One account per verified identity. In every state of every interleaving of logins and
pre-registrations: a subject has one identity, whose user is one account; a phone belongs to
one account; the answered requests of one phone or one subject name one user, which that
phone or subject leads to; every account is reached by a phone or an identity; and no
statement of theirs enables or disables an account. -/
theorem one_account_per_identity (sound : DirectorySound start)
    (reached : System.ReachableWhile (loginService.system start) LoginsUndisturbed state) :
    Unique (fun identity : ExternalIdentity => (identity.provider, identity.subject))
        state.database.identities ∧
      (∀ identity ∈ state.database.identities, ∃! account, account ∈ state.database.accounts ∧
        account.user.id = identity.userId) ∧
      UniqueWhenSet Account.phone state.database.accounts ∧
      (∀ request userId, (request, .answered userId) ∈ state.sessions →
        state.database.Reaches request.credential userId ∧
          ∀ other another, (other, .answered another) ∈ state.sessions →
            other.credential = request.credential → another = userId) ∧
      (∀ account ∈ state.database.accounts, account.phone.isSome = true ∨
        ∃ identity ∈ state.database.identities, identity.userId = account.user.id) ∧
      ∀ index, ∀ account ∈ state.database.accounts,
        ∃ now ∈ (loginService.step state (.advance index)).database.accounts,
          now.user.id = account.user.id ∧ now.user.isActive = account.user.isActive := by
  have safe := logins_upheld.safe sound reached
  have declared := safe.invariant.declared
  refine ⟨declared.identitySubjects, fun identity listed => ?_, declared.phones, fun request userId answered => ?_,
    safe.invariant.reached, fun index account listed => ?_⟩
  · obtain ⟨account, stored, own⟩ := safe.invariant.owners identity listed
    refine ⟨account, ⟨stored, own⟩, fun other also => ?_⟩
    exact unique_eq declared.userIds also.1 stored (also.2.trans own.symm)
  · have reaches : state.database.Reaches request.credential userId := safe.stands _ answered
    refine ⟨reaches, fun other another also same => ?_⟩
    have too : state.database.Reaches other.credential another := safe.stands _ also
    rw [same] at too
    exact declared.reaches_unique too reaches
  · rcases safe.advance index with same | kept
    · rw [same]
      exact ⟨account, listed, rfl, rfl⟩
    · exact kept.active account listed

/-! ### Two first logins at once -/

def firstDraws : AccountDraws := ⟨1#128, 2#128, 3#128, 4#128, 1000⟩

def secondDraws : AccountDraws := ⟨5#128, 6#128, 7#128, 8#128, 2000⟩

/-- Both requests insert a user and an identity; the second to commit is rolled back. -/
def racedLogins : List (ReadCommitted.Action Directory LoginRequest) :=
  .start (.firebaseIdentity "google-1" (some "Asha") firstDraws) ::
    .start (.firebaseIdentity "google-1" (some "Asha") secondDraws) ::
    List.replicate 4 (.advance 0) ++ List.replicate 4 (.advance 1) ++
      List.replicate 6 (.advance 0) ++ List.replicate 6 (.advance 1)

theorem one_account_per_identity_raced :
    let raced := (loginService.system {}).run ⟨{}, []⟩ racedLogins
    raced.database.accounts.map (·.user.id) = [1#128] ∧
      ∀ userId, (.firebaseIdentity "google-1" (some "Asha") secondDraws, .answered userId) ∈ raced.sessions →
        userId = 1#128 := by
  have sound : DirectorySound {} :=
    ⟨by decide, fun _ listed => absurd listed List.not_mem_nil, fun _ listed => absurd listed List.not_mem_nil⟩
  have admitted : System.RunWhile (loginService.system {}) LoginsUndisturbed ⟨{}, []⟩ racedLogins := by
    apply System.RunWhile.of_forall
    intro action listed state
    simp only [racedLogins, List.mem_append, List.mem_cons, List.mem_replicate] at listed
    rcases listed with (((rfl | rfl | ⟨-, rfl⟩) | ⟨-, rfl⟩) | ⟨-, rfl⟩) | ⟨-, rfl⟩ <;> trivial
  have first : (LoginRequest.firebaseIdentity "google-1" (some "Asha") firstDraws, .answered 1#128) ∈
      ((loginService.system {}).run ⟨{}, []⟩ racedLogins).sessions := by
    refine List.mem_of_getElem? (i := 0) ?_
    rfl
  refine ⟨by decide +kernel, fun userId second => ?_⟩
  exact ((one_account_per_identity sound (System.ReachableWhile.initial.run racedLogins admitted)).2.2.2.1 _ _
    first).2 _ _ second rfl

end GaonOne
