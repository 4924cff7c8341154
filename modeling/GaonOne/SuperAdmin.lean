import GaonOne.AccountEndpoints

/-! The super admin is protected. The role update refuses to touch a super admin, and
records every other change with the administrator who made it; a merchant application
writes the role of whoever applies. So the protection holds in every run in which no
administrator's application is committed. -/
namespace GaonOne
open Relational UnitOfWork ReadCommitted Transitions

/-- Accounts are told apart by their key, and a super admin is an active administrator. -/
@[mk_iff]
structure Directory.Protected (db : Directory) : Prop where
  ids : Unique (fun account : Account => account.user.id) db.accounts
  supers : ∀ account ∈ db.accounts, account.user.isSuperAdmin = true →
    account.user.role = .admin ∧ account.user.isActive = true

instance (db : Directory) : Decidable db.Protected := decidable_of_iff _ (Directory.protected_iff db).symm

/-- Every administrator who loses the role loses it to a new audit event of somebody who
holds the capability. -/
def AdminChangesRecorded (before after : Directory) : Prop :=
  ∀ id old new, before.account? id = some old → after.account? id = some new →
    old.user.role = .admin → new.user.role ≠ .admin →
    ∃ requester, before.account? requester.user.id = some requester ∧
      hasCapability requester.user .adminManage ∧
      ∃ event ∈ after.auditEvents, event ∉ before.auditEvents ∧
        event.actorUserId = requester.user.id ∧ event.action = "user.access_updated" ∧
        event.resourceId = uuidText id ∧ event.resultingState.role = new.user.role.value

/-- Accounts stay, and nobody is made or unmade a super admin. -/
def SupersKept (before after : Directory) : Prop :=
  ∀ id account, before.account? id = some account → ∃ next, after.account? id = some next ∧
    next.user.isSuperAdmin = account.user.isSuperAdmin

/-- The applicant whose role the session writes is no administrator any more. -/
def AccountNote.Unprivileged (db : Directory) : AccountNote → Prop
  | applies applicant =>
    ((db.account? applicant.user.id).all fun account => decide (account.user.role ≠ .admin)) = true

instance (db : Directory) : DecidablePred (AccountNote.Unprivileged db)
  | .applies _ => inferInstanceAs (Decidable (_ = true))

def ApplicantsUnprivileged (notes : List AccountNote) (db : Directory) : Prop :=
  ∀ note ∈ notes, note.Unprivileged db

instance (notes : List AccountNote) (db : Directory) : Decidable (ApplicantsUnprivileged notes db) :=
  inferInstanceAs (Decidable (∀ _ ∈ _, _))

def accountDiscipline : Discipline Directory RowLock AccountNote where
  invariant := Directory.Protected
  guarantee := AdminChangesRecorded
  rely _ _ := SupersKept
  refl _ _ _ _ account found := ⟨account, found, rfl⟩
  trans earlier later id account found := by
    obtain ⟨next, there, same⟩ := earlier id account found
    obtain ⟨last, found', again⟩ := later id next there
    exact ⟨last, found', again.trans same⟩
  weaken rely := rely
  admits footing db := ApplicantsUnprivileged footing.notes db
  apart _ _ := True

/-! ## Rows -/

variable {db before after now : Directory} {id other : UUID} {account : Account}

theorem Directory.account?_id (found : db.account? id = some account) : account.user.id = id := by
  have met := List.find?_some found
  simpa using met

theorem Directory.account?_mem (found : db.account? id = some account) : account ∈ db.accounts :=
  List.mem_of_find?_eq_some found

theorem Directory.account?_update (set : Account → Account)
    (same : ∀ account : Account, (set account).user.id = account.user.id) :
    (db.updateAccount id set).account? other =
      (db.account? other).map fun account => if account.user.id = id then set account else account :=
  lookup_update same id other db.accounts

theorem Directory.account?_add :
    (db.addAccount account).account? other =
      (db.account? other).or (if account.user.id = other then some account else none) :=
  lookup_append ..

/-- A commit that leaves every account and every super admin in place. -/
theorem Directory.Protected.commit (constraints : after.Constraints)
    (stays : ∀ id account, now.account? id = some account → ∃ next, after.account? id = some next ∧
      next.user.isSuperAdmin = account.user.isSuperAdmin ∧
      (account.user.isSuperAdmin = true → next.user.role = .admin ∧ next.user.isActive = true))
    (fresh : ∀ id account, after.account? id = some account → now.account? id = none →
      account.user.isSuperAdmin = false) : after.Protected ∧ SupersKept now after := by
  refine ⟨⟨constraints.userIds, fun account held super => ?_⟩, fun id account found => ?_⟩
  · have found : after.account? account.user.id = some account :=
      (lookup_eq_some_iff constraints.userIds).mpr ⟨held, rfl⟩
    cases before : now.account? account.user.id with
    | none =>
      rw [fresh _ account found before] at super
      cases super
    | some old =>
      obtain ⟨next, there, same, kept⟩ := stays _ old before
      rw [found] at there
      cases there
      exact kept (same ▸ super)
  · obtain ⟨next, there, same, -⟩ := stays id account found
    exact ⟨next, there, same⟩

/-- A commit that changes no role. -/
theorem recorded_of_roles (roles : ∀ id old new, before.account? id = some old →
    after.account? id = some new → new.user.role = old.user.role) :
    AdminChangesRecorded before after := by
  intro id old new here there admin other
  exact absurd ((roles id old new here there).trans admin) other

/-- An `UPDATE` of one account, and whatever else the transaction inserts. -/
theorem update_commits (set : Account → Account) (guarded : now.Protected)
    (accounts : after.accounts = (now.updateAccount id set).accounts)
    (constraints : after.Constraints)
    (same : ∀ account : Account, (set account).user.id = account.user.id ∧
      (set account).user.isSuperAdmin = account.user.isSuperAdmin)
    (safe : ∀ account, now.account? id = some account → account.user.isSuperAdmin = true →
      (set account).user.role = .admin ∧ (set account).user.isActive = true)
    (recorded : ∀ account, now.account? id = some account → account.user.role = .admin →
      (set account).user.role ≠ .admin →
      ∃ requester, now.account? requester.user.id = some requester ∧
        hasCapability requester.user .adminManage ∧
        ∃ event ∈ after.auditEvents, event ∉ now.auditEvents ∧
          event.actorUserId = requester.user.id ∧ event.action = "user.access_updated" ∧
          event.resourceId = uuidText id ∧
          event.resultingState.role = (set account).user.role.value) :
    after.Protected ∧ AdminChangesRecorded now after ∧ SupersKept now after := by
  have found : ∀ other, after.account? other = (now.account? other).map fun account =>
      if account.user.id = id then set account else account := by
    intro other
    rw [← Directory.account?_update set fun account => (same account).1]
    simp only [Directory.account?, accounts]
  obtain ⟨kept, supers⟩ := Directory.Protected.commit constraints
    (fun other account held => by
      refine ⟨_, by rw [found, held]; rfl, ?_⟩
      dsimp only
      split
      · next here =>
        have own : now.account? id = some account := by
          rw [← here, Directory.account?_id held]
          exact held
        exact ⟨(same account).2, safe account own⟩
      · exact ⟨rfl, guarded.supers account (Directory.account?_mem held)⟩)
    (fun other account held absent => by rw [found, absent] at held; cases held)
  refine ⟨kept, fun other old new here there admin differ => ?_, supers⟩
  rw [found, here] at there
  have shape : (if old.user.id = id then set old else old) = new := Option.some.inj there
  split at shape
  · next own =>
    subst shape
    have target : other = id := (Directory.account?_id here).symm.trans own
    subst target
    exact recorded old here admin differ
  · subst shape
    exact absurd admin differ

/-- An `INSERT` of one account that is no super admin. -/
theorem insert_commits (new : Account) (guarded : now.Protected)
    (accounts : after.accounts = (now.addAccount new).accounts) (constraints : after.Constraints)
    (ordinary : new.user.isSuperAdmin = false) :
    after.Protected ∧ AdminChangesRecorded now after ∧ SupersKept now after := by
  have found : ∀ other, after.account? other =
      (now.account? other).or (if new.user.id = other then some new else none) := by
    intro other
    rw [← Directory.account?_add]
    simp only [Directory.account?, accounts]
  have stays : ∀ {other account}, now.account? other = some account →
      after.account? other = some account := by
    intro other account held
    rw [found, held]
    rfl
  obtain ⟨kept, supers⟩ := Directory.Protected.commit constraints
    (fun other account held => ⟨account, stays held, rfl,
      guarded.supers account (Directory.account?_mem held)⟩)
    (fun other account held absent => by
      rw [found, absent, Option.none_or] at held
      split at held
      · cases held
        exact ordinary
      · cases held)
  refine ⟨kept, recorded_of_roles fun other old new' here there => ?_, supers⟩
  rw [stays here] at there
  cases there
  rfl

/-- A transaction that leaves the accounts alone. -/
theorem untouched_commits (guarded : now.Protected) (accounts : after.accounts = now.accounts) :
    after.Protected ∧ AdminChangesRecorded now after ∧ SupersKept now after := by
  have found : ∀ other, after.account? other = now.account? other := by
    intro other
    simp only [Directory.account?, accounts]
  refine ⟨⟨accounts ▸ guarded.ids, fun account held => guarded.supers account (accounts ▸ held)⟩,
    recorded_of_roles fun other old new here there => ?_,
    fun other account held => ⟨account, (found other).trans held, rfl⟩⟩
  rw [found, here] at there
  cases there
  rfl

/-! ## Requests -/

section
variable {footing : Footing Directory RowLock AccountNote}

abbrev Upholds (program : AccountProgram Unit) (footing : Footing Directory RowLock AccountNote)
    (db : Directory) : Prop :=
  accountDiscipline.Holds program (accountDiscipline.Commits Directory.Constraints) footing db

/-- What a transaction that is about to commit owes. -/
theorem upholds_done
    (owed : ∀ now, accountDiscipline.Later footing db now →
      ApplicantsUnprivileged footing.notes now → (footing.change now).Constraints →
      (footing.change now).Protected ∧ AdminChangesRecorded now (footing.change now) ∧
        SupersKept now (footing.change now)) : Upholds (pure ()) footing db := by
  intro now later admitted valid
  obtain ⟨kept, recorded, supers⟩ := owed now later admitted valid
  exact ⟨kept, recorded, fun _ _ => supers⟩

theorem applyAsMerchant_upholds (subject : UUID) (draws : AccountDraws) :
    Upholds (AccountProgram.applyAsMerchant subject draws) {} db := by
  simp only [Upholds, AccountProgram.applyAsMerchant, AccountProgram.currentUser,
    AccountProgram.require, AccountProgram.update, Discipline.holds_bind, Discipline.holds_query,
    Discipline.holds_ofExcept]
  intro now later user loaded now' later' _ _
  split
  · simp only [Discipline.holds_bind, Discipline.holds_lockRow, Discipline.holds_flush,
      Discipline.holds_remember]
    intro locked held noted remembered
    refine upholds_done fun final later admitted valid => ?_
    have unprivileged : ∀ account, final.account? user.user.id = some account →
        account.user.role ≠ .admin := by
      intro account current
      have checked := admitted (.applies user) List.mem_cons_self
      simp only [AccountNote.Unprivileged, current, Option.all_some] at checked
      exact of_decide_eq_true checked
    refine update_commits (fun account => { account with user.role := .merchant }) later.2 rfl valid
      (fun _ => ⟨rfl, rfl⟩) (fun account current super => ?_) (fun account current admin => ?_)
    · have inside := Directory.account?_mem current
      exact absurd (later.2.supers account inside super).1 (unprivileged account current)
    · exact absurd admin (unprivileged account current)
  · exact upholds_done fun final later _ valid => untouched_commits later.2 rfl

/-- A session that passed the capability check loaded an active super admin. -/
theorem requireCapability_holds {subject : UUID} {capability : Capability}
    {post : Account → Footing Directory RowLock AccountNote → Directory → Prop}
    (rest : ∀ now, accountDiscipline.Later footing db now → ∀ admin,
      (footing.change now).account? subject = some admin → hasCapability admin.user capability →
      post admin footing now) :
    accountDiscipline.Holds (AccountProgram.requireCapability subject capability) post footing db := by
  simp only [AccountProgram.requireCapability, AccountProgram.currentUser, Discipline.holds_bind,
    Discipline.holds_query, Discipline.holds_ofExcept, found_ok, ensureCapability, require_ok,
    Discipline.holds_pure]
  intro now later admin loaded _ held
  exact rest now later admin (Option.mem_filter_iff.mp loaded).1 held

theorem adminManage_super {user : User} (held : hasCapability user .adminManage) :
    user.isSuperAdmin = true := by
  unfold hasCapability capabilitiesFor at held
  split at held
  · cases held
  · split at held
    · next super => exact super
    · simp [adminCapabilities] at held

theorem adminManage_of_super {user : User} (role : user.role = .admin)
    (super : user.isSuperAdmin = true) : hasCapability user .adminManage := by
  unfold hasCapability capabilitiesFor
  rw [if_neg (not_not.mpr role), if_pos super]
  decide

/-- What is left to show of a row that may be updated. -/
theorem updateIf_holds {changed : Prop} [Decidable changed] {id : UUID} {set : Account → Account}
    {post : Unit → Footing Directory RowLock AccountNote → Directory → Prop}
    (written : ∀ now held, accountDiscipline.Later footing db now →
      post () { footing with held, change := Directory.updateAccount id set ∘ footing.change } now)
    (unchanged : ¬changed → post () footing db) :
    accountDiscipline.Holds (AccountProgram.updateIf changed id set) post footing db := by
  unfold AccountProgram.updateIf AccountProgram.update
  split
  · simp only [Discipline.holds_bind, Discipline.holds_lockRow, Discipline.holds_flush]
    exact fun now later => written now _ later
  · next same => exact unchanged same

/-- An event that could be inserted was not there before. -/
theorem fresh_event {event : AdministrativeAuditEvent} (before : Directory)
    (events : after.auditEvents = before.auditEvents ++ [event]) (constraints : after.Constraints) :
    event ∈ after.auditEvents ∧ event ∉ before.auditEvents := by
  have unique := constraints.auditEventIds
  rw [events, unique_append] at unique
  refine ⟨by rw [events]; simp, fun inside => unique.2 event inside rfl⟩

/-- A session that held the capability holds it when it commits. -/
theorem requester_kept {subject : UUID} {admin : Account} (supers : SupersKept before now)
    (guarded : now.Protected) (loaded : before.account? subject = some admin)
    (capable : hasCapability admin.user .adminManage) :
    ∃ current, now.account? current.user.id = some current ∧
      current.user.id = admin.user.id ∧ hasCapability current.user .adminManage := by
  obtain ⟨current, found, same⟩ := supers subject admin loaded
  have super : current.user.isSuperAdmin = true := same.trans (adminManage_super capable)
  have id : current.user.id = subject := Directory.account?_id found
  refine ⟨current, id ▸ found, id.trans (Directory.account?_id loaded).symm, ?_⟩
  exact adminManage_of_super (guarded.supers current (Directory.account?_mem found) super).1 super

theorem adminUpdateUser_upholds (subject userId : UUID) (role : UserRole) (isActive : Bool)
    (draws : AccountDraws) :
    Upholds (AccountProgram.adminUpdateUser subject userId role isActive draws) {} db := by
  unfold Upholds AccountProgram.adminUpdateUser
  rw [Discipline.holds_bind]
  refine requireCapability_holds fun now later admin loaded capable => ?_
  simp only [AccountProgram.require, AccountProgram.recordAdminAction, Discipline.holds_bind,
    Discipline.holds_query, Discipline.holds_ofExcept, found_ok]
  intro seen after user target
  split
  · simp only [Discipline.holds_bind, Discipline.holds_ofExcept]
    intro _ _ _ _
    exact upholds_done fun final later _ valid => untouched_commits later.2 rfl
  · next ordinary =>
    simp only [Discipline.holds_bind, Discipline.holds_ofExcept]
    intro _ _ _ _
    -- the target is somebody else, and no super admin, then or later
    have other : seen.account? userId = some user := by
      split at target
      · cases target
        exact absurd (adminManage_super capable) ordinary
      · exact target
    have named : user.user.id = userId := Directory.account?_id other
    refine updateIf_holds (fun written locked changed => ?_) fun same => ?_
    · simp only [Discipline.holds_bind, Discipline.holds_ofExcept, Discipline.holds_flush]
      intro _ _
      refine upholds_done fun final last _ valid => ?_
      have supers : SupersKept seen final := accountDiscipline.trans changed.1 last.1
      obtain ⟨current, there, agree, able⟩ :=
        requester_kept (accountDiscipline.trans after.1 supers) last.2 loaded capable
      obtain ⟨inserted, fresh⟩ := fresh_event final rfl valid
      refine update_commits (AccountProgram.accessWritten user.user role isActive) last.2 rfl valid
        (fun _ => ⟨rfl, rfl⟩) (fun account present super => ?_) (fun account present admin' lost => ?_)
      · obtain ⟨next, found, kept⟩ := supers userId user other
        rw [named] at present
        rw [present] at found
        cases found
        exact absurd (kept.symm.trans super) ordinary
      · refine ⟨current, there, able, _, inserted, fresh, agree.symm, rfl, rfl, ?_⟩
        unfold AccountProgram.accessWritten at lost ⊢
        dsimp only at lost ⊢
        split at lost
        · next differ => rw [if_pos differ]
        · exact absurd admin' lost
    · simp only [Discipline.holds_bind, Discipline.holds_ofExcept, Discipline.holds_flush]
      intro _ _
      exact upholds_done fun final last _ valid => untouched_commits last.2 rfl

theorem adminOnboardUser_upholds (enabled : Bool) (subject : UUID) (phone fullName : String)
    (role : UserRole) (draws : AccountDraws) :
    Upholds (AccountProgram.adminOnboardUser enabled subject phone fullName role draws) {} db := by
  unfold Upholds AccountProgram.adminOnboardUser
  rw [Discipline.holds_bind]
  refine requireCapability_holds fun now later admin loaded capable => ?_
  simp only [AccountProgram.require, AccountProgram.recordAdminAction, Discipline.holds_bind,
    Discipline.holds_query, Discipline.holds_ofExcept, Discipline.holds_flush]
  intro _ _ _ _ seen after _ _ _ _
  exact upholds_done fun final last _ valid => insert_commits _ last.2 rfl valid rfl

theorem registerPhone_upholds (phone : String) (fullName : Option String) (draws : AccountDraws) :
    Upholds (AccountProgram.registerPhone phone fullName draws) {} db := by
  simp only [Upholds, AccountProgram.registerPhone, Discipline.holds_bind, Discipline.holds_query]
  intro now later
  split
  · rw [Discipline.holds_flush]
    exact upholds_done fun final last _ valid => insert_commits _ last.2 rfl valid rfl
  · exact upholds_done fun final last _ valid => untouched_commits last.2 rfl

/-- An `UPDATE` of columns that grant nothing. -/
theorem profile_upholds {changed : Prop} [Decidable changed] {id : UUID} {set : Account → Account}
    (same : ∀ account : Account, (set account).user.id = account.user.id ∧
      (set account).user.isSuperAdmin = account.user.isSuperAdmin)
    (access : ∀ account : Account, (set account).user.role = account.user.role ∧
      (set account).user.isActive = account.user.isActive) :
    Upholds (AccountProgram.updateIf changed id set) {} db := by
  refine updateIf_holds (fun now held later => ?_) fun _ => ?_
  · refine upholds_done fun final last _ valid => ?_
    refine update_commits set last.2 rfl valid same (fun account present super => ?_)
      (fun account present admin lost => ?_)
    · rw [(access account).1, (access account).2]
      exact last.2.supers account (Directory.account?_mem present) super
    · exact absurd ((access account).1.trans admin) lost
  · exact upholds_done fun final last _ valid => untouched_commits last.2 rfl

theorem loginPhone_upholds (phone : String) (fullName : Option String) :
    Upholds (AccountProgram.loginPhone phone fullName) {} db := by
  simp only [Upholds, AccountProgram.loginPhone, AccountProgram.require, Discipline.holds_bind,
    Discipline.holds_query, Discipline.holds_ofExcept]
  intro now later user _ _ _
  exact profile_upholds (fun _ => ⟨rfl, rfl⟩) fun _ => ⟨rfl, rfl⟩

theorem registerIdentity_upholds (subject : String) (displayName : Option String)
    (draws : AccountDraws) :
    Upholds (AccountProgram.registerIdentity subject displayName draws) {} db := by
  simp only [Upholds, AccountProgram.registerIdentity, AccountProgram.require,
    Discipline.holds_bind, Discipline.holds_query, Discipline.holds_ofExcept]
  intro _ _ now later
  split
  · simp only [Discipline.holds_bind, Discipline.holds_flush]
    exact upholds_done fun final last _ valid => insert_commits _ last.2 rfl valid rfl
  · exact upholds_done fun final last _ valid => untouched_commits last.2 rfl

theorem loginIdentity_upholds (subject : String) (draws : AccountDraws) :
    Upholds (AccountProgram.loginIdentity subject draws) {} db := by
  simp only [Upholds, AccountProgram.loginIdentity, AccountProgram.require,
    Discipline.holds_bind, Discipline.holds_query, Discipline.holds_ofExcept, Discipline.holds_flush]
  intro now later identity _ seen after user _ _ _
  exact upholds_done fun final last _ valid => untouched_commits last.2 rfl

theorem updateCurrentUser_upholds (subject : UUID) (fullName : Option String) :
    Upholds (AccountProgram.updateCurrentUser subject fullName) {} db := by
  simp only [Upholds, AccountProgram.updateCurrentUser, AccountProgram.currentUser,
    Discipline.holds_bind, Discipline.holds_query, Discipline.holds_ofExcept]
  intro now later user _
  exact profile_upholds (fun _ => ⟨rfl, rfl⟩) fun _ => ⟨rfl, rfl⟩

end

theorem AccountRequest.upholds (request : AccountRequest) : Upholds request.program {} db := by
  cases request with
  | applyAsMerchant subject draws => exact applyAsMerchant_upholds subject draws
  | adminUpdateUser subject userId role isActive draws =>
    exact adminUpdateUser_upholds subject userId role isActive draws
  | adminOnboardUser enabled subject phone fullName role draws =>
    exact adminOnboardUser_upholds enabled subject phone fullName role draws
  | registerPhone phone fullName draws => exact registerPhone_upholds phone fullName draws
  | loginPhone phone fullName => exact loginPhone_upholds phone fullName
  | registerIdentity subject displayName draws =>
    exact registerIdentity_upholds subject displayName draws
  | loginIdentity subject draws => exact loginIdentity_upholds subject draws
  | updateCurrentUser subject fullName => exact updateCurrentUser_upholds subject fullName

/-! ## Runs -/

abbrev AccountState := State Directory RowLock AccountNote HTTPException Unit
abbrev AccountAction := ReadCommitted.Action Directory AccountRequest

/-- No merchant application that writes the role of an administrator is committed; and
only these endpoints write users. -/
def NoAdminApplies (state : AccountState) : AccountAction → Prop
  | .advance index =>
    ((state.sessions[index]?.bind Session.committing).all fun footing =>
      decide (ApplicantsUnprivileged footing.notes state.database)) = true
  | .other after => after = state.database
  | _ => True

instance (state : AccountState) : DecidablePred (NoAdminApplies state)
  | .advance _ => inferInstanceAs (Decidable (_ = true))
  | .other _ => inferInstanceAs (Decidable (_ = _))
  | .start _ => .isTrue trivial
  | .abort _ => .isTrue trivial

theorem accountDiscipline_upheld :
    Discipline.Upheld accountService accountDiscipline NoAdminApplies where
  starts _ request _ _ := request.upholds
  others state after same kept := by
    cases same
    exact ⟨kept, fun _ _ => accountDiscipline.refl [] [] _⟩
  admitted state index value footing admitted standing := by
    simp only [NoAdminApplies, standing, Option.bind_some, Session.committing, Option.all_some] at admitted
    exact show ApplicantsUnprivileged footing.notes state.database from of_decide_eq_true admitted
  separated _ _ _ _ _ _ _ _ _ _ _ _ := trivial

/-- In any interleaving of the endpoints that write users: as long as no administrator's
merchant application is committed, super admins stay active administrators, and every
administrator who loses the role loses it to an audited act of one who holds
`admin.manage`. -/
theorem super_admin_protected {start : Directory} {state : AccountState}
    (guarded : start.Protected)
    (reached : System.ReachableWhile (accountService.system start) NoAdminApplies state) :
    state.database.Protected ∧ ∀ action, NoAdminApplies state action →
      AdminChangesRecorded state.database (accountService.step state action).database := by
  have safe := accountDiscipline_upheld.safe guarded reached
  refine ⟨safe.invariant, fun action admitted => ?_⟩
  have still : AdminChangesRecorded state.database state.database :=
    recorded_of_roles fun _ old new here there => by
      rw [here] at there
      cases there
      rfl
  cases action with
  | advance index =>
    rcases safe.advance accountDiscipline_upheld admitted with same | recorded
    · rw [same]
      exact still
    · exact recorded
  | other after =>
    cases (show after = state.database from admitted)
    exact still
  | _ => exact still

/-! ## One platform -/

/-- A super admin, an administrator and a customer. -/
def platform : Directory where
  accounts := [⟨⟨1, .admin, true, true, true⟩, some "+919000000001", some "Founder"⟩,
    ⟨⟨2, .admin, false, true, true⟩, some "+919000000002", some "Operator"⟩,
    ⟨⟨3, .customer, false, true, true⟩, some "+919000000003", none⟩]

def accountDraws (n : Nat) : AccountDraws := ⟨.ofNat _ (100 + n), .ofNat _ (200 + n), .ofNat _ (300 + n),
  .ofNat _ (400 + n), n⟩

/-- The super admin applies as a merchant, like any user may. -/
def founderApplies : List AccountAction :=
  .start (.applyAsMerchant 1 (accountDraws 0)) :: List.replicate 7 (.advance 0)

/-- The application takes the super admin's role, and no event says so. -/
theorem founder_applies_unprotected :
    let platforms := accountService.system platform
    platform.Protected ∧ ¬(platforms.run platforms.initial founderApplies).database.Protected ∧
      ((platforms.run platforms.initial founderApplies).database.account? 1).map (·.user.role) =
        some .merchant ∧
      (platforms.run platforms.initial founderApplies).database.auditEvents = [] := by
  decide +kernel

/-- The super admin takes the operator's role while the customer applies. -/
def operatorDemoted : List AccountAction :=
  [.start (.applyAsMerchant 3 (accountDraws 0)),
    .start (.adminUpdateUser 1 2 .customer true (accountDraws 1))] ++
  (List.replicate 7 [.advance 0, .advance 1]).flatten

/-- The role update in the run above, its commit being the last step. -/
theorem super_admin_protected_demotion :
    let platforms := accountService.system platform
    let reached := platforms.run platforms.initial operatorDemoted
    reached.database.Protected ∧ (reached.database.account? 2).map (·.user.role) = some .customer := by
  refine ⟨(super_admin_protected (by decide +kernel : platform.Protected)
    (System.ReachableWhile.run .initial operatorDemoted (by decide +kernel))).1, by decide +kernel⟩

end GaonOne
