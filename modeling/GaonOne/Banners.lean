import GaonOne.Library.ReadCommitted
import GaonOne.Access
import GaonOne.Notifications

/-! Store banners, statement by statement: the worker that builds a candidate from a
template, the merchant who asks for one and accepts it, and the moderator in between. The
failure of a worker is recorded in a transaction of its own, after its work has been
rolled back and its lock on the job released. -/
namespace GaonOne
open Relational UnitOfWork ReadCommitted

/-! ## Rows -/

/-- `generation_status` of a version. -/
inductive GenerationStatus where
  | queued | processing | retrying | ready | failed
  deriving DecidableEq, Repr

/-- `status` of a generation job. -/
inductive BannerJobStatus where
  | queued | processing | retrying | succeeded | failed
  deriving DecidableEq, Repr

inductive ModerationStatus where
  | pending | approved | rejected | disabled
  deriving DecidableEq, Repr

inductive BannerTrigger where
  | storeCreated | merchantRegenerate
  deriving DecidableEq, Repr

/-- Closed presentation data. -/
structure BannerManifest where
  templateId : String
  templateRevision : String
  title : String
  locality : String
  category : Option String
  deriving DecidableEq

structure StoreBannerVersion where
  id : UUID
  storeId : UUID
  version : Nat
  manifest : Option BannerManifest
  generationStatus : GenerationStatus
  moderationStatus : ModerationStatus
  failureCode : Option String
  readyAt : Option Instant
  moderatedAt : Option Instant
  moderatedByUserId : Option UUID
  deriving DecidableEq

structure BannerGenerationJob where
  id : UUID
  storeId : UUID
  versionId : UUID
  trigger : BannerTrigger
  idempotencyKey : String
  status : BannerJobStatus
  attemptCount : Nat
  nextAttemptAt : Option Instant
  failureCode : Option String
  leaseExpiresAt : Option Instant
  createdAt : Instant
  deriving DecidableEq

structure StoreBannerSelection where
  storeId : UUID
  activeVersionId : Option UUID := none
  revision : Nat := 0
  selectedByUserId : Option UUID := none
  deriving DecidableEq

structure Category where
  id : UUID
  name : String
  slug : String
  isActive : Bool
  deriving DecidableEq, Repr

/-- The tables banners are made from, and kept in. -/
structure BannerBoard where
  marketplace : Tables := {}
  categories : List Category := []
  versions : List StoreBannerVersion := []
  jobs : List BannerGenerationJob := []
  selections : List StoreBannerSelection := []
  notifications : List NotificationEvent := []
  /-- The acceptances that took effect: the store, and the revision submitted. No table
  records them. -/
  accepted : List (UUID × Nat) := []

/-- `BANNER_JOB_MAX_ATTEMPTS` and the other limits. -/
structure BannerSettings where
  jobMaxAttempts : Nat := 3
  regenMaxRequests : Nat := 3
  regenWindowSeconds : Nat := 86400

/-- The identifiers and the clock a request takes from outside. -/
structure BannerDraws where
  versionId : UUID
  jobId : UUID
  eventId : UUID
  now : Instant
  deriving DecidableEq

namespace BannerBoard

def version? (board : BannerBoard) (id : UUID) : Option StoreBannerVersion :=
  lookup StoreBannerVersion.id id board.versions

def job? (board : BannerBoard) (id : UUID) : Option BannerGenerationJob :=
  lookup BannerGenerationJob.id id board.jobs

def selection? (board : BannerBoard) (storeId : UUID) : Option StoreBannerSelection :=
  lookup StoreBannerSelection.storeId storeId board.selections

/-- `(store_id, idempotency_key)`. -/
def jobKey (job : BannerGenerationJob) : UUID × String := (job.storeId, job.idempotencyKey)

def versionNumber (version : StoreBannerVersion) : UUID × Nat := (version.storeId, version.version)

@[mk_iff]
structure Constraints (board : BannerBoard) : Prop where
  storeIds : Unique Store.id board.marketplace.catalogue.stores
  versionIds : Unique StoreBannerVersion.id board.versions
  versionNumbers : Unique versionNumber board.versions
  jobIds : Unique BannerGenerationJob.id board.jobs
  jobKeys : Unique jobKey board.jobs
  jobVersions : Unique BannerGenerationJob.versionId board.jobs
  jobParents : References BannerGenerationJob.versionId StoreBannerVersion.id board.jobs board.versions
  selectionStores : Unique StoreBannerSelection.storeId board.selections

instance (board : BannerBoard) : Decidable board.Constraints :=
  decidable_of_iff _ (constraints_iff board).symm

/-! ### Statements -/

def addStore (store : Store) (board : BannerBoard) : BannerBoard :=
  { board with
    marketplace.catalogue.stores := board.marketplace.catalogue.stores ++ [store] }

def addVersion (version : StoreBannerVersion) (board : BannerBoard) : BannerBoard :=
  { board with versions := board.versions ++ [version] }

def addJob (job : BannerGenerationJob) (board : BannerBoard) : BannerBoard :=
  { board with jobs := board.jobs ++ [job] }

def addSelection (selection : StoreBannerSelection) (board : BannerBoard) : BannerBoard :=
  { board with selections := board.selections ++ [selection] }

/-- An `UPDATE` of some columns of one version. -/
def updateVersion (id : UUID) (set : StoreBannerVersion → StoreBannerVersion) (board : BannerBoard) :
    BannerBoard :=
  { board with versions := board.versions.map fun version => if version.id = id then set version else version }

def updateJob (id : UUID) (set : BannerGenerationJob → BannerGenerationJob) (board : BannerBoard) :
    BannerBoard :=
  { board with jobs := board.jobs.map fun job => if job.id = id then set job else job }

def putSelection (selection : StoreBannerSelection) (board : BannerBoard) : BannerBoard :=
  { board with selections := put StoreBannerSelection.storeId selection board.selections }

def notify (event : NotificationEvent) (board : BannerBoard) : BannerBoard :=
  { board with notifications := board.notifications ++ [event] }

/-- The commit of an acceptance. -/
def accept (storeId : UUID) (revision : Nat) (board : BannerBoard) : BannerBoard :=
  { board with accepted := board.accepted ++ [(storeId, revision)] }

end BannerBoard

/-! ## Manifests -/

def TEMPLATE_ID : String := "gaonone-store-locality-v1"

def TEMPLATE_REVISION : String := "v1"

/-- What the model of a manifest accepts. -/
def BannerManifest.Valid (manifest : BannerManifest) : Prop :=
  manifest.templateId = TEMPLATE_ID ∧ manifest.templateRevision = TEMPLATE_REVISION ∧
    (1 ≤ manifest.title.length ∧ manifest.title.length ≤ 160) ∧
      (1 ≤ manifest.locality.length ∧ manifest.locality.length ≤ 160) ∧
        ∀ category ∈ manifest.category, category.length ≤ 100

instance (manifest : BannerManifest) : Decidable manifest.Valid :=
  inferInstanceAs (Decidable (_ ∧ _ ∧ (_ ∧ _) ∧ (_ ∧ _) ∧ _))

namespace BannerBoard

/-- The category a listing is sold under, where the listing can be sold. -/
def sellableCategory (board : BannerBoard) (listing : StoreProduct) : Option String := do
  let product ← (lookup Product.id listing.productId
    board.marketplace.catalogue.products).filter (·.isActive)
  let category ← (lookup Category.id product.categoryId board.categories).filter (·.isActive)
  if listing.isAvailable ∧ 0 < listing.stockQuantity then some category.name else none

/-- `ORDER BY count DESC, name ASC`. -/
def precedes (names : List String) (left right : String) : Bool :=
  names.count right < names.count left ∨ names.count left = names.count right ∧ left ≤ right

/-- `_category_for_store`. -/
def categoryForStore (board : BannerBoard) (storeId : UUID) : Option String :=
  let names := (belonging StoreProduct.storeId storeId board.marketplace.catalogue.storeProducts).filterMap
    board.sellableCategory
  names.find? fun name => names.all (precedes names name)

/-- `_locality_for_store`. -/
def localityForStore (board : BannerBoard) (store : Store) : String :=
  let village := lookup Village.id store.villageId board.marketplace.catalogue.villages
  match village.map (Text.strip ·.name) with
  | some name => if name = "" then "Your local area" else name
  | none => "Your local area"

/-- `public_presentation` of a store's selection. -/
def publicPresentation (board : BannerBoard) (storeId : UUID) : Option BannerManifest := do
  let selection ← board.selection? storeId
  let version ← selection.activeVersionId.bind board.version?
  if version.generationStatus = .ready ∧ version.moderationStatus = .approved then
    version.manifest.filter fun manifest => decide manifest.Valid
  else none

end BannerBoard

def bannerManifest (store : Store) (locality : String) (category : Option String) : BannerManifest where
  templateId := TEMPLATE_ID
  templateRevision := TEMPLATE_REVISION
  title := Text.strip store.name
  locality
  category

/-! ## Transactions -/

/-- What transactions lock: rows, by their keys. -/
inductive BannerLock where
  | store (id : UUID)
  | version (id : UUID)
  | job (id : UUID)
  | selection (storeId : UUID)
  deriving DecidableEq, Repr

/-- What a session has read. -/
inductive BannerNote where
  /-- The job whose failure it records. -/
  | failing (jobId : UUID)
  deriving DecidableEq

def BannerNote.jobId : BannerNote → UUID
  | failing jobId => jobId

/-- What a request answers, and how a worker's turn on a job ends. -/
inductive BannerReply where
  | job (job : BannerGenerationJob)
  | store (store : Store)
  | selection (selection : StoreBannerSelection)
  | version (version : StoreBannerVersion)
  /-- No job is due. -/
  | idle
  | succeeded (jobId : UUID)
  /-- An exception: everything of the transaction was rolled back. -/
  | raised (jobId : UUID)
  | recorded (jobId : UUID)
  deriving DecidableEq

abbrev BannerProgram := Program BannerBoard BannerLock BannerNote HTTPException

def bannerVersionNotFound : HTTPException := ⟨404, "Banner version not found"⟩

inductive ModerationAction where
  | approve | reject | disable
  deriving DecidableEq, Repr

def ModerationAction.target : ModerationAction → ModerationStatus
  | approve => .approved
  | reject => .rejected
  | disable => .disabled

/-- The candidate a new job is for. -/
def newBannerVersion (storeId : UUID) (version : Nat) (draws : BannerDraws) : StoreBannerVersion where
  id := draws.versionId
  storeId
  version
  manifest := none
  generationStatus := .queued
  moderationStatus := .pending
  failureCode := none
  readyAt := none
  moderatedAt := none
  moderatedByUserId := none

def newBannerJob (storeId : UUID) (trigger : BannerTrigger) (idempotencyKey : String)
    (draws : BannerDraws) : BannerGenerationJob where
  id := draws.jobId
  storeId
  versionId := draws.versionId
  trigger
  idempotencyKey
  status := .queued
  attemptCount := 0
  nextAttemptAt := none
  failureCode := none
  leaseExpiresAt := none
  createdAt := draws.now

/-- `_next_backoff`, in microseconds. -/
def nextBackoff (attempt : Nat) : Nat := min 300 (5 * 2 ^ (attempt - 1)) * 1000000

namespace StoreBannerVersion

/-- What a job that succeeds writes. -/
def built (manifest : BannerManifest) (now : Instant) (version : StoreBannerVersion) :
    StoreBannerVersion :=
  { version with
    manifest := some manifest
    generationStatus := .ready
    failureCode := none
    readyAt := some now }

/-- What the record of a failure writes. -/
def stalled (exhausted : Bool) (version : StoreBannerVersion) : StoreBannerVersion :=
  { version with
    generationStatus := if exhausted then .failed else .retrying
    failureCode := some "banner_generation_failed" }

def moderated (action : ModerationAction) (admin : UUID) (now : Instant) (version : StoreBannerVersion) :
    StoreBannerVersion :=
  { version with
    moderationStatus := action.target
    moderatedByUserId := some admin
    moderatedAt := some now }

end StoreBannerVersion

namespace BannerGenerationJob

/-- The condition `_claim_due_job` selects by. -/
def Due (job : BannerGenerationJob) (now : Instant) (jobId : Option UUID) : Prop :=
  (job.status = .queued ∨ job.status = .retrying ∨
      job.status = .processing ∧ job.leaseExpiresAt.any (· ≤ now) = true) ∧
    job.nextAttemptAt.all (· ≤ now) = true ∧ jobId.all (· = job.id) = true

instance (job : BannerGenerationJob) (now : Instant) (jobId : Option UUID) :
    Decidable (job.Due now jobId) := inferInstanceAs (Decidable (_ ∧ _ ∧ _))

def finished (job : BannerGenerationJob) : BannerGenerationJob :=
  { job with status := .succeeded, leaseExpiresAt := none, nextAttemptAt := none, failureCode := none }

def exhausts (settings : BannerSettings) (job : BannerGenerationJob) : Bool :=
  settings.jobMaxAttempts ≤ job.attemptCount + 1

def failedOnce (settings : BannerSettings) (now : Instant) (job : BannerGenerationJob) :
    BannerGenerationJob :=
  { job with
    attemptCount := job.attemptCount + 1
    leaseExpiresAt := none
    failureCode := some "banner_generation_failed"
    status := if job.exhausts settings then .failed else .retrying
    nextAttemptAt := if job.exhausts settings then none else some (now + nextBackoff (job.attemptCount + 1)) }

end BannerGenerationJob

namespace StoreBannerSelection

def chosen (versionId user : UUID) (selection : StoreBannerSelection) : StoreBannerSelection :=
  { selection with
    activeVersionId := some versionId
    selectedByUserId := some user
    revision := selection.revision + 1 }

def cleared (admin : UUID) (selection : StoreBannerSelection) : StoreBannerSelection :=
  { selection with
    activeVersionId := none
    selectedByUserId := some admin
    revision := selection.revision + 1 }

end StoreBannerSelection

/-- `_owned_store`, of a store that has been read. -/
def ownsBannerStore (db : Tables) (user : User) (store : Store) : Handler Unit :=
  if user.role = .admin then ensureCapability user .catalogManage
  else do
    let merchant ← found ((db.merchant? store.merchantId).filter (·.ownerUserId = user.id))
      ⟨403, "You do not own this store"⟩
    require (merchant.status = .approved) ⟨403, "Merchant is not active"⟩

namespace BannerProgram

def require (check : Prop) [Decidable check] (error : HTTPException) : BannerProgram Unit :=
  Program.ofExcept (UnitOfWork.require check error)

def found (value : Option α) (error : HTTPException) : BannerProgram α :=
  Program.ofExcept (UnitOfWork.found value error)

/-- `SELECT ... FOR UPDATE` of one row: what it has when the lock is had. -/
def selectForUpdate (row : BannerLock) (read : BannerBoard → Option α) : BannerProgram (Option α) := do
  let seen ← Program.query read
  if seen.isNone then pure none
  else do
    Program.lockRow row
    Program.query read

/-- `_owned_store(..., lock=True)`, and who asks. -/
def ownedStore (subject storeId : UUID) : BannerProgram (User × Store) := do
  let db ← Program.query BannerBoard.marketplace
  let user ← Program.ofExcept (getCurrentUser db subject)
  Program.ofExcept (requireRoles user [.merchant, .admin])
  let locked ← selectForUpdate (.store storeId) (·.marketplace.store? storeId)
  let store ← found locked ⟨404, "Store not found"⟩
  let db ← Program.query BannerBoard.marketplace
  Program.ofExcept (ownsBannerStore db user store)
  pure (user, store)

/-- `create_banner_job`. -/
def createBannerJob (storeId : UUID) (trigger : BannerTrigger) (idempotencyKey : String)
    (draws : BannerDraws) : BannerProgram BannerGenerationJob := do
  let existing ← Program.query fun board : BannerBoard =>
    lookup BannerBoard.jobKey (storeId, idempotencyKey) board.jobs
  match existing with
  | some job => pure job
  | none => do
    let last ← Program.query fun board : BannerBoard =>
      ((belonging StoreBannerVersion.storeId storeId board.versions).map StoreBannerVersion.version).foldl
        max 0
    let job := newBannerJob storeId trigger idempotencyKey draws
    Program.flush (BannerBoard.addVersion (newBannerVersion storeId (last + 1) draws))
    Program.flush (BannerBoard.addJob job)
    pure job

/-- The end of `POST /stores`: the store that passed its checks, and its first candidate. -/
def createStore (store : Store) (draws : BannerDraws) : BannerProgram BannerReply := do
  Program.flush (BannerBoard.addStore store)
  let _ ← createBannerJob store.id .storeCreated ("store-created:" ++ uuidText store.id) draws
  pure (.store store)

/-- `POST /stores/{store_id}/banner/regenerate`. -/
def regenerateStoreBanner (settings : BannerSettings) (subject storeId : UUID) (idempotencyKey : String)
    (draws : BannerDraws) : BannerProgram BannerReply := do
  let (_, store) ← ownedStore subject storeId
  let existing ← Program.query fun board : BannerBoard =>
    lookup BannerBoard.jobKey (store.id, idempotencyKey) board.jobs
  match existing with
  | some job => pure (.job job)
  | none => do
    let used ← Program.query fun board : BannerBoard =>
      board.jobs.countP fun job => job.storeId = store.id ∧ job.trigger = .merchantRegenerate ∧
        draws.now - settings.regenWindowSeconds * 1000000 ≤ job.createdAt
    require (used < settings.regenMaxRequests) ⟨429, "Banner regeneration limit reached; try again later"⟩
    let job ← createBannerJob store.id .merchantRegenerate idempotencyKey draws
    pure (.job job)

/-- `ensure_selection`. -/
def ensureSelection (storeId : UUID) : BannerProgram StoreBannerSelection := do
  let selection ← Program.query (BannerBoard.selection? · storeId)
  match selection with
  | some selection => pure selection
  | none => do
    Program.flush (BannerBoard.addSelection { storeId })
    pure { storeId }

/-- `POST /stores/{store_id}/banner/versions/{version_id}/accept`. -/
def acceptStoreBanner (subject storeId versionId : UUID) (selectionRevision : Nat) :
    BannerProgram BannerReply := do
  let (user, store) ← ownedStore subject storeId
  let locked ← selectForUpdate (.version versionId)
    fun board => (board.version? versionId).filter (·.storeId = store.id)
  let version ← found locked bannerVersionNotFound
  require (version.generationStatus = .ready ∧ version.moderationStatus = .approved)
    ⟨409, "Banner version is not approved for use"⟩
  let locked ← selectForUpdate (.selection store.id) (·.selection? store.id)
  let selection ← match locked with
    | some selection => pure selection
    | none => ensureSelection store.id
  require (selection.revision = selectionRevision)
    ⟨409, "Banner selection changed; refresh and try again"⟩
  Program.flush (BannerBoard.putSelection (selection.chosen version.id user.id))
  Program.flush (BannerBoard.accept store.id selectionRevision)
  pure (.selection (selection.chosen version.id user.id))

/-- `POST /admin/store-banners/{version_id}/moderation`. -/
def moderateStoreBanner (subject versionId : UUID) (action : ModerationAction) (now : Instant) :
    BannerProgram BannerReply := do
  let db ← Program.query BannerBoard.marketplace
  let admin ← Program.ofExcept (requireCapability db subject .mediaModerate)
  let locked ← selectForUpdate (.version versionId) (·.version? versionId)
  let version ← found locked bannerVersionNotFound
  require (action = .approve → version.generationStatus = .ready)
    ⟨409, "Banner version is not ready for approval"⟩
  let locked ← selectForUpdate (.selection version.storeId) (·.selection? version.storeId)
  Program.flush (BannerBoard.updateVersion version.id (·.moderated action admin.id now))
  match locked.filter fun selection => action ≠ .approve ∧ selection.activeVersionId = some version.id with
  | some selection => do
    Program.flush (BannerBoard.putSelection (selection.cleared admin.id))
    pure (.version (version.moderated action admin.id now))
  | none => pure (.version (version.moderated action admin.id now))

/-- `FOR UPDATE SKIP LOCKED LIMIT 1`, of the jobs that were due. -/
def claimFirst (now : Instant) (jobId : Option UUID) :
    List BannerGenerationJob → BannerProgram (Option BannerGenerationJob)
  | [] => pure none
  | job :: jobs => do
    match ← Program.lockOne [.job job.id] with
    | none => claimFirst now jobId jobs
    | some _ => do
      match ← Program.query fun board : BannerBoard => (board.job? job.id).filter (·.Due now jobId) with
      | none => claimFirst now jobId jobs
      | some job => pure (some job)

/-- `_claim_due_job`. What it writes is not flushed before the end of the turn. -/
def claimDueJob (jobId : Option UUID) (now : Instant) : BannerProgram (Option BannerGenerationJob) := do
  let due ← Program.query fun board : BannerBoard =>
    (board.jobs.filter fun job => job.Due now jobId).mergeSort fun left right => left.createdAt ≤ right.createdAt
  claimFirst now jobId due

/-- One turn of `process_due_banner_jobs`, up to its commit or its `rollback()`;
`interrupted` where a statement raises. -/
def processDueBannerJob (jobId : Option UUID) (interrupted : Bool) (draws : BannerDraws) :
    BannerProgram BannerReply := do
  let claimed ← claimDueJob jobId draws.now
  match claimed with
  | none => pure .idle
  | some job => do
    let version ← Program.query (BannerBoard.version? · job.versionId)
    let store ← Program.query fun board : BannerBoard => board.marketplace.store? job.storeId
    let merchant ← Program.query fun board : BannerBoard =>
      store.bind fun store => board.marketplace.merchant? store.merchantId
    match version, store, merchant with
    | some version, some store, some merchant => do
      let locality ← Program.query (BannerBoard.localityForStore · store)
      let category ← Program.query (BannerBoard.categoryForStore · store.id)
      let manifest := bannerManifest store locality category
      if manifest.Valid ∧ interrupted = false then do
        Program.lockRow (.version version.id)
        Program.flush (BannerBoard.updateVersion version.id (·.built manifest draws.now))
        Program.flush (BannerBoard.updateJob job.id BannerGenerationJob.finished)
        Program.flush (BannerBoard.notify
          (enqueueNotification draws.eventId draws.now merchant.ownerUserId "store_banner.ready"
            "Store banner ready for review" "A new store banner draft is ready for your review."
            [("store_id", uuidText store.id), ("banner_version_id", uuidText version.id)]))
        pure (.succeeded job.id)
      else pure (.raised job.id)
    | _, _, _ => pure (.raised job.id)

/-- The rest of the turn after the `rollback()`, in a second transaction. -/
def recordBannerFailure (settings : BannerSettings) (jobId : UUID) (now : Instant) :
    BannerProgram BannerReply := do
  let locked ← selectForUpdate (.job jobId) (·.job? jobId)
  match locked with
  | none => pure .idle
  | some job => do
    Program.remember (.failing job.id)
    let version ← Program.query (BannerBoard.version? · job.versionId)
    Program.flush (BannerBoard.updateJob job.id (·.failedOnce settings now))
    match version with
    | none => pure (.recorded job.id)
    | some version => do
      Program.lockRow (.version version.id)
      Program.flush (BannerBoard.updateVersion version.id (·.stalled (job.exhausts settings)))
      pure (.recorded job.id)

end BannerProgram

/-- The transactions that create or change a banner. -/
inductive BannerRequest where
  | createStore (store : Store) (draws : BannerDraws)
  | regenerate (subject storeId : UUID) (idempotencyKey : String) (draws : BannerDraws)
  | accept (subject storeId versionId : UUID) (selectionRevision : Nat)
  | moderate (subject versionId : UUID) (action : ModerationAction) (now : Instant)
  | processDue (jobId : Option UUID) (interrupted : Bool) (draws : BannerDraws)
  | recordFailure (jobId : UUID) (now : Instant)
  deriving DecidableEq

def BannerRequest.program (settings : BannerSettings) : BannerRequest → BannerProgram BannerReply
  | createStore store draws => BannerProgram.createStore store draws
  | regenerate subject storeId idempotencyKey draws =>
    BannerProgram.regenerateStoreBanner settings subject storeId idempotencyKey draws
  | accept subject storeId versionId selectionRevision =>
    BannerProgram.acceptStoreBanner subject storeId versionId selectionRevision
  | moderate subject versionId action now =>
    BannerProgram.moderateStoreBanner subject versionId action now
  | processDue jobId interrupted draws => BannerProgram.processDueBannerJob jobId interrupted draws
  | recordFailure jobId now => BannerProgram.recordBannerFailure settings jobId now

def bannerService (settings : BannerSettings) :
    Service BannerBoard BannerLock BannerNote HTTPException BannerReply BannerRequest where
  program := BannerRequest.program settings
  conflicts left right := left = right
  symmetric := Eq.symm
  valid := BannerBoard.Constraints
  decideConflicts := inferInstance
  decideValid _ := inferInstance

end GaonOne
