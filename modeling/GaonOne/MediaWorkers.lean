import GaonOne.Library.Transitions
import GaonOne.ProductMedia

/-! The media workers: each leases a job, locks its rows, publishes the asset and
commits, and takes the public object back when it could not. A transaction is one
step unless storage is called within it; the rows it holds meanwhile are locked.
Steps of different workers interleave freely, and any of them can crash. -/
namespace GaonOne
open Relational Transitions

/-- What a worker remembers of the lease it committed. -/
structure MediaClaim where
  jobId : UUID
  assetId : UUID
  attempt : Nat
  deriving DecidableEq

/-- Where a worker stands between two steps. -/
inductive MediaWorker where
  | idle
  /-- The lease is committed; no row is locked. -/
  | claimed (claim : MediaClaim)
  /-- Both rows are locked and the checks have passed. -/
  | processing (claim : MediaClaim) (job : ProductMediaJob) (asset : ProductMediaAsset)
  /-- The session holds what `process_quarantined_asset` returned; nothing is committed. -/
  | published (claim : MediaClaim) (job : ProductMediaJob) (asset : ProductMediaAsset)
      (result : PublicationResult)
  /-- The transaction is taken back and its locks are free; the published object, if
  any, is deleted next, and then the job is retried for the exception, if any. -/
  | rolledBack (claim : MediaClaim) (publishedKey : Option String) (error : Option MediaException)
  | retrying (claim : MediaClaim) (error : MediaException)
  deriving DecidableEq

/-- The job whose row a worker's transaction has locked. -/
def MediaWorker.lockedJob : MediaWorker → Option UUID
  | processing _ job _ | published _ job _ _ => some job.id
  | _ => none

def MediaWorker.lockedAsset : MediaWorker → Option UUID
  | processing _ _ asset | published _ _ asset _ => some asset.id
  | _ => none

/-- A committed media database satisfies the constraints of migration 0023. -/
structure MediaDatabase where
  tables : MediaTables
  constraints : tables.Constraints

/-- What becomes of a commit whose rows the schema admits. -/
inductive CommitFate where
  | commits
  /-- The transaction is lost, and the session sees an exception. -/
  | fails
  /-- The transaction is committed, and the session sees an exception. -/
  | unacknowledged

/-- The database after `db.commit()`, and whether the call returned. -/
def MediaDatabase.commit (database : MediaDatabase) (pending : MediaTables) :
    CommitFate → MediaDatabase × Bool
  | .fails => (database, false)
  | .commits => if kept : pending.Constraints then (⟨pending, kept⟩, true) else (database, false)
  | .unacknowledged =>
    if kept : pending.Constraints then (⟨pending, kept⟩, false) else (database, false)

structure MediaWorld where
  database : MediaDatabase
  store : PublicStore := []
  workers : List MediaWorker := []

/-- The steps of a worker, with the clock and the outside it meets. -/
inductive MediaStep where
  /-- `expire_exhausted_media_jobs`, past the rows others have locked meanwhile. -/
  | expire (locked : List UUID) (limit : Nat) (now : Instant) (fate : CommitFate)
  | claim (locked : List UUID) (now : Instant) (fate : CommitFate)
  /-- Lock job and asset, and decide what to do with them. -/
  | lock (now : Instant) (fate : CommitFate)
  | publish (replies : MediaReplies) (now : Instant)
  | finish (now : Instant) (fate : CommitFate)
  /-- `delete_public_derivative`, which may raise with or without effect. -/
  | takeBack (deleted : Bool)
  | retry (now : Instant) (fate : CommitFate)
  | crash

/-- Workers come and go; the step of a worker names it. -/
inductive MediaAction where
  | start
  | step (worker : Nat) (step : MediaStep)

/-- The guards at the head of `process_due_media_jobs`. -/
def MediaSettings.Ready (settings : MediaSettings) : Prop :=
  settings.productMediaEnabled = true ∧
    ¬(settings.mediaStorageBackend = "local" ∧ settings.appEnv ∉ ["development", "test"]) ∧
    settings.mediaScanProvider = "http"

instance (settings : MediaSettings) : Decidable settings.Ready := inferInstanceAs (Decidable (_ ∧ _))

/-- `bool(text)` of an optional text. -/
def filled (text : Option String) : Bool := text.any (· ≠ "")

/-- The publication is committed already; only the job was left open. -/
def ProductMediaAsset.Recovered (asset : ProductMediaAsset) : Prop :=
  asset.state = .approved ∧ filled asset.publicObjectKey = true ∧
    filled asset.derivativeSha256 = true ∧ asset.retiredAt = none

instance (asset : ProductMediaAsset) : Decidable asset.Recovered := inferInstanceAs (Decidable (_ ∧ _))

/-- An asset that is not processed any more. -/
def ProductMediaAsset.Closed (asset : ProductMediaAsset) : Prop :=
  asset.state = .rejected ∨ asset.state = .retired ∨ asset.retiredAt.isSome = true

instance (asset : ProductMediaAsset) : Decidable asset.Closed := inferInstanceAs (Decidable (_ ∨ _))

/-- The lease that the worker committed is still the job's, and has not run out. -/
def MediaClaim.Live (claim : MediaClaim) (now : Instant) (job : ProductMediaJob) : Prop :=
  job.state = .processing ∧ job.attemptCount = claim.attempt ∧
    job.leaseExpiresAt.any (now < ·) = true

instance (claim : MediaClaim) (now : Instant) (job : ProductMediaJob) :
    Decidable (claim.Live now job) := inferInstanceAs (Decidable (_ ∧ _))

/-- What a worker does with the rows it has just locked. -/
inductive Verdict where
  /-- The transaction ends without a change. -/
  | skip
  | complete (outcome : MediaOutcome) (failureCode : Option String) (job : ProductMediaJob)
  | process (job : ProductMediaJob) (asset : ProductMediaAsset)

def MediaClaim.verdict (claim : MediaClaim) (db : MediaTables) (now : Instant) : Verdict :=
  match db.job? claim.jobId with
  | none => .skip
  | some job =>
    if ¬claim.Live now job then .skip
    else
      match db.asset? claim.assetId with
      | none => .complete .rejected (some "asset_missing") job
      | some asset =>
        if asset.Recovered then .complete .approved none job
        else if asset.Closed then .complete .rejected (some "asset_not_eligible") job
        else .process job asset

/-- `result.state if result.state in {"approved", "rejected"} else "retry"`. -/
def PublicationResult.outcome (result : PublicationResult) : MediaOutcome :=
  match result.state with
  | .approved => .approved
  | .rejected => .rejected
  | _ => .retry

/-- `failure_code` of the retry after an exception. -/
def MediaException.failureCode : MediaException → String
  | scanUnavailable => "scanner_unavailable"
  | _ => "processing_error"

namespace MediaWorld
variable (settings : MediaSettings) (libraries : MediaLibraries)

def tables (world : MediaWorld) : MediaTables := world.database.tables

/-- The jobs that other workers' transactions have locked. -/
def lockedJobs (world : MediaWorld) (worker : Nat) : List UUID :=
  ((world.workers.set worker .idle).filterMap MediaWorker.lockedJob)

def lockedAssets (world : MediaWorld) (worker : Nat) : List UUID :=
  ((world.workers.set worker .idle).filterMap MediaWorker.lockedAsset)

/-- What a step of a worker does: the store and the worker's next state, or a
transaction to commit and what follows when the call returns and when it raises. -/
inductive Plan where
  | become (state : MediaWorker) (store : PublicStore)
  | commit (pending : MediaTables) (fate : CommitFate) (returned raised : MediaWorker)

def plan (world : MediaWorld) (worker : Nat) : MediaWorker → MediaStep → Plan
  | .idle, .expire locked limit now fate =>
    if settings.Ready then
      .commit (expireExhaustedMediaJobs settings world.tables (locked ++ world.lockedJobs worker)
        (max 1 limit) now) fate .idle .idle
    else .become .idle world.store
  | .idle, .claim locked now fate =>
    match claimDueMediaJob settings world.tables (locked ++ world.lockedJobs worker) now with
    | (pending, some job) =>
      if settings.Ready then
        .commit pending fate (.claimed ⟨job.id, job.assetId, job.attemptCount⟩) .idle
      else .become .idle world.store
    | (_, none) => .become .idle world.store
  | .claimed claim, .lock now fate =>
    -- `FOR UPDATE` waits while another worker holds either row.
    if claim.jobId ∈ world.lockedJobs worker ∨ claim.assetId ∈ world.lockedAssets worker then
      .become (.claimed claim) world.store
    else
      match claim.verdict world.tables now with
      | .skip => .become .idle world.store
      | .complete outcome code job =>
        .commit (world.tables.putJob (completeMediaJob settings job outcome code now)) fate .idle .idle
      | .process job asset => .become (.processing claim job asset) world.store
  | .processing claim job asset, .publish replies now =>
    match processQuarantinedAsset settings libraries world.store asset replies now with
    | (.ok (asset, result), store) => .become (.published claim job asset result) store
    | (.error error, store) => .become (.rolledBack claim none (some error)) store
  | .published claim job asset result, .finish now fate =>
    if result.outcome = .approved ∧
        ¬(filled asset.publicObjectKey = true ∧ filled asset.derivativeSha256 = true) then
      .become (.rolledBack claim asset.publicObjectKey (some .other)) world.store
    else if job.leaseExpiresAt.any (now < ·) = true then
      .commit ((world.tables.putAsset asset).putJob
          (completeMediaJob settings job result.outcome result.reason now)) fate
        .idle (.rolledBack claim asset.publicObjectKey (some .other))
    else .become (.rolledBack claim asset.publicObjectKey none) world.store
  | .rolledBack claim key error, .takeBack deleted =>
    .become (error.elim .idle (.retrying claim))
      (match key.filter (· ≠ "") with
      | some key => if deleted then world.store.delete key else world.store
      | none => world.store)
  | .retrying claim error, .retry now fate =>
    if claim.jobId ∈ world.lockedJobs worker then .become (.retrying claim error) world.store
    else
      match world.tables.job? claim.jobId with
      | none => .become .idle world.store
      | some job =>
        if claim.Live now job then
          .commit (world.tables.putJob
            (completeMediaJob settings job .retry (some error.failureCode) now)) fate .idle .idle
        else .become .idle world.store
  | _, .crash => .become .idle world.store
  | state, _ => .become state world.store

/-- Carry a plan out. -/
def follow (world : MediaWorld) (worker : Nat) : Plan → MediaWorld
  | .become state store => { world with store, workers := world.workers.set worker state }
  | .commit pending fate returned raised =>
    { world with
      database := (world.database.commit pending fate).1
      workers := world.workers.set worker
        (if (world.database.commit pending fate).2 then returned else raised) }

def step (world : MediaWorld) : MediaAction → MediaWorld
  | .start => { world with workers := world.workers ++ [.idle] }
  | .step worker step =>
    match world.workers[worker]? with
    | some state => world.follow worker (world.plan settings libraries worker state step)
    | none => world

end MediaWorld

/-- The pipeline, from a queue and the objects already public. -/
def mediaSystem (settings : MediaSettings) (libraries : MediaLibraries) (database : MediaDatabase)
    (store : PublicStore) : System MediaWorld MediaAction where
  initial := { database, store }
  step := MediaWorld.step settings libraries

end GaonOne
