import Mathlib.Data.List.Sort
import GaonOne.Library.Relational
import GaonOne.Library.UnitOfWork
import GaonOne.Models

/-! Product photographs: the rows of the pipeline, the constraints that migration
0023 puts on them, and the functions that claim a job, finish it and publish one
asset. Storage, scanner and image library answer what they are given to answer. -/
namespace GaonOne
open Relational UnitOfWork

/-- `product_media_assets.state`. -/
inductive AssetState where
  | quarantined | processing | approved | rejected | retired | disabled | purgeFailed
  deriving DecidableEq, Repr

/-- `product_media_jobs.state`: every word the migration or the code uses. -/
inductive JobState where
  | queued | processing | retrying | succeeded | failed
  /-- Written by `complete_media_job`. -/
  | completed
  deriving DecidableEq, Repr

structure ProductMediaAsset where
  id : UUID
  storeProductId : UUID
  state : AssetState := .quarantined
  sourceObjectKey : String
  publicObjectKey : Option String := none
  sourceSha256 : String
  derivativeSha256 : Option String := none
  detectedMime : Option String := none
  byteSize : Option Int := none
  width : Option Int := none
  height : Option Int := none
  position : Int := 0
  isPrimary : Bool := false
  processingAttemptCount : Int := 0
  failureCode : Option String := none
  approvedAt : Option Instant := none
  retiredAt : Option Instant := none
  deriving DecidableEq, Repr

structure ProductMediaJob where
  id : UUID
  assetId : UUID
  state : JobState := .queued
  attemptCount : Nat := 0
  nextAttemptAt : Option Instant := none
  leaseExpiresAt : Option Instant := none
  failureCode : Option String := none
  createdAt : Instant
  deriving DecidableEq, Repr

structure MediaTables where
  assets : List ProductMediaAsset := []
  jobs : List ProductMediaJob := []
  deriving DecidableEq

/-! ## Migration 0023 -/

/-- The CHECK constraints and column widths of `product_media_assets`. -/
structure ProductMediaAsset.Admitted (asset : ProductMediaAsset) : Prop where
  position : 0 ≤ asset.position
  attempts : 0 ≤ asset.processingAttemptCount
  byteSize : asset.byteSize.all (0 < ·) = true
  sourceSha : asset.sourceSha256.length = 64
  derivativeSha : asset.derivativeSha256.all (·.length = 64) = true
  width : asset.width.all (0 < ·) = true
  height : asset.height.all (0 < ·) = true
  primaryApproved : asset.isPrimary = true → asset.state = .approved
  approvedKey : asset.state = .approved → asset.publicObjectKey.isSome = true
  sourceKey : asset.sourceObjectKey.length ≤ 512
  publicKey : asset.publicObjectKey.all (·.length ≤ 512) = true
  mime : asset.detectedMime.all (·.length ≤ 64) = true
  failureCode : asset.failureCode.all (·.length ≤ 80) = true

/-- `ck_product_media_jobs_state`. -/
def jobStates : List JobState := [.queued, .processing, .retrying, .succeeded, .failed]

/-- The CHECK constraints and column widths of `product_media_jobs`; a `Nat` count
is not negative. -/
structure ProductMediaJob.Admitted (job : ProductMediaJob) : Prop where
  state : job.state ∈ jobStates
  failureCode : job.failureCode.all (·.length ≤ 80) = true

attribute [mk_iff] ProductMediaAsset.Admitted ProductMediaJob.Admitted

instance (asset : ProductMediaAsset) : Decidable asset.Admitted :=
  decidable_of_iff _ (ProductMediaAsset.admitted_iff asset).symm

instance (job : ProductMediaJob) : Decidable job.Admitted :=
  decidable_of_iff _ (ProductMediaJob.admitted_iff job).symm

/-- The row of the partial index `uq_product_media_assets_active_position`. -/
def ProductMediaAsset.activePosition (asset : ProductMediaAsset) : Option (UUID × Int) :=
  if asset.state = .retired ∨ asset.state = .purgeFailed then none
  else some (asset.storeProductId, asset.position)

/-- The row of the partial index `uq_product_media_assets_approved_primary`. -/
def ProductMediaAsset.approvedPrimary (asset : ProductMediaAsset) : Option UUID :=
  if asset.isPrimary = true ∧ asset.state = .approved then some asset.storeProductId else none

namespace MediaTables

@[mk_iff]
structure Constraints (db : MediaTables) : Prop where
  assetIds : Unique ProductMediaAsset.id db.assets
  sourceKeys : Unique ProductMediaAsset.sourceObjectKey db.assets
  publicKeys : UniqueWhenSet ProductMediaAsset.publicObjectKey db.assets
  activePositions : UniqueWhenSet ProductMediaAsset.activePosition db.assets
  approvedPrimaries : UniqueWhenSet ProductMediaAsset.approvedPrimary db.assets
  assetRows : ∀ asset ∈ db.assets, asset.Admitted
  jobIds : Unique ProductMediaJob.id db.jobs
  jobAssets : Unique ProductMediaJob.assetId db.jobs
  jobParents : References ProductMediaJob.assetId ProductMediaAsset.id db.jobs db.assets
  jobRows : ∀ job ∈ db.jobs, job.Admitted

instance (db : MediaTables) : Decidable db.Constraints :=
  decidable_of_iff _ (constraints_iff db).symm

def asset? (db : MediaTables) (id : UUID) : Option ProductMediaAsset :=
  lookup ProductMediaAsset.id id db.assets

def job? (db : MediaTables) (id : UUID) : Option ProductMediaJob :=
  lookup ProductMediaJob.id id db.jobs

def putAsset (asset : ProductMediaAsset) (db : MediaTables) : MediaTables :=
  { db with assets := put ProductMediaAsset.id asset db.assets }

def putJob (job : ProductMediaJob) (db : MediaTables) : MediaTables :=
  { db with jobs := put ProductMediaJob.id job db.jobs }

end MediaTables

/-! ## Jobs -/

/-- The settings the pipeline reads. -/
structure MediaSettings where
  productMediaEnabled : Bool := true
  appEnv : String := "production"
  mediaStorageBackend : String := "s3"
  mediaScanProvider : String := "http"
  mediaUploadMaxBytes : Nat := 8 * 1024 * 1024
  mediaImageMaxWidth : Nat := 4096
  mediaImageMaxHeight : Nat := 4096
  mediaImageMaxPixels : Nat := 16000000
  mediaJobMaxAttempts : Nat := 3
  mediaJobLeaseSeconds : Nat := 120

/-- A span in microseconds. -/
def seconds (count : Nat) : Nat := count * 1000000

/-- The rows `claim_due_media_job` selects from. -/
def ProductMediaJob.Due (settings : MediaSettings) (now : Instant) (job : ProductMediaJob) : Prop :=
  job.attemptCount < settings.mediaJobMaxAttempts ∧
    (job.state = .queued ∧ job.nextAttemptAt.all (· ≤ now) = true ∨
      job.state = .processing ∧ job.leaseExpiresAt.any (· ≤ now) = true)

instance (settings : MediaSettings) (now : Instant) (job : ProductMediaJob) :
    Decidable (job.Due settings now) := inferInstanceAs (Decidable (_ ∧ _))

/-- `ORDER BY created_at, id`. -/
def ProductMediaJob.Before (left right : ProductMediaJob) : Prop :=
  left.createdAt < right.createdAt ∨
    left.createdAt = right.createdAt ∧ left.id.toNat ≤ right.id.toNat

instance : DecidableRel ProductMediaJob.Before := fun _ _ => inferInstanceAs (Decidable (_ ∨ _))

/-- The lease that a claim writes into the row. -/
def leased (settings : MediaSettings) (now : Instant) (job : ProductMediaJob) : ProductMediaJob :=
  { job with
    state := .processing
    attemptCount := job.attemptCount + 1
    leaseExpiresAt := some (now + seconds settings.mediaJobLeaseSeconds)
    nextAttemptAt := none }

/-- The first due row that no other transaction has locked, leased. -/
def claimDueMediaJob (settings : MediaSettings) (db : MediaTables) (locked : List UUID)
    (now : Instant) : MediaTables × Option ProductMediaJob :=
  match ((db.jobs.filter (ProductMediaJob.Due settings now)).insertionSort
      ProductMediaJob.Before).find? (·.id ∉ locked) with
  | none => (db, none)
  | some job => (db.putJob (leased settings now job), some (leased settings now job))

inductive MediaOutcome where
  | approved | rejected | retry
  deriving DecidableEq, Repr

/-- `code or default`. -/
def codeOr (code : Option String) (default : String) : String := (code.filter (· ≠ "")).getD default

/-- `timedelta(seconds=min(3600, 30 * 2 ** (attempts - 1)))`; a job that was never
claimed would wait half of thirty seconds. -/
def retryDelay (attempts : Nat) : Nat :=
  if attempts = 0 then seconds 15 else seconds (min 3600 (30 * 2 ^ (attempts - 1)))

def completeMediaJob (settings : MediaSettings) (job : ProductMediaJob) (outcome : MediaOutcome)
    (failureCode : Option String) (now : Instant) : ProductMediaJob :=
  match outcome with
  | .approved =>
    { job with state := .completed, failureCode := none, nextAttemptAt := none, leaseExpiresAt := none }
  | .rejected =>
    { job with
      state := .failed
      failureCode := some (Text.cut 80 (codeOr failureCode "rejected"))
      nextAttemptAt := none
      leaseExpiresAt := none }
  | .retry =>
    if settings.mediaJobMaxAttempts ≤ job.attemptCount then
      { job with
        state := .failed
        failureCode := some "max_attempts_exceeded"
        nextAttemptAt := none
        leaseExpiresAt := none }
    else
      { job with
        state := .queued
        failureCode := some (Text.cut 80 (codeOr failureCode "transient_failure"))
        nextAttemptAt := some (now + retryDelay job.attemptCount)
        leaseExpiresAt := none }

/-- The rows `expire_exhausted_media_jobs` selects from. -/
def ProductMediaJob.Exhausted (settings : MediaSettings) (now : Instant) (job : ProductMediaJob) :
    Prop :=
  job.state = .processing ∧ settings.mediaJobMaxAttempts ≤ job.attemptCount ∧
    job.leaseExpiresAt.any (· ≤ now) = true

instance (settings : MediaSettings) (now : Instant) (job : ProductMediaJob) :
    Decidable (job.Exhausted settings now) := inferInstanceAs (Decidable (_ ∧ _))

def exhaustedJob (job : ProductMediaJob) : ProductMediaJob :=
  { job with
    state := .failed
    failureCode := some "max_attempts_exceeded"
    leaseExpiresAt := none
    nextAttemptAt := none }

def expireExhaustedMediaJobs (settings : MediaSettings) (db : MediaTables) (locked : List UUID)
    (limit : Nat) (now : Instant) : MediaTables :=
  let jobs := (((db.jobs.filter (ProductMediaJob.Exhausted settings now)).insertionSort
    (·.createdAt ≤ ·.createdAt)).filter (·.id ∉ locked)).take limit
  jobs.foldl (fun db job => db.putJob (exhaustedJob job)) db

/-! ## Storage, scanner and image library -/

/-- The bytes of an object. -/
abbrev Content := List UInt8

structure StoredMediaObject where
  key : String
  contentType : String
  byteSize : Nat
  sha256 : String
  deriving DecidableEq, Repr

structure SafeDerivative where
  content : Content
  contentType : String
  width : Nat
  height : Nat
  deriving DecidableEq

/-- What Pillow raises: one of the kinds `inspect_and_render` catches, or another. -/
inductive ImageError where
  | undecodable | other

structure ImageProbe where
  format : Option String
  width : Nat
  height : Nat

/-- A picture that was re-encoded has at least one pixel. -/
structure RenderedImage where
  content : Content
  width : Nat
  height : Nat
  positive : 0 < width ∧ 0 < height

/-- `hashlib` and Pillow. -/
structure MediaLibraries where
  /-- `hashlib.sha256(content).hexdigest()`. -/
  sha256 : Content → String
  length_sha256 : ∀ content, (sha256 content).length = 64
  /-- `Image.open`: format and size. -/
  probe : Content → Except ImageError ImageProbe
  verify : Content → Except ImageError Unit
  /-- Transpose, load, convert, fit into a square of the given edge, save as WebP. -/
  thumbnail : Content → Nat → Except ImageError RenderedImage

/-- The exceptions of the pipeline. -/
inductive MediaException where
  /-- `MediaRejected`: permanent. -/
  | rejected (message : String)
  /-- `MediaScanUnavailable`: transient. -/
  | scanUnavailable
  | other
  deriving DecidableEq, Repr

/-- `SUPPORTED`. -/
def supportedFormat : String → Option String
  | "JPEG" => some "image/jpeg"
  | "PNG" => some "image/png"
  | "WEBP" => some "image/webp"
  | _ => none

/-- The `except` clause around the image library. -/
def caught (result : Except ImageError α) : Except MediaException α :=
  match result with
  | .ok value => .ok value
  | .error .undecodable => .error (.rejected "image_decode_failed")
  | .error .other => .error .other

/-- `verdict` is what the scanner answers, or nothing where it raises. -/
def inspectAndRender (settings : MediaSettings) (libraries : MediaLibraries) (source : Content)
    (original : StoredMediaObject) (verdict : Option String) :
    Except MediaException SafeDerivative := do
  require (¬(source = [] ∨ settings.mediaUploadMaxBytes < source.length ∨
    original.byteSize ≠ source.length)) (.rejected "invalid_size")
  require (libraries.sha256 source = original.sha256) (.rejected "source_hash_mismatch")
  let verdict ← found verdict .scanUnavailable
  require (verdict ≠ "unavailable") .scanUnavailable
  require (verdict = "clean") (.rejected "scan_rejected")
  let probe ← caught (libraries.probe source)
  require ((probe.format.bind supportedFormat) = some original.contentType)
    (.rejected "unsupported_or_mismatched_format")
  require (¬(probe.width = 0 ∨ probe.height = 0 ∨ settings.mediaImageMaxWidth < probe.width ∨
    settings.mediaImageMaxHeight < probe.height ∨
    settings.mediaImageMaxPixels < probe.width * probe.height)) (.rejected "image_dimensions_exceeded")
  caught (libraries.verify source)
  let image ← caught (libraries.thumbnail source 1280)
  pure ⟨image.content, "image/webp", image.width, image.height⟩

/-! ## Publication -/

/-- `public/listings/{store_product_id}/{id}.webp`. -/
def derivativeKey (asset : ProductMediaAsset) : String :=
  "public/listings/" ++ uuidText asset.storeProductId ++ "/" ++ uuidText asset.id ++ ".webp"

structure PublicObject where
  key : String
  content : Content
  deriving DecidableEq

/-- The public bucket keeps exactly what was put and not deleted. -/
abbrev PublicStore := List PublicObject

def PublicStore.get (store : PublicStore) (key : String) : Option Content :=
  (lookup PublicObject.key key store).map (·.content)

def PublicStore.delete (store : PublicStore) (key : String) : PublicStore :=
  store.filter (·.key ≠ key)

def PublicStore.put (store : PublicStore) (key : String) (content : Content) : PublicStore :=
  ⟨key, content⟩ :: store.delete key

inductive SourceReply where
  | bytes (content : Content)
  /-- `FileNotFoundError` or `KeyError`. -/
  | missing
  | failed

/-- What a `put` that raised has left under its key. -/
inductive Leftover where
  | before | written | nothing

inductive PutReply where
  | stored (object : StoredMediaObject)
  | failed (leftover : Leftover)

/-- What storage and scanner answer while one asset is processed. -/
structure MediaReplies where
  source : SourceReply
  verdict : Option String
  put : PutReply
  /-- Whether the clean-up of an unverified object succeeds. -/
  cleaned : Bool

structure PublicationResult where
  state : AssetState
  reason : Option String
  deriving DecidableEq

def rejectedAsset (asset : ProductMediaAsset) (code : String) : ProductMediaAsset :=
  { asset with state := .rejected, failureCode := some code }

def approvedAsset (libraries : MediaLibraries) (asset : ProductMediaAsset)
    (derivative : SafeDerivative) (now : Instant) : ProductMediaAsset :=
  { asset with
    publicObjectKey := some (derivativeKey asset)
    derivativeSha256 := some (libraries.sha256 derivative.content)
    width := some derivative.width
    height := some derivative.height
    state := .approved
    approvedAt := some now
    failureCode := none }

/-- What the source's own metadata says of the bytes read. -/
def originalObject (asset : ProductMediaAsset) (source : Content) : StoredMediaObject where
  key := asset.sourceObjectKey
  contentType := asset.detectedMime.getD ""
  byteSize := source.length
  sha256 := asset.sourceSha256

/-- The store's answer names the object that was sent. -/
def Verified (libraries : MediaLibraries) (asset : ProductMediaAsset) (derivative : SafeDerivative)
    (stored : StoredMediaObject) : Prop :=
  stored.sha256 = libraries.sha256 derivative.content ∧
    stored.byteSize = derivative.content.length ∧ stored.key = derivativeKey asset ∧
    stored.contentType = "image/webp"

instance (libraries : MediaLibraries) (asset : ProductMediaAsset) (derivative : SafeDerivative)
    (stored : StoredMediaObject) : Decidable (Verified libraries asset derivative stored) :=
  inferInstanceAs (Decidable (_ ∧ _))

/-- The end of `process_quarantined_asset`: store the derivative, verify what the
store answers, and record the approval in the session. -/
def publishDerivative (libraries : MediaLibraries) (store : PublicStore) (asset : ProductMediaAsset)
    (derivative : SafeDerivative) (replies : MediaReplies) (now : Instant) :
    Except MediaException (ProductMediaAsset × PublicationResult) × PublicStore :=
  match replies.put with
  | .failed .before => (.error .other, store)
  | .failed .written => (.error .other, store.put (derivativeKey asset) derivative.content)
  | .failed .nothing => (.error .other, store.delete (derivativeKey asset))
  | .stored stored =>
    let store := store.put (derivativeKey asset) derivative.content
    if Verified libraries asset derivative stored then
      (.ok (approvedAsset libraries asset derivative now, ⟨.approved, none⟩), store)
    else (.error .other, if replies.cleaned then store.delete (derivativeKey asset) else store)

/-- No commit and no retry of its own: the worker owns both. -/
def processQuarantinedAsset (settings : MediaSettings) (libraries : MediaLibraries)
    (store : PublicStore) (asset : ProductMediaAsset) (replies : MediaReplies) (now : Instant) :
    Except MediaException (ProductMediaAsset × PublicationResult) × PublicStore :=
  if settings.productMediaEnabled = false then (.error .other, store)
  else if asset.state ≠ .quarantined ∨ asset.retiredAt.isSome = true then
    (.ok (asset, ⟨asset.state, some "not_eligible"⟩), store)
  else if asset.publicObjectKey.any (· ≠ "") = true then (.error .other, store)
  else
    match replies.source with
    | .missing =>
      (.ok (rejectedAsset asset "source_missing", ⟨.rejected, some "source_missing"⟩), store)
    | .failed => (.error .other, store)
    | .bytes source =>
      match inspectAndRender settings libraries source (originalObject asset source)
          replies.verdict with
      | .error (.rejected message) =>
        (.ok (rejectedAsset asset (Text.cut 80 message), ⟨.rejected, some (Text.cut 80 message)⟩),
          store)
      | .error error => (.error error, store)
      | .ok derivative => publishDerivative libraries store asset derivative replies now

end GaonOne
