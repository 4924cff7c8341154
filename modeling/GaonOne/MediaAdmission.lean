import GaonOne.MediaSessions

/-! When the database takes what the media workers write. Every asset row is one
that migration 0023 admits; the transaction as a whole is refused exactly when it
ends a job in an approval. -/
namespace GaonOne
open Relational Transitions System

variable {settings : MediaSettings} {libraries : MediaLibraries} {database : MediaDatabase}
  {store : PublicStore} {world : MediaWorld} {worker : Nat}

namespace MediaWorld

/-- The tables a step tries to commit. -/
def writes (settings : MediaSettings) (libraries : MediaLibraries) (world : MediaWorld) :
    MediaAction → Option MediaTables
  | .start => none
  | .step worker step =>
    world.workers[worker]?.bind fun state =>
      match world.plan settings libraries worker state step with
      | .commit pending _ _ _ => some pending
      | .become _ _ => none

/-- The steps that end a job in an approval: of an asset whose publication is committed
already, or of one that was published while its lease runs. -/
def Approves (world : MediaWorld) : MediaAction → Prop
  | .step worker (.lock now _) =>
    ∃ claim job asset, world.workers[worker]? = some (.claimed claim) ∧
      claim.jobId ∉ world.lockedJobs worker ∧ claim.assetId ∉ world.lockedAssets worker ∧
      world.tables.job? claim.jobId = some job ∧ claim.Live now job ∧
      world.tables.asset? claim.assetId = some asset ∧ asset.Recovered
  | .step worker (.finish now _) =>
    ∃ claim job asset, world.workers[worker]? =
      some (.published claim job asset ⟨.approved, none⟩) ∧ job.leaseExpiresAt.any (now < ·) = true
  | _ => False

theorem writes_iff {action : MediaAction} :
    world.writes settings libraries action = some pending ↔
      ∃ worker step state fate returned raised, action = .step worker step ∧
        world.workers[worker]? = some state ∧
        world.plan settings libraries worker state step = .commit pending fate returned raised := by
  cases action with
  | start => simp [writes]
  | step worker step =>
    simp only [writes, Option.bind_eq_some_iff]
    constructor
    · rintro ⟨state, here, written⟩
      split at written
      · next planned =>
        cases written
        exact ⟨worker, step, state, _, _, _, rfl, here, planned⟩
      · cases written
    · rintro ⟨_, _, state, fate, returned, raised, ⟨⟩, here, planned⟩
      exact ⟨state, here, by rw [planned]⟩

end MediaWorld

/-- The asset of a publication is a row of the schema, approved or not. -/
theorem Published.admitted (published : Published libraries original asset result)
    (admitted : original.Admitted) : asset.Admitted := by
  cases published with
  | kept => exact admitted
  | rejected quarantined short => exact rejectedAsset_admitted admitted quarantined short
  | approved quarantined positive => exact approvedAsset_admitted admitted positive

/-- A publication that is not an approval leaves the asset in its place. -/
theorem Published.putAsset {db : MediaTables} (published : Published libraries original asset result)
    (kept : db.Constraints) (held : original ∈ db.assets) (other : result.outcome ≠ .approved) :
    (db.putAsset asset).Constraints := by
  have admitted := published.admitted (kept.assetRows original held)
  cases published with
  | kept => exact kept.putAsset original held rfl rfl rfl rfl rfl admitted
  | rejected quarantined short =>
    refine kept.putAsset (rejectedAsset original _) held rfl rfl rfl ?_ ?_ admitted
    · simp [ProductMediaAsset.activePosition, rejectedAsset, quarantined]
    · simp [ProductMediaAsset.approvedPrimary, rejectedAsset, quarantined]
  | approved quarantined positive => exact absurd rfl other

/-- The outcome of an open publication is an approval only of what was published in it. -/
theorem Published.outcome_iff (published : Published libraries original asset result)
    (unrecovered : ¬original.Recovered) (open_ : ¬original.Closed)
    (complete : ¬(result.outcome = .approved ∧
      ¬(filled asset.publicObjectKey = true ∧ filled asset.derivativeSha256 = true))) :
    result.outcome = .approved ↔ result = ⟨.approved, none⟩ := by
  refine ⟨fun approved => ?_, fun same => by rw [same]; rfl⟩
  have whole := not_not.mp fun missing => complete ⟨approved, missing⟩
  cases published with
  | kept =>
    exfalso
    have state : original.state = .approved := by
      revert approved
      unfold PublicationResult.outcome
      cases original.state <;> simp
    apply unrecovered
    refine ⟨state, whole.1, whole.2, ?_⟩
    cases retired : original.retiredAt with
    | none => rfl
    | some instant => exact absurd (Or.inr (Or.inr (by rw [retired]; rfl))) open_
  | rejected quarantined short => cases approved
  | approved quarantined positive => rfl

theorem filled_of_length {text : String} (long : 0 < text.length) : filled (some text) = true := by
  have nonempty : text ≠ "" := by
    rintro rfl
    exact absurd long (by decide)
  simpa [filled] using nonempty

/-- An approval of its own carries the derivative's key and checksum. -/
theorem Published.filled_of_approved
    (published : Published libraries original asset ⟨.approved, none⟩) :
    filled asset.publicObjectKey = true ∧ filled asset.derivativeSha256 = true := by
  generalize ends : (⟨.approved, none⟩ : PublicationResult) = result at published
  cases published with
  | kept => cases congrArg PublicationResult.reason ends
  | rejected quarantined short => cases ends
  | approved quarantined positive =>
    exact ⟨filled_of_length (by rw [length_derivativeKey]; omega),
      filled_of_length (by rw [libraries.length_sha256]; omega)⟩

/-- A transaction of the pipeline is one the schema takes, or it ends in an approval. -/
theorem MediaWorld.Sessions.pending_constraints_iff {state step}
    (sessions : world.Sessions libraries) (here : world.workers[worker]? = some state)
    (planned : world.plan settings libraries worker state step =
      .commit pending fate returned raised) :
    pending.Constraints ↔ ¬world.Approves (.step worker step) := by
  have kept : world.tables.Constraints := world.database.constraints
  unfold plan at planned
  split at planned
  case h_1 =>
    split at planned <;> cases planned
    exact iff_of_true (expireExhaustedMediaJobs_constraints kept) id
  case h_2 =>
    split at planned
    · next job claimed =>
      split at planned <;> cases planned
      exact iff_of_true (claimDueMediaJob_constraints kept claimed) id
    · cases planned
  case h_3 claim now fate =>
    split at planned
    · cases planned
    · next free =>
      split at planned
      · cases planned
      · next outcome code job judged =>
        cases planned
        obtain ⟨found, live, decided⟩ := MediaClaim.verdict_complete judged
        rw [kept.putJob_iff _ (lookup_mem found) (completeMediaJob_id ..)
          (completeMediaJob_assetId ..), completeMediaJob_admitted_iff, not_iff_not]
        constructor
        · rintro rfl
          obtain ⟨-, asset, present, recovered⟩ | ⟨wrong, -⟩ := decided
          · exact ⟨claim, job, asset, here, fun taken => free (Or.inl taken),
              fun taken => free (Or.inr taken), found, live, present, recovered⟩
          · cases wrong
        · rintro ⟨other, row, asset, same, -, -, -, -, present, recovered⟩
          rw [here] at same
          cases same
          obtain ⟨approved, -⟩ | ⟨-, missing⟩ := decided
          · exact approved
          · exact absurd ⟨asset, present, recovered⟩ missing
      · cases planned
  case h_4 => split at planned <;> cases planned
  case h_5 claim job asset result now fate =>
    split at planned
    · cases planned
    · next complete =>
      split at planned
      · next live =>
        cases planned
        obtain ⟨held, original, inside, -, unrecovered, open_, published⟩ :=
          sessions.rows worker _ here
        have approving := published.outcome_iff unrecovered open_ complete
        have refused : result.outcome = .approved ↔
            world.Approves (.step worker (.finish now fate)) := by
          rw [approving]
          constructor
          · rintro rfl
            exact ⟨claim, job, asset, here, live⟩
          · rintro ⟨_, _, _, same, -⟩
            rw [here] at same
            cases same
            rfl
        rw [← refused]
        constructor
        · intro after
          have admitted := after.jobRows _ (mem_put.mpr
            (Or.inl ⟨rfl, job, held, (completeMediaJob_id ..).symm⟩))
          exact (completeMediaJob_admitted_iff _ _).mp admitted
        · intro other
          have between := published.putAsset kept inside other
          exact (between.putJob_iff _ held (completeMediaJob_id ..)
            (completeMediaJob_assetId ..)).mpr ((completeMediaJob_admitted_iff _ _).mpr other)
      · cases planned
  case h_7 =>
    split at planned
    · cases planned
    · split at planned
      · cases planned
      · next job found =>
        split at planned <;> cases planned
        refine iff_of_true ?_ id
        exact (kept.putJob_iff _ (lookup_mem found) (completeMediaJob_id ..)
          (completeMediaJob_assetId ..)).mpr ((completeMediaJob_admitted_iff _ _).mpr (by decide))
  all_goals cases planned

/-- Whatever a transaction makes of the assets, each row passes the checks. -/
theorem MediaWorld.Sessions.pending_assets {state step} (sessions : world.Sessions libraries)
    (here : world.workers[worker]? = some state)
    (planned : world.plan settings libraries worker state step =
      .commit pending fate returned raised) : ∀ asset ∈ pending.assets, asset.Admitted := by
  have kept : world.tables.Constraints := world.database.constraints
  by_cases approves : world.Approves (.step worker step)
  · cases step with
    | lock now fate =>
      obtain ⟨claim, _, _, same, -⟩ := approves
      rw [here] at same
      cases same
      simp only [plan] at planned
      split at planned
      · cases planned
      · split at planned <;> cases planned
        exact kept.assetRows
    | finish now fate =>
      obtain ⟨claim, job, asset, same, -⟩ := approves
      rw [here] at same
      cases same
      obtain ⟨-, original, inside, -, -, -, published⟩ := sessions.rows worker _ here
      simp only [plan] at planned
      split at planned
      · cases planned
      · split at planned
        · cases planned
          intro row member
          rcases mem_put.mp member with ⟨rfl, _⟩ | ⟨held, _⟩
          · exact published.admitted (kept.assetRows original inside)
          · exact kept.assetRows row held
        · cases planned
    | _ => exact absurd approves id
  · exact ((sessions.pending_constraints_iff here planned).mpr approves).assetRows

/-- A step that would end a job in an approval does try to commit it. -/
theorem MediaWorld.Sessions.approves_writes (settings : MediaSettings) {action : MediaAction}
    (sessions : world.Sessions libraries) (approves : world.Approves action) :
    ∃ pending, world.writes settings libraries action = some pending := by
  cases action with
  | start => exact absurd approves id
  | step worker step =>
    cases step with
    | lock now fate =>
      obtain ⟨claim, job, asset, here, jobFree, assetFree, found, live, present, recovered⟩ := approves
      have free : ¬(claim.jobId ∈ world.lockedJobs worker ∨
          claim.assetId ∈ world.lockedAssets worker) := fun taken => taken.elim jobFree assetFree
      have judged : claim.verdict world.tables now = .complete .approved none job := by
        simp only [MediaClaim.verdict, found, live, present, if_pos recovered, not_true, if_false]
      have committed : ∃ pending returned raised, world.plan settings libraries worker
          (.claimed claim) (.lock now fate) = .commit pending fate returned raised := by
        simp only [plan, if_neg free, judged]
        exact ⟨_, _, _, rfl⟩
      obtain ⟨pending, returned, raised, planned⟩ := committed
      exact ⟨pending, writes_iff.mpr ⟨worker, _, _, fate, returned, raised, rfl, here, planned⟩⟩
    | finish now fate =>
      obtain ⟨claim, job, asset, here, live⟩ := approves
      obtain ⟨-, original, -, -, -, -, published⟩ := sessions.rows worker _ here
      have complete := published.filled_of_approved
      have committed : ∃ pending returned raised, world.plan settings libraries worker
          (.published claim job asset ⟨.approved, none⟩) (.finish now fate) =
            .commit pending fate returned raised := by
        simp only [plan, complete, and_self, not_true, and_false, if_false, if_pos live]
        exact ⟨_, _, _, rfl⟩
      obtain ⟨pending, returned, raised, planned⟩ := committed
      exact ⟨pending, writes_iff.mpr ⟨worker, _, _, fate, returned, raised, rfl, here, planned⟩⟩
    | _ => exact absurd approves id

theorem MediaDatabase.commit_refused (database : MediaDatabase) (refused : ¬pending.Constraints)
    (fate : CommitFate) : (database.commit pending fate).1 = database := by
  cases fate with
  | fails => rfl
  | _ => simp only [commit, dif_neg refused]

/-- The source scans clean, renders, and is stored under its key with the checksum of
what was sent. -/
structure Publishable (settings : MediaSettings) (libraries : MediaLibraries)
    (asset : ProductMediaAsset) (replies : MediaReplies) : Prop where
  enabled : settings.productMediaEnabled = true
  quarantined : asset.state = .quarantined
  kept : asset.retiredAt = none
  unpublished : filled asset.publicObjectKey = false
  rendered : ∃ source derivative stored, replies.source = .bytes source ∧
    inspectAndRender settings libraries source (originalObject asset source) replies.verdict =
      .ok derivative ∧
    replies.put = .stored stored ∧ Verified libraries asset derivative stored

/-- Such an asset is approved in the session of its worker. -/
theorem Publishable.processed (publishable : Publishable settings libraries asset replies)
    (store : PublicStore) (now : Instant) :
    ∃ derivative store', processQuarantinedAsset settings libraries store asset replies now =
      (.ok (approvedAsset libraries asset derivative now, ⟨.approved, none⟩), store') := by
  obtain ⟨source, derivative, stored, read, rendered, put, verified⟩ := publishable.rendered
  refine ⟨derivative, store.put (derivativeKey asset) derivative.content, ?_⟩
  have eligible : ¬(asset.state ≠ .quarantined ∨ asset.retiredAt.isSome = true) := by
    simp [publishable.quarantined, publishable.kept]
  have unpublished : ¬asset.publicObjectKey.any (· ≠ "") = true := by
    simpa [filled] using publishable.unpublished
  simp only [processQuarantinedAsset, publishable.enabled, Bool.true_eq_false, if_false,
    if_neg eligible, if_neg unpublished, read, rendered, publishDerivative, put, if_pos verified]

theorem MediaWorld.step_of_worker {state : MediaWorker} {step : MediaStep}
    (here : world.workers[worker]? = some state) :
    world.step settings libraries (.step worker step) =
      world.follow worker (world.plan settings libraries worker state step) := by
  simp only [MediaWorld.step, here]

/-- Its worker cannot commit it: the transaction is taken back, whatever the commit. -/
theorem MediaWorld.approval_lost {claim : MediaClaim} {job : ProductMediaJob}
    (sessions : world.Sessions libraries)
    (here : world.workers[worker]? = some (.processing claim job asset))
    (publishable : Publishable settings libraries asset replies) (now later : Instant)
    (fate : CommitFate) :
    (((world.step settings libraries (.step worker (.publish replies now))).step settings libraries
      (.step worker (.finish later fate))).database) = world.database := by
  obtain ⟨derivative, store', processed⟩ := publishable.processed world.store now
  have inside : worker < world.workers.length := (List.getElem?_eq_some_iff.mp here).1
  have first : world.step settings libraries (.step worker (.publish replies now)) =
      { world with
        store := store'
        workers := world.workers.set worker (.published claim job
          (approvedAsset libraries asset derivative now) ⟨.approved, none⟩) } := by
    rw [step_of_worker here]
    simp only [plan, processed, follow]
  have between : (world.step settings libraries (.step worker (.publish replies now))).Sessions
      libraries := step_sessions sessions _
  rw [first] at between ⊢
  have standing : (world.workers.set worker (.published claim job
      (approvedAsset libraries asset derivative now) ⟨.approved, none⟩))[worker]? =
      some (.published claim job (approvedAsset libraries asset derivative now) ⟨.approved, none⟩) :=
    List.getElem?_set_self inside
  rw [step_of_worker standing]
  cases planned : plan settings libraries _ worker _ (.finish later fate) with
  | become next store => rfl
  | commit pending fate' returned raised =>
    have live : job.leaseExpiresAt.any (later < ·) = true := by
      by_contra dead
      simp only [plan, if_neg dead] at planned
      split at planned <;> cases planned
    have refused := (between.pending_constraints_iff standing planned).not.mpr
      (not_not.mpr ⟨claim, job, _, standing, live⟩)
    exact world.database.commit_refused refused fate'

/-- In every run, whatever the scanner and the storage answer: the rows that the
workers write are rows of the schema exactly as long as no job ends in an approval.
Every asset row is one of the schema even then, but a clean, rendered and verified
photograph is never committed: its transaction is taken back. -/
theorem media_writes_admitted_iff (settings : MediaSettings) (libraries : MediaLibraries)
    (database : MediaDatabase) (store : PublicStore) (actions : List MediaAction) :
    let pipeline := mediaSystem settings libraries database store
    (pipeline.RunWhile (fun world action => ∀ pending ∈ world.writes settings libraries action,
        pending.Constraints) pipeline.initial actions ↔
      pipeline.RunWhile (fun world action => ¬world.Approves action) pipeline.initial actions) ∧
    pipeline.RunWhile (fun world action => ∀ pending ∈ world.writes settings libraries action,
      ∀ asset ∈ pending.assets, asset.Admitted) pipeline.initial actions ∧
    ∀ worker claim job asset replies now later fate,
      (pipeline.run pipeline.initial actions).workers[worker]? = some (.processing claim job asset) →
      Publishable settings libraries asset replies →
      (pipeline.run pipeline.initial (actions ++
        [.step worker (.publish replies now), .step worker (.finish later fate)])).database =
          (pipeline.run pipeline.initial actions).database := by
  intro pipeline
  have start : pipeline.Reachable pipeline.initial := .initial
  refine ⟨start.runWhile_iff (fun world reached action => ?_) actions,
    start.runWhile (fun world reached action => ?_) actions, ?_⟩
  · have sessions : world.Sessions libraries := reachable_sessions reached
    constructor
    · intro admitted approves
      obtain ⟨pending, written⟩ := sessions.approves_writes settings approves
      obtain ⟨worker, step, state, fate, returned, raised, rfl, here, planned⟩ :=
        MediaWorld.writes_iff.mp written
      exact (sessions.pending_constraints_iff here planned).mp (admitted pending written) approves
    · intro approves pending written
      obtain ⟨worker, step, state, fate, returned, raised, rfl, here, planned⟩ :=
        MediaWorld.writes_iff.mp written
      exact (sessions.pending_constraints_iff here planned).mpr approves
  · intro pending written
    have sessions : world.Sessions libraries := reachable_sessions reached
    obtain ⟨worker, step, state, fate, returned, raised, rfl, here, planned⟩ :=
      MediaWorld.writes_iff.mp written
    exact sessions.pending_assets here planned
  · intro worker claim job asset replies now later fate here publishable
    have sessions := reachable_sessions (start.run actions)
    rw [System.run_append]
    exact MediaWorld.approval_lost sessions here publishable now later fate

/-! ## One photograph -/

/-- A black pixel as PNG. -/
def pixelSource : Content :=
  [137, 80, 78, 71, 13, 10, 26, 10, 0, 0, 0, 13, 73, 72, 68, 82, 0, 0, 0, 1, 0, 0, 0, 1, 8, 2, 0, 0, 0,
  144, 119, 83, 222, 0, 0, 0, 12, 73, 68, 65, 84, 120, 156, 99, 96, 96, 96, 0, 0, 0, 4, 0, 1, 246, 23,
  56, 85, 0, 0, 0, 0, 73, 69, 78, 68, 174, 66, 96, 130]

/-- The pixel as WebP. -/
def pixelDerivative : Content :=
  [82, 73, 70, 70, 34, 0, 0, 0, 87, 69, 66, 80, 86, 80, 56, 32, 22, 0, 0, 0, 48, 1, 0, 157, 1, 42, 1, 0,
  1, 0, 14, 192, 254, 37, 164, 0, 3, 112, 0, 0, 0, 0]

def pixelSourceSha256 : String := "c47dd9465c00e9a0c8b85e9ea58d3034a0d23b9cf926113602f3460752a4eb96"

def pixelDerivativeSha256 : String :=
  "c90cff659645a312a28804965f3dbc34061338f7234ff5d6ddb2c57e9eadec15"

/-- The libraries, as far as the pixel goes. -/
def pixelLibraries : MediaLibraries where
  sha256 content :=
    if content = pixelSource then pixelSourceSha256 else pixelDerivativeSha256
  length_sha256 content := by
    split
    · rfl
    · rfl
  probe content := if content = pixelSource then .ok ⟨some "PNG", 1, 1⟩ else .error .undecodable
  verify _ := .ok ()
  thumbnail content _ :=
    if content = pixelSource then .ok ⟨pixelDerivative, 1, 1, by decide⟩ else .error .undecodable

def pixelAsset : ProductMediaAsset where
  id := 1
  storeProductId := 2
  sourceObjectKey := "quarantine/listings/2/1"
  sourceSha256 := pixelSourceSha256
  detectedMime := some "image/png"
  byteSize := some 69

def pixelDatabase : MediaDatabase :=
  ⟨⟨[pixelAsset], [⟨3, 1, .queued, 0, none, none, none, 0⟩]⟩, by decide +kernel⟩

/-- The scanner says clean, and the store keeps what it is sent. -/
def pixelReplies : MediaReplies where
  source := .bytes pixelSource
  verdict := some "clean"
  put := .stored ⟨derivativeKey pixelAsset, "image/webp", 42, pixelDerivativeSha256⟩
  cleaned := true

/-- A worker leases the job and locks its rows. -/
def pixelOpened : List MediaAction :=
  [.start, .step 0 (.claim [] 0 .commits), .step 0 (.lock 1 .commits)]

/-- It publishes the pixel and commits, a second into the lease. -/
def pixelFinished : List MediaAction :=
  pixelOpened ++ [.step 0 (.publish pixelReplies 2), .step 0 (.finish (seconds 1) .commits)]

/-- A clean photograph, published within its lease: the commit writes a job row that the
schema refuses, and the asset stays in quarantine. -/
theorem media_writes_refused :
    let pipeline := mediaSystem {} pixelLibraries pixelDatabase []
    ¬pipeline.RunWhile (fun world action => ∀ pending ∈ world.writes {} pixelLibraries action,
      pending.Constraints) pipeline.initial pixelFinished ∧
    (pipeline.run pipeline.initial pixelFinished).tables.assets = [pixelAsset] := by
  decide +kernel

theorem pixel_publishable : Publishable {} pixelLibraries pixelAsset pixelReplies where
  enabled := rfl
  quarantined := rfl
  kept := rfl
  unpublished := rfl
  rendered := ⟨pixelSource, ⟨pixelDerivative, "image/webp", 1, 1⟩, _, rfl, by decide +kernel, rfl,
    by decide +kernel⟩

/-- Publishing the pixel and committing it leaves the database as it was. -/
theorem media_writes_admitted_iff_pixel :
    let pipeline := mediaSystem {} pixelLibraries pixelDatabase []
    (pipeline.run pipeline.initial (pixelOpened ++ [.step 0 (.publish pixelReplies 2),
      .step 0 (.finish (seconds 1) .commits)])).database =
        (pipeline.run pipeline.initial pixelOpened).database :=
  (media_writes_admitted_iff {} pixelLibraries pixelDatabase [] pixelOpened).2.2 0 ⟨3, 1, 1⟩
    ⟨3, 1, .processing, 1, none, some (seconds 120), none, 0⟩ pixelAsset pixelReplies 2 _ .commits
    (by decide +kernel) pixel_publishable

end GaonOne
