import GaonOne.MediaWorkers

/-! What the pipeline writes against what migration 0023 admits. Leases, retries,
rejections and expiries are rows of the schema, and so is every asset row; the one
row it refuses is a job that ends well, because the code says `completed` where the
migration says `succeeded`. -/
namespace GaonOne
open Relational Transitions

variable {settings : MediaSettings} {libraries : MediaLibraries} {db : MediaTables}
  {asset : ProductMediaAsset} {job : ProductMediaJob} {now : Instant}

/-! ## Rows -/

theorem leased_admitted (admitted : job.Admitted) : (leased settings now job).Admitted :=
  ⟨by simp [leased, jobStates], admitted.failureCode⟩

private theorem maxAttemptsExceeded_short : "max_attempts_exceeded".length ≤ 80 := by decide

theorem exhaustedJob_admitted (job : ProductMediaJob) : (exhaustedJob job).Admitted :=
  ⟨by simp [exhaustedJob, jobStates], by simp [exhaustedJob, maxAttemptsExceeded_short]⟩

@[simp]
theorem completeMediaJob_id (outcome : MediaOutcome) (code : Option String) :
    (completeMediaJob settings job outcome code now).id = job.id := by
  unfold completeMediaJob
  split
  · rfl
  · rfl
  · split <;> rfl

@[simp]
theorem completeMediaJob_assetId (outcome : MediaOutcome) (code : Option String) :
    (completeMediaJob settings job outcome code now).assetId = job.assetId := by
  unfold completeMediaJob
  split
  · rfl
  · rfl
  · split <;> rfl

/-- The schema admits a finished lease exactly when it does not end in an approval. -/
theorem completeMediaJob_admitted_iff (outcome : MediaOutcome) (code : Option String) :
    (completeMediaJob settings job outcome code now).Admitted ↔ outcome ≠ .approved := by
  cases outcome with
  | approved =>
    constructor
    · intro admitted
      have word : JobState.completed ∈ jobStates := admitted.state
      revert word
      decide
    · exact fun differ => absurd rfl differ
  | rejected =>
    exact ⟨fun _ => by decide, fun _ => ⟨by simp [completeMediaJob, jobStates],
      by simpa [completeMediaJob] using Text.length_cut_le 80 _⟩⟩
  | retry =>
    refine ⟨fun _ => by decide, fun _ => ?_⟩
    unfold completeMediaJob
    dsimp only
    split
    · exact ⟨by simp [jobStates], by simp [maxAttemptsExceeded_short]⟩
    · exact ⟨by simp [jobStates], by simpa using Text.length_cut_le 80 _⟩

theorem length_derivativeKey (asset : ProductMediaAsset) : (derivativeKey asset).length = 94 := by
  have start : "public/listings/".length = 16 := rfl
  have slash : "/".length = 1 := rfl
  have suffix : ".webp".length = 5 := rfl
  have listing := length_uuidText asset.storeProductId
  have own := length_uuidText asset.id
  unfold derivativeKey
  generalize uuidText asset.storeProductId = first at *
  generalize uuidText asset.id = second at *
  simp only [String.length_append]
  rw [start, slash, suffix, listing, own]

theorem rejectedAsset_admitted (admitted : asset.Admitted) (quarantined : asset.state = .quarantined)
    (short : code.length ≤ 80) : (rejectedAsset asset code).Admitted where
  position := admitted.position
  attempts := admitted.attempts
  byteSize := admitted.byteSize
  sourceSha := admitted.sourceSha
  derivativeSha := admitted.derivativeSha
  width := admitted.width
  height := admitted.height
  primaryApproved primary := by
    have approved := admitted.primaryApproved primary
    rw [quarantined] at approved
    cases approved
  approvedKey state := nomatch state
  sourceKey := admitted.sourceKey
  publicKey := admitted.publicKey
  mime := admitted.mime
  failureCode := by simpa [rejectedAsset] using short

theorem approvedAsset_admitted (admitted : asset.Admitted) (positive : 0 < derivative.width ∧
    0 < derivative.height) : (approvedAsset libraries asset derivative now).Admitted where
  position := admitted.position
  attempts := admitted.attempts
  byteSize := admitted.byteSize
  sourceSha := admitted.sourceSha
  derivativeSha := by simp [approvedAsset, libraries.length_sha256]
  width := by simpa [approvedAsset] using positive.1
  height := by simpa [approvedAsset] using positive.2
  primaryApproved _ := rfl
  approvedKey _ := rfl
  sourceKey := admitted.sourceKey
  publicKey := by simp [approvedAsset, length_derivativeKey]
  mime := admitted.mime
  failureCode := rfl

@[simp]
theorem caught_ok {result : Except ImageError α} :
    caught result = .ok value ↔ result = .ok value := by
  cases result with
  | ok value => simp [caught]
  | error error => cases error <;> simp [caught]

theorem inspectAndRender_positive
    (rendered : inspectAndRender settings libraries source original verdict = .ok derivative) :
    0 < derivative.width ∧ 0 < derivative.height := by
  simp only [inspectAndRender, UnitOfWork.bind_ok, UnitOfWork.pure_ok, caught_ok] at rendered
  obtain ⟨_, -, _, -, _, -, _, -, _, -, _, -, _, -, _, -, _, -, image, -, rfl⟩ := rendered
  exact image.positive

/-! ## Tables -/

namespace MediaTables.Constraints
variable (kept : db.Constraints)
include kept

/-- A job row may change what is not its identity, as far as the schema admits it. -/
theorem putJob_iff (new : ProductMediaJob) (held : job ∈ db.jobs) (same : new.id = job.id)
    (parent : new.assetId = job.assetId) : (db.putJob new).Constraints ↔ new.Admitted := by
  constructor
  · exact fun after => after.jobRows new (mem_put.mpr (Or.inl ⟨rfl, job, held, same.symm⟩))
  · intro admitted
    refine { kept with jobIds := ?_, jobAssets := ?_, jobParents := ?_, jobRows := ?_ }
    · exact unique_put (fun _ _ agree => agree) kept.jobIds
    · exact unique_put (kept_of_key kept.jobIds held same parent) kept.jobAssets
    · exact references_put_child ⟨job, held, parent.symm⟩ kept.jobParents
    · intro row member
      rcases mem_put.mp member with ⟨rfl, _⟩ | ⟨inside, _⟩
      · exact admitted
      · exact kept.jobRows row inside

/-- An asset row that keeps its place among the others. -/
theorem putAsset {old : ProductMediaAsset} (new : ProductMediaAsset) (held : old ∈ db.assets) (same : new.id = old.id)
    (source : new.sourceObjectKey = old.sourceObjectKey)
    (key : new.publicObjectKey = old.publicObjectKey)
    (place : new.activePosition = old.activePosition)
    (primary : new.approvedPrimary = old.approvedPrimary) (admitted : new.Admitted) :
    (db.putAsset new).Constraints where
  assetIds := unique_put (fun _ _ agree => agree) kept.assetIds
  sourceKeys := unique_put (kept_of_key kept.assetIds held same source) kept.sourceKeys
  publicKeys := uniqueWhenSet_put_kept (kept_of_key kept.assetIds held same key) kept.publicKeys
  activePositions :=
    uniqueWhenSet_put_kept (kept_of_key kept.assetIds held same place) kept.activePositions
  approvedPrimaries :=
    uniqueWhenSet_put_kept (kept_of_key kept.assetIds held same primary) kept.approvedPrimaries
  assetRows := by
    intro row member
    rcases mem_put.mp member with ⟨rfl, _⟩ | ⟨inside, _⟩
    · exact admitted
    · exact kept.assetRows row inside
  jobIds := kept.jobIds
  jobAssets := kept.jobAssets
  jobParents := references_put_parent new kept.jobParents
  jobRows := kept.jobRows

end MediaTables.Constraints

/-- Expiring a list of jobs keeps the constraints, whichever they are. -/
theorem expire_constraints {jobs : List ProductMediaJob} (kept : db.Constraints)
    (held : ∀ job ∈ jobs, ∃ row ∈ db.jobs, row.id = job.id ∧ row.assetId = job.assetId) :
    (jobs.foldl (fun db job => db.putJob (exhaustedJob job)) db).Constraints := by
  induction jobs generalizing db with
  | nil => exact kept
  | cons first rest ih =>
    obtain ⟨row, inside, same, parent⟩ := held first List.mem_cons_self
    have next : (db.putJob (exhaustedJob first)).Constraints :=
      (kept.putJob_iff (exhaustedJob first) inside same.symm parent.symm).mpr
        (exhaustedJob_admitted first)
    apply ih next
    intro job member
    obtain ⟨other, there, agree, owner⟩ := held job (List.mem_cons_of_mem _ member)
    by_cases replaced : other.id = first.id
    · refine ⟨exhaustedJob first, mem_put.mpr (Or.inl ⟨rfl, row, inside, same⟩),
        replaced.symm.trans agree, ?_⟩
      have sole : other = row := unique_eq kept.jobIds there inside (replaced.trans same.symm)
      rw [← owner, sole]
      exact parent.symm
    · exact ⟨other, mem_put.mpr (Or.inr ⟨there, replaced⟩), agree, owner⟩

theorem mem_expired {jobs : List ProductMediaJob} {locked : List UUID}
    (member : job ∈ (((jobs.filter (ProductMediaJob.Exhausted settings now)).insertionSort
      (·.createdAt ≤ ·.createdAt)).filter (·.id ∉ locked)).take limit) :
    job ∈ jobs ∧ job.id ∉ locked := by
  obtain ⟨inside, free⟩ := List.mem_filter.mp (List.mem_of_mem_take member)
  have chosen := (List.mem_insertionSort _).mp inside
  exact ⟨(List.mem_filter.mp chosen).1, of_decide_eq_true free⟩

theorem expireExhaustedMediaJobs_constraints (kept : db.Constraints) :
    (expireExhaustedMediaJobs settings db locked limit now).Constraints := by
  apply expire_constraints kept
  exact fun job member => ⟨job, (mem_expired member).1, rfl, rfl⟩

/-- What a claim takes: a row of the queue that nobody has locked. -/
theorem claimDueMediaJob_spec
    (claimed : claimDueMediaJob settings db locked now = (pending, some lease)) :
    ∃ job ∈ db.jobs, job.Due settings now ∧ job.id ∉ locked ∧ lease = leased settings now job ∧
      pending = db.putJob lease := by
  unfold claimDueMediaJob at claimed
  split at claimed
  · cases claimed
  · next job found =>
    cases claimed
    have inside := (List.mem_insertionSort _).mp (List.mem_of_find?_eq_some found)
    obtain ⟨member, due⟩ := List.mem_filter.mp inside
    have free := List.find?_some found
    exact ⟨job, member, of_decide_eq_true due, of_decide_eq_true free, rfl, rfl⟩

theorem claimDueMediaJob_constraints (kept : db.Constraints)
    (claimed : claimDueMediaJob settings db locked now = (pending, some lease)) :
    pending.Constraints := by
  obtain ⟨job, held, -, -, rfl, rfl⟩ := claimDueMediaJob_spec claimed
  exact (kept.putJob_iff (leased settings now job) held rfl rfl).mpr
    (leased_admitted (kept.jobRows job held))

end GaonOne
