import GaonOne.ListingImages
import Mathlib.Algebra.Order.BigOperators.Group.List

/-! The leases of the media queue. Each commit moves job rows in one of four ways: it
queues one, leases one, finishes the lease its worker committed, or expires those whose
last lease ran out. From that follow the bound on the attempts, the meaning of a lease,
the finality of finished jobs, and the one outcome of a lease. -/
namespace GaonOne
open Relational UnitOfWork Transitions System

/-! ## What is recorded of a run -/

/-- A lease that was committed, and the end its worker put to one. -/
inductive LeaseEvent where
  | claimed (worker : Nat) (claim : MediaClaim)
  | applied (worker : Nat) (claim : MediaClaim) (now : Instant)
  deriving DecidableEq

/-- The lease, by job and attempt. -/
def MediaClaim.lease (claim : MediaClaim) : UUID × Nat := (claim.jobId, claim.attempt)

def LeaseEvent.claimedLease : LeaseEvent → Option (UUID × Nat)
  | claimed _ claim => some claim.lease
  | applied .. => none

def LeaseEvent.appliedLease : LeaseEvent → Option (UUID × Nat)
  | applied _ claim _ => some claim.lease
  | claimed .. => none

/-- The lease a worker works under. -/
def MediaWorker.claim? : MediaWorker → Option MediaClaim
  | idle => none
  | claimed claim | processing claim _ _ | published claim _ _ _ | rolledBack claim _ _
  | retrying claim _ => some claim

/-- The clock a step decides by. -/
def MediaStep.now : MediaStep → Instant
  | expire _ _ now _ | claim _ now _ | lock now _ | publish _ now | finish now _ | retry now _ => now
  | takeBack _ | crash => 0

/-- Whether the commit is durable, acknowledged or not. -/
def MediaTables.written (pending : MediaTables) (fate : CommitFate) : Bool :=
  match fate with
  | .fails => false
  | .commits | .unacknowledged => decide pending.Constraints

/-- What a durable commit records: a worker with a lease ends it, and one without takes
what it commits. -/
def MediaWorker.recorded (state : MediaWorker) (worker : Nat) (returned : MediaWorker) (now : Instant) :
    Option LeaseEvent :=
  match state.claim? with
  | some claim => some (.applied worker claim now)
  | none => returned.claim?.map (.claimed worker)

/-- What a worker's step adds to the record. -/
def MediaWorld.leaseEvent (settings : MediaSettings) (libraries : MediaLibraries)
    (world : MediaWorld) (worker : Nat) (step : MediaStep) : Option LeaseEvent :=
  match world.workers[worker]? with
  | none => none
  | some state =>
    match world.plan settings libraries worker state step with
    | .become .. => none
    | .commit pending fate returned _ =>
      if pending.written fate then state.recorded worker returned step.now else none

def imageEvent (settings : UploadSettings) (libraries : MediaLibraries) (world : MediaWorld) :
    ImageAction → Option LeaseEvent
  | .work (.step worker step) => world.leaseEvent settings.toMediaSettings libraries worker step
  | _ => none

/-- The pipeline and its record, the latest event first. -/
structure LeaseHistory where
  world : MediaWorld
  log : List LeaseEvent := []

def LeaseHistory.jobs (history : LeaseHistory) : List ProductMediaJob := history.world.tables.jobs

/-- Uploads and workers from an empty database, on record. -/
def leaseSystem (settings : UploadSettings) (libraries : MediaLibraries) (market : Tables) :
    System LeaseHistory ImageAction where
  initial := { world := (imageSystem settings libraries market).initial }
  step history action :=
    { world := imageStep settings libraries market history.world action
      log := (imageEvent settings libraries history.world action).toList ++ history.log }

/-! ## What becomes of a job row -/

/-- What one step makes of one job row, given what it records. -/
inductive JobChange (settings : MediaSettings) (event : Option LeaseEvent) (job : ProductMediaJob) :
    ProductMediaJob → Prop where
  | kept : JobChange settings event job job
  | leased (worker : Nat) (now : Instant) (due : job.Due settings now)
      (recorded : event = some (.claimed worker ⟨job.id, job.assetId, job.attemptCount + 1⟩)) :
      JobChange settings event job (leased settings now job)
  | exhausted (now : Instant) (lapsed : job.Exhausted settings now) (unrecorded : event = none) :
      JobChange settings event job (exhaustedJob job)
  | finished (worker : Nat) (claim : MediaClaim) (outcome : MediaOutcome) (code : Option String)
      (now : Instant) (own : job.id = claim.jobId) (live : claim.Live now job)
      (recorded : event = some (.applied worker claim now)) :
      JobChange settings event job (completeMediaJob settings job outcome code now)

/-- A job as `create_media_job` leaves it. -/
def ProductMediaJob.Fresh (job : ProductMediaJob) : Prop :=
  job.state = .queued ∧ job.attemptCount = 0 ∧ job.leaseExpiresAt = none

/-- What one step makes of the queue. -/
structure QueueMoved (settings : MediaSettings) (event : Option LeaseEvent)
    (jobs after : List ProductMediaJob) : Prop where
  kept : ∀ job ∈ jobs, ∃ row ∈ after, JobChange settings event job row
  origin : ∀ row ∈ after, (∃ job ∈ jobs, JobChange settings event job row) ∨ row.Fresh
  /-- A recorded lease is a row's. -/
  claims : ∀ worker claim, event = some (.claimed worker claim) →
    ∃ job ∈ jobs, ∃ row ∈ after, ∃ now, claim = ⟨job.id, job.assetId, job.attemptCount + 1⟩ ∧
      row = leased settings now job
  applies : ∀ worker claim now, event = some (.applied worker claim now) →
    ∃ job ∈ jobs, ∃ row ∈ after, ∃ outcome code, job.id = claim.jobId ∧ claim.Live now job ∧
      row = completeMediaJob settings job outcome code now

variable {settings : MediaSettings} {libraries : MediaLibraries} {world : MediaWorld}
  {store : PublicStore} {event : Option LeaseEvent} {job row : ProductMediaJob} {jobs after : List ProductMediaJob}

theorem QueueMoved.still (jobs : List ProductMediaJob) : QueueMoved settings none jobs jobs where
  kept job held := ⟨job, held, .kept⟩
  origin row held := .inl ⟨row, held, .kept⟩
  claims _ _ recorded := nomatch recorded
  applies _ _ _ recorded := nomatch recorded

/-- One row changes and the others stay. -/
theorem queueMoved_put (ids : Unique ProductMediaJob.id jobs) (held : job ∈ jobs)
    (change : JobChange settings event job row) (same : row.id = job.id) :
    (∀ old ∈ jobs, ∃ new ∈ put ProductMediaJob.id row jobs, JobChange settings event old new) ∧
      (∀ new ∈ put ProductMediaJob.id row jobs, (∃ old ∈ jobs, JobChange settings event old new) ∨
        new.Fresh) ∧ row ∈ put ProductMediaJob.id row jobs := by
  have here : row ∈ put ProductMediaJob.id row jobs := mem_put.mpr (.inl ⟨rfl, job, held, same.symm⟩)
  refine ⟨?_, ?_, here⟩
  · intro old member
    by_cases changed : old.id = job.id
    · rw [unique_eq ids member held changed]
      exact ⟨row, here, change⟩
    · exact ⟨old, mem_put.mpr (.inr ⟨member, fun agree => changed (agree.trans same)⟩), .kept⟩
  · intro new member
    rcases mem_put.mp member with ⟨rfl, -⟩ | ⟨before, -⟩
    · exact .inl ⟨job, held, change⟩
    · exact .inl ⟨new, before, .kept⟩

/-- Expiring a list of jobs changes their rows and no other. -/
theorem expire_kept {expired : List ProductMediaJob} {db : MediaTables}
    (known : ∀ other ∈ expired, other.id = job.id → other = job) :
    (job ∈ db.jobs → job ∈ expired ∧
        exhaustedJob job ∈ (expired.foldl (fun db job => db.putJob (exhaustedJob job)) db).jobs ∨
      job ∉ expired ∧ job ∈ (expired.foldl (fun db job => db.putJob (exhaustedJob job)) db).jobs) ∧
    (exhaustedJob job ∈ db.jobs →
      exhaustedJob job ∈ (expired.foldl (fun db job => db.putJob (exhaustedJob job)) db).jobs) := by
  induction expired generalizing db with
  | nil => exact ⟨fun held => .inr ⟨List.not_mem_nil, held⟩, fun held => held⟩
  | cons first rest ih =>
    have later := fun other member => known other (List.mem_cons_of_mem _ member)
    by_cases own : first.id = job.id
    · have sole := known first List.mem_cons_self own
      subst sole
      have replaced : (∃ old ∈ db.jobs, old.id = first.id) →
          exhaustedJob first ∈ (db.putJob (exhaustedJob first)).jobs :=
        fun ⟨old, member, same⟩ => mem_put.mpr (.inl ⟨rfl, old, member, same⟩)
      exact ⟨fun held => .inl ⟨List.mem_cons_self, (ih later).2 (replaced ⟨first, held, rfl⟩)⟩,
        fun held => (ih later).2 (replaced ⟨_, held, rfl⟩)⟩
    · have elsewhere : ∀ kept ∈ db.jobs, kept.id = job.id → kept ∈ (db.putJob (exhaustedJob first)).jobs :=
        fun kept member same => mem_put.mpr (.inr ⟨member, fun agree => own (agree.symm.trans same)⟩)
      refine ⟨fun held => ?_, fun held => (ih later).2 (elsewhere _ held rfl)⟩
      rcases (ih later).1 (elsewhere job held rfl) with ⟨member, gone⟩ | ⟨absent, still⟩
      · exact .inl ⟨List.mem_cons_of_mem _ member, gone⟩
      · refine .inr ⟨?_, still⟩
        intro member
        rcases List.mem_cons.mp member with same | inside
        · exact own (congrArg ProductMediaJob.id same.symm)
        · exact absent inside

theorem expire_origin {expired : List ProductMediaJob} {db : MediaTables}
    (member : row ∈ (expired.foldl (fun db job => db.putJob (exhaustedJob job)) db).jobs) :
    row ∈ db.jobs ∨ ∃ job ∈ expired, row = exhaustedJob job := by
  induction expired generalizing db with
  | nil => exact .inl member
  | cons first rest ih =>
    rcases ih member with before | ⟨job, inside, same⟩
    · rcases mem_put.mp before with ⟨rfl, -⟩ | ⟨held, -⟩
      · exact .inr ⟨first, List.mem_cons_self, rfl⟩
      · exact .inl held
    · exact .inr ⟨job, List.mem_cons_of_mem _ inside, same⟩

theorem mem_expired_exhausted {locked : List UUID} {limit : Nat} {now : Instant}
    (member : job ∈ (((jobs.filter (ProductMediaJob.Exhausted settings now)).insertionSort
      (·.createdAt ≤ ·.createdAt)).filter (·.id ∉ locked)).take limit) :
    job.Exhausted settings now := by
  obtain ⟨inside, -⟩ := List.mem_filter.mp (List.mem_of_mem_take member)
  have chosen := (List.mem_insertionSort _).mp inside
  exact of_decide_eq_true (List.mem_filter.mp chosen).2

theorem expireExhaustedMediaJobs_moved {db : MediaTables} (ids : Unique ProductMediaJob.id db.jobs)
    (locked : List UUID) (limit : Nat) (now : Instant) :
    QueueMoved settings none db.jobs (expireExhaustedMediaJobs settings db locked limit now).jobs where
  kept job held := by
    have known : ∀ other ∈ (((db.jobs.filter (ProductMediaJob.Exhausted settings now)).insertionSort
        (·.createdAt ≤ ·.createdAt)).filter (·.id ∉ locked)).take limit,
        other.id = job.id → other = job :=
      fun other member => unique_eq ids (mem_expired member).1 held
    rcases (expire_kept known).1 held with ⟨member, gone⟩ | ⟨-, still⟩
    · exact ⟨_, gone, .exhausted now (mem_expired_exhausted member) rfl⟩
    · exact ⟨job, still, .kept⟩
  origin row member := by
    rcases expire_origin member with before | ⟨job, inside, rfl⟩
    · exact .inl ⟨row, before, .kept⟩
    · exact .inl ⟨job, (mem_expired inside).1, .exhausted now (mem_expired_exhausted inside) rfl⟩
  claims _ _ recorded := nomatch recorded
  applies _ _ _ recorded := nomatch recorded

/-! ## What a worker commits -/

/-- The row in a worker's transaction is the one its lease is for, and under lease. -/
def MediaWorker.Tied : MediaWorker → Prop
  | processing claim job _ | published claim job _ _ =>
    job.id = claim.jobId ∧ job.state = .processing ∧ job.attemptCount = claim.attempt
  | _ => True

theorem MediaClaim.verdict_process_live {claim : MediaClaim}
    (judged : claim.verdict db now = .process job asset) : claim.Live now job := by
  unfold verdict at judged
  split at judged
  · cases judged
  split at judged
  · cases judged
  next live =>
  split at judged
  · cases judged
  split at judged
  · cases judged
  split at judged
  · cases judged
  cases judged
  exact not_not.mp live

/-- The ways a worker's commit moves the queue. -/
inductive LeaseCommit (settings : MediaSettings) (jobs after : List ProductMediaJob) (worker : Nat)
    (state returned raised : MediaWorker) (now : Instant) : Prop where
  | expired (idle : state = .idle ∧ returned = .idle ∧ raised = .idle)
      (moved : QueueMoved settings none jobs after)
  | claimed (job : ProductMediaJob) (held : job ∈ jobs) (due : job.Due settings now)
      (idle : state = .idle ∧ raised = .idle)
      (taken : returned = .claimed ⟨job.id, job.assetId, job.attemptCount + 1⟩)
      (row : after = put ProductMediaJob.id (leased settings now job) jobs)
  | finished (claim : MediaClaim) (own : state.claim? = some claim) (job : ProductMediaJob)
      (held : job ∈ jobs) (same : job.id = claim.jobId) (live : claim.Live now job)
      (outcome : MediaOutcome) (code : Option String)
      (ends : ∀ after, after = returned ∨ after = raised → after.claim? = some claim ∨ after = .idle)
      (row : after = put ProductMediaJob.id (completeMediaJob settings job outcome code now) jobs)

theorem MediaWorld.Sessions.plan_commit {state step} (sessions : world.Sessions libraries)
    (tied : state.Tied) (here : world.workers[worker]? = some state)
    (planned : world.plan settings libraries worker state step =
      .commit pending fate returned raised) :
    LeaseCommit settings world.tables.jobs pending.jobs worker state returned raised step.now := by
  have ids := world.database.constraints.jobIds
  unfold plan at planned
  split at planned
  · -- expiry
    split at planned <;> cases planned
    exact .expired ⟨rfl, rfl, rfl⟩ (expireExhaustedMediaJobs_moved ids _ _ _)
  · -- claim
    split at planned
    · next job claimed =>
      split at planned <;> cases planned
      obtain ⟨row, held, due, -, rfl, rfl⟩ := claimDueMediaJob_spec claimed
      exact .claimed row held due ⟨rfl, rfl⟩ rfl rfl
    · cases planned
  · -- the rows just locked
    next claim now fate =>
    split at planned
    · cases planned
    · split at planned
      · cases planned
      · next outcome code job judged =>
        cases planned
        obtain ⟨found, live, -⟩ := MediaClaim.verdict_complete judged
        refine .finished claim rfl job (lookup_mem found) (lookup_col found) live outcome code ?_ rfl
        rintro after (rfl | rfl) <;> exact .inr rfl
      · cases planned
  · split at planned <;> cases planned
  · -- the end of a publication
    next claim job asset result now fate =>
    split at planned
    · cases planned
    · split at planned
      · next unexpired =>
        cases planned
        obtain ⟨held, -⟩ := sessions.rows worker _ here
        obtain ⟨own, processing, attempt⟩ := tied
        refine .finished claim rfl job held own ⟨processing, attempt, unexpired⟩ _ _ ?_ rfl
        rintro after (rfl | rfl)
        · exact .inr rfl
        · exact .inl rfl
      · cases planned
  · cases planned
  · -- the retry after an exception
    next claim error now fate =>
    split at planned
    · cases planned
    · split at planned
      · cases planned
      · next job found =>
        split at planned
        · next live =>
          cases planned
          refine .finished claim rfl job (lookup_mem found) (lookup_col found) live .retry _ ?_ rfl
          rintro after (rfl | rfl) <;> exact .inr rfl
        · cases planned
  · cases planned
  · cases planned

/-- A worker that does not commit keeps its lease or drops it, and ties what it locks. -/
theorem MediaWorld.plan_become_claim {state step} (tied : state.Tied)
    (planned : world.plan settings libraries worker state step = .become next store) :
    next.Tied ∧ (next.claim? = state.claim? ∨ next = .idle) := by
  unfold plan at planned
  split at planned
  · split at planned <;> cases planned
    exact ⟨trivial, .inr rfl⟩
  · split at planned
    · split at planned <;> cases planned
      exact ⟨trivial, .inr rfl⟩
    · cases planned
      exact ⟨trivial, .inr rfl⟩
  · split at planned
    · cases planned
      exact ⟨trivial, .inl rfl⟩
    · split at planned
      · cases planned
        exact ⟨trivial, .inr rfl⟩
      · cases planned
      · next judged =>
        cases planned
        have live := MediaClaim.verdict_process_live judged
        have found := (MediaClaim.verdict_process judged).1
        exact ⟨⟨lookup_col found, live.1, live.2.1⟩, .inl rfl⟩
  · split at planned <;> cases planned
    · exact ⟨tied, .inl rfl⟩
    · exact ⟨trivial, .inl rfl⟩
  · split at planned
    · cases planned
      exact ⟨trivial, .inl rfl⟩
    · split at planned <;> cases planned
      exact ⟨trivial, .inl rfl⟩
  · next claim key error deleted =>
    cases planned
    cases error with
    | none => exact ⟨trivial, .inr rfl⟩
    | some error => exact ⟨trivial, .inl rfl⟩
  · split at planned
    · cases planned
      exact ⟨trivial, .inl rfl⟩
    · split at planned
      · cases planned
        exact ⟨trivial, .inr rfl⟩
      · split at planned <;> cases planned
        exact ⟨trivial, .inr rfl⟩
  · cases planned
    exact ⟨trivial, .inr rfl⟩
  · cases planned
    exact ⟨tied, .inl rfl⟩

/-! ## One step of the pipeline -/

theorem MediaDatabase.commit_written (database : MediaDatabase) (pending : MediaTables)
    (fate : CommitFate) : (database.commit pending fate).1.tables =
      if pending.written fate then pending else database.tables := by
  cases fate with
  | fails => rfl
  | _ =>
    by_cases kept : pending.Constraints
    · simp [MediaDatabase.commit, MediaTables.written, kept]
    · simp [MediaDatabase.commit, MediaTables.written, kept]

/-- What one step does to queue, record and workers. -/
structure LeaseStep (settings : MediaSettings) (event : Option LeaseEvent)
    (world after : MediaWorld) : Prop where
  moved : QueueMoved settings event world.tables.jobs after.tables.jobs
  tied : ∀ state ∈ after.workers, state.Tied
  /-- A worker has its lease from before, or has just recorded it. -/
  held : ∀ (worker : Nat) state claim, after.workers[worker]? = some state →
    state.claim? = some claim → event = some (.claimed worker claim) ∨
      ∃ before, world.workers[worker]? = some before ∧ before.claim? = some claim
  applied : ∀ worker claim now, event = some (.applied worker claim now) →
    ∃ before, world.workers[worker]? = some before ∧ before.claim? = some claim

/-- One worker takes on a state, and the others keep theirs. -/
theorem LeaseStep.of_worker {worker : Nat} {state next : MediaWorker} {after : MediaWorld}
    (tied : ∀ state ∈ world.workers, state.Tied) (here : world.workers[worker]? = some state)
    (workers : after.workers = world.workers.set worker next)
    (moved : QueueMoved settings event world.tables.jobs after.tables.jobs) (own : next.Tied)
    (held : ∀ claim, next.claim? = some claim →
      event = some (.claimed worker claim) ∨ state.claim? = some claim)
    (applied : ∀ other claim now, event = some (.applied other claim now) →
      other = worker ∧ state.claim? = some claim) : LeaseStep settings event world after where
  moved := moved
  tied other member := by
    rw [workers] at member
    rcases List.mem_or_eq_of_mem_set member with before | rfl
    · exact tied other before
    · exact own
  held other taken claim there leased := by
    rw [workers] at there
    by_cases same : other = worker
    · subst same
      have inside : other < world.workers.length := (List.getElem?_eq_some_iff.mp here).1
      rw [List.getElem?_set_self inside] at there
      rw [← Option.some.inj there] at leased
      rcases held claim leased with recorded | before
      · exact .inl recorded
      · exact .inr ⟨state, here, before⟩
    · rw [List.getElem?_set_ne (Ne.symm same)] at there
      exact .inr ⟨taken, there, leased⟩
  applied other claim now recorded := by
    obtain ⟨rfl, before⟩ := applied other claim now recorded
    exact ⟨state, here, before⟩

theorem MediaWorker.tied_of_unlocked {state : MediaWorker} (unlocked : state.Unlocked) : state.Tied := by
  cases state with
  | processing claim job asset => cases unlocked.1
  | published claim job asset result => cases unlocked.1
  | _ => trivial

theorem MediaDatabase.commit_returned {database : MediaDatabase} {pending : MediaTables}
    {fate : CommitFate} (returned : (database.commit pending fate).2 = true) :
    pending.written fate = true := by
  cases fate with
  | fails => cases returned
  | commits =>
    by_cases kept : pending.Constraints
    · simp [MediaTables.written, kept]
    · simp [MediaDatabase.commit, kept] at returned
  | unacknowledged =>
    by_cases kept : pending.Constraints
    · simp [MediaTables.written, kept]
    · simp [MediaDatabase.commit, kept] at returned

theorem MediaWorker.recorded_applied {state returned : MediaWorker} {worker other : Nat}
    {now clock : Instant}
    (recorded : state.recorded worker returned now = some (.applied other claim clock)) :
    other = worker ∧ state.claim? = some claim := by
  unfold MediaWorker.recorded at recorded
  cases leased : state.claim? with
  | some own =>
    rw [leased] at recorded
    cases recorded
    exact ⟨rfl, rfl⟩
  | none =>
    rw [leased] at recorded
    cases taken : returned.claim? with
    | none =>
      rw [taken] at recorded
      cases recorded
    | some taken_ =>
      rw [taken] at recorded
      cases recorded

/-- A durable commit moves the queue as its record says. -/
theorem LeaseCommit.moved {state returned raised : MediaWorker} {now : Instant} {worker : Nat}
    (ids : Unique ProductMediaJob.id jobs)
    (commit : LeaseCommit settings jobs after worker state returned raised now) :
    QueueMoved settings (state.recorded worker returned now) jobs after := by
  cases commit with
  | expired idle moved =>
    obtain ⟨rfl, rfl, rfl⟩ := idle
    exact moved
  | claimed job held due idle taken row =>
    obtain ⟨rfl, rfl⟩ := idle
    subst taken row
    have change : JobChange settings
        (some (.claimed worker ⟨job.id, job.assetId, job.attemptCount + 1⟩)) job
        (leased settings now job) := .leased worker now due rfl
    obtain ⟨kept, origin, here⟩ := queueMoved_put ids held change rfl
    refine ⟨kept, origin, ?_, by rintro _ _ _ ⟨⟩⟩
    intro other claim recorded
    cases recorded
    exact ⟨job, held, _, here, now, rfl, rfl⟩
  | finished claim own job held same live outcome code ends row =>
    subst row
    rw [MediaWorker.recorded, own]
    obtain ⟨kept, origin, here⟩ := queueMoved_put ids held
      (.finished worker claim outcome code now same live rfl) (completeMediaJob_id outcome code)
    refine ⟨kept, origin, fun _ _ recorded => (nomatch recorded), ?_⟩
    intro other claim now recorded
    cases recorded
    exact ⟨job, held, _, here, outcome, code, same, live, rfl⟩

/-- A commit that raised leaves its worker no lease it did not have. -/
theorem LeaseCommit.raised_claim {state returned raised : MediaWorker} {now : Instant} {worker : Nat}
    (commit : LeaseCommit settings jobs after worker state returned raised now)
    (leased : raised.claim? = some claim) : state.claim? = some claim := by
  cases commit with
  | expired idle moved =>
    rw [idle.2.2] at leased
    cases leased
  | claimed job held due idle taken row =>
    rw [idle.2] at leased
    cases leased
  | finished own_claim own job held same live outcome code ends row =>
    rcases ends raised (.inr rfl) with kept | gone
    · rw [own, ← kept, leased]
    · rw [gone] at leased
      cases leased

/-- A commit that returned has recorded the lease it leaves its worker, or ended it. -/
theorem LeaseCommit.returned_claim {state returned raised : MediaWorker} {now : Instant} {worker : Nat}
    (commit : LeaseCommit settings jobs after worker state returned raised now)
    (leased : returned.claim? = some claim) :
    state.recorded worker returned now = some (.claimed worker claim) ∨
      state.claim? = some claim := by
  cases commit with
  | expired idle moved =>
    rw [idle.2.1] at leased
    cases leased
  | claimed job held due idle taken row =>
    left
    rw [MediaWorker.recorded, idle.1, leased]
    rfl
  | finished own_claim own job held same live outcome code ends row =>
    right
    rcases ends returned (.inl rfl) with kept | gone
    · rw [own, ← kept, leased]
    · rw [gone] at leased
      cases leased

/-- A commit that is not durable leaves queue and record, and its worker what the
exception leaves it. -/
theorem MediaWorld.Sessions.step_lease (sessions : world.Sessions libraries)
    (tied : ∀ state ∈ world.workers, state.Tied) (worker : Nat) (step : MediaStep) :
    LeaseStep settings (world.leaseEvent settings libraries worker step) world
      (world.step settings libraries (.step worker step)) := by
  unfold MediaWorld.leaseEvent MediaWorld.step
  cases here : world.workers[worker]? with
  | none =>
    simp only [here]
    exact ⟨.still _, tied, fun _ state _ there leased => .inr ⟨state, there, leased⟩,
      fun _ _ _ recorded => nomatch recorded⟩
  | some state =>
    simp only [here]
    have own := tied state (List.mem_of_getElem? here)
    cases planned : world.plan settings libraries worker state step with
    | become next store =>
      dsimp only
      obtain ⟨nextTied, kept⟩ := MediaWorld.plan_become_claim own planned
      refine .of_worker tied here rfl (.still _) nextTied ?_ (fun _ _ _ recorded => nomatch recorded)
      intro claim leased
      rcases kept with same | rfl
      · exact .inr (same ▸ leased)
      · cases leased
    | commit pending fate returned raised =>
      dsimp only
      have unlocked := MediaWorld.plan_commit_unlocked planned
      have tables := world.database.commit_written pending fate
      have commit := sessions.plan_commit own here planned
      have nextTied : (if (world.database.commit pending fate).2 then returned else raised).Tied := by
        split
        · exact MediaWorker.tied_of_unlocked unlocked.1
        · exact MediaWorker.tied_of_unlocked unlocked.2
      by_cases durable : pending.written fate = true
      · rw [if_pos durable] at tables ⊢
        have moved := commit.moved world.database.constraints.jobIds
        refine .of_worker tied here rfl ?_ nextTied ?_ ?_
        · simpa only [MediaWorld.follow, MediaWorld.tables, tables] using moved
        · intro claim leased
          split at leased
          · exact commit.returned_claim leased
          · exact .inr (commit.raised_claim leased)
        · intro other claim now recorded
          exact MediaWorker.recorded_applied recorded
      · have refused : (world.database.commit pending fate).2 = false := by
          by_contra acknowledged
          exact durable (MediaDatabase.commit_returned (by simpa using acknowledged))
        rw [if_neg durable] at tables ⊢
        refine .of_worker tied here rfl ?_ nextTied ?_ (fun _ _ _ recorded => nomatch recorded)
        · simpa only [MediaWorld.follow, MediaWorld.tables, tables] using .still _
        · intro claim leased
          rw [refused] at leased
          exact .inr (commit.raised_claim leased)

/-- An upload queues one job, or none. -/
theorem queueListingImage_moved {upload : UploadSettings} {market : Tables} {db after : MediaTables}
    {file : UploadFile} {replies : UploadReplies}
    (ran : queueListingImage upload market db subject listingId file replies assetId jobId now =
      .ok after) : QueueMoved settings none db.jobs after.jobs := by
  simp only [queueListingImage, getCurrentUser_bind_ok, requireRoles_bind_ok, require_bind_ok,
    found_bind_ok] at ran
  obtain ⟨user, -, -, -, -, listing, -, store, -, merchant, -, ran⟩ := ran
  rw [bind_ok] at ran
  obtain ⟨_, -, ran⟩ := ran
  rw [bind_ok] at ran
  obtain ⟨_, -, ran⟩ := ran
  simp only [require_bind_ok, found_bind_ok, pure_ok] at ran
  obtain ⟨-, -, -, -, stored, -, -, rfl⟩ := ran
  split
  · refine ⟨fun job held => ⟨job, List.mem_append_left _ held, .kept⟩, ?_,
      by rintro _ _ ⟨⟩, by rintro _ _ _ ⟨⟩⟩
    intro row member
    rcases List.mem_append.mp member with before | new
    · exact .inl ⟨row, before, .kept⟩
    · rw [List.mem_singleton.mp new]
      exact .inr ⟨rfl, rfl, rfl⟩
  · exact .still _

theorem worker_started {workers : List MediaWorker} {worker : Nat} {state : MediaWorker}
    (there : (workers ++ [MediaWorker.idle])[worker]? = some state) :
    workers[worker]? = some state ∨ state = .idle := by
  rw [List.getElem?_append] at there
  split at there
  · exact .inl there
  · rw [List.getElem?_singleton] at there
    split at there
    · exact .inr (Option.some.inj there).symm
    · cases there

theorem MediaWorld.Sessions.imageStep_lease {settings : UploadSettings} {market : Tables}
    (sessions : world.Sessions libraries) (tied : ∀ state ∈ world.workers, state.Tied)
    (action : ImageAction) :
    LeaseStep settings.toMediaSettings (imageEvent settings libraries world action) world
      (imageStep settings libraries market world action) := by
  cases action with
  | upload subject listingId file replies assetId jobId now =>
    simp only [imageStep, imageEvent]
    cases ran : queueListingImage settings market world.tables subject listingId file replies assetId
      jobId now with
    | error error =>
      exact ⟨.still _, tied, fun _ state _ there leased => .inr ⟨state, there, leased⟩,
        by rintro _ _ _ ⟨⟩⟩
    | ok after =>
      refine ⟨?_, tied, fun _ state _ there leased => .inr ⟨state, there, leased⟩,
        by rintro _ _ _ ⟨⟩⟩
      have kept := (queueListingImage_ok ran).1
      have committed : (world.database.commit after .commits).1.tables = after := by
        simp only [MediaDatabase.commit, dif_pos kept]
      simpa only [MediaWorld.tables, committed] using queueListingImage_moved ran
  | work action =>
    cases action with
    | start =>
      simp only [imageStep, imageEvent]
      refine ⟨.still _, ?_, ?_, by rintro _ _ _ ⟨⟩⟩
      · intro state member
        rcases List.mem_append.mp member with before | new
        · exact tied state before
        · rw [List.mem_singleton.mp new]
          trivial
      · intro worker state claim there leased
        rcases worker_started there with before | rfl
        · exact .inr ⟨state, before, leased⟩
        · cases leased
    | step worker step => exact sessions.step_lease tied worker step

/-! ## Runs -/

/-- The bound on the attempts, and what a lease means. -/
def ProductMediaJob.Leasable (settings : MediaSettings) (job : ProductMediaJob) : Prop :=
  job.attemptCount ≤ settings.mediaJobMaxAttempts ∧
    (job.state = .processing ↔ job.leaseExpiresAt.isSome = true)

/-- A lease whose attempt is past, or whose job is not under lease any more. -/
def MediaClaim.Ended (claim : MediaClaim) (job : ProductMediaJob) : Prop :=
  job.id = claim.jobId ∧ (claim.attempt < job.attemptCount ∨
    claim.attempt = job.attemptCount ∧ job.state ≠ .processing)

/-- What holds of the pipeline and its record in every run. -/
structure LeaseHistory.Sound (settings : MediaSettings) (libraries : MediaLibraries)
    (history : LeaseHistory) : Prop where
  filed : history.world.Filed libraries
  tied : ∀ state ∈ history.world.workers, state.Tied
  held : ∀ (worker : Nat) state claim, history.world.workers[worker]? = some state →
    state.claim? = some claim → .claimed worker claim ∈ history.log
  rows : ∀ job ∈ history.jobs, job.Leasable settings
  claimed : ∀ worker claim, .claimed worker claim ∈ history.log →
    ∃ job ∈ history.jobs, job.id = claim.jobId ∧ claim.attempt ≤ job.attemptCount
  claimedOnce : (history.log.filterMap LeaseEvent.claimedLease).Nodup
  applied : ∀ worker claim now, .applied worker claim now ∈ history.log →
    .claimed worker claim ∈ history.log ∧ ∃ job ∈ history.jobs, claim.Ended job
  appliedOnce : (history.log.filterMap LeaseEvent.appliedLease).Nodup

theorem completeMediaJob_state (settings : MediaSettings) (job : ProductMediaJob)
    (outcome : MediaOutcome) (code : Option String) (now : Instant) :
    (completeMediaJob settings job outcome code now).state ≠ .processing ∧
      (completeMediaJob settings job outcome code now).leaseExpiresAt = none ∧
      (completeMediaJob settings job outcome code now).attemptCount = job.attemptCount := by
  cases outcome with
  | approved => exact ⟨nofun, rfl, rfl⟩
  | rejected => exact ⟨nofun, rfl, rfl⟩
  | retry =>
    unfold completeMediaJob
    dsimp only
    split
    · exact ⟨nofun, rfl, rfl⟩
    · exact ⟨nofun, rfl, rfl⟩

theorem JobChange.id_eq (change : JobChange settings event job row) : row.id = job.id := by
  cases change with
  | finished => exact completeMediaJob_id _ _
  | _ => rfl

/-- A count never falls. -/
theorem JobChange.attempts (change : JobChange settings event job row) :
    job.attemptCount ≤ row.attemptCount := by
  cases change with
  | kept => exact le_rfl
  | leased => exact Nat.le_succ _
  | exhausted => exact le_rfl
  | finished => exact (completeMediaJob_state ..).2.2.ge

theorem JobChange.leasable (change : JobChange settings event job row)
    (leasable : job.Leasable settings) : row.Leasable settings := by
  cases change with
  | kept => exact leasable
  | leased worker now due => exact ⟨due.1, by simp [GaonOne.leased]⟩
  | exhausted => exact ⟨leasable.1, by simp [exhaustedJob]⟩
  | finished worker claim outcome code now =>
    obtain ⟨state, lease, count⟩ := completeMediaJob_state settings job outcome code now
    refine ⟨count ▸ leasable.1, ?_⟩
    rw [lease]
    simpa using state

theorem ProductMediaJob.Fresh.leasable (fresh : job.Fresh) : job.Leasable settings := by
  obtain ⟨state, count, lease⟩ := fresh
  refine ⟨by omega, ?_⟩
  rw [state, lease]
  simp

/-- What has ended stays ended. -/
theorem JobChange.ended {claim : MediaClaim} (change : JobChange settings event job row)
    (ended : claim.Ended job) : claim.Ended row := by
  obtain ⟨own, past⟩ := ended
  refine ⟨change.id_eq.trans own, ?_⟩
  cases change with
  | kept => exact past
  | leased worker now =>
    left
    have next : (GaonOne.leased settings now job).attemptCount = job.attemptCount + 1 := rfl
    omega
  | exhausted now lapsed =>
    rcases past with later | ⟨-, ended⟩
    · exact .inl later
    · exact absurd lapsed.1 ended
  | finished worker taken outcome code now own live =>
    rcases past with later | ⟨-, ended⟩
    · left
      rw [(completeMediaJob_state settings job outcome code now).2.2]
      exact later
    · exact absurd live.1 ended

/-- A row that has moved on still has its past. -/
theorem QueueMoved.still_holds (moved : QueueMoved settings event jobs after) {held : ProductMediaJob → Prop}
    (some : ∃ job ∈ jobs, held job)
    (persists : ∀ job row, JobChange settings event job row → held job → held row) :
    ∃ row ∈ after, held row := by
  obtain ⟨job, member, holds⟩ := some
  obtain ⟨row, there, change⟩ := moved.kept job member
  exact ⟨row, there, persists job row change holds⟩

/-- A lease is new when it is taken. -/
theorem LeaseHistory.Sound.claim_new {history : LeaseHistory}
    (sound : history.Sound settings libraries)
    (moved : QueueMoved settings (some (.claimed worker claim)) history.jobs after) :
    claim.lease ∉ history.log.filterMap LeaseEvent.claimedLease := by
  obtain ⟨job, held, -, -, -, rfl, -⟩ := moved.claims worker claim rfl
  intro again
  obtain ⟨recorded, member, same⟩ := List.mem_filterMap.mp again
  cases recorded with
  | applied => cases same
  | claimed other taken =>
    obtain ⟨row, there, own, count⟩ := sound.claimed other taken member
    obtain ⟨jobSame, attemptSame⟩ := Prod.mk.inj (Option.some.inj same)
    have sole := unique_eq history.world.database.constraints.jobIds there held (own.trans jobSame)
    subst sole
    dsimp only at attemptSame
    omega

/-- A lease that has ended is not ended again. -/
theorem LeaseHistory.Sound.outcome_new {history : LeaseHistory}
    (sound : history.Sound settings libraries)
    (moved : QueueMoved settings (some (.applied worker claim now)) history.jobs after) :
    claim.lease ∉ history.log.filterMap LeaseEvent.appliedLease := by
  obtain ⟨job, held, -, -, -, -, own, live, -⟩ := moved.applies worker claim now rfl
  intro again
  obtain ⟨recorded, member, same⟩ := List.mem_filterMap.mp again
  cases recorded with
  | claimed => cases same
  | applied other ended clock =>
    obtain ⟨-, row, there, rowOwn, past⟩ := sound.applied other ended clock member
    obtain ⟨jobSame, attemptSame⟩ := Prod.mk.inj (Option.some.inj same)
    have sole := unique_eq history.world.database.constraints.jobIds there held
      ((rowOwn.trans jobSame).trans own.symm)
    subst sole
    rcases past with later | ⟨-, ended_⟩
    · have count := live.2.1
      omega
    · exact ended_ live.1

/-- Adding a recorded event to a log whose leases are distinct. -/
theorem nodup_recorded {lease? : LeaseEvent → Option (UUID × Nat)} {log : List LeaseEvent}
    (distinct : (log.filterMap lease?).Nodup)
    (new : ∀ recorded ∈ event, ∀ lease ∈ lease? recorded, lease ∉ log.filterMap lease?) :
    ((event.toList ++ log).filterMap lease?).Nodup := by
  cases event with
  | none => exact distinct
  | some recorded =>
    simp only [Option.toList_some, List.singleton_append, List.filterMap_cons]
    cases leased : lease? recorded with
    | none => exact distinct
    | some lease =>
      exact List.nodup_cons.mpr ⟨new recorded rfl lease leased, distinct⟩

theorem LeaseHistory.Sound.next {settings : UploadSettings} {market : Tables} {history : LeaseHistory}
    (sound : history.Sound settings.toMediaSettings libraries) (action : ImageAction) :
    ((leaseSystem settings libraries market).step history action).Sound settings.toMediaSettings
      libraries := by
  have step : LeaseStep settings.toMediaSettings (imageEvent settings libraries history.world action)
      history.world (imageStep settings libraries market history.world action) :=
    sound.filed.sessions.imageStep_lease sound.tied action
  have filed : (imageStep settings libraries market history.world action).Filed libraries :=
    imageStep_filed sound.filed action
  simp only [leaseSystem]
  generalize imageEvent settings libraries history.world action = event at step
  generalize imageStep settings libraries market history.world action = world at step filed
  have moved : QueueMoved settings.toMediaSettings event history.jobs world.tables.jobs := step.moved
  have logged : ∀ past, past ∈ event.toList ++ history.log ↔ event = some past ∨ past ∈ history.log := by
    intro past
    rw [List.mem_append, Option.mem_toList]
  have held : ∀ (worker : Nat) state claim, world.workers[worker]? = some state →
      state.claim? = some claim → LeaseEvent.claimed worker claim ∈ event.toList ++ history.log := by
    intro worker state claim there leased
    rcases step.held worker state claim there leased with recorded | ⟨before, here, same⟩
    · exact (logged _).mpr (.inl recorded)
    · exact (logged _).mpr (.inr (sound.held worker before claim here same))
  constructor
  · exact filed
  · exact step.tied
  · exact held
  · intro row member
    rcases moved.origin row member with ⟨job, before, change⟩ | fresh
    · exact change.leasable (sound.rows job before)
    · exact fresh.leasable
  · intro worker claim recorded
    rcases (logged _).mp recorded with rfl | before
    · obtain ⟨job, -, row, there, now, rfl, rfl⟩ := moved.claims worker claim rfl
      exact ⟨_, there, rfl, le_rfl⟩
    · refine moved.still_holds (sound.claimed worker claim before) ?_
      rintro job row change ⟨own, count⟩
      exact ⟨change.id_eq.trans own, count.trans change.attempts⟩
  · apply nodup_recorded sound.claimedOnce
    rintro recorded rfl lease leased
    cases recorded with
    | applied => cases leased
    | claimed worker claim =>
      cases leased
      exact sound.claim_new moved
  · intro worker claim now recorded
    rcases (logged _).mp recorded with rfl | before
    · obtain ⟨state, here, leased⟩ := step.applied worker claim now rfl
      obtain ⟨job, -, row, there, outcome, code, own, live, rfl⟩ := moved.applies worker claim now rfl
      obtain ⟨state, -, count⟩ := completeMediaJob_state settings.toMediaSettings job outcome code now
      exact ⟨(logged _).mpr (.inr (sound.held worker _ claim here leased)), _, there,
        (completeMediaJob_id ..).trans own, .inr ⟨by rw [count, live.2.1], state⟩⟩
    · obtain ⟨taken, past⟩ := sound.applied worker claim now before
      exact ⟨(logged _).mpr (.inr taken), moved.still_holds past fun job row => JobChange.ended⟩
  · apply nodup_recorded sound.appliedOnce
    rintro recorded rfl lease leased
    cases recorded with
    | claimed => cases leased
    | applied worker claim now =>
      cases leased
      exact sound.outcome_new moved

theorem reachable_leases {settings : UploadSettings} {market : Tables} {history : LeaseHistory}
    (reached : Reachable (leaseSystem settings libraries market) history) :
    history.Sound settings.toMediaSettings libraries := by
  refine reached.invariant ?_ fun history action sound => sound.next action
  have empty : Reachable (imageSystem settings libraries market)
      (imageSystem settings libraries market).initial := ReachableWhile.initial
  refine ⟨reachable_filed empty, ?_, ?_, ?_, ?_, List.nodup_nil, ?_, List.nodup_nil⟩
  · exact List.forall_mem_nil _
  · intro worker state claim here
    simp [leaseSystem, imageSystem] at here
  · exact List.forall_mem_nil _
  · exact fun _ _ member => absurd member List.not_mem_nil
  · exact fun _ _ _ member => absurd member List.not_mem_nil

/-! ## What can be picked up -/

/-- The states no worker and no expiry leaves. -/
def JobState.Terminal (state : JobState) : Prop :=
  state = .succeeded ∨ state = .failed ∨ state = .completed

theorem JobChange.terminal (change : JobChange settings event job row) (lapsed : job.state.Terminal) :
    row = job := by
  have idle : job.state ≠ .queued ∧ job.state ≠ .processing := by
    rcases lapsed with same | same | same <;> rw [same] <;> exact ⟨nofun, nofun⟩
  cases change with
  | kept => rfl
  | leased worker now due =>
    rcases due.2 with queued | processing
    · exact absurd queued.1 idle.1
    · exact absurd processing.1 idle.2
  | exhausted now exhausted => exact absurd exhausted.1 idle.2
  | finished worker claim outcome code now own live => exact absurd live.1 idle.2

/-- Where a due row is free, a claim takes one. -/
theorem claimDueMediaJob_some {db : MediaTables} {locked : List UUID} {now : Instant} (held : job ∈ db.jobs)
    (due : job.Due settings now) (free : job.id ∉ locked) :
    ∃ first ∈ db.jobs, first.Due settings now ∧ claimDueMediaJob settings db locked now =
      (db.putJob (leased settings now first), some (leased settings now first)) := by
  have candidate : job ∈ (db.jobs.filter (ProductMediaJob.Due settings now)).insertionSort
      ProductMediaJob.Before :=
    (List.mem_insertionSort _).mpr (List.mem_filter.mpr ⟨held, decide_eq_true due⟩)
  cases found : ((db.jobs.filter (ProductMediaJob.Due settings now)).insertionSort
      ProductMediaJob.Before).find? (·.id ∉ locked) with
  | none =>
    have passed := List.find?_eq_none.mp found job candidate
    simp [free] at passed
  | some first =>
    obtain ⟨inside, waits⟩ := List.mem_filter.mp ((List.mem_insertionSort _).mp
      (List.mem_of_find?_eq_some found))
    exact ⟨first, inside, of_decide_eq_true waits, by rw [claimDueMediaJob, found]⟩

/-- The attempts that are left to all jobs. -/
def attemptsLeft (settings : MediaSettings) (jobs : List ProductMediaJob) : Nat :=
  (jobs.map fun job => settings.mediaJobMaxAttempts - job.attemptCount).sum

/-- A claim uses up an attempt. -/
theorem attemptsLeft_leased {jobs : List ProductMediaJob} {now : Instant} (ids : Unique ProductMediaJob.id jobs)
    (held : job ∈ jobs) (due : job.Due settings now) :
    attemptsLeft settings (put ProductMediaJob.id (leased settings now job) jobs) < attemptsLeft settings jobs := by
  have more := due.1
  unfold attemptsLeft put
  rw [List.map_map]
  apply List.sum_lt_sum
  · intro row _
    rw [Function.comp_apply]
    split
    · next same =>
      cases unique_eq ids (by assumption) held same
      simp only [leased]
      omega
    · exact le_rfl
  · refine ⟨job, held, ?_⟩
    have own : job.id = (leased settings now job).id := rfl
    rw [Function.comp_apply, if_pos own]
    simp only [leased]
    omega

/-- An expiry with room for all takes every row that nobody has locked. -/
theorem expireExhaustedMediaJobs_takes {db : MediaTables} {locked : List UUID} {limit : Nat} {now : Instant}
    (ids : Unique ProductMediaJob.id db.jobs) (held : job ∈ db.jobs)
    (lapsed : job.Exhausted settings now) (free : job.id ∉ locked) (many : db.jobs.length ≤ limit) :
    exhaustedJob job ∈ (expireExhaustedMediaJobs settings db locked limit now).jobs := by
  have candidate : job ∈ (((db.jobs.filter (ProductMediaJob.Exhausted settings now)).insertionSort
      (·.createdAt ≤ ·.createdAt)).filter (·.id ∉ locked)).take limit := by
    rw [List.take_of_length_le]
    · exact List.mem_filter.mpr ⟨(List.mem_insertionSort _).mpr
        (List.mem_filter.mpr ⟨held, decide_eq_true lapsed⟩), decide_eq_true free⟩
    · calc _ ≤ ((db.jobs.filter (ProductMediaJob.Exhausted settings now)).insertionSort
            (·.createdAt ≤ ·.createdAt)).length := List.length_filter_le ..
        _ = (db.jobs.filter (ProductMediaJob.Exhausted settings now)).length :=
          List.length_insertionSort ..
        _ ≤ db.jobs.length := List.length_filter_le ..
        _ ≤ limit := many
  have known : ∀ other ∈ (((db.jobs.filter (ProductMediaJob.Exhausted settings now)).insertionSort
      (·.createdAt ≤ ·.createdAt)).filter (·.id ∉ locked)).take limit,
      other.id = job.id → other = job :=
    fun other member => unique_eq ids (mem_expired member).1 held
  rcases (expire_kept known).1 held with ⟨-, gone⟩ | ⟨absent, -⟩
  · exact gone
  · exact absurd candidate absent

/-- New workers, one after another, with one step of each. -/
def newWorkers (first : Nat) : List MediaStep → List ImageAction
  | [] => []
  | step :: steps => .work .start :: .work (.step first step) :: newWorkers (first + 1) steps

/-- What a new worker commits first is in the tables. -/
theorem run_first_commit (settings : UploadSettings) (market : Tables) {history : LeaseHistory}
    {step : MediaStep} {pending : MediaTables} {returned raised : MediaWorker}
    (kept : pending.Constraints)
    (planned : MediaWorld.plan settings.toMediaSettings libraries
      { history.world with workers := history.world.workers ++ [.idle] } history.world.workers.length
      .idle step = .commit pending .commits returned raised) :
    let after := (leaseSystem settings libraries market).run history
      [.work .start, .work (.step history.world.workers.length step)]
    after.world.tables = pending ∧ after.world.workers = history.world.workers ++ [returned] := by
  have here : (history.world.workers ++ [MediaWorker.idle])[history.world.workers.length]? =
      some .idle := List.getElem?_concat_length
  simp only [System.run, List.foldl_cons, List.foldl_nil, leaseSystem, imageStep,
    MediaWorld.step, here, planned, MediaWorld.follow, MediaWorld.tables, MediaDatabase.commit,
    dif_pos kept, List.set_append_right _ _ le_rfl, Nat.sub_self, List.set_cons_zero, true_and]
  rfl

theorem lockedJobs_started {workers : List MediaWorker} (database : MediaDatabase)
    (store : PublicStore) (free : ∀ state ∈ workers, state.lockedJob ≠ some key) :
    key ∉ MediaWorld.lockedJobs ⟨database, store, workers ++ [.idle]⟩ workers.length := by
  intro locked
  obtain ⟨state, member, own⟩ := List.mem_filterMap.mp locked
  rcases List.mem_or_eq_of_mem_set member with before | rfl
  · rcases List.mem_append.mp before with old | new
    · exact free state old own
    · rw [List.mem_singleton.mp new] at own
      cases own
  · cases own

/-- A row that was picked up: its lease is a new one, or it has failed and has none. -/
def ProductMediaJob.PickedUp (settings : MediaSettings) (now : Instant) (job row : ProductMediaJob) : Prop :=
  row.id = job.id ∧
    ((row.state = .processing ∧ row.attemptCount = job.attemptCount + 1 ∧
        row.leaseExpiresAt = some (now + seconds settings.mediaJobLeaseSeconds)) ∨
      (row.state = .failed ∧ row.leaseExpiresAt = none))

/-- New workers that claim one after another come to a due row that no transaction has locked. -/
theorem LeaseHistory.claimed_anew {settings : UploadSettings} {market : Tables} {history : LeaseHistory}
    (ready : settings.toMediaSettings.Ready) (held : job ∈ history.jobs) {now : Instant}
    (free : ∀ state ∈ history.world.workers, state.lockedJob ≠ some job.id)
    (due : job.Due settings.toMediaSettings now) :
    ∃ count, leased settings.toMediaSettings now job ∈ ((leaseSystem settings libraries market).run history
      (newWorkers history.world.workers.length (List.replicate count (.claim [] now .commits)))).jobs := by
  -- each claim of another row uses up an attempt
  induction left : attemptsLeft settings.toMediaSettings history.jobs using Nat.strong_induction_on
    generalizing history with
  | h bound ih =>
  subst left
  have ids := history.world.database.constraints.jobIds
  have unlocked := lockedJobs_started history.world.database history.world.store free
  obtain ⟨first, inside, waits, taken⟩ : ∃ first ∈ history.jobs, first.Due settings.toMediaSettings now ∧
      claimDueMediaJob settings.toMediaSettings history.world.tables ([] ++ MediaWorld.lockedJobs
          ⟨history.world.database, history.world.store, history.world.workers ++ [MediaWorker.idle]⟩
          history.world.workers.length) now =
        (history.world.tables.putJob (leased settings.toMediaSettings now first),
          some (leased settings.toMediaSettings now first)) := claimDueMediaJob_some held due unlocked
  have kept := claimDueMediaJob_constraints history.world.database.constraints taken
  have planned : MediaWorld.plan settings.toMediaSettings libraries
      { history.world with workers := history.world.workers ++ [.idle] } history.world.workers.length .idle
      (.claim [] now .commits) =
        .commit (history.world.tables.putJob (leased settings.toMediaSettings now first)) .commits
          (.claimed ⟨first.id, first.assetId, first.attemptCount + 1⟩) .idle := by
    simp only [MediaWorld.plan, MediaWorld.tables] at taken ⊢
    simp only [taken, if_pos ready]
    rfl
  obtain ⟨tables, workers⟩ := run_first_commit settings market kept planned
  generalize next : (leaseSystem settings libraries market).run history
    [.work .start, .work (.step history.world.workers.length (.claim [] now .commits))] = after at tables workers
  have jobs : after.jobs = put ProductMediaJob.id (leased settings.toMediaSettings now first) history.jobs := by
    rw [LeaseHistory.jobs, tables]
    rfl
  by_cases own : first.id = job.id
  · cases unique_eq ids inside held own
    refine ⟨1, ?_⟩
    change _ ∈ ((leaseSystem settings libraries market).run history [.work .start, .work _]).jobs
    rw [next, jobs]
    exact mem_put.mpr (.inl ⟨rfl, job, held, rfl⟩)
  · obtain ⟨count, anew⟩ := ih (attemptsLeft settings.toMediaSettings after.jobs)
      (by rw [jobs]; exact attemptsLeft_leased ids inside waits)
      (by rw [jobs]; exact mem_put.mpr (.inr ⟨held, Ne.symm own⟩))
      (by
        rw [workers]
        intro state member
        rcases List.mem_append.mp member with old | new
        · exact free state old
        · rw [List.mem_singleton.mp new]
          exact (Option.some_ne_none job.id).symm) rfl
    refine ⟨count + 1, ?_⟩
    rw [workers, List.length_append, List.length_singleton, ← next] at anew
    rw [List.replicate_succ]
    exact anew

/-- New workers pick up a row with an expired lease that no transaction has locked. -/
theorem LeaseHistory.picked_up {settings : UploadSettings} {market : Tables} {history : LeaseHistory}
    (ready : settings.toMediaSettings.Ready) (held : job ∈ history.jobs) {now : Instant}
    (free : ∀ state ∈ history.world.workers, state.lockedJob ≠ some job.id)
    (lapsed : job.Due settings.toMediaSettings now ∨ job.Exhausted settings.toMediaSettings now) :
    ∃ steps, (∀ step ∈ steps, step = .claim [] now .commits ∨
        step = .expire [] history.jobs.length now .commits) ∧
      ∃ row ∈ ((leaseSystem settings libraries market).run history
        (newWorkers history.world.workers.length steps)).jobs, job.PickedUp settings.toMediaSettings now row := by
  have constraints := history.world.database.constraints
  have unlocked := lockedJobs_started history.world.database history.world.store free
  rcases lapsed with due | exhausted
  · obtain ⟨count, anew⟩ := LeaseHistory.claimed_anew ready held free due
    refine ⟨_, fun step inside => .inl (List.eq_of_mem_replicate inside), _, anew, rfl, .inl ?_⟩
    exact ⟨rfl, rfl, rfl⟩
  · refine ⟨[.expire [] history.jobs.length now .commits], by simp, exhaustedJob job, ?_, rfl,
      .inr ⟨rfl, rfl⟩⟩
    have planned : MediaWorld.plan settings.toMediaSettings libraries
        { history.world with workers := history.world.workers ++ [.idle] } history.world.workers.length .idle
        (.expire [] history.jobs.length now .commits) = .commit (expireExhaustedMediaJobs settings.toMediaSettings
          history.world.tables ([] ++ MediaWorld.lockedJobs ⟨history.world.database, history.world.store,
            history.world.workers ++ [.idle]⟩ history.world.workers.length) (max 1 history.jobs.length) now)
          .commits .idle .idle := by
      simp only [MediaWorld.plan, MediaWorld.tables, if_pos ready]
    obtain ⟨tables, -⟩ := run_first_commit settings market (expireExhaustedMediaJobs_constraints constraints)
      planned
    change _ ∈ MediaTables.jobs (MediaWorld.tables _)
    rw [newWorkers, newWorkers, tables]
    exact expireExhaustedMediaJobs_takes constraints.jobIds held exhausted unlocked (le_max_right 1 _)

/-- An expired lease is due again, or was the last. -/
theorem expired_lease {now expires : Instant}
    (processing : job.state = .processing) (lease : job.leaseExpiresAt = some expires)
    (lapsed : expires ≤ now) : job.Due settings now ∨ job.Exhausted settings now := by
  have past : job.leaseExpiresAt.any (· ≤ now) = true := by simp [lease, lapsed]
  by_cases more : job.attemptCount < settings.mediaJobMaxAttempts
  · exact .inl ⟨more, .inr ⟨processing, past⟩⟩
  · exact .inr ⟨processing, not_lt.mp more, past⟩

/-- In every run of uploads and workers: no job has more attempts than the maximum, and a
job is under lease exactly while it is processed; a finished job never changes; every
change of a row is a claim, an expiry of a last lease, or the recorded outcome of the
worker whose claim is still the row's unexpired lease; a lease is recorded once and gets
at most one outcome, from the worker that took it; and new workers pick an expired lease
up, by claims or by the expiry, and leave the job leased anew or failed. -/
theorem media_leases_upheld (settings : UploadSettings) (libraries : MediaLibraries) (market : Tables)
    (actions : List ImageAction) :
    let pipeline := leaseSystem settings libraries market
    let history := pipeline.run pipeline.initial actions
    (∀ job ∈ history.jobs, job.attemptCount ≤ settings.mediaJobMaxAttempts ∧
      (job.state = .processing ↔ job.leaseExpiresAt.isSome = true)) ∧
    (∀ job ∈ history.jobs, job.state.Terminal → ∀ later, job ∈ (pipeline.run history later).jobs) ∧
    (∀ action, QueueMoved settings.toMediaSettings
      (imageEvent settings libraries history.world action) history.jobs
      (pipeline.step history action).jobs) ∧
    (history.log.filterMap LeaseEvent.claimedLease).Nodup ∧
    (history.log.filterMap LeaseEvent.appliedLease).Nodup ∧
    (∀ worker claim now, .applied worker claim now ∈ history.log →
      .claimed worker claim ∈ history.log) ∧
    ∀ job ∈ history.jobs, job.state = .processing → ∃ expires, job.leaseExpiresAt = some expires ∧
      ∀ now, expires ≤ now →
        (job.Due settings.toMediaSettings now ∨ job.Exhausted settings.toMediaSettings now) ∧
        (settings.toMediaSettings.Ready →
          (∀ state ∈ history.world.workers, state.lockedJob ≠ some job.id) →
          ∃ steps, (∀ step ∈ steps, step = .claim [] now .commits ∨
              step = .expire [] history.jobs.length now .commits) ∧
            ∃ row ∈ (pipeline.run history (newWorkers history.world.workers.length steps)).jobs,
              job.PickedUp settings.toMediaSettings now row) := by
  intro pipeline history
  have reached : Reachable pipeline history := Reachable.run ReachableWhile.initial actions
  have sound := reachable_leases reached
  have moves : ∀ {state : LeaseHistory}, Reachable pipeline state → ∀ action,
      QueueMoved settings.toMediaSettings (imageEvent settings libraries state.world action) state.jobs
        (pipeline.step state action).jobs := by
    intro state reached action
    have sound := reachable_leases reached
    exact (sound.filed.sessions.imageStep_lease sound.tied action).moved
  refine ⟨sound.rows, ?_, moves reached, sound.claimedOnce, sound.appliedOnce, ?_, ?_⟩
  · intro job held lapsed later
    refine ReachableWhile.persists (P := fun state => job ∈ state.jobs) reached held ?_ later
      (RunWhile.of_forall (fun _ _ _ => trivial) _)
    intro state action earlier member _
    obtain ⟨row, there, change⟩ := (moves earlier.reachable action).kept job member
    rwa [change.terminal lapsed] at there
  · exact fun worker claim now recorded => (sound.applied worker claim now recorded).1
  · intro job held processing
    obtain ⟨expires, lease⟩ := Option.isSome_iff_exists.mp ((sound.rows job held).2.mp processing)
    refine ⟨expires, lease, fun now lapsed => ?_⟩
    have due : job.Due settings.toMediaSettings now ∨ job.Exhausted settings.toMediaSettings now :=
      expired_lease processing lease lapsed
    exact ⟨due, fun ready free => LeaseHistory.picked_up ready held free due⟩

end GaonOne
