import GaonOne.MediaSchema

/-! What the open transactions of the media workers hold. The rows a worker has
locked are the committed ones until it commits itself, so what it writes is judged
against the table it will be written to. -/
namespace GaonOne
open Relational Transitions

variable {settings : MediaSettings} {libraries : MediaLibraries} {database : MediaDatabase}
  {store : PublicStore} {world : MediaWorld} {worker : Nat} {now : Instant}

/-- What `process_quarantined_asset` may have made of the row it was given. -/
inductive Published (libraries : MediaLibraries) (original : ProductMediaAsset) :
    ProductMediaAsset → PublicationResult → Prop where
  | kept : Published libraries original original ⟨original.state, some "not_eligible"⟩
  | rejected : original.state = .quarantined → code.length ≤ 80 →
      Published libraries original (rejectedAsset original code) ⟨.rejected, some code⟩
  | approved {now : Instant} : original.state = .quarantined → 0 < derivative.width ∧ 0 < derivative.height →
      Published libraries original (approvedAsset libraries original derivative now) ⟨.approved, none⟩

theorem publishDerivative_published {derivative : SafeDerivative}
    (quarantined : asset.state = .quarantined)
    (positive : 0 < derivative.width ∧ 0 < derivative.height)
    (ran : (publishDerivative libraries store asset derivative replies now).1 = .ok (saved, result)) :
    Published libraries asset saved result := by
  unfold publishDerivative at ran
  split at ran
  · cases ran
  · cases ran
  · cases ran
  · dsimp only at ran
    split at ran
    · cases ran
      exact .approved quarantined positive
    · cases ran

private theorem sourceMissing_short : "source_missing".length ≤ 80 := by decide

theorem processQuarantinedAsset_published
    (ran : (processQuarantinedAsset settings libraries store asset replies now).1 =
      .ok (saved, result)) : Published libraries asset saved result := by
  unfold processQuarantinedAsset at ran
  split at ran
  · cases ran
  split at ran
  · cases ran
    exact .kept
  · next eligible =>
    have quarantined : asset.state = .quarantined :=
      not_not.mp fun other => eligible (Or.inl other)
    split at ran
    · cases ran
    split at ran
    · cases ran
      exact .rejected quarantined sourceMissing_short
    · cases ran
    · next source _ =>
      split at ran
      · cases ran
        exact .rejected quarantined (Text.length_cut_le 80 _)
      · cases ran
      · next derivative rendered =>
        exact publishDerivative_published quarantined (inspectAndRender_positive rendered) ran

/-! ## Locked rows -/

/-- A job is completed on sight when its publication is committed, or when its asset
is out of the queue. -/
theorem MediaClaim.verdict_complete {claim : MediaClaim}
    (judged : claim.verdict db now = .complete outcome code job) :
    db.job? claim.jobId = some job ∧ claim.Live now job ∧
      (outcome = .approved ∧ (∃ asset, db.asset? claim.assetId = some asset ∧ asset.Recovered) ∨
        outcome = .rejected ∧
          ¬∃ asset, db.asset? claim.assetId = some asset ∧ asset.Recovered) := by
  unfold verdict at judged
  split at judged
  · cases judged
  · next job found =>
    split at judged
    · cases judged
    · next live =>
      split at judged
      · next missing =>
        cases judged
        refine ⟨found, not_not.mp live, Or.inr ⟨rfl, ?_⟩⟩
        rintro ⟨asset, here, -⟩
        rw [missing] at here
        cases here
      · next asset here =>
        split at judged
        · next recovered =>
          cases judged
          exact ⟨found, not_not.mp live, Or.inl ⟨rfl, asset, here, recovered⟩⟩
        · next unrecovered =>
          split at judged
          · cases judged
            refine ⟨found, not_not.mp live, Or.inr ⟨rfl, ?_⟩⟩
            rintro ⟨other, there, recovered⟩
            rw [here] at there
            cases there
            exact unrecovered recovered
          · cases judged

theorem MediaClaim.verdict_process {claim : MediaClaim}
    (judged : claim.verdict db now = .process job asset) :
    db.job? claim.jobId = some job ∧ db.asset? claim.assetId = some asset ∧ ¬asset.Recovered ∧
      ¬asset.Closed := by
  unfold verdict at judged
  split at judged
  · cases judged
  · next job found =>
    split at judged
    · cases judged
    · split at judged
      · cases judged
      · next asset here =>
        split at judged
        · cases judged
        · next unrecovered =>
          split at judged
          · cases judged
          · next open_ =>
            cases judged
            exact ⟨found, here, unrecovered, open_⟩

/-- The rows of an open transaction, as they are committed. -/
def MediaWorker.Holds (libraries : MediaLibraries) (db : MediaTables) : MediaWorker → Prop
  | processing _ job asset =>
    job ∈ db.jobs ∧ asset ∈ db.assets ∧ ¬asset.Recovered ∧ ¬asset.Closed
  | published _ job asset result =>
    job ∈ db.jobs ∧ ∃ original ∈ db.assets, original.id = asset.id ∧ ¬original.Recovered ∧
      ¬original.Closed ∧ Published libraries original asset result
  | _ => True

/-- A change of the tables that leaves the rows of a transaction alone. -/
def MediaTables.Spares (before after : MediaTables) (worker : MediaWorker) : Prop :=
  (∀ job ∈ before.jobs, worker.lockedJob = some job.id → job ∈ after.jobs) ∧
    ∀ asset ∈ before.assets, worker.lockedAsset = some asset.id → asset ∈ after.assets

theorem MediaWorker.Holds.spared {state : MediaWorker} (holds : state.Holds libraries before)
    (spares : before.Spares after state) : state.Holds libraries after := by
  cases state with
  | processing claim job asset =>
    exact ⟨spares.1 job holds.1 rfl, spares.2 asset holds.2.1 rfl, holds.2.2⟩
  | published claim job asset result =>
    obtain ⟨held, original, inside, same, rest⟩ := holds
    exact ⟨spares.1 job held rfl, original, spares.2 original inside (congrArg some same.symm), same,
      rest⟩
  | _ => trivial

/-- Every transaction holds its rows, and no row is held twice. -/
structure MediaWorld.Sessions (libraries : MediaLibraries) (world : MediaWorld) : Prop where
  rows : ∀ (worker : Nat) state, world.workers[worker]? = some state →
    state.Holds libraries world.tables
  jobs : ∀ (worker other : Nat) state held, worker ≠ other →
    world.workers[worker]? = some state → world.workers[other]? = some held →
    ∀ id ∈ state.lockedJob, id ∉ held.lockedJob
  assets : ∀ (worker other : Nat) state held, worker ≠ other →
    world.workers[worker]? = some state → world.workers[other]? = some held →
    ∀ id ∈ state.lockedAsset, id ∉ held.lockedAsset

theorem MediaWorld.mem_lockedJobs {id : UUID} (differ : other ≠ worker) (here : world.workers[other]? = some state)
    (locked : id ∈ state.lockedJob) : id ∈ world.lockedJobs worker := by
  apply List.mem_filterMap.mpr
  refine ⟨state, List.mem_of_getElem? (i := other) ?_, locked⟩
  rwa [List.getElem?_set_ne differ.symm]

theorem MediaWorld.mem_lockedAssets {id : UUID} (differ : other ≠ worker)
    (here : world.workers[other]? = some state) (locked : id ∈ state.lockedAsset) :
    id ∈ world.lockedAssets worker := by
  apply List.mem_filterMap.mpr
  refine ⟨state, List.mem_of_getElem? (i := other) ?_, locked⟩
  rwa [List.getElem?_set_ne differ.symm]

/-! ## What the transactions write -/

theorem spares_putJob {db : MediaTables} {state : MediaWorker} (new : ProductMediaJob)
    (free : state.lockedJob ≠ some new.id) : db.Spares (db.putJob new) state := by
  refine ⟨fun job held locked => mem_put.mpr (Or.inr ⟨held, ?_⟩), fun _ held _ => held⟩
  rintro same
  exact free (same ▸ locked)

theorem spares_putAsset {db : MediaTables} {state : MediaWorker} (new : ProductMediaAsset)
    (free : state.lockedAsset ≠ some new.id) : db.Spares (db.putAsset new) state := by
  refine ⟨fun _ held _ => held, fun asset held locked => mem_put.mpr (Or.inr ⟨held, ?_⟩)⟩
  rintro same
  exact free (same ▸ locked)

theorem MediaTables.Spares.trans {state : MediaWorker} (first : MediaTables.Spares before middle state)
    (second : middle.Spares after state) : before.Spares after state :=
  ⟨fun job held locked => second.1 job (first.1 job held locked) locked,
    fun asset held locked => second.2 asset (first.2 asset held locked) locked⟩

theorem spares_expire {jobs : List ProductMediaJob} {db : MediaTables} {state : MediaWorker}
    (free : ∀ job ∈ jobs, state.lockedJob ≠ some job.id) :
    db.Spares (jobs.foldl (fun db job => db.putJob (exhaustedJob job)) db) state := by
  induction jobs generalizing db with
  | nil => exact ⟨fun _ held _ => held, fun _ held _ => held⟩
  | cons first rest ih =>
    exact (spares_putJob (exhaustedJob first) (free first List.mem_cons_self)).trans
      (ih fun job member => free job (List.mem_cons_of_mem _ member))

/-- What a worker's transaction writes leaves the rows of the others alone. -/
theorem MediaWorld.Sessions.spares {state step} (sessions : world.Sessions libraries)
    (here : world.workers[worker]? = some state)
    (planned : world.plan settings libraries worker state step =
      .commit pending fate returned raised)
    (differ : other ≠ worker) (there : world.workers[other]? = some held) :
    world.tables.Spares pending held := by
  have free : ∀ locked id, id ∉ locked ++ world.lockedJobs worker → held.lockedJob ≠ some id :=
    fun locked id absent taken =>
      absent (List.mem_append_right _ (mem_lockedJobs differ there (Option.mem_def.mpr taken)))
  unfold plan at planned
  split at planned
  · -- expiry
    split at planned
    · cases planned
      apply spares_expire
      intro job member
      exact free _ _ (mem_expired member).2
    · cases planned
  · -- claim
    split at planned
    · next job claimed =>
      split at planned
      · cases planned
        obtain ⟨row, -, -, absent, rfl, rfl⟩ := claimDueMediaJob_spec claimed
        exact spares_putJob _ (free _ _ absent)
      · cases planned
    · cases planned
  · -- the rows just locked
    split at planned
    · cases planned
    · next unlocked =>
      split at planned
      · cases planned
      · next outcome code job judged =>
        cases planned
        apply spares_putJob
        rw [completeMediaJob_id]
        intro taken
        apply unlocked
        left
        rw [← lookup_col (MediaClaim.verdict_complete judged).1]
        exact mem_lockedJobs differ there (Option.mem_def.mpr taken)
      · cases planned
  · split at planned <;> cases planned
  · -- the end of a publication
    split at planned
    · cases planned
    · split at planned
      · cases planned
        apply MediaTables.Spares.trans
        · apply spares_putAsset
          exact fun taken => sessions.assets worker other _ _ differ.symm here there _ rfl taken
        · apply spares_putJob
          rw [completeMediaJob_id]
          exact fun taken => sessions.jobs worker other _ _ differ.symm here there _ rfl taken
      · cases planned
  · cases planned
  · -- the retry after an exception
    split at planned
    · cases planned
    · next unlocked =>
      split at planned
      · cases planned
      · next job found =>
        split at planned
        · cases planned
          apply spares_putJob
          rw [completeMediaJob_id, lookup_col found]
          exact fun taken => unlocked (mem_lockedJobs differ there (Option.mem_def.mpr taken))
        · cases planned
  · cases planned
  · cases planned

/-! ## Runs -/

theorem Published.id_eq (published : Published libraries original asset result) :
    asset.id = original.id := by
  cases published <;> rfl

/-- A worker outside a transaction. -/
def MediaWorker.Unlocked (state : MediaWorker) : Prop :=
  state.lockedJob = none ∧ state.lockedAsset = none

theorem MediaWorker.Unlocked.holds {state : MediaWorker} (unlocked : state.Unlocked)
    (db : MediaTables) : state.Holds libraries db := by
  cases state with
  | processing claim job asset => cases unlocked.1
  | published claim job asset result => cases unlocked.1
  | _ => trivial

/-- A commit ends the transaction, whichever way it goes. -/
theorem MediaWorld.plan_commit_unlocked {state step}
    (planned : world.plan settings libraries worker state step =
      .commit pending fate returned raised) : returned.Unlocked ∧ raised.Unlocked := by
  unfold plan at planned
  split at planned
  case h_1 =>
    split at planned <;> cases planned
    exact ⟨⟨rfl, rfl⟩, rfl, rfl⟩
  case h_2 =>
    split at planned
    · split at planned <;> cases planned
      exact ⟨⟨rfl, rfl⟩, rfl, rfl⟩
    · cases planned
  case h_3 =>
    split at planned
    · cases planned
    · split at planned <;> cases planned
      exact ⟨⟨rfl, rfl⟩, rfl, rfl⟩
  case h_4 => split at planned <;> cases planned
  case h_5 =>
    split at planned
    · cases planned
    · split at planned <;> cases planned
      exact ⟨⟨rfl, rfl⟩, rfl, rfl⟩
  case h_7 =>
    split at planned
    · cases planned
    · split at planned
      · cases planned
      · split at planned <;> cases planned
        exact ⟨⟨rfl, rfl⟩, rfl, rfl⟩
  all_goals cases planned

/-- A worker that takes locks in a step outside commits takes them on free, committed
rows; otherwise it keeps what it has, or lets go. -/
theorem MediaWorld.Sessions.plan_become {state step} (sessions : world.Sessions libraries)
    (here : world.workers[worker]? = some state)
    (planned : world.plan settings libraries worker state step = .become next store) :
    next.Holds libraries world.tables ∧
      (∀ id ∈ next.lockedJob, id ∈ state.lockedJob ∨ id ∉ world.lockedJobs worker) ∧
      ∀ id ∈ next.lockedAsset, id ∈ state.lockedAsset ∨ id ∉ world.lockedAssets worker := by
  have unlocked : ∀ {other : MediaWorker}, other.Unlocked → other.Holds libraries world.tables ∧
      (∀ id ∈ other.lockedJob, id ∈ state.lockedJob ∨ id ∉ world.lockedJobs worker) ∧
      ∀ id ∈ other.lockedAsset, id ∈ state.lockedAsset ∨ id ∉ world.lockedAssets worker := by
    intro other outside
    refine ⟨outside.holds _, fun id taken => ?_, fun id taken => ?_⟩
    · rw [outside.1] at taken
      cases taken
    · rw [outside.2] at taken
      cases taken
  unfold plan at planned
  split at planned
  case h_1 =>
    split at planned <;> cases planned
    exact unlocked ⟨rfl, rfl⟩
  case h_2 =>
    split at planned
    · split at planned <;> cases planned
      exact unlocked ⟨rfl, rfl⟩
    · cases planned
      exact unlocked ⟨rfl, rfl⟩
  case h_3 claim now fate =>
    split at planned
    · cases planned
      exact unlocked ⟨rfl, rfl⟩
    · next free =>
      split at planned
      · cases planned
        exact unlocked ⟨rfl, rfl⟩
      · cases planned
      · next job asset judged =>
        cases planned
        obtain ⟨found, present, unrecovered, open_⟩ := MediaClaim.verdict_process judged
        refine ⟨⟨lookup_mem found, lookup_mem present, unrecovered, open_⟩, ?_, ?_⟩
        · rintro id ⟨⟩
          rw [lookup_col found]
          exact Or.inr fun taken => free (Or.inl taken)
        · rintro id ⟨⟩
          rw [lookup_col present]
          exact Or.inr fun taken => free (Or.inr taken)
  case h_4 claim job asset replies now =>
    split at planned
    · next saved result _ processed =>
      cases planned
      obtain ⟨held, inside, unrecovered, open_⟩ := sessions.rows worker _ here
      have published : Published libraries asset saved result :=
        processQuarantinedAsset_published (congrArg Prod.fst processed)
      refine ⟨⟨held, asset, inside, published.id_eq.symm, unrecovered, open_, published⟩, ?_, ?_⟩
      · exact fun id taken => Or.inl taken
      · rintro id ⟨⟩
        rw [published.id_eq]
        exact Or.inl rfl
    · cases planned
      exact unlocked ⟨rfl, rfl⟩
  case h_5 =>
    split at planned
    · cases planned
      exact unlocked ⟨rfl, rfl⟩
    · split at planned <;> cases planned
      exact unlocked ⟨rfl, rfl⟩
  case h_6 claim key error deleted =>
    cases planned
    cases error with
    | none => exact unlocked ⟨rfl, rfl⟩
    | some error => exact unlocked ⟨rfl, rfl⟩
  case h_7 =>
    split at planned
    · cases planned
      exact unlocked ⟨rfl, rfl⟩
    · split at planned
      · cases planned
        exact unlocked ⟨rfl, rfl⟩
      · split at planned <;> cases planned
        exact unlocked ⟨rfl, rfl⟩
  case h_8 =>
    cases planned
    exact unlocked ⟨rfl, rfl⟩
  case h_9 =>
    cases planned
    exact ⟨sessions.rows worker _ here, fun _ taken => Or.inl taken, fun _ taken => Or.inl taken⟩

/-- One worker moves on, the tables change for it alone, and no lock is doubled. -/
theorem MediaWorld.Sessions.moved {after : MediaWorld} {state next : MediaWorker}
    (sessions : world.Sessions libraries) (here : world.workers[worker]? = some state)
    (workers : after.workers = world.workers.set worker next)
    (own : next.Holds libraries after.tables)
    (others : ∀ (other : Nat) held, other ≠ worker → world.workers[other]? = some held →
      held.Holds libraries after.tables)
    (jobs : ∀ id ∈ next.lockedJob, id ∈ state.lockedJob ∨ id ∉ world.lockedJobs worker)
    (assets : ∀ id ∈ next.lockedAsset, id ∈ state.lockedAsset ∨ id ∉ world.lockedAssets worker) :
    after.Sessions libraries := by
  have inside : worker < world.workers.length := (List.getElem?_eq_some_iff.mp here).1
  have at_worker : ∀ held, after.workers[worker]? = some held → held = next := by
    intro held there
    rw [workers, List.getElem?_set_self inside] at there
    exact (Option.some.inj there).symm
  have elsewhere : ∀ (other : Nat) held, other ≠ worker → after.workers[other]? = some held →
      world.workers[other]? = some held := by
    intro other held differ there
    rwa [workers, List.getElem?_set_ne differ.symm] at there
  have jobFree : ∀ (other : Nat) held, other ≠ worker → world.workers[other]? = some held →
      ∀ id ∈ next.lockedJob, id ∉ held.lockedJob := by
    intro other held differ there id taken again
    rcases jobs id taken with own | free
    · exact sessions.jobs worker other state held differ.symm here there id own again
    · exact free (mem_lockedJobs differ there again)
  have assetFree : ∀ (other : Nat) held, other ≠ worker → world.workers[other]? = some held →
      ∀ id ∈ next.lockedAsset, id ∉ held.lockedAsset := by
    intro other held differ there id taken again
    rcases assets id taken with own | free
    · exact sessions.assets worker other state held differ.symm here there id own again
    · exact free (mem_lockedAssets differ there again)
  constructor
  · intro other held there
    by_cases same : other = worker
    · subst same
      exact at_worker held there ▸ own
    · exact others other held same (elsewhere other held same there)
  · intro first second left right differ there also id taken again
    by_cases one : first = worker
    · subst one
      rw [at_worker left there] at taken
      exact jobFree second right differ.symm (elsewhere second right differ.symm also) id taken again
    · by_cases two : second = worker
      · subst two
        rw [at_worker right also] at again
        exact jobFree first left one (elsewhere first left one there) id again taken
      · exact sessions.jobs first second left right differ (elsewhere first left one there)
          (elsewhere second right two also) id taken again
  · intro first second left right differ there also id taken again
    by_cases one : first = worker
    · subst one
      rw [at_worker left there] at taken
      exact assetFree second right differ.symm (elsewhere second right differ.symm also) id taken again
    · by_cases two : second = worker
      · subst two
        rw [at_worker right also] at again
        exact assetFree first left one (elsewhere first left one there) id again taken
      · exact sessions.assets first second left right differ (elsewhere first left one there)
          (elsewhere second right two also) id taken again

theorem MediaDatabase.commit_tables (database : MediaDatabase) (pending : MediaTables)
    (fate : CommitFate) :
    (database.commit pending fate).1.tables = pending ∨ (database.commit pending fate).1 = database := by
  cases fate with
  | fails => exact Or.inr rfl
  | _ =>
    simp only [commit]
    split
    · exact Or.inl rfl
    · exact Or.inr rfl

theorem MediaWorld.step_sessions (sessions : world.Sessions libraries) (action : MediaAction) :
    (world.step settings libraries action).Sessions libraries := by
  cases action with
  | start =>
    have found : ∀ {other : Nat} {held : MediaWorker},
        (world.workers ++ [MediaWorker.idle])[other]? = some held →
        world.workers[other]? = some held ∨ held = .idle := by
      intro other held there
      rw [List.getElem?_append] at there
      split at there
      · exact Or.inl there
      · rw [List.getElem?_singleton] at there
        split at there
        · exact Or.inr (Option.some.inj there).symm
        · cases there
    constructor
    · intro other held there
      rcases found there with before | rfl
      · exact sessions.rows other held before
      · trivial
    · intro first second left right differ there also id taken again
      rcases found there with before | rfl
      · rcases found also with prior | rfl
        · exact sessions.jobs first second left right differ before prior id taken again
        · cases again
      · cases taken
    · intro first second left right differ there also id taken again
      rcases found there with before | rfl
      · rcases found also with prior | rfl
        · exact sessions.assets first second left right differ before prior id taken again
        · cases again
      · cases taken
  | step worker step =>
    simp only [MediaWorld.step]
    split
    · next state here =>
      cases planned : world.plan settings libraries worker state step with
      | become next store =>
        obtain ⟨own, jobs, assets⟩ := sessions.plan_become here planned
        exact sessions.moved here rfl own (fun other held _ there => sessions.rows other held there)
          jobs assets
      | commit pending fate returned raised =>
        have outside : ∀ success : Bool, (if success then returned else raised).Unlocked := by
          intro success
          cases success with
          | true => exact (plan_commit_unlocked planned).1
          | false => exact (plan_commit_unlocked planned).2
        have free := outside (world.database.commit pending fate).2
        apply sessions.moved here rfl (free.holds _)
        · intro other held differ there
          have rows := sessions.rows other held there
          rcases world.database.commit_tables pending fate with written | lost
          · exact rows.spared (by
              have spared := sessions.spares here planned differ there
              rwa [← written] at spared)
          · exact (congrArg (fun database => held.Holds libraries database.tables) lost).mpr rows
        · intro id taken
          rw [free.1] at taken
          cases taken
        · intro id taken
          rw [free.2] at taken
          cases taken
    · exact sessions

theorem reachable_sessions
    (reached : (mediaSystem settings libraries database store).Reachable world) :
    world.Sessions libraries := by
  refine reached.invariant ?_ fun world action sessions => MediaWorld.step_sessions sessions action
  exact ⟨fun _ _ here => by simp [mediaSystem] at here,
    fun _ _ _ _ _ here => by simp [mediaSystem] at here,
    fun _ _ _ _ _ here => by simp [mediaSystem] at here⟩

end GaonOne
