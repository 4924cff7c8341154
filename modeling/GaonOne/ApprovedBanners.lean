import GaonOne.BannerSelections

/-! What was approved is what is shown, as long as no failure is recorded of a job that
another worker has completed since: the record takes a version that is ready, and maybe
approved and shown, back to `retrying`, and the job builds it anew. -/
namespace GaonOne
open Relational UnitOfWork ReadCommitted Transitions

/-- No failure is recorded of a job that has succeeded. -/
abbrev FailuresInTime : BannerState → BannerAction → Prop := BannersFine (· ≠ .succeeded)

/-- What is ready was built, by a job that succeeded; and what is approved is ready. -/
structure BannersBuilt (board : BannerBoard) : Prop where
  manifests : ∀ version ∈ board.versions, version.generationStatus = .ready →
    ∃ manifest, version.manifest = some manifest ∧ manifest.Valid
  succeeded : ∀ job ∈ board.jobs, ∀ version, board.version? job.versionId = some version →
    version.generationStatus = .ready → job.status = .succeeded
  approved : ∀ version ∈ board.versions, version.moderationStatus = .approved →
    version.generationStatus = .ready

/-- What is ready stays ready, with the manifest it has. -/
def ReadyStays (before after : BannerBoard) : Prop :=
  ∀ versionId version, before.version? versionId = some version → version.generationStatus = .ready →
    ∃ now, after.version? versionId = some now ∧ now.generationStatus = .ready ∧
      now.manifest = version.manifest

theorem ReadyStays.of_versions (same : after.versions = before.versions) : ReadyStays before after := by
  intro versionId version held ready
  refine ⟨version, ?_, ready, rfl⟩
  unfold BannerBoard.version? at held ⊢
  rw [same]
  exact held

theorem BannersBuilt.of_same (built : BannersBuilt before) (versions : after.versions = before.versions)
    (jobs : after.jobs = before.jobs) : BannersBuilt after := by
  refine ⟨?_, ?_, ?_⟩
  · rw [versions]
    exact built.manifests
  · unfold BannerBoard.version?
    rw [versions, jobs]
    exact built.succeeded
  · rw [versions]
    exact built.approved

section
variable {board after : BannerBoard} {locks : List BannerLock}

theorem ReadyStays.append (versions : after.versions = board.versions ++ [version]) :
    ReadyStays board after := by
  intro versionId own held ready
  refine ⟨own, ?_, ready, rfl⟩
  unfold BannerBoard.version? at held ⊢
  rw [versions, lookup_append, held]
  rfl

/-- A candidate that is queued, with its job. -/
theorem BannersBuilt.append (built : BannersBuilt board) (sound : BannerSound board)
    (valid : after.Constraints) (versions : after.versions = board.versions ++ [version])
    (jobs : after.jobs = board.jobs ++ [job]) (own : job.versionId = version.id)
    (queued : version.generationStatus = .queued) (pending : version.moderationStatus = .pending) :
    BannersBuilt after where
  manifests other listed ready := by
    rw [versions] at listed
    rcases List.mem_append.mp listed with earlier | new
    · exact built.manifests other earlier ready
    · rw [List.mem_singleton.mp new, queued] at ready
      cases ready
  succeeded other listed parent found ready := by
    rw [jobs] at listed
    rcases List.mem_append.mp listed with earlier | new
    · obtain ⟨held, inside, same⟩ := sound.declared.jobParents other earlier
      have stored : board.version? other.versionId = some held :=
        (lookup_eq_some_iff sound.declared.versionIds).mpr ⟨inside, same⟩
      have there : after.version? other.versionId = some held := by
        unfold BannerBoard.version? at stored ⊢
        rw [versions, lookup_append, stored]
        rfl
      cases there.symm.trans found
      exact built.succeeded other earlier _ stored ready
    · have stored : after.version? job.versionId = some version := by
        refine (lookup_eq_some_iff valid.versionIds).mpr ⟨?_, own.symm⟩
        rw [versions]
        exact List.mem_append_right _ (List.mem_singleton_self _)
      rw [List.mem_singleton.mp new, stored] at found
      cases found
      rw [queued] at ready
      cases ready
  approved other listed moderated := by
    rw [versions] at listed
    rcases List.mem_append.mp listed with earlier | new
    · exact built.approved other earlier moderated
    · rw [List.mem_singleton.mp new, pending] at moderated
      cases moderated

/-- A job that has not succeeded is of a version that is not ready. -/
theorem BannersBuilt.unready (built : BannersBuilt board) (held : board.job? jobId = some job)
    (unfinished : job.status ≠ .succeeded) (found : board.version? job.versionId = some version) :
    version.generationStatus ≠ .ready :=
  fun ready => unfinished (built.succeeded job (lookup_mem held) version found ready)

/-- An update of a version that is not ready. -/
theorem ReadyStays.updateVersion (set : StoreBannerVersion → StoreBannerVersion)
    (keeps : ∀ version, (set version).id = version.id)
    (unready : ∀ version, board.version? key = some version → version.generationStatus ≠ .ready) :
    ReadyStays board (board.updateVersion key set) := by
  intro versionId version held ready
  have differ : versionId ≠ key := fun same => unready version (same ▸ held) ready
  exact ⟨version, BannerBoard.version?_updateVersion_other keeps differ held, ready, rfl⟩

/-- A job and its version, which is not ready, written together. -/
theorem BannersBuilt.update (built : BannersBuilt board) (sound : BannerSound board)
    (setVersion : StoreBannerVersion → StoreBannerVersion)
    (setJob : BannerGenerationJob → BannerGenerationJob) (held : board.job? job.id = some job)
    (unfinished : job.status ≠ .succeeded) (keeps : ∀ version, (setVersion version).id = version.id)
    (parent : ∀ job, (setJob job).versionId = job.versionId)
    (moderation : ∀ version, (setVersion version).moderationStatus = version.moderationStatus)
    (readies : ∀ version, (setVersion version).generationStatus = .ready →
      (∃ manifest, (setVersion version).manifest = some manifest ∧ manifest.Valid) ∧
        (setJob job).status = .succeeded) :
    BannersBuilt ((board.updateVersion job.versionId setVersion).updateJob job.id setJob) where
  manifests other listed ready := by
    obtain ⟨version, inside, rfl⟩ := List.mem_map.mp listed
    by_cases own : version.id = job.versionId
    · rw [if_pos own] at ready ⊢
      exact (readies version ready).1
    · rw [if_neg own] at ready ⊢
      exact built.manifests version inside ready
  succeeded other listed found there ready := by
    obtain ⟨before, inside, rfl⟩ := List.mem_map.mp listed
    have same : (if before.id = job.id then setJob before else before).versionId = before.versionId := by
      split
      · exact parent before
      · rfl
    rw [same] at there
    change (board.updateVersion job.versionId setVersion).version? before.versionId = some found at there
    rw [BannerBoard.version?_updateVersion _ keeps] at there
    obtain ⟨version, stored, rfl⟩ := Option.map_eq_some_iff.mp there
    have child : version.id = before.versionId := lookup_col stored
    by_cases own : version.id = job.versionId
    · rw [if_pos own] at ready
      have one : before = job := unique_eq sound.declared.jobVersions inside (lookup_mem held)
        (child.symm.trans own)
      rw [one, if_pos rfl]
      exact (readies version ready).2
    · rw [if_neg own] at ready
      have differ : before.id ≠ job.id := by
        intro agree
        have one : before = job := unique_eq sound.declared.jobIds inside (lookup_mem held) agree
        exact own (child.trans (congrArg BannerGenerationJob.versionId one))
      rw [if_neg differ]
      exact built.succeeded before inside version stored ready
  approved other listed moderated := by
    obtain ⟨version, inside, rfl⟩ := List.mem_map.mp listed
    by_cases own : version.id = job.versionId
    · rw [if_pos own, moderation] at moderated
      have ready := built.approved version inside moderated
      have stored : board.version? job.versionId = some version :=
        (lookup_eq_some_iff sound.declared.versionIds).mpr ⟨inside, own⟩
      exact absurd ready (built.unready held unfinished stored)
    · rw [if_neg own] at moderated ⊢
      exact built.approved version inside moderated

/-- A moderator approves what is ready, and builds nothing. -/
theorem BannersBuilt.moderate (built : BannersBuilt board) (sound : BannerSound board)
    (held : board.version? version.id = some version)
    (ready : action = .approve → version.generationStatus = .ready) (admin : UUID) (now : Instant) :
    BannersBuilt (board.updateVersion version.id (·.moderated action admin now)) where
  manifests other listed stays := by
    obtain ⟨before, inside, rfl⟩ := List.mem_map.mp listed
    split at stays
    · next own =>
      rw [if_pos own]
      exact built.manifests before inside stays
    · next own =>
      rw [if_neg own]
      exact built.manifests before inside stays
  succeeded job listed found there stays := by
    rw [BannerBoard.version?_updateVersion (·.moderated action admin now) fun _ => rfl] at there
    obtain ⟨before, stored, rfl⟩ := Option.map_eq_some_iff.mp there
    refine built.succeeded job listed before stored ?_
    split at stays <;> exact stays
  approved other listed moderated := by
    obtain ⟨before, inside, rfl⟩ := List.mem_map.mp listed
    split at moderated
    · next own =>
      rw [if_pos own]
      have one : before = version := unique_eq sound.declared.versionIds inside (lookup_mem held) own
      rw [one]
      refine ready ?_
      change action.target = .approved at moderated
      cases action with
      | approve => rfl
      | reject => cases moderated
      | disable => cases moderated
    · next own =>
      rw [if_neg own]
      exact built.approved before inside moderated

theorem ReadyStays.moderate (key : UUID) (action : ModerationAction) (admin : UUID) (now : Instant) :
    ReadyStays board (board.updateVersion key (·.moderated action admin now)) := by
  intro versionId other stored ready
  rw [BannerBoard.version?_updateVersion (·.moderated action admin now) fun _ => rfl, stored, Option.map_some]
  refine ⟨_, rfl, ?_⟩
  split <;> exact ⟨ready, rfl⟩

/-- A commit that records no failure of a job that succeeded keeps what is ready. -/
theorem BannerMoves.built (moves : BannerMoves (· ≠ .succeeded) board after) (sound : BannerSound board)
    (valid : after.Constraints) (built : BannersBuilt board) :
    ReadyStays board after ∧ BannersBuilt after := by
  obtain ⟨locks, failing, change, step, fine, rfl⟩ := moves
  cases step with
  | opened => exact ⟨.of_versions rfl, built.of_same rfl rfl⟩
  | created => exact ⟨.append rfl, built.append sound valid rfl rfl rfl rfl rfl⟩
  | drafted => exact ⟨.append rfl, built.append sound valid rfl rfl rfl rfl rfl⟩
  | accepted => exact ⟨.of_versions rfl, built.of_same rfl rfl⟩
  | acceptedFirst => exact ⟨.of_versions rfl, built.of_same rfl rfl⟩
  | @moderated version action admin now locked held ready unshown =>
    exact ⟨.moderate version.id action admin now, built.moderate sound held ready admin now⟩
  | @cleared version action selection admin now locked held refuses settled stored shown =>
    have moderated := built.moderate sound held (fun same => absurd same refuses) admin now
    exact ⟨ReadyStays.moderate version.id action admin now, moderated.of_same rfl rfl⟩
  | @finished job event manifest now claimed held unfinished legal locked =>
    refine ⟨?_, ?_⟩
    · exact ReadyStays.updateVersion (·.built manifest now) (fun _ => rfl)
        fun version found => built.unready held unfinished found
    · have updated := built.update sound (·.built manifest now) BannerGenerationJob.finished held unfinished (fun _ => rfl) (fun _ => rfl)
        (fun _ => rfl) fun _ _ => ⟨⟨manifest, rfl, legal⟩, rfl⟩
      exact updated.of_same rfl rfl
  | @failed job settings now claimed held locked =>
    have unfinished := fine job.id rfl job held
    refine ⟨?_, ?_⟩
    · exact ReadyStays.updateVersion (·.stalled (job.exhausts settings)) (fun _ => rfl)
        fun version found => built.unready held unfinished found
    · refine built.update sound (·.stalled (job.exhausts settings)) (·.failedOnce settings now) held unfinished (fun _ => rfl) (fun _ => rfl)
        (fun _ => rfl) fun version ready => ?_
      change (if job.exhausts settings = true then GenerationStatus.failed else .retrying) = .ready at ready
      split at ready <;> cases ready

end

section
variable {settings : BannerSettings} {start : BannerBoard} {state : BannerState} {action : BannerAction}

theorem ReadyStays.refl (board : BannerBoard) : ReadyStays board board := .of_versions rfl

theorem ReadyStays.trans (first : ReadyStays before middle) (second : ReadyStays middle after) :
    ReadyStays before after := by
  intro versionId version held ready
  obtain ⟨between, there, still, same⟩ := first versionId version held ready
  obtain ⟨now, here, stays, agree⟩ := second versionId between there still
  exact ⟨now, here, stays, agree.trans same⟩

theorem banners_sound (sound : BannerSound start)
    (reached : System.ReachableWhile ((bannerService settings).system start) FailuresInTime state) :
    BannerSound state.database :=
  ((banners_upheld settings (· ≠ .succeeded)).safe sound reached).invariant

theorem banner_step_built (sound : BannerSound start) (built : BannersBuilt state.database)
    (reached : System.ReachableWhile ((bannerService settings).system start) FailuresInTime state)
    (admitted : FailuresInTime state action) :
    ReadyStays state.database ((bannerService settings).step state action).database ∧
      BannersBuilt ((bannerService settings).step state action).database := by
  rcases banner_step sound reached admitted with leaves | moves
  · exact ⟨.of_versions leaves.versions, built.of_same leaves.versions leaves.jobs⟩
  · exact moves.built (banners_sound sound reached) (banners_sound sound (reached.next admitted)).declared built

theorem banners_built (sound : BannerSound start) (built : BannersBuilt start)
    (reached : System.ReachableWhile ((bannerService settings).system start) FailuresInTime state) :
    BannersBuilt state.database := by
  induction reached with
  | initial => exact built
  | next earlier admitted ih => exact (banner_step_built sound ih earlier admitted).2

/-- What was approved is what is shown, in every run that records no failure of a job that
has succeeded. A version that is ready stays ready with its manifest; and wherever a store
shows a version that was approved, now or later, it shows the manifest it had then. -/
theorem approved_banner_shown (sound : BannerSound start) (built : BannersBuilt start)
    (reached : System.ReachableWhile ((bannerService settings).system start) FailuresInTime state)
    (actions : List BannerAction)
    (admitted : System.RunWhile ((bannerService settings).system start) FailuresInTime state actions)
    (held : state.database.version? versionId = some version) :
    (version.generationStatus = .ready →
        ∃ now, (((bannerService settings).system start).run state actions).database.version? versionId =
            some now ∧ now.generationStatus = .ready ∧ now.manifest = version.manifest) ∧
      (version.moderationStatus = .approved → ∃ manifest, version.manifest = some manifest ∧
        ∀ storeId, ((((bannerService settings).system start).run state actions).database.selectionOf
            storeId).activeVersionId = some versionId →
          (((bannerService settings).system start).run state actions).database.publicPresentation storeId =
            some manifest) := by
  have stays : ReadyStays state.database
      (((bannerService settings).system start).run state actions).database := by
    refine reached.persists (P := fun later => ReadyStays state.database later.database) (.refl _) ?_ actions
      admitted
    intro middle action between kept allowed
    exact kept.trans (banner_step_built sound (banners_built sound built between) between allowed).1
  have later := banners_sound sound (reached.run actions admitted)
  generalize (((bannerService settings).system start).run state actions).database = board at stays later
  refine ⟨stays versionId version held, fun approved => ?_⟩
  have before := banners_built sound built reached
  have ready := before.approved version (lookup_mem held) approved
  obtain ⟨manifest, drawn, valid⟩ := before.manifests version (lookup_mem held) ready
  obtain ⟨now, there, still, same⟩ := stays versionId version held ready
  refine ⟨manifest, drawn, fun storeId active => ?_⟩
  cases found : board.selection? storeId with
  | none =>
    rw [BannerBoard.selectionOf, found] at active
    cases active
  | some selection =>
    rw [BannerBoard.selectionOf_some found] at active
    obtain ⟨shown, here, -, moderated⟩ := later.shows selection (lookup_mem found) versionId active
    cases there.symm.trans here
    unfold BannerBoard.publicPresentation
    simp only [found, active, there, Option.bind_eq_bind, Option.bind_some, still, moderated, and_self,
      if_true, same, drawn, Option.filter, decide_eq_true valid]

end

/-! ### A failure recorded late -/

def bannerModerator : User :=
  { id := 4#128, role := .admin, isSuperAdmin := false, isActive := true, isVerified := true }

/-- A store named by a blank, which no manifest can be titled with, and its first job. -/
def blankStore : BannerBoard where
  marketplace :=
    { catalogue :=
        { users := [bannerMerchant, bannerModerator], stores := [{ bannerStore with name := " " }],
          merchants := [⟨3#128, bannerMerchant.id, .approved⟩],
          villages := [⟨bannerStore.villageId, "Rampur", none, none, true⟩] } }
  versions := [newBannerVersion bannerStore.id 1 ⟨10#128, 20#128, 0#128, 0⟩]
  jobs := [newBannerJob bannerStore.id .storeCreated "store-created" ⟨10#128, 20#128, 0#128, 0⟩]

/-- The rest of the program renames the store. -/
def renamed (name : String) (board : BannerBoard) : BannerBoard :=
  { board with marketplace.catalogue.stores := [{ bannerStore with name }] }

/-- Where a run from the blank store leads. -/
def fromBlank (actions : List BannerAction) : BannerState :=
  ((bannerService {}).system blankStore).run ⟨blankStore, []⟩ actions

/-- What a session has answered. -/
def BannerState.reply? (state : BannerState) (index : Nat) : Option BannerReply :=
  state.sessions[index]?.bind fun session =>
    match session with
    | .committed reply => some reply
    | _ => none

/-- One worker cannot build the banner and rolls back; the merchant names the store;
another worker builds it and a moderator approves it. -/
def builtMeanwhile : List BannerAction :=
  .start (.processDue none false ⟨0#128, 0#128, 30#128, 0⟩) :: List.replicate 9 (.advance 0) ++
    .other (renamed "Kirana" blankStore) :: .start (.processDue none false ⟨0#128, 0#128, 31#128, 0⟩) ::
      List.replicate 13 (.advance 1) ++
        .start (.moderate bannerModerator.id 10#128 .approve 1) :: List.replicate 7 (.advance 2)

/-- The merchant accepts it. -/
def acceptedMeanwhile : List BannerAction :=
  .start (.accept bannerMerchant.id bannerStore.id 10#128 0) :: List.replicate 14 (.advance 3)

/-- The first worker records its failure. -/
def recordedLate : List BannerAction :=
  .start (.recordFailure 20#128 2) :: List.replicate 9 (.advance 4)

/-- The store is renamed, and the job, due again, builds the version anew. -/
def rebuilt : List BannerAction :=
  .other (renamed "Bazaar" (fromBlank (builtMeanwhile ++ acceptedMeanwhile ++ recordedLate)).database) ::
    .start (.processDue none false ⟨0#128, 0#128, 32#128, 10000000⟩) :: List.replicate 13 (.advance 5)

theorem blankStore_sound : BannerSound blankStore where
  declared := by decide +kernel
  shows := fun _ listed => absurd listed List.not_mem_nil
  once := List.nodup_nil
  passed := fun _ _ listed => absurd listed List.not_mem_nil

theorem blankStore_built : BannersBuilt blankStore where
  manifests := by
    intro version listed ready
    rw [List.mem_singleton.mp listed] at ready
    cases ready
  succeeded := by
    intro job _ version found ready
    rw [List.mem_singleton.mp (lookup_mem found)] at ready
    cases ready
  approved := by
    intro version listed approved
    rw [List.mem_singleton.mp listed] at approved
    cases approved

/-- The version that was approved as one banner is shown as another. -/
theorem approved_banner_rebuilt :
    System.RunWhile ((bannerService {}).system blankStore) BannersUndisturbed ⟨blankStore, []⟩
        (builtMeanwhile ++ acceptedMeanwhile ++ recordedLate ++ rebuilt) ∧
      (fromBlank builtMeanwhile).reply? 0 = some (.raised 20#128) ∧
      ((fromBlank (builtMeanwhile ++ acceptedMeanwhile)).database.version? 10#128).map
          (fun version => (version.generationStatus, version.moderationStatus)) =
        some (.ready, .approved) ∧
      (fromBlank (builtMeanwhile ++ acceptedMeanwhile)).database.publicPresentation bannerStore.id =
        some (bannerManifest bannerStore "Rampur" none) ∧
      ((fromBlank (builtMeanwhile ++ acceptedMeanwhile ++ recordedLate)).database.version? 10#128).map
          StoreBannerVersion.generationStatus = some .retrying ∧
      (fromBlank (builtMeanwhile ++ acceptedMeanwhile ++ recordedLate ++ rebuilt)).database.publicPresentation
        bannerStore.id = some (bannerManifest { bannerStore with name := "Bazaar" } "Rampur" none) := by
  refine ⟨?_, ?_, ?_, ?_, ?_, ?_⟩ <;> decide +kernel

/-- Without the late record the banner that was approved is the banner shown. -/
theorem approved_banner_shown_meanwhile :
    ∃ manifest, ((fromBlank builtMeanwhile).database.version? 10#128).bind
        StoreBannerVersion.manifest = some manifest ∧
      (fromBlank (builtMeanwhile ++ acceptedMeanwhile)).database.publicPresentation bannerStore.id =
        some manifest := by
  have first : System.RunWhile ((bannerService {}).system blankStore) FailuresInTime ⟨blankStore, []⟩
      builtMeanwhile := by decide +kernel
  have second : System.RunWhile ((bannerService {}).system blankStore) FailuresInTime
      (fromBlank builtMeanwhile) acceptedMeanwhile := by decide +kernel
  have status : ((fromBlank builtMeanwhile).database.version? 10#128).map
      StoreBannerVersion.moderationStatus = some .approved := by decide +kernel
  obtain ⟨version, held, approved⟩ := Option.map_eq_some_iff.mp status
  have reached : System.ReachableWhile ((bannerService {}).system blankStore) FailuresInTime
      (fromBlank builtMeanwhile) := System.ReachableWhile.initial.run builtMeanwhile first
  obtain ⟨manifest, drawn, shown⟩ := (approved_banner_shown blankStore_sound blankStore_built reached
    acceptedMeanwhile second held).2 approved
  refine ⟨manifest, ?_, ?_⟩
  · rw [held]
    exact drawn
  · have whole : fromBlank (builtMeanwhile ++ acceptedMeanwhile) =
        ((bannerService {}).system blankStore).run (fromBlank builtMeanwhile) acceptedMeanwhile :=
      System.run_append _ _ _ _
    rw [whole]
    refine shown bannerStore.id ?_
    rw [← whole]
    decide +kernel

end GaonOne
