import GaonOne.Banners

/-! What a banner transaction may write, what it leaves to the others, and so what holds
between any two commits. Whoever writes a version, a job or a selection has locked it. -/
namespace GaonOne
open Relational UnitOfWork ReadCommitted Transitions

namespace BannerBoard

/-- The selection of a store, as it is read where there is no row yet. -/
def selectionOf (board : BannerBoard) (storeId : UUID) : StoreBannerSelection :=
  (board.selection? storeId).getD { storeId }

/-- No store shows the version. -/
def Unshown (board : BannerBoard) (versionId : UUID) : Prop :=
  ∀ selection ∈ board.selections, selection.activeVersionId ≠ some versionId

/-- What a selection shows is a version of its store that was approved. -/
def Shows (board : BannerBoard) (selection : StoreBannerSelection) : Prop :=
  ∀ versionId ∈ selection.activeVersionId, ∃ version, board.version? versionId = some version ∧
    version.storeId = selection.storeId ∧ version.moderationStatus = .approved

section
variable {board : BannerBoard} {selection : StoreBannerSelection}

theorem selectionOf_some (held : board.selection? storeId = some selection) :
    board.selectionOf storeId = selection := by
  rw [selectionOf, held, Option.getD_some]

theorem version?_updateVersion (set : StoreBannerVersion → StoreBannerVersion)
    (keeps : ∀ version, (set version).id = version.id) (key versionId : UUID) :
    (board.updateVersion key set).version? versionId =
      (board.version? versionId).map fun version => if version.id = key then set version else version :=
  lookup_update keeps key versionId board.versions

theorem job?_updateJob {set : BannerGenerationJob → BannerGenerationJob}
    (keeps : ∀ job, (set job).id = job.id) (key jobId : UUID) :
    (board.updateJob key set).job? jobId =
      (board.job? jobId).map fun job => if job.id = key then set job else job :=
  lookup_update keeps key jobId board.jobs

/-- An update of another version. -/
theorem version?_updateVersion_other {set : StoreBannerVersion → StoreBannerVersion}
    (keeps : ∀ version, (set version).id = version.id) (differ : versionId ≠ key)
    (held : board.version? versionId = some version) :
    (board.updateVersion key set).version? versionId = some version := by
  have own : version.id ≠ key := fun same => differ ((lookup_col held).symm.trans same)
  rw [version?_updateVersion _ keeps, held, Option.map_some, if_neg own]

theorem job?_updateJob_other {set : BannerGenerationJob → BannerGenerationJob}
    (keeps : ∀ job, (set job).id = job.id) (differ : jobId ≠ key) (held : board.job? jobId = some job) :
    (board.updateJob key set).job? jobId = some job := by
  have own : job.id ≠ key := fun same => differ ((lookup_col held).symm.trans same)
  rw [job?_updateJob keeps, held, Option.map_some, if_neg own]

theorem selection?_putSelection (unique : Unique StoreBannerSelection.storeId board.selections)
    (held : board.selection? new.storeId = some old) (storeId : UUID) :
    (board.putSelection new).selection? storeId =
      if new.storeId = storeId then some new else board.selection? storeId := by
  have own : old.storeId = new.storeId := lookup_col held
  exact lookup_put storeId (lookup_mem held) own own unique unique

theorem selection?_addSelection (new : StoreBannerSelection)
    (missing : board.selection? new.storeId = none) (storeId : UUID) :
    (board.addSelection new).selection? storeId =
      if new.storeId = storeId then some new else board.selection? storeId :=
  lookup_append_fresh (lookup_eq_none_iff.mp missing)

theorem unique_addSelection (unique : Unique StoreBannerSelection.storeId board.selections)
    (missing : board.selection? new.storeId = none) :
    Unique StoreBannerSelection.storeId (board.addSelection new).selections :=
  unique_append.mpr ⟨unique, lookup_eq_none_iff.mp missing⟩

/-- A row that is inserted and then written. -/
theorem selection?_putSelection_addSelection (first last : StoreBannerSelection)
    (unique : Unique StoreBannerSelection.storeId board.selections)
    (missing : board.selection? first.storeId = none) (same : last.storeId = first.storeId)
    (storeId : UUID) : ((board.addSelection first).putSelection last).selection? storeId =
      if last.storeId = storeId then some last else board.selection? storeId := by
  have stored := selection?_addSelection first missing last.storeId
  rw [if_pos same.symm] at stored
  rw [selection?_putSelection (unique_addSelection unique missing) stored,
    selection?_addSelection first missing, same]
  split <;> rfl

end
end BannerBoard

/-- What one transaction writes, given what it has locked; and the job whose failure it
records, if it is that. -/
inductive BannerStep (locks : List BannerLock) (board : BannerBoard) :
    Option UUID → (BannerBoard → BannerBoard) → Prop where
  | opened : BannerStep locks board none (BannerBoard.addStore store)
  | created : BannerStep locks board none
      (BannerBoard.addJob (newBannerJob store.id .storeCreated key draws) ∘
        BannerBoard.addVersion (newBannerVersion store.id number draws) ∘ BannerBoard.addStore store)
  | drafted : BannerStep locks board none
      (BannerBoard.addJob (newBannerJob storeId .merchantRegenerate key draws) ∘
        BannerBoard.addVersion (newBannerVersion storeId number draws))
  | accepted (locked : .version version.id ∈ locks) (held : board.version? version.id = some version)
      (approved : version.moderationStatus = .approved)
      (settled : .selection version.storeId ∈ locks)
      (stored : board.selection? version.storeId = some selection) :
      BannerStep locks board none (BannerBoard.accept version.storeId selection.revision ∘
        BannerBoard.putSelection (selection.chosen version.id user))
  | acceptedFirst (locked : .version version.id ∈ locks)
      (held : board.version? version.id = some version)
      (approved : version.moderationStatus = .approved)
      (owned : .store version.storeId ∈ locks) (missing : board.selection? version.storeId = none) :
      BannerStep locks board none (BannerBoard.accept version.storeId 0 ∘
        BannerBoard.putSelection (StoreBannerSelection.chosen version.id user { storeId := version.storeId }) ∘
          BannerBoard.addSelection { storeId := version.storeId })
  | moderated (locked : .version version.id ∈ locks) (held : board.version? version.id = some version)
      (ready : action = .approve → version.generationStatus = .ready)
      (unshown : action ≠ .approve → board.Unshown version.id) :
      BannerStep locks board none (BannerBoard.updateVersion version.id (·.moderated action admin now))
  | cleared (locked : .version version.id ∈ locks) (held : board.version? version.id = some version)
      (refuses : action ≠ .approve) (settled : .selection version.storeId ∈ locks)
      (stored : board.selection? version.storeId = some selection)
      (shown : selection.activeVersionId = some version.id) :
      BannerStep locks board none (BannerBoard.putSelection (selection.cleared admin) ∘
        BannerBoard.updateVersion version.id (·.moderated action admin now))
  | finished (claimed : .job job.id ∈ locks) (held : board.job? job.id = some job)
      (unfinished : job.status ≠ .succeeded) (valid : manifest.Valid)
      (locked : .version job.versionId ∈ locks) :
      BannerStep locks board none (BannerBoard.notify event ∘
        BannerBoard.updateJob job.id BannerGenerationJob.finished ∘
          BannerBoard.updateVersion job.versionId (·.built manifest now))
  | failed (claimed : .job job.id ∈ locks) (held : board.job? job.id = some job)
      (locked : .version job.versionId ∈ locks) :
      BannerStep locks board (some job.id)
        (BannerBoard.updateVersion job.versionId (·.stalled (job.exhausts settings)) ∘
          BannerBoard.updateJob job.id (·.failedOnce settings now))

/-- What is shown was approved, and no revision was accepted twice. -/
structure BannerHistory (board : BannerBoard) : Prop where
  shows : ∀ selection ∈ board.selections, board.Shows selection
  once : board.accepted.Nodup
  /-- A revision is passed when it is accepted. -/
  passed : ∀ storeId revision, (storeId, revision) ∈ board.accepted →
    revision < (board.selectionOf storeId).revision

/-- What holds of the banners between any two commits. -/
structure BannerSound (board : BannerBoard) : Prop extends BannerHistory board where
  declared : board.Constraints

/-- What a transaction may rely on between two of its statements. -/
structure BannerRely (held : List BannerLock) (before after : BannerBoard) : Prop where
  versions : ∀ id version, .version id ∈ held → before.version? id = some version →
    after.version? id = some version
  unshown : ∀ id, .version id ∈ held → before.Unshown id → after.Unshown id
  jobs : ∀ id job, .job id ∈ held → before.job? id = some job → after.job? id = some job
  selections : ∀ storeId selection, .selection storeId ∈ held →
    before.selection? storeId = some selection → after.selection? storeId = some selection
  unselected : ∀ storeId, .store storeId ∈ held → before.selection? storeId = none →
    after.selection? storeId = none

theorem BannerRely.refl (held : List BannerLock) (board : BannerBoard) : BannerRely held board board where
  versions := fun _ _ _ stored => stored
  unshown := fun _ _ unshown => unshown
  jobs := fun _ _ _ stored => stored
  selections := fun _ _ _ stored => stored
  unselected := fun _ _ missing => missing

theorem BannerRely.trans (first : BannerRely held before middle) (second : BannerRely held middle after) :
    BannerRely held before after where
  versions id version locked stored :=
    second.versions id version locked (first.versions id version locked stored)
  unshown id locked unshown := second.unshown id locked (first.unshown id locked unshown)
  jobs id job locked stored := second.jobs id job locked (first.jobs id job locked stored)
  selections storeId selection locked stored :=
    second.selections storeId selection locked (first.selections storeId selection locked stored)
  unselected storeId locked missing :=
    second.unselected storeId locked (first.unselected storeId locked missing)

theorem BannerRely.weaken (rely : BannerRely (lock :: held) before after) : BannerRely held before after where
  versions := fun id version locked => rely.versions id version (List.mem_cons_of_mem _ locked)
  unshown := fun id locked => rely.unshown id (List.mem_cons_of_mem _ locked)
  jobs := fun id job locked => rely.jobs id job (List.mem_cons_of_mem _ locked)
  selections := fun storeId selection locked =>
    rely.selections storeId selection (List.mem_cons_of_mem _ locked)
  unselected := fun storeId locked => rely.unselected storeId (List.mem_cons_of_mem _ locked)

/-- What one commit does, recording only failures of jobs in a status that is fine. -/
def BannerMoves (fine : BannerJobStatus → Prop) (before after : BannerBoard) : Prop :=
  ∃ locks failing change, BannerStep locks before failing change ∧
    (∀ jobId ∈ failing, ∀ job, before.job? jobId = some job → fine job.status) ∧ after = change before

def bannerDiscipline (fine : BannerJobStatus → Prop) : Discipline BannerBoard BannerLock BannerNote where
  invariant := BannerSound
  guarantee before after := after = before ∨ BannerMoves fine before after
  rely held _ := BannerRely held
  refl held _ := BannerRely.refl held
  trans := BannerRely.trans
  weaken := BannerRely.weaken
  admits footing board := ∀ note ∈ footing.notes, ∀ job ∈ board.job? note.jobId, fine job.status
  apart mine theirs := ∀ lock ∈ mine.held, lock ∉ theirs.held

/-- What a transaction is about to commit is still so after the others' commits. -/
theorem BannerStep.later (step : BannerStep locks board failing change)
    (rely : BannerRely locks board now) : BannerStep locks now failing change := by
  cases step with
  | opened => exact .opened
  | created => exact .created
  | drafted => exact .drafted
  | accepted locked held approved settled stored =>
    exact .accepted locked (rely.versions _ _ locked held) approved settled
      (rely.selections _ _ settled stored)
  | acceptedFirst locked held approved owned missing =>
    exact .acceptedFirst locked (rely.versions _ _ locked held) approved owned
      (rely.unselected _ owned missing)
  | moderated locked held ready unshown =>
    exact .moderated locked (rely.versions _ _ locked held) ready
      fun refuses => rely.unshown _ locked (unshown refuses)
  | cleared locked held refuses settled stored shown =>
    exact .cleared locked (rely.versions _ _ locked held) refuses settled
      (rely.selections _ _ settled stored) shown
  | finished claimed held unfinished valid locked =>
    exact .finished claimed (rely.jobs _ _ claimed held) unfinished valid locked
  | failed claimed held locked => exact .failed claimed (rely.jobs _ _ claimed held) locked

/-! ## What a commit leaves to the others -/

section
variable {board after : BannerBoard} {others : List BannerLock}

/-- A commit that appends versions and jobs leaves alone what is locked. -/
theorem BannerRely.append (versions : after.versions = board.versions ++ [version])
    (jobs : after.jobs = board.jobs ++ [job]) (selections : after.selections = board.selections) :
    BannerRely others board after where
  versions key own _ stored := by
    unfold BannerBoard.version? at stored ⊢
    rw [versions, lookup_append, stored]
    rfl
  unshown key _ unshown := by
    unfold BannerBoard.Unshown at unshown ⊢
    rw [selections]
    exact unshown
  jobs key own _ stored := by
    unfold BannerBoard.job? at stored ⊢
    rw [jobs, lookup_append, stored]
    rfl
  selections key own _ stored := by
    unfold BannerBoard.selection? at stored ⊢
    rw [selections]
    exact stored
  unselected key _ missing := by
    unfold BannerBoard.selection? at missing ⊢
    rw [selections]
    exact missing

/-- An update of a version and a job that the others have not locked. -/
theorem BannerRely.update (versions : ∀ id version, .version id ∈ others →
      board.version? id = some version → after.version? id = some version)
    (jobs : ∀ id job, .job id ∈ others → board.job? id = some job → after.job? id = some job)
    (selections : after.selections = board.selections) : BannerRely others board after where
  versions := versions
  unshown key _ unshown := by
    unfold BannerBoard.Unshown at unshown ⊢
    rw [selections]
    exact unshown
  jobs := jobs
  selections key own _ stored := by
    unfold BannerBoard.selection? at stored ⊢
    rw [selections]
    exact stored
  unselected key _ missing := by
    unfold BannerBoard.selection? at missing ⊢
    rw [selections]
    exact missing

/-- A selection that the others have not locked shows a version they have not locked. -/
theorem BannerRely.select (old : StoreBannerSelection) (unique : Unique StoreBannerSelection.storeId board.selections)
    (stored : board.selection? new.storeId = some old)
    (elsewhere : .selection new.storeId ∉ others)
    (free : ∀ id ∈ new.activeVersionId, .version id ∉ others) :
    BannerRely others board (board.putSelection new) where
  versions := fun _ _ _ stored => stored
  unshown id locked unshown := by
    intro selection listed
    rcases mem_put.mp listed with ⟨rfl, -⟩ | ⟨inside, -⟩
    · exact fun shown => free id shown locked
    · exact unshown selection inside
  jobs := fun _ _ _ stored => stored
  selections storeId selection locked held := by
    rw [BannerBoard.selection?_putSelection unique stored, if_neg]
    · exact held
    · intro same
      exact elsewhere (same ▸ locked)
  unselected storeId _ missing := by
    rw [BannerBoard.selection?_putSelection unique stored, if_neg]
    · exact missing
    · intro same
      rw [same, missing] at stored
      cases stored

/-- A commit leaves to the others what they have locked. -/
theorem BannerStep.leaves (step : BannerStep locks board failing change) (sound : BannerSound board)
    (apart : ∀ lock ∈ locks, lock ∉ others) :
    BannerRely others board (change board) := by
  cases step with
  | opened =>
    exact .update (fun _ _ _ stored => stored) (fun _ _ _ stored => stored) rfl
  | created => exact .append rfl rfl rfl
  | drafted => exact .append rfl rfl rfl
  | @accepted version selection user locked held approved settled stored =>
    have own : selection.storeId = version.storeId := lookup_col stored
    have select : BannerRely others board (board.putSelection (selection.chosen version.id user)) := by
      refine .select selection sound.declared.selectionStores (own ▸ stored) ?_ ?_
      · exact own ▸ apart _ settled
      · intro id shown
        cases shown
        exact apart _ locked
    exact ⟨select.versions, select.unshown, select.jobs, select.selections, select.unselected⟩
  | @acceptedFirst version user locked held approved owned missing =>
    have found := BannerBoard.selection?_putSelection_addSelection { storeId := version.storeId }
      (StoreBannerSelection.chosen version.id user { storeId := version.storeId })
      sound.declared.selectionStores missing rfl
    refine ⟨fun _ _ _ held => held, ?_, fun _ _ _ held => held, ?_, ?_⟩
    · intro id theirs unshown selection listed
      rcases mem_put.mp listed with ⟨rfl, -⟩ | ⟨inside, differ⟩
      · intro shown
        cases shown
        exact apart _ locked theirs
      · rcases List.mem_append.mp inside with earlier | new
        · exact unshown selection earlier
        · rw [List.mem_singleton.mp new] at differ
          exact absurd rfl differ
    · intro storeId selection _ stored
      refine (found storeId).trans ((if_neg fun same => ?_).trans stored)
      have same : version.storeId = storeId := same
      rw [← same, missing] at stored
      cases stored
    · intro storeId theirs absent
      refine (found storeId).trans ((if_neg fun same => ?_).trans absent)
      have same : version.storeId = storeId := same
      exact apart _ owned (same ▸ theirs)
  | moderated locked held ready unshown =>
    refine .update (fun id other theirs stored => ?_) (fun _ _ _ stored => stored) rfl
    exact BannerBoard.version?_updateVersion_other (fun _ => rfl)
      (fun same => apart _ locked (same ▸ theirs)) stored
  | @cleared version action selection admin now locked held refuses settled stored shown =>
    have own : selection.storeId = version.storeId := lookup_col stored
    have update : BannerRely others board
        (board.updateVersion version.id (·.moderated action admin now)) := by
      refine .update (fun id other theirs stored => ?_) (fun _ _ _ stored => stored) rfl
      exact BannerBoard.version?_updateVersion_other (fun _ => rfl)
        (fun same => apart _ locked (same ▸ theirs)) stored
    refine update.trans (.select selection sound.declared.selectionStores ?_ ?_ ?_)
    · exact own ▸ stored
    · exact own ▸ apart _ settled
    · intro id shown
      cases shown
  | finished claimed held unfinished valid locked =>
    refine .update (fun id other theirs stored => ?_) (fun id other theirs stored => ?_) rfl
    · exact BannerBoard.version?_updateVersion_other (fun _ => rfl)
        (fun same => apart _ locked (same ▸ theirs)) stored
    · exact BannerBoard.job?_updateJob_other (fun _ => rfl)
        (fun same => apart _ claimed (same ▸ theirs)) stored
  | failed claimed held locked =>
    refine .update (fun id other theirs stored => ?_) (fun id other theirs stored => ?_) rfl
    · exact BannerBoard.version?_updateVersion_other (fun _ => rfl)
        (fun same => apart _ locked (same ▸ theirs)) stored
    · exact BannerBoard.job?_updateJob_other (fun _ => rfl)
        (fun same => apart _ claimed (same ▸ theirs)) stored

end

/-! ## What a commit keeps -/

section
variable {board after : BannerBoard} {new old selection : StoreBannerSelection}

theorem BannerBoard.selectionOf_putSelection
    (unique : Unique StoreBannerSelection.storeId board.selections)
    (stored : board.selection? new.storeId = some old) (storeId : UUID) :
    (board.putSelection new).selectionOf storeId =
      if new.storeId = storeId then new else board.selectionOf storeId := by
  unfold BannerBoard.selectionOf
  rw [BannerBoard.selection?_putSelection unique stored]
  split <;> rfl

/-- A row with nothing chosen reads like no row. -/
theorem BannerBoard.selectionOf_addSelection (missing : board.selection? key = none) (storeId : UUID) :
    (board.addSelection { storeId := key }).selectionOf storeId = board.selectionOf storeId := by
  unfold BannerBoard.selectionOf
  rw [BannerBoard.selection?_addSelection _ missing]
  split
  · next same =>
    have same : key = storeId := same
    rw [← same, missing]
    rfl
  · rfl

/-- Versions that stay approved stay shown. -/
theorem BannerBoard.Shows.kept (shows : board.Shows selection)
    (versions : ∀ version, selection.activeVersionId = some version.id →
      board.version? version.id = some version → version.moderationStatus = .approved →
        ∃ now, after.version? version.id = some now ∧ now.storeId = version.storeId ∧
          now.moderationStatus = .approved) : after.Shows selection := by
  intro versionId active
  obtain ⟨version, held, owner, approved⟩ := shows versionId active
  have own : version.id = versionId := lookup_col held
  subst own
  obtain ⟨now, there, same, still⟩ := versions version active held approved
  exact ⟨now, there, same.trans owner, still⟩

/-- A commit that leaves the selections alone keeps the history, where what they show
stays approved. -/
theorem BannerHistory.kept (history : BannerHistory board)
    (selections : after.selections = board.selections) (accepted : after.accepted = board.accepted)
    (versions : ∀ version, ¬board.Unshown version.id → board.version? version.id = some version →
      version.moderationStatus = .approved → ∃ now, after.version? version.id = some now ∧
        now.storeId = version.storeId ∧ now.moderationStatus = .approved) : BannerHistory after where
  shows selection listed := by
    rw [selections] at listed
    refine (history.shows selection listed).kept fun version active => versions version fun unshown => ?_
    exact unshown selection listed active
  once := by
    rw [accepted]
    exact history.once
  passed storeId revision earlier := by
    rw [accepted] at earlier
    have same : after.selectionOf storeId = board.selectionOf storeId := by
      unfold BannerBoard.selectionOf BannerBoard.selection?
      rw [selections]
    rw [same]
    exact history.passed storeId revision earlier

theorem BannerHistory.append (history : BannerHistory board)
    (selections : after.selections = board.selections) (accepted : after.accepted = board.accepted)
    (versions : after.versions = board.versions ++ [version]) : BannerHistory after := by
  refine history.kept selections accepted fun version _ held approved => ⟨version, ?_, rfl, approved⟩
  unfold BannerBoard.version? at held ⊢
  rw [versions, lookup_append, held]
  rfl

/-- An update that keeps what was approved, or of a version no store shows. -/
theorem BannerHistory.updateVersion (history : BannerHistory board)
    {set : StoreBannerVersion → StoreBannerVersion} (keeps : ∀ version, (set version).id = version.id)
    (owner : ∀ version, (set version).storeId = version.storeId)
    (approves : (∀ version, version.moderationStatus = .approved → (set version).moderationStatus = .approved) ∨
      board.Unshown key) : BannerHistory (board.updateVersion key set) := by
  refine history.kept rfl rfl fun version shown held approved => ?_
  rw [BannerBoard.version?_updateVersion _ keeps, held, Option.map_some]
  by_cases own : version.id = key
  · refine ⟨set version, by rw [if_pos own], owner version, ?_⟩
    rcases approves with always | unshown
    · exact always version approved
    · exact absurd (own ▸ unshown) shown
  · exact ⟨version, by rw [if_neg own], rfl, approved⟩

/-- A selection that shows what is approved, or nothing, in its next revision. -/
theorem BannerHistory.putSelection (history : BannerHistory board)
    (unique : Unique StoreBannerSelection.storeId board.selections)
    (stored : board.selection? new.storeId = some old) (next : new.revision = old.revision + 1)
    (shows : board.Shows new) : BannerHistory (board.putSelection new) where
  shows selection listed := by
    rcases mem_put.mp listed with ⟨rfl, -⟩ | ⟨inside, -⟩
    · exact shows
    · exact history.shows selection inside
  once := history.once
  passed storeId revision earlier := by
    have before := history.passed storeId revision earlier
    rw [BannerBoard.selectionOf_putSelection unique stored]
    split
    · next same =>
      have here := BannerBoard.selectionOf_some (same ▸ stored)
      rw [here] at before
      omega
    · exact before

/-- The revision an acceptance submitted is the one it found, and the next is larger. -/
theorem BannerHistory.accept (history : BannerHistory board) (old : StoreBannerSelection)
    (unique : Unique StoreBannerSelection.storeId board.selections)
    (stored : board.selection? new.storeId = some old) (next : new.revision = old.revision + 1)
    (shows : board.Shows new) :
    BannerHistory ((board.putSelection new).accept new.storeId old.revision) := by
  have put := history.putSelection unique stored next shows
  have found := BannerBoard.selectionOf_putSelection unique stored new.storeId
  rw [if_pos rfl] at found
  refine ⟨put.shows, ?_, fun storeId revision listed => ?_⟩
  · refine List.nodup_append.mpr ⟨history.once, List.nodup_singleton _, ?_⟩
    intro entry earlier other new same
    rw [List.mem_singleton.mp new] at same
    have before := history.passed _ _ (same ▸ earlier)
    rw [BannerBoard.selectionOf_some stored] at before
    omega
  · rcases List.mem_append.mp listed with earlier | new
    · exact put.passed storeId revision earlier
    · cases List.mem_singleton.mp new
      change _ < ((board.putSelection _).selectionOf _).revision
      rw [found]
      omega

theorem BannerHistory.addSelection (history : BannerHistory board) (missing : board.selection? key = none) :
    BannerHistory (board.addSelection { storeId := key }) where
  shows selection listed := by
    rcases List.mem_append.mp listed with earlier | new
    · exact history.shows selection earlier
    · rw [List.mem_singleton.mp new]
      intro versionId active
      cases active
  once := history.once
  passed storeId revision earlier := by
    rw [BannerBoard.selectionOf_addSelection missing]
    exact history.passed storeId revision earlier

/-- The selection that shows a version is the one of its store. -/
theorem BannerSound.unshown (sound : BannerSound board)
    (held : board.version? versionId = some version)
    (hidden : ∀ selection, board.selection? version.storeId = some selection →
      selection.activeVersionId ≠ some versionId) : board.Unshown versionId := by
  intro selection listed active
  obtain ⟨found, there, owner, -⟩ := sound.shows selection listed versionId active
  cases held.symm.trans there
  refine hidden selection ?_ active
  exact (lookup_eq_some_iff sound.declared.selectionStores).mpr ⟨listed, owner.symm⟩

theorem BannerStep.history (step : BannerStep locks board failing change) (sound : BannerSound board) : BannerHistory (change board) := by
  have history := sound.toBannerHistory
  have unique := sound.declared.selectionStores
  cases step with
  | opened => exact history.kept rfl rfl fun version _ held approved => ⟨version, held, rfl, approved⟩
  | created => exact history.append rfl rfl rfl
  | drafted => exact history.append rfl rfl rfl
  | @accepted version selection user locked held approved settled stored =>
    have own : selection.storeId = version.storeId := lookup_col stored
    have accept : BannerHistory ((board.putSelection (selection.chosen version.id user)).accept
        selection.storeId selection.revision) := by
      refine history.accept selection unique (own ▸ stored) rfl ?_
      intro versionId active
      cases active
      exact ⟨version, held, own.symm, approved⟩
    rw [own] at accept
    exact accept
  | @acceptedFirst version user locked held approved owned missing =>
    have whole : Unique StoreBannerSelection.storeId
        (board.addSelection { storeId := version.storeId }).selections :=
      BannerBoard.unique_addSelection unique missing
    refine (history.addSelection missing).accept { storeId := version.storeId } whole ?_ rfl ?_
    · exact (BannerBoard.selection?_addSelection { storeId := version.storeId } missing _).trans (if_pos rfl)
    · intro versionId active
      cases active
      exact ⟨version, held, rfl, approved⟩
  | @moderated version action admin now locked held ready unshown =>
    refine history.updateVersion (fun _ => rfl) (fun _ => rfl) ?_
    by_cases approves : action = .approve
    · exact .inl fun _ _ => by rw [approves]; rfl
    · exact .inr (unshown approves)
  | @cleared version action selection admin now locked held refuses settled stored shown =>
    have own : selection.storeId = version.storeId := lookup_col stored
    have found : board.selection? (selection.cleared admin).storeId = some selection := own ▸ stored
    have empty := history.putSelection unique found rfl fun versionId active => by cases active
    refine empty.updateVersion (fun _ => rfl) (fun _ => rfl) (.inr ?_)
    intro other listed active
    rcases mem_put.mp listed with ⟨rfl, -⟩ | ⟨inside, differ⟩
    · cases active
    · obtain ⟨shownVersion, there, owner, -⟩ := sound.shows other inside version.id active
      cases held.symm.trans there
      exact differ (owner.symm.trans own.symm)
  | @finished job event manifest now claimed held unfinished valid locked =>
    have built : BannerHistory (board.updateVersion job.versionId (·.built manifest now)) :=
      history.updateVersion (fun _ => rfl) (fun _ => rfl) (.inl fun _ approved => approved)
    exact ⟨built.shows, built.once, built.passed⟩
  | @failed job settings now claimed held locked =>
    have stalled : BannerHistory (board.updateVersion job.versionId (·.stalled (job.exhausts settings))) :=
      history.updateVersion (fun _ => rfl) (fun _ => rfl) (.inl fun _ approved => approved)
    exact ⟨stalled.shows, stalled.once, stalled.passed⟩

end

/-! ## How each transaction ends -/

section
variable {fine : BannerJobStatus → Prop} {board : BannerBoard}
  {footing : Footing BannerBoard BannerLock BannerNote}
  {post : β → Footing BannerBoard BannerLock BannerNote → BannerBoard → Prop}

/-- What a transaction is about to commit may be committed. -/
theorem BannerStep.commits (step : BannerStep footing.held board failing footing.change)
    (noted : ∀ jobId ∈ failing, .failing jobId ∈ footing.notes) (reply : BannerReply) :
    (bannerDiscipline fine).Commits BannerBoard.Constraints reply footing board := by
  rintro now ⟨rely, sound⟩ admitted valid
  have step := step.later rely
  refine ⟨⟨step.history sound, valid⟩, .inr ⟨_, failing, _, step, ?_, rfl⟩, ?_⟩
  · exact fun jobId named => admitted (.failing jobId) (noted jobId named)
  · exact fun other apart => step.leaves sound apart

/-- A transaction that records no failure. -/
theorem BannerStep.ends {reply : BannerReply} (step : BannerStep footing.held board none footing.change) :
    (bannerDiscipline fine).Holds (pure reply : BannerProgram BannerReply)
      ((bannerDiscipline fine).Commits BannerBoard.Constraints) footing board :=
  (Discipline.holds_pure _).mpr (step.commits (fun _ named => by cases named) reply)

/-- A transaction that writes nothing. -/
theorem holds_nothing {reply : BannerReply} (same : footing.change = id) :
    (bannerDiscipline fine).Holds (pure reply : BannerProgram BannerReply)
      ((bannerDiscipline fine).Commits BannerBoard.Constraints) footing board := by
  rintro now later - -
  rw [same]
  exact ⟨later.2, .inl rfl, fun _ _ => .refl _ _⟩

/-- A job that succeeded is never due. -/
theorem BannerGenerationJob.Due.unfinished {job : BannerGenerationJob} (due : job.Due now jobId) :
    job.status ≠ .succeeded := by
  rcases due.1 with queued | retrying | ⟨processing, -⟩
  · simp [queued]
  · simp [retrying]
  · simp [processing]

namespace BannerProgram

theorem holds_found {value : Option α} {error : HTTPException} {next : α → BannerProgram β}
    (rest : ∀ held, value = some held → (bannerDiscipline fine).Holds (next held) post footing board) :
    (bannerDiscipline fine).Holds (BannerProgram.found value error >>= next) post footing board := by
  rw [Discipline.holds_bind, BannerProgram.found, Discipline.holds_ofExcept]
  exact fun held answered => rest held ((found_ok ..).mp answered)

theorem holds_required {check : Prop} [Decidable check] {error : HTTPException}
    {next : Unit → BannerProgram β}
    (rest : check → (bannerDiscipline fine).Holds (next ()) post footing board) :
    (bannerDiscipline fine).Holds (BannerProgram.require check error >>= next) post footing board := by
  rw [Discipline.holds_bind, BannerProgram.require, Discipline.holds_ofExcept]
  exact fun _ passed => rest ((require_ok ..).mp passed)

/-- A row is locked when it is read for update, or is not there. -/
theorem holds_selectForUpdate {row : BannerLock} {read : BannerBoard → Option α}
    {next : Option α → BannerProgram β}
    (missing : ∀ now locks, (bannerDiscipline fine).Later footing board now →
      read (footing.change now) = none →
        (bannerDiscipline fine).Holds (next none) post { footing with held := locks ++ footing.held } now)
    (found : ∀ now value, (bannerDiscipline fine).Later footing board now →
      read (footing.change now) = some value → (bannerDiscipline fine).Holds (next (some value)) post
        { footing with held := row :: footing.held } now) :
    (bannerDiscipline fine).Holds (BannerProgram.selectForUpdate row read >>= next) post footing board := by
  rw [Discipline.holds_bind]
  refine Discipline.Holds.query fun now later => ?_
  refine Discipline.Holds.branch (fun absent => ?_) fun _ => ?_
  · rw [Discipline.holds_pure]
    exact missing now [] later (Option.isNone_iff_eq_none.mp absent)
  · refine Discipline.Holds.lockRow fun locked since => ?_
    rw [Discipline.holds_query]
    intro last after
    have reached := later.trans (since.trans after.weaken)
    cases current : read (footing.change last) with
    | none => exact missing last [row] reached current
    | some value => exact found last value reached current

/-- The store is locked, and whoever asks may change it. -/
theorem holds_ownedStore {next : User × Store → BannerProgram β}
    (rest : ∀ now user store, BannerSound now → store.id = storeId →
      (bannerDiscipline fine).Holds (next (user, store)) post ⟨[.store storeId], [], id⟩ now) :
    (bannerDiscipline fine).Holds (BannerProgram.ownedStore subject storeId >>= next) post {} board := by
  rw [Discipline.holds_bind]
  refine Discipline.Holds.query fun first _ => ?_
  rw [Discipline.holds_bind, Discipline.holds_ofExcept]
  intro user _
  rw [Discipline.holds_bind, Discipline.holds_ofExcept]
  intro _ _
  refine holds_selectForUpdate (fun now locks _ _ => ?_) fun now store _ stored => ?_
  · exact holds_found fun held none => nomatch none
  refine holds_found fun held same => ?_
  cases same
  refine Discipline.Holds.query fun last later => ?_
  rw [Discipline.holds_bind, Discipline.holds_ofExcept]
  intro _ _
  exact rest last user store later.2 (lookup_col stored)

/-- A new candidate and its job, or the job there is already. -/
theorem holds_createBannerJob {next : BannerGenerationJob → BannerProgram β}
    (existing : ∀ now job, (bannerDiscipline fine).Holds (next job) post footing now)
    (drafted : ∀ now number, (bannerDiscipline fine).Holds (next (newBannerJob storeId trigger key draws)) post
      { footing with change := BannerBoard.addJob (newBannerJob storeId trigger key draws) ∘
          BannerBoard.addVersion (newBannerVersion storeId number draws) ∘ footing.change } now) :
    (bannerDiscipline fine).Holds (BannerProgram.createBannerJob storeId trigger key draws >>= next) post
      footing board := by
  rw [Discipline.holds_bind]
  refine Discipline.Holds.query fun now _ => ?_
  split
  · next job _ => exact existing now job
  · exact Discipline.Holds.query fun last _ => drafted last _

theorem holds_createStore (store : Store) (draws : BannerDraws) :
    (bannerDiscipline fine).Holds (BannerProgram.createStore store draws)
      ((bannerDiscipline fine).Commits BannerBoard.Constraints) {} board := by
  refine Discipline.Holds.flush (holds_createBannerJob (fun now job => ?_) fun now number => ?_)
  · exact BannerStep.opened.ends
  · exact BannerStep.created.ends

theorem holds_regenerateStoreBanner (settings : BannerSettings) (subject storeId : UUID) (key : String)
    (draws : BannerDraws) :
    (bannerDiscipline fine).Holds (BannerProgram.regenerateStoreBanner settings subject storeId key draws)
      ((bannerDiscipline fine).Commits BannerBoard.Constraints) {} board := by
  refine holds_ownedStore fun now user store sound own => ?_
  refine Discipline.Holds.query fun now later => ?_
  split
  · exact holds_nothing rfl
  · refine Discipline.Holds.query fun now _ => holds_required fun _ => ?_
    refine holds_createBannerJob (fun now job => holds_nothing rfl) fun now number => ?_
    exact BannerStep.drafted.ends

/-- A version that an acceptance may choose, locked with its store. -/
theorem holds_acceptStoreBanner (subject storeId versionId : UUID) (revision : Nat) :
    (bannerDiscipline fine).Holds (BannerProgram.acceptStoreBanner subject storeId versionId revision)
      ((bannerDiscipline fine).Commits BannerBoard.Constraints) {} board := by
  refine holds_ownedStore fun now user store sound own => ?_
  refine holds_selectForUpdate (fun now locks _ _ => ?_) fun now version _ read => ?_
  · exact holds_found fun held none => nomatch none
  refine holds_found fun held same => holds_required fun ready => ?_
  cases same
  obtain ⟨stored, owner⟩ := Option.filter_eq_some_iff.mp read
  have own : version.id = versionId := lookup_col stored
  have owner : store.id = version.storeId := (of_decide_eq_true owner).symm
  subst own
  rw [owner]
  refine holds_selectForUpdate (fun last locks later absent => ?_) fun last selection later present => ?_
  · have held := later.1.versions version.id version List.mem_cons_self stored
    change (bannerDiscipline fine).Holds (BannerProgram.ensureSelection version.storeId >>= _) _ _ last
    rw [Discipline.holds_bind]
    refine Discipline.Holds.query fun settled since => ?_
    have still := since.1.versions version.id version (by simp) held
    have missing := since.1.unselected version.storeId (by simp [← owner, ‹store.id = storeId›]) absent
    dsimp only [id]
    rw [missing]
    refine Discipline.Holds.flush (Discipline.holds_pure _ |>.mpr (holds_required fun agreed => ?_))
    refine Discipline.Holds.flush (Discipline.Holds.flush ?_)
    have agreed : 0 = revision := agreed
    subst agreed
    exact (BannerStep.acceptedFirst (by simp) still ready.2 (by simp [← owner, ‹store.id = storeId›]) missing).ends
  · have held := later.1.versions version.id version List.mem_cons_self stored
    refine holds_required fun agreed => Discipline.Holds.flush (Discipline.Holds.flush ?_)
    subst agreed
    exact (BannerStep.accepted (by simp) held ready.2 (by simp) present).ends

theorem holds_moderateStoreBanner (subject versionId : UUID) (action : ModerationAction) (now : Instant) :
    (bannerDiscipline fine).Holds (BannerProgram.moderateStoreBanner subject versionId action now)
      ((bannerDiscipline fine).Commits BannerBoard.Constraints) {} board := by
  refine Discipline.Holds.query fun first _ => ?_
  rw [Discipline.holds_bind, Discipline.holds_ofExcept]
  intro admin _
  refine holds_selectForUpdate (fun now locks _ _ => ?_) fun now version _ stored => ?_
  · exact holds_found fun held none => nomatch none
  refine holds_found fun held same => holds_required fun ready => ?_
  cases same
  have own : version.id = versionId := lookup_col stored
  subst own
  refine holds_selectForUpdate (fun last locks later absent => ?_) fun last selection later present => ?_
  · have held := later.1.versions version.id version List.mem_cons_self stored
    refine Discipline.Holds.flush ?_
    refine BannerStep.ends (.moderated (by simp) held ready fun _ => later.2.unshown held ?_)
    intro selection found
    cases absent.symm.trans found
  · have held := later.1.versions version.id version List.mem_cons_self stored
    refine Discipline.Holds.flush ?_
    split
    · next other shown =>
      obtain ⟨same, chosen⟩ := Option.filter_eq_some_iff.mp shown
      obtain ⟨refuses, active⟩ := of_decide_eq_true chosen
      cases same
      refine Discipline.Holds.flush (BannerStep.ends ?_)
      exact .cleared (by simp) held refuses (by simp) present active
    · next hidden =>
      refine BannerStep.ends (.moderated (by simp) held ready fun refuses => later.2.unshown held ?_)
      intro other found active
      cases present.symm.trans found
      exact absurd (decide_eq_true ⟨refuses, active⟩) (Option.filter_eq_none_iff.mp hidden _ rfl)

/-- A job that is claimed is locked, and due. -/
theorem holds_claimFirst {next : Option BannerGenerationJob → BannerProgram β} (now : Instant)
    (jobId : Option UUID) (jobs : List BannerGenerationJob)
    (none : ∀ last held, (bannerDiscipline fine).Later footing board last →
      (bannerDiscipline fine).Holds (next none) post { footing with held := held ++ footing.held } last)
    (claimed : ∀ last held job, (bannerDiscipline fine).Later footing board last →
      (footing.change last).job? job.id = some job → job.Due now jobId →
        (bannerDiscipline fine).Holds (next (some job)) post
          { footing with held := .job job.id :: (held ++ footing.held) } last)
    (sound : BannerSound board) :
    (bannerDiscipline fine).Holds (BannerProgram.claimFirst now jobId jobs >>= next) post footing board := by
  induction jobs generalizing footing board with
  | nil => exact none board [] (.refl sound)
  | cons job jobs ih =>
    rw [Discipline.holds_bind, BannerProgram.claimFirst, Discipline.holds_bind, Discipline.holds_lockOne]
    intro last later row taken
    cases row with
    | none =>
      rw [← Discipline.holds_bind]
      refine ih (fun next held after => none next held (later.trans after)) ?_ later.2
      exact fun next held other after => claimed next held other (later.trans after)
    | some lock =>
      cases List.mem_singleton.mp (taken lock rfl)
      refine Discipline.Holds.query fun locked since => ?_
      have reached := later.trans since.weaken
      split
      · rw [← Discipline.holds_bind]
        refine ih (fun next held after => ?_) (fun next held other after there due => ?_) since.2
        · have whole := none next (held ++ [.job job.id]) (reached.trans after.weaken)
          rwa [List.append_assoc] at whole
        · have whole := claimed next (held ++ [.job job.id]) other (reached.trans after.weaken) there due
          rwa [List.append_assoc] at whole
      · next other found =>
        obtain ⟨there, due⟩ := Option.filter_eq_some_iff.mp found
        have own : other.id = job.id := lookup_col there
        have whole := claimed locked [] other reached (own ▸ there) (of_decide_eq_true due)
        rwa [own] at whole

theorem holds_processDueBannerJob (jobId : Option UUID) (interrupted : Bool) (draws : BannerDraws) :
    (bannerDiscipline fine).Holds (BannerProgram.processDueBannerJob jobId interrupted draws)
      ((bannerDiscipline fine).Commits BannerBoard.Constraints) {} board := by
  unfold BannerProgram.processDueBannerJob
  rw [Discipline.holds_bind]
  refine Discipline.Holds.query fun due later => ?_
  rw [← Discipline.holds_bind]
  refine holds_claimFirst _ _ _ (fun last held _ => ?_) (fun last held job _ stored due => ?_) later.2
  · exact holds_nothing rfl
  refine Discipline.Holds.query fun first since => ?_
  refine Discipline.Holds.query fun second after => ?_
  refine Discipline.Holds.query fun third past => ?_
  split
  · next version store merchant found _ _ =>
    have own : version.id = job.versionId := lookup_col found
    rw [Discipline.holds_bind, Discipline.holds_query]
    intro fourth placed
    rw [Discipline.holds_bind, Discipline.holds_query]
    intro fifth sorted
    dsimp only
    generalize bannerManifest store _ _ = manifest
    refine Discipline.Holds.branch (fun valid => ?_) fun _ => ?_
    · refine Discipline.Holds.lockRow fun locked ends => ?_
      refine Discipline.Holds.flush (Discipline.Holds.flush (Discipline.Holds.flush ?_))
      have reached := since.trans (after.trans (past.trans (placed.trans (sorted.trans ends))))
      have claimed := reached.1.jobs job.id job List.mem_cons_self stored
      rw [own]
      exact BannerStep.ends (.finished (by simp) claimed due.unfinished valid.1 List.mem_cons_self)
    · exact holds_nothing rfl
  · exact holds_nothing rfl

theorem holds_recordBannerFailure (settings : BannerSettings) (jobId : UUID) (now : Instant) :
    (bannerDiscipline fine).Holds (BannerProgram.recordBannerFailure settings jobId now)
      ((bannerDiscipline fine).Commits BannerBoard.Constraints) {} board := by
  refine holds_selectForUpdate (fun now locks _ _ => ?_) fun first job _ stored => ?_
  · exact holds_nothing rfl
  have own : job.id = jobId := lookup_col stored
  subst own
  refine Discipline.Holds.remember fun second noted => ?_
  refine Discipline.Holds.query fun third later => Discipline.Holds.flush ?_
  have claimed := (noted.trans later).1.jobs job.id job List.mem_cons_self stored
  split
  · next missing =>
    obtain ⟨version, listed, same⟩ := later.2.declared.jobParents job (lookup_mem claimed)
    exact absurd same (lookup_eq_none_iff.mp missing version listed)
  · next version found =>
    have own : version.id = job.versionId := lookup_col found
    refine Discipline.Holds.lockRow fun fourth last => Discipline.Holds.flush ?_
    have held := last.1.jobs job.id job List.mem_cons_self claimed
    rw [own]
    refine (Discipline.holds_pure _).mpr (BannerStep.commits (.failed ?_ held List.mem_cons_self) ?_ _)
    · exact List.mem_cons_of_mem _ List.mem_cons_self
    · rintro _ ⟨⟩
      exact List.mem_cons_self

end BannerProgram
end

/-! ## The rest of the program -/

/-- A commit that writes no banner: the catalogue, its places, the outbox. -/
@[mk_iff]
structure LeavesBanners (before after : BannerBoard) : Prop where
  stores : Unique Store.id after.marketplace.catalogue.stores
  versions : after.versions = before.versions
  jobs : after.jobs = before.jobs
  selections : after.selections = before.selections
  accepted : after.accepted = before.accepted

instance (before after : BannerBoard) : Decidable (LeavesBanners before after) :=
  decidable_of_iff _ (leavesBanners_iff before after).symm

theorem LeavesBanners.sound (leaves : LeavesBanners before after) (sound : BannerSound before) :
    BannerSound after where
  toBannerHistory := by
    refine sound.toBannerHistory.kept leaves.selections leaves.accepted fun version _ held approved => ?_
    refine ⟨version, ?_, rfl, approved⟩
    unfold BannerBoard.version? at held ⊢
    rw [leaves.versions]
    exact held
  declared := by
    have declared := sound.declared
    rw [BannerBoard.constraints_iff] at declared ⊢
    rw [leaves.versions, leaves.jobs, leaves.selections]
    exact ⟨leaves.stores, declared.2⟩

theorem LeavesBanners.rely (leaves : LeavesBanners before after) (held : List BannerLock) :
    BannerRely held before after := by
  refine .update (fun id version _ stored => ?_) (fun id job _ stored => ?_) leaves.selections
  · unfold BannerBoard.version? at stored ⊢
    rw [leaves.versions]
    exact stored
  · unfold BannerBoard.job? at stored ⊢
    rw [leaves.jobs]
    exact stored

abbrev BannerState := ReadCommitted.State BannerBoard BannerLock BannerNote HTTPException BannerReply

abbrev BannerAction := ReadCommitted.Action BannerBoard BannerRequest

/-- The rest of the program leaves the banners alone. -/
def BannersUndisturbed (state : BannerState) : BannerAction → Prop
  | .other after => LeavesBanners state.database after
  | _ => True

/-- And a failure is recorded only of a job whose status is fine. -/
def BannersFine (fine : BannerJobStatus → Prop) (state : BannerState) : BannerAction → Prop
  | .other after => LeavesBanners state.database after
  | .advance index => ∀ footing ∈ state.sessions[index]?.bind Session.committing,
      ∀ note ∈ footing.notes, ∀ job ∈ state.database.job? note.jobId, fine job.status
  | _ => True

instance (state : BannerState) : (action : BannerAction) → Decidable (BannersUndisturbed state action)
  | .other _ => inferInstanceAs (Decidable (LeavesBanners _ _))
  | .start _ | .advance _ | .abort _ => .isTrue trivial

instance (fine : BannerJobStatus → Prop) [DecidablePred fine] (state : BannerState) :
    (action : BannerAction) → Decidable (BannersFine fine state action)
  | .other _ => inferInstanceAs (Decidable (LeavesBanners _ _))
  | .advance _ => inferInstanceAs (Decidable (∀ footing ∈ _, ∀ note ∈ _, ∀ job ∈ _, _))
  | .start _ | .abort _ => .isTrue trivial

theorem banners_upheld (settings : BannerSettings) (fine : BannerJobStatus → Prop) :
    Discipline.Upheld (bannerService settings) (bannerDiscipline fine) (BannersFine fine) where
  starts state request _ sound := by
    cases request with
    | createStore store draws => exact BannerProgram.holds_createStore store draws
    | regenerate subject storeId key draws => exact BannerProgram.holds_regenerateStoreBanner settings subject storeId key draws
    | accept subject storeId versionId revision => exact BannerProgram.holds_acceptStoreBanner subject storeId versionId revision
    | moderate subject versionId action now => exact BannerProgram.holds_moderateStoreBanner subject versionId action now
    | processDue jobId interrupted draws => exact BannerProgram.holds_processDueBannerJob jobId interrupted draws
    | recordFailure jobId now => exact BannerProgram.holds_recordBannerFailure settings jobId now
  others state after leaves sound := ⟨leaves.sound sound, fun held _ => leaves.rely held⟩
  admitted state index value footing admitted standing := by
    refine admitted footing ?_
    rw [standing]
    exact Option.mem_some_self _
  separated state index value footing _ _ other program standing _ _ apart :=
    fun lock mine theirs => apart lock mine lock theirs rfl

/-- What a step of a run does to the board. -/
theorem banner_step {settings : BannerSettings} {fine : BannerJobStatus → Prop} {start : BannerBoard}
    {state : BannerState} {action : BannerAction} (sound : BannerSound start)
    (reached : System.ReachableWhile ((bannerService settings).system start) (BannersFine fine) state)
    (admitted : BannersFine fine state action) :
    LeavesBanners state.database ((bannerService settings).step state action).database ∨
      BannerMoves fine state.database ((bannerService settings).step state action).database := by
  have safe := (banners_upheld settings fine).safe sound reached
  have still (same : ((bannerService settings).step state action).database = state.database) :
      LeavesBanners state.database ((bannerService settings).step state action).database := by
    rw [same]
    exact ⟨safe.invariant.declared.storeIds, rfl, rfl, rfl, rfl⟩
  cases action with
  | start request => exact .inl (still rfl)
  | abort index => exact .inl (still rfl)
  | other after => exact .inl admitted
  | advance index =>
    rcases safe.advance (banners_upheld settings fine) admitted with same | same | moves
    · exact .inl (still same)
    · exact .inl (still same)
    · exact .inr moves

end GaonOne
