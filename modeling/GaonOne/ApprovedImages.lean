import GaonOne.MediaAdmission

/-! An approved image exists. The public store is outside the transaction, and a
worker takes its object back after its locks are gone; what keeps the image of an
approved asset is that a key belongs to one asset and that no worker that may
still delete it worked on an asset that is approved. Migration 0023 refuses every
commit that would approve an asset, because of the state its job gets, so the approved
assets are those of the start. -/
namespace GaonOne
open Relational Transitions

variable {settings : MediaSettings} {libraries : MediaLibraries} {database : MediaDatabase}
  {store : PublicStore} {world : MediaWorld} {worker : Nat}

/-! ## Keys and objects -/

/-- The key of a derivative names its asset. -/
theorem derivativeKey_injective {left right : ProductMediaAsset}
    (same : derivativeKey left = derivativeKey right) : left.id = right.id := by
  unfold derivativeKey at same
  have letters := congrArg String.toList same
  simp only [String.toList_append, List.append_assoc] at letters
  have listings := (List.append_cancel_left_eq ..).mp letters
  have lengths : (uuidText left.storeProductId).toList.length =
      (uuidText right.storeProductId).toList.length := by
    rw [String.length_toList, String.length_toList, length_uuidText, length_uuidText]
  obtain ⟨-, rest⟩ := List.append_inj listings lengths
  have names := (List.append_cancel_left_eq ..).mp rest
  exact uuidText_injective (String.toList_inj.mp ((List.append_cancel_right_eq ..).mp names))

theorem PublicStore.get_delete (differ : other ≠ key) (store : PublicStore) :
    (store.delete key).get other = store.get other := by
  simp only [get, delete, lookup, List.find?_filter]
  congr 2
  funext object
  by_cases found : object.key = other
  · simp [found, differ]
  · simp [found]

theorem PublicStore.get_put (differ : other ≠ key) (store : PublicStore) (content : Content) :
    (store.put key content).get other = store.get other := by
  rw [← get_delete differ store]
  simp [get, put, lookup, Ne.symm differ]

theorem publishDerivative_get {replies : MediaReplies} {derivative : SafeDerivative} {now : Instant}
    (elsewhere : key ≠ derivativeKey asset) :
    (publishDerivative libraries store asset derivative replies now).2.get key = store.get key := by
  unfold publishDerivative
  generalize derivativeKey asset = own at *
  split
  · rfl
  · exact PublicStore.get_put elsewhere store _
  · exact PublicStore.get_delete elsewhere store
  · dsimp only
    split
    · exact PublicStore.get_put elsewhere store _
    · dsimp only
      split
      · exact (PublicStore.get_delete elsewhere _).trans (PublicStore.get_put elsewhere store _)
      · exact PublicStore.get_put elsewhere store _

/-- Processing an asset touches no object but its own. -/
theorem processQuarantinedAsset_get {replies : MediaReplies} {now : Instant}
    (elsewhere : key ≠ derivativeKey asset) :
    (processQuarantinedAsset settings libraries store asset replies now).2.get key = store.get key := by
  unfold processQuarantinedAsset
  split
  · rfl
  split
  · rfl
  split
  · rfl
  split
  · rfl
  · rfl
  · split
    · rfl
    · rfl
    · exact publishDerivative_get elsewhere

/-! ## Assets -/

/-- What a commit leaves of the assets: no key, no checksum and no approval is new. -/
structure AssetsKept (before after : MediaTables) : Prop where
  earlier : ∀ asset ∈ after.assets, ∃ old ∈ before.assets,
    derivativeKey old = derivativeKey asset ∧ old.publicObjectKey = asset.publicObjectKey ∧
      old.derivativeSha256 = asset.derivativeSha256 ∧
      (asset.state = .approved → old.state = .approved)
  later : ∀ old ∈ before.assets, old.state ≠ .approved → ∃ asset ∈ after.assets,
    derivativeKey asset = derivativeKey old ∧ asset.state ≠ .approved

theorem AssetsKept.of_eq (same : after.assets = before.assets) : AssetsKept before after :=
  ⟨fun asset held => ⟨asset, same ▸ held, rfl, rfl, rfl, id⟩,
    fun old held other => ⟨old, same ▸ held, rfl, other⟩⟩

theorem expire_assets {jobs : List ProductMediaJob} {db : MediaTables} :
    (jobs.foldl (fun db job => db.putJob (exhaustedJob job)) db).assets = db.assets := by
  induction jobs generalizing db with
  | nil => rfl
  | cons first rest ih => exact ih

/-- A publication that the schema takes is a rejection, or changes nothing. -/
theorem Published.assetsKept {db : MediaTables}
    (published : Published libraries original asset result) (kept : db.Constraints)
    (held : original ∈ db.assets) (unapproved : original.state ≠ .approved)
    (other : result.outcome ≠ .approved) : AssetsKept db (db.putAsset asset) := by
  have same : asset.id = original.id := published.id_eq
  have shape : derivativeKey original = derivativeKey asset ∧
      original.publicObjectKey = asset.publicObjectKey ∧
      original.derivativeSha256 = asset.derivativeSha256 ∧ asset.state ≠ .approved := by
    cases published with
    | kept => exact ⟨rfl, rfl, rfl, unapproved⟩
    | rejected quarantined short => exact ⟨rfl, rfl, rfl, by simp [rejectedAsset]⟩
    | approved quarantined positive => exact absurd rfl other
  obtain ⟨key, public_, sha, state⟩ := shape
  constructor
  · intro row member
    rcases mem_put.mp member with ⟨rfl, _⟩ | ⟨inside, _⟩
    · exact ⟨original, held, key, public_, sha, fun approved => absurd approved state⟩
    · exact ⟨row, inside, rfl, rfl, rfl, id⟩
  · intro old inside others
    by_cases here : old.id = asset.id
    · have sole := unique_eq kept.assetIds inside held (here.trans same)
      exact ⟨asset, mem_put.mpr (Or.inl ⟨rfl, old, inside, here⟩), sole ▸ key.symm, state⟩
    · exact ⟨old, mem_put.mpr (Or.inr ⟨inside, here⟩), rfl, others⟩

/-! ## The invariant -/

/-- Every approved asset has its image: an object under its key, with its checksum. -/
def MediaWorld.ApprovedImages (libraries : MediaLibraries) (world : MediaWorld) : Prop :=
  ∀ asset ∈ world.tables.assets, asset.state = .approved → ∃ key content,
    asset.publicObjectKey = some key ∧ world.store.get key = some content ∧
      asset.derivativeSha256 = some (libraries.sha256 content)

/-- A public key is the one the pipeline gives its asset. -/
def MediaTables.OwnKeys (db : MediaTables) : Prop :=
  ∀ asset ∈ db.assets, ∀ key, asset.publicObjectKey = some key → key = derivativeKey asset

/-- The object a worker is going to delete belongs to an asset that is not approved. -/
def MediaWorker.Deletes (db : MediaTables) : MediaWorker → Prop
  | rolledBack _ (some key) _ =>
    ∃ asset ∈ db.assets, asset.state ≠ .approved ∧ key = derivativeKey asset
  | _ => True

structure MediaWorld.Images (libraries : MediaLibraries) (world : MediaWorld) : Prop where
  sessions : world.Sessions libraries
  images : world.ApprovedImages libraries
  keys : world.tables.OwnKeys
  deletes : ∀ (worker : Nat) state, world.workers[worker]? = some state → state.Deletes world.tables

/-- An approved asset is not one that a worker may be processing. -/
theorem MediaWorld.Images.unapproved (images : world.Images libraries)
    (held : asset ∈ world.tables.assets) (unrecovered : ¬asset.Recovered) (open_ : ¬asset.Closed) :
    asset.state ≠ .approved := by
  intro approved
  obtain ⟨key, content, public_, -, sha⟩ := images.images asset held approved
  have own := images.keys asset held key public_
  apply unrecovered
  refine ⟨approved, ?_, ?_, ?_⟩
  · rw [public_, own]
    exact filled_of_length (by rw [length_derivativeKey]; omega)
  · rw [sha]
    exact filled_of_length (by rw [libraries.length_sha256]; omega)
  · cases retired : asset.retiredAt with
    | none => rfl
    | some instant => exact absurd (Or.inr (Or.inr (by rw [retired]; rfl))) open_

/-- The images of approved assets are under other keys. -/
theorem MediaWorld.Images.elsewhere (images : world.Images libraries)
    (held : asset ∈ world.tables.assets) (unapproved : asset.state ≠ .approved)
    (other : approved ∈ world.tables.assets) (state : approved.state = .approved)
    (public_ : approved.publicObjectKey = some key) : key ≠ derivativeKey asset := by
  intro same
  have named := derivativeKey_injective (same.symm.trans (images.keys approved other key public_))
  have kept : world.tables.Constraints := world.database.constraints
  have sole := unique_eq kept.assetIds held other named
  exact unapproved (sole ▸ state)

/-! ## Steps -/

theorem MediaWorld.ApprovedImages.transport {after : MediaWorld}
    (images : world.ApprovedImages libraries)
    (assets : AssetsKept world.tables after.tables)
    (objects : ∀ asset ∈ world.tables.assets, asset.state = .approved → ∀ key,
      asset.publicObjectKey = some key → after.store.get key = world.store.get key) :
    after.ApprovedImages libraries := by
  intro asset held approved
  obtain ⟨old, inside, -, public_, sha, before⟩ := assets.earlier asset held
  obtain ⟨key, content, here, stored, sum⟩ := images old inside (before approved)
  refine ⟨key, content, public_ ▸ here, ?_, sha ▸ sum⟩
  rw [objects old inside (before approved) key here]
  exact stored

theorem MediaTables.OwnKeys.transport (keys : MediaTables.OwnKeys before)
    (assets : AssetsKept before after) : after.OwnKeys := by
  intro asset held key public_
  obtain ⟨old, inside, own, same, -⟩ := assets.earlier asset held
  exact (keys old inside key (same.trans public_)).trans own

theorem MediaWorker.Deletes.transport {state : MediaWorker} (deletes : state.Deletes before)
    (assets : AssetsKept before after) : state.Deletes after := by
  cases state with
  | rolledBack claim key error =>
    cases key with
    | none => trivial
    | some key =>
      obtain ⟨old, inside, unapproved, own⟩ := deletes
      obtain ⟨asset, held, same, state⟩ := assets.later old inside unapproved
      exact ⟨asset, held, state, own.trans same.symm⟩
  | _ => trivial

/-- What the schema takes from a worker leaves keys, checksums and approvals. -/
theorem MediaWorld.Images.pending_assetsKept {state step} (images : world.Images libraries)
    (here : world.workers[worker]? = some state)
    (planned : world.plan settings libraries worker state step =
      .commit pending fate returned raised) (taken : pending.Constraints) :
    AssetsKept world.tables pending := by
  have kept : world.tables.Constraints := world.database.constraints
  have disapproved := (images.sessions.pending_constraints_iff here planned).mp taken
  unfold plan at planned
  split at planned
  case h_1 =>
    split at planned <;> cases planned
    exact .of_eq expire_assets
  case h_2 =>
    split at planned
    · next claimed =>
      split at planned <;> cases planned
      obtain ⟨-, -, -, -, -, rfl⟩ := claimDueMediaJob_spec claimed
      exact .of_eq rfl
    · cases planned
  case h_3 =>
    split at planned
    · cases planned
    · split at planned <;> cases planned
      exact .of_eq rfl
  case h_5 claim job asset result now fate =>
    obtain ⟨-, original, inside, -, unrecovered, open_, published⟩ :=
      images.sessions.rows worker _ here
    split at planned
    · cases planned
    · next complete =>
      split at planned
      · next live =>
        cases planned
        have other : result.outcome ≠ .approved := by
          intro approving
          have own := (published.outcome_iff unrecovered open_ complete).mp approving
          exact disapproved ⟨claim, job, asset, own ▸ here, live⟩
        have between :=
          published.assetsKept kept inside (images.unapproved inside unrecovered open_) other
        exact ⟨between.earlier, between.later⟩
      · cases planned
  case h_7 =>
    split at planned
    · cases planned
    · split at planned
      · cases planned
      · split at planned <;> cases planned
        exact .of_eq rfl
  all_goals
    first
    | cases planned
    | split at planned <;> cases planned

theorem Published.publicObjectKey_eq (published : Published libraries original asset result) :
    asset.publicObjectKey = original.publicObjectKey ∨
      asset.publicObjectKey = some (derivativeKey original) := by
  cases published with
  | kept => exact Or.inl rfl
  | rejected quarantined short => exact Or.inl rfl
  | approved quarantined positive => exact Or.inr rfl

/-- A worker that gives up a publication deletes what it put, and nothing else. -/
theorem MediaWorld.Images.gives_up (images : world.Images libraries)
    (here : world.workers[worker]? = some (.published claim job asset result))
    (error : Option MediaException) :
    (MediaWorker.rolledBack claim asset.publicObjectKey error).Deletes world.tables := by
  obtain ⟨-, original, inside, -, unrecovered, open_, published⟩ := images.sessions.rows worker _ here
  have unapproved := images.unapproved inside unrecovered open_
  cases public_ : asset.publicObjectKey with
  | none => trivial
  | some key =>
    refine ⟨original, inside, unapproved, ?_⟩
    rcases published.publicObjectKey_eq with before | own
    · exact images.keys original inside key (before.symm.trans public_)
    · exact Option.some.inj (public_.symm.trans own)

/-- A step outside commits touches no image, and a worker that rolls back will delete
the object of an asset that is not approved. -/
theorem MediaWorld.Images.plan_become {state step} (images : world.Images libraries)
    (here : world.workers[worker]? = some state)
    (planned : world.plan settings libraries worker state step = .become next store) :
    next.Deletes world.tables ∧ ∀ asset ∈ world.tables.assets, asset.state = .approved → ∀ key,
      asset.publicObjectKey = some key → store.get key = world.store.get key := by
  have same : ∀ asset ∈ world.tables.assets, asset.state = .approved → ∀ key,
      asset.publicObjectKey = some key → world.store.get key = world.store.get key :=
    fun _ _ _ _ _ => rfl
  unfold plan at planned
  split at planned
  case h_1 =>
    split at planned <;> cases planned
    exact ⟨trivial, same⟩
  case h_2 =>
    split at planned
    · split at planned <;> cases planned
      exact ⟨trivial, same⟩
    · cases planned
      exact ⟨trivial, same⟩
  case h_3 =>
    split at planned
    · cases planned
      exact ⟨trivial, same⟩
    · split at planned <;> cases planned
      · exact ⟨trivial, same⟩
      · exact ⟨trivial, same⟩
  case h_4 claim job asset replies now =>
    obtain ⟨-, inside, unrecovered, open_⟩ := images.sessions.rows worker _ here
    have unapproved := images.unapproved inside unrecovered open_
    have untouched : ∀ approved ∈ world.tables.assets, approved.state = .approved → ∀ key,
        approved.publicObjectKey = some key →
        (processQuarantinedAsset settings libraries world.store asset replies now).2.get key =
          world.store.get key := fun approved held state key public_ =>
      processQuarantinedAsset_get (images.elsewhere inside unapproved held state public_)
    split at planned
    · next processed =>
      cases planned
      rw [processed] at untouched
      exact ⟨trivial, untouched⟩
    · next processed =>
      cases planned
      rw [processed] at untouched
      exact ⟨trivial, untouched⟩
  case h_5 =>
    split at planned
    · cases planned
      exact ⟨images.gives_up here _, same⟩
    · split at planned <;> cases planned
      exact ⟨images.gives_up here _, same⟩
  case h_6 claim key error deleted =>
    cases planned
    refine ⟨by cases error <;> trivial, ?_⟩
    intro approved held state public_ own
    cases key with
    | none => rfl
    | some key =>
      obtain ⟨asset, inside, unapproved, rfl⟩ := images.deletes worker _ here
      have elsewhere := images.elsewhere inside unapproved held state own
      split
      · next found =>
        split
        · have named := Option.mem_filter_iff.mp found
          cases named.1
          exact PublicStore.get_delete elsewhere world.store
        · rfl
      · rfl
  case h_7 =>
    split at planned
    · cases planned
      exact ⟨trivial, same⟩
    · split at planned
      · cases planned
        exact ⟨trivial, same⟩
      · split at planned <;> cases planned
        exact ⟨trivial, same⟩
  case h_8 =>
    cases planned
    exact ⟨trivial, same⟩
  case h_9 =>
    cases planned
    exact ⟨images.deletes worker _ here, same⟩

theorem MediaWorld.Images.plan_commit {state step} (images : world.Images libraries)
    (here : world.workers[worker]? = some state)
    (planned : world.plan settings libraries worker state step =
      .commit pending fate returned raised) :
    returned.Deletes world.tables ∧ raised.Deletes world.tables := by
  unfold plan at planned
  split at planned
  case h_1 =>
    split at planned <;> cases planned
    exact ⟨trivial, trivial⟩
  case h_2 =>
    split at planned
    · split at planned <;> cases planned
      exact ⟨trivial, trivial⟩
    · cases planned
  case h_3 =>
    split at planned
    · cases planned
    · split at planned <;> cases planned
      exact ⟨trivial, trivial⟩
  case h_4 => split at planned <;> cases planned
  case h_5 =>
    split at planned
    · cases planned
    · split at planned <;> cases planned
      exact ⟨trivial, images.gives_up here _⟩
  case h_7 =>
    split at planned
    · cases planned
    · split at planned
      · cases planned
      · split at planned <;> cases planned
        exact ⟨trivial, trivial⟩
  all_goals cases planned

/-- The tables after a commit, for what a commit leaves of the assets. -/
theorem MediaDatabase.commit_assetsKept (database : MediaDatabase) (fate : CommitFate)
    (kept : pending.Constraints → AssetsKept database.tables pending) :
    AssetsKept database.tables (database.commit pending fate).1.tables := by
  have written : ∀ taken : pending.Constraints, AssetsKept database.tables
      (MediaDatabase.mk pending taken).tables := fun taken => kept taken
  cases fate with
  | fails => exact .of_eq rfl
  | _ =>
    simp only [commit]
    split
    · next taken => exact written taken
    · exact .of_eq rfl

theorem MediaWorld.Images.step_images (images : world.Images libraries) (action : MediaAction) :
    (world.step settings libraries action).Images libraries := by
  have sessions : (world.step settings libraries action).Sessions libraries :=
    step_sessions images.sessions action
  cases action with
  | start =>
    refine ⟨sessions, images.images, images.keys, fun worker state there => ?_⟩
    simp only [step] at there
    rw [List.getElem?_append] at there
    split at there
    · exact images.deletes worker state there
    · rw [List.getElem?_singleton] at there
      split at there
      · cases there
        trivial
      · cases there
  | step worker step =>
    simp only [MediaWorld.step] at sessions ⊢
    split at sessions
    · next state here =>
      have inside : worker < world.workers.length := (List.getElem?_eq_some_iff.mp here).1
      have deletes : ∀ {after : MediaTables} {next : MediaWorker},
          AssetsKept world.tables after → next.Deletes world.tables →
          ∀ (other : Nat) held, (world.workers.set worker next)[other]? = some held →
            held.Deletes after := by
        intro after next assets own other held there
        by_cases same : other = worker
        · subst same
          rw [List.getElem?_set_self inside] at there
          exact Option.some.inj there ▸ own.transport assets
        · rw [List.getElem?_set_ne (Ne.symm same)] at there
          exact (images.deletes other held there).transport assets
      cases planned : world.plan settings libraries worker state step with
      | become next store =>
        rw [planned] at sessions
        obtain ⟨own, objects⟩ := images.plan_become here planned
        exact ⟨sessions, images.images.transport (.of_eq rfl) objects, images.keys,
          deletes (.of_eq rfl) own⟩
      | commit pending fate returned raised =>
        rw [planned] at sessions
        have assets := world.database.commit_assetsKept fate
          (images.pending_assetsKept here planned)
        obtain ⟨success, failure⟩ := images.plan_commit here planned
        refine ⟨sessions, images.images.transport assets fun _ _ _ _ _ => rfl,
          images.keys.transport assets, deletes assets ?_⟩
        split
        · exact success
        · exact failure
    · exact images

/-- In every run of any number of workers, with expired leases, failed commits, lost
acknowledgements, retries and crashes: where the approved assets had their images, they
have them in every state. No worker adds an approved asset: the constraints of migration
0023, which every commit meets, refuse the job row of an approval. -/
theorem approved_images_exist (settings : MediaSettings) (libraries : MediaLibraries)
    (database : MediaDatabase) (store : PublicStore)
    (keys : database.tables.OwnKeys)
    (start : (mediaSystem settings libraries database store).initial.ApprovedImages libraries)
    (reached : (mediaSystem settings libraries database store).Reachable world) :
    world.ApprovedImages libraries := by
  have images : world.Images libraries := by
    refine reached.invariant ?_ fun world action images => images.step_images action
    exact ⟨reachable_sessions .initial, start, keys, fun _ _ here => by simp [mediaSystem] at here⟩
  exact images.images

/-! ## Two workers on one photograph -/

/-- Another photograph of the same listing, approved before. -/
def approvedPixel : ProductMediaAsset :=
  { approvedAsset pixelLibraries { pixelAsset with id := 7, sourceObjectKey := "quarantine/listings/2/7" }
      ⟨pixelDerivative, "image/webp", 1, 1⟩ 0 with
    position := 1 }

def pixelShelf : MediaDatabase :=
  ⟨⟨[approvedPixel, pixelAsset], [⟨3, 1, .queued, 0, none, none, none, 0⟩]⟩, by decide +kernel⟩

/-- The first worker publishes, and its lease runs out; the second leases the job,
publishes and fails to commit; only then does the first delete what it put. -/
def overlappingWorkers : List MediaAction :=
  [.start, .start, .step 0 (.claim [] 0 .commits), .step 0 (.lock 1 .commits),
    .step 0 (.publish pixelReplies 2), .step 0 (.finish (seconds 121) .commits),
    .step 1 (.claim [] (seconds 122) .commits), .step 1 (.lock (seconds 123) .commits),
    .step 1 (.publish pixelReplies (seconds 124)), .step 0 (.takeBack true),
    .step 1 (.finish (seconds 125) .commits), .step 1 (.takeBack true),
    .step 1 (.retry (seconds 126) .commits)]

theorem approved_images_exist_overlapping :
    ((mediaSystem {} pixelLibraries pixelShelf
      [⟨derivativeKey approvedPixel, pixelDerivative⟩]).run
        (mediaSystem {} pixelLibraries pixelShelf
          [⟨derivativeKey approvedPixel, pixelDerivative⟩]).initial
        overlappingWorkers).ApprovedImages pixelLibraries := by
  refine approved_images_exist {} pixelLibraries pixelShelf
    [⟨derivativeKey approvedPixel, pixelDerivative⟩] ?_ ?_ (System.Reachable.run .initial _)
  · intro asset held key public_
    rcases List.mem_pair.mp held with rfl | rfl
    · exact (Option.some.inj public_).symm
    · cases public_
  · intro asset held approved
    rcases List.mem_pair.mp held with rfl | rfl
    · exact ⟨derivativeKey approvedPixel, pixelDerivative, rfl, by decide +kernel, rfl⟩
    · cases approved

end GaonOne
