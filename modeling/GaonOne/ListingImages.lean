import GaonOne.Access
import GaonOne.ApprovedImages

/-! Uploading a listing's image. The endpoint numbers the new asset by the images it
counts as live; the unique index numbers by what is not retired. The two agree until
an image of the listing is rejected, and never again after that. -/
namespace GaonOne
open Relational UnitOfWork Transitions System

/-- The settings of the upload endpoint. -/
structure UploadSettings extends MediaSettings where
  mediaImageMaxPerListing : Nat := 8

/-- The file of an upload. -/
structure UploadFile where
  contentType : Option String
  content : Content

/-- What the rate limiter and the private storage answer one upload. -/
structure UploadReplies where
  admitted : Handler Unit
  /-- The digest and the size `put_quarantine` reports, unless it raises. -/
  quarantined : Option (String × Int)

def allowedImageTypes : List String := ["image/jpeg", "image/png", "image/webp"]

/-- `(content_type or "").split(";")[0].strip().lower()`. -/
def mimeOf (contentType : Option String) : String :=
  (Text.strip (String.ofList ((contentType.getD "").toList.takeWhile (· ≠ ';')))).toLower

/-- `_looks_like`. -/
def looksLike (content : Content) (mime : String) : Bool :=
  match mime with
  | "image/jpeg" => [0xff, 0xd8, 0xff].isPrefixOf content
  | "image/png" => [0x89, 0x50, 0x4e, 0x47, 0x0d, 0x0a, 0x1a, 0x0a].isPrefixOf content
  | "image/webp" => [0x52, 0x49, 0x46, 0x46].isPrefixOf content &&
      decide ((content.drop 8).take 4 = [0x57, 0x45, 0x42, 0x50])
  | _ => false

/-- The images of a listing that the endpoint counts. -/
def liveImages (db : MediaTables) (listingId : UUID) : List ProductMediaAsset :=
  db.assets.filter fun asset =>
    decide (asset.storeProductId = listingId ∧ asset.retiredAt = none ∧ asset.state ≠ .rejected)

/-- `quarantine/listings/{listing_id}/{asset_id.hex}`. -/
def quarantineKey (listingId assetId : UUID) : String :=
  "quarantine/listings/" ++ uuidText listingId ++ "/" ++
    String.ofList (Text.hexDigits 32 assetId.toNat)

/-- `new_quarantined_asset`, with what the endpoint sets afterwards. -/
def newQuarantinedAsset (assetId listingId : UUID) (key mime : String) (stored : String × Int)
    (position : Nat) : ProductMediaAsset where
  id := assetId
  storeProductId := listingId
  state := .quarantined
  sourceObjectKey := key
  sourceSha256 := stored.1
  detectedMime := some mime
  byteSize := some stored.2
  position := position
  isPrimary := false

/-- The listing's merchant, or an administrator with the capability. -/
def requireListingOwner (user : User) (merchant : Merchant) : Handler Unit :=
  if user.role = .admin then ensureCapability user .mediaModerate
  else require (merchant.ownerUserId = user.id) ⟨403, "You do not own this listing"⟩

/-- `POST /media/store-products/{listing_id}/images`; the listing's row is locked to the
end. What a broken constraint raises takes the private object back. -/
def queueListingImage (settings : UploadSettings) (market : Tables) (db : MediaTables)
    (subject listingId : UUID) (file : UploadFile) (replies : UploadReplies)
    (assetId jobId : UUID) (now : Instant) : Handler MediaTables := do
  let user ← getCurrentUser market subject
  requireRoles user [.merchant, .admin]
  require (settings.productMediaEnabled = true) ⟨503, "Product image processing is unavailable"⟩
  require (¬(settings.mediaStorageBackend = "local" ∧ settings.appEnv ∉ ["development", "test"]))
    ⟨503, "Secure production upload adapter is unavailable"⟩
  let listing ← found (lookup StoreProduct.id listingId market.catalogue.storeProducts)
    ⟨404, "Listing not found"⟩
  let store ← found (market.store? listing.storeId) ⟨404, "Listing not found"⟩
  let merchant ← found (market.merchant? store.merchantId) ⟨404, "Listing not found"⟩
  requireListingOwner user merchant
  replies.admitted
  let mime := mimeOf file.contentType
  require (mime ∈ allowedImageTypes) ⟨415, "Unsupported image format"⟩
  require (file.content ≠ [] ∧ file.content.length ≤ settings.mediaUploadMaxBytes)
    ⟨413, "Image exceeds configured size limit"⟩
  require (looksLike file.content mime) ⟨415, "Image signature mismatch"⟩
  let count := (liveImages db listingId).length
  require (count < settings.mediaImageMaxPerListing) ⟨409, "Listing image limit reached"⟩
  let key := quarantineKey listingId assetId
  let stored ← found replies.quarantined ⟨503, "Secure media storage is unavailable"⟩
  let asset := newQuarantinedAsset assetId listingId key mime stored count
  let db := { db with assets := db.assets ++ [asset] }
  let db :=
    if lookup ProductMediaJob.assetId assetId db.jobs = none then
      { db with jobs := db.jobs ++ [{ id := jobId, assetId := assetId, createdAt := now }] }
    else db
  require db.Constraints ⟨500, "IntegrityError"⟩
  pure db

/-! ## Uploads beside the workers -/

inductive ImageAction where
  | upload (subject listingId : UUID) (file : UploadFile) (replies : UploadReplies)
      (assetId jobId : UUID) (now : Instant)
  | work (action : MediaAction)

/-- An upload that raises leaves the rows as they were. -/
def imageStep (settings : UploadSettings) (libraries : MediaLibraries) (market : Tables)
    (world : MediaWorld) : ImageAction → MediaWorld
  | .upload subject listingId file replies assetId jobId now =>
    match queueListingImage settings market world.tables subject listingId file replies assetId jobId
      now with
    | .ok db => { world with database := (world.database.commit db .commits).1 }
    | .error _ => world
  | .work action => world.step settings.toMediaSettings libraries action

/-- Uploads and worker outcomes, from a database without images. -/
def imageSystem (settings : UploadSettings) (libraries : MediaLibraries) (market : Tables) :
    System MediaWorld ImageAction where
  initial := { database := ⟨{}, by decide⟩ }
  step := imageStep settings libraries market

variable {settings : UploadSettings} {libraries : MediaLibraries} {market : Tables}
  {world : MediaWorld} {db : MediaTables} {listingId : UUID}

/-! ## Where the images of a listing lie -/

/-- Listing and position of every row. -/
def MediaTables.places (db : MediaTables) : List (UUID × Int) :=
  db.assets.map fun asset => (asset.storeProductId, asset.position)

/-- The positions of one listing, in the order they were given. -/
def MediaTables.positions (db : MediaTables) (listingId : UUID) : List Int :=
  (db.places.filter fun place => decide (place.1 = listingId)).map Prod.snd

/-- A row that the endpoint or a worker may have left. -/
def ProductMediaAsset.Open (asset : ProductMediaAsset) : Prop :=
  asset.retiredAt = none ∧ asset.state ∈ [AssetState.quarantined, .approved, .rejected]

/-- Uploads number a listing's images from zero on without a gap; nothing retires one. -/
structure MediaTables.Numbered (db : MediaTables) : Prop where
  rows : ∀ asset ∈ db.assets, asset.Open
  positions : ∀ listingId,
    db.positions listingId = (List.range (db.positions listingId).length).map Int.ofNat

/-- The position the next upload gets is not taken in the unique index. -/
def SlotFree (db : MediaTables) (listingId : UUID) : Prop :=
  ∀ asset ∈ db.assets,
    asset.activePosition ≠ some (listingId, ((liveImages db listingId).length : Int))

theorem ProductMediaAsset.Open.activePosition {asset : ProductMediaAsset} (row : asset.Open) :
    asset.activePosition = some (asset.storeProductId, asset.position) := by
  unfold ProductMediaAsset.activePosition
  rw [if_neg]
  obtain ⟨-, state⟩ := row
  simp only [List.mem_cons, List.not_mem_nil, or_false] at state
  rcases state with same | same | same <;> simp [same]

/-- The images of a listing that were rejected. -/
def rejectedImages (db : MediaTables) (listingId : UUID) : List ProductMediaAsset :=
  db.assets.filter fun asset =>
    decide (asset.storeProductId = listingId ∧ asset.state = .rejected)

/-- Every numbered image is live or was rejected. -/
theorem MediaTables.Numbered.count (numbered : db.Numbered) (listingId : UUID) :
    (db.positions listingId).length =
      (liveImages db listingId).length + (rejectedImages db listingId).length := by
  have all : (db.positions listingId).length =
      (db.assets.filter fun asset => decide (asset.storeProductId = listingId)).length := by
    simp only [MediaTables.positions, MediaTables.places, List.filter_map, List.length_map]
    rfl
  rw [all, liveImages, rejectedImages]
  have rows := numbered.rows
  generalize db.assets = assets at rows
  induction assets with
  | nil => rfl
  | cons asset rest ih =>
    have tail := ih fun other member => rows other (List.mem_cons_of_mem _ member)
    have kept := (rows asset List.mem_cons_self).1
    by_cases own : asset.storeProductId = listingId <;>
      by_cases gone : asset.state = .rejected <;> simp [own, gone, kept] at tail ⊢ <;> omega

/-- A position is taken exactly when it is below the number of the listing's rows. -/
theorem MediaTables.Numbered.taken_iff (numbered : db.Numbered) (listingId : UUID) (count : Nat) :
    (∃ asset ∈ db.assets, asset.activePosition = some (listingId, (count : Int))) ↔
      count < (db.positions listingId).length := by
  have among : (count : Int) ∈ db.positions listingId ↔
      ∃ asset ∈ db.assets, asset.activePosition = some (listingId, (count : Int)) := by
    simp only [MediaTables.positions, MediaTables.places, List.mem_map, List.mem_filter, decide_eq_true_eq]
    constructor
    · rintro ⟨place, ⟨⟨asset, member, rfl⟩, own⟩, here⟩
      refine ⟨asset, member, ?_⟩
      rw [(numbered.rows asset member).activePosition]
      dsimp only at own here
      rw [own, here]
    · rintro ⟨asset, member, place⟩
      rw [(numbered.rows asset member).activePosition] at place
      obtain ⟨own, here⟩ := Prod.mk.inj (Option.some.inj place)
      exact ⟨_, ⟨⟨asset, member, rfl⟩, own⟩, here⟩
  rw [← among, numbered.positions listingId]
  simp

/-- The next position is free exactly when no image of the listing was rejected. -/
theorem MediaTables.Numbered.slotFree_iff (numbered : db.Numbered) (listingId : UUID) :
    SlotFree db listingId ↔
      ∀ asset ∈ db.assets, asset.storeProductId = listingId → asset.state ≠ .rejected := by
  have taken := numbered.taken_iff listingId (liveImages db listingId).length
  have count := numbered.count listingId
  have none : (rejectedImages db listingId).length = 0 ↔
      ∀ asset ∈ db.assets, asset.storeProductId = listingId → asset.state ≠ .rejected := by
    rw [List.length_eq_zero_iff, rejectedImages, List.filter_eq_nil_iff]
    simp
  rw [← none]
  unfold SlotFree
  constructor
  · intro free
    by_contra some
    obtain ⟨asset, member, place⟩ := taken.mpr (by omega)
    exact free asset member place
  · intro empty asset member place
    have below := taken.mp ⟨asset, member, place⟩
    omega

/-! ## What keeps the numbering -/

theorem MediaTables.Numbered.of_places (numbered : db.Numbered) {after : MediaTables}
    (rows : ∀ asset ∈ after.assets, asset.Open) (same : after.places = db.places) :
    after.Numbered := by
  refine ⟨rows, fun listingId => ?_⟩
  have kept : after.positions listingId = db.positions listingId := by
    rw [MediaTables.positions, MediaTables.positions, same]
  rw [kept]
  exact numbered.positions listingId

/-- A worker's outcome leaves the image where it is. -/
theorem Published.place (published : Published libraries original asset result)
    (row : original.Open) : asset.Open ∧ asset.storeProductId = original.storeProductId ∧
      asset.position = original.position := by
  cases published with
  | kept => exact ⟨row, rfl, rfl⟩
  | rejected => exact ⟨⟨row.1, by simp [rejectedAsset]⟩, rfl, rfl⟩
  | approved => exact ⟨⟨row.1, by simp [approvedAsset]⟩, rfl, rfl⟩

theorem Published.numbered (published : Published libraries original asset result)
    (numbered : db.Numbered) (ids : Unique ProductMediaAsset.id db.assets)
    (held : original ∈ db.assets) : (db.putAsset asset).Numbered := by
  obtain ⟨row, listing, position⟩ := published.place (numbered.rows original held)
  refine numbered.of_places ?_ ?_
  · intro other member
    rcases mem_put.mp member with ⟨rfl, -⟩ | ⟨before, -⟩
    · exact row
    · exact numbered.rows other before
  · have same : (asset.storeProductId, asset.position) = (original.storeProductId, original.position) := by
      rw [listing, position]
    exact map_put (kept_of_key ids held published.id_eq same)

/-- A transaction of a worker leaves the images alone, or publishes one. -/
theorem MediaWorld.Sessions.plan_numbered {settings : MediaSettings} {state step}
    (sessions : world.Sessions libraries) (here : world.workers[worker]? = some state)
    (planned : world.plan settings libraries worker state step =
      .commit pending fate returned raised) (numbered : world.tables.Numbered) : pending.Numbered := by
  have still : pending.assets = world.tables.assets → pending.Numbered := by
    intro same
    refine numbered.of_places (fun asset member => numbered.rows asset (same ▸ member)) ?_
    rw [MediaTables.places, same, MediaTables.places]
  unfold plan at planned
  split at planned
  · split at planned <;> cases planned
    exact still (expire_assets ..)
  · split at planned
    · next claimed =>
      split at planned <;> cases planned
      obtain ⟨-, -, -, -, -, rfl⟩ := claimDueMediaJob_spec claimed
      exact still rfl
    · cases planned
  · split at planned
    · cases planned
    · split at planned <;> cases planned
      exact still rfl
  · split at planned <;> cases planned
  · split at planned
    · cases planned
    · split at planned <;> cases planned
      obtain ⟨-, original, inside, -, -, -, published⟩ := sessions.rows worker _ here
      have saved := published.numbered numbered world.database.constraints.assetIds inside
      exact saved.of_places saved.rows rfl
  · cases planned
  · split at planned
    · cases planned
    · split at planned
      · cases planned
      · split at planned <;> cases planned
        exact still rfl
  · cases planned
  · cases planned

theorem MediaWorld.Sessions.step_numbered {settings : MediaSettings} (sessions : world.Sessions libraries)
    (numbered : world.tables.Numbered) (action : MediaAction) :
    (world.step settings libraries action).tables.Numbered := by
  cases action with
  | start => exact numbered
  | step worker step =>
    simp only [MediaWorld.step]
    split
    · next state here =>
      cases planned : world.plan settings libraries worker state step with
      | become next store => exact numbered
      | commit pending fate returned raised =>
        rcases world.database.commit_tables pending fate with written | lost
        · have after := sessions.plan_numbered here planned numbered
          rw [← written] at after
          exact after
        · simp only [MediaWorld.follow, MediaWorld.tables, lost]
          exact numbered
    · exact numbered

/-- The next number is free, so the new image gets it. -/
theorem MediaTables.Numbered.append (numbered : db.Numbered) {asset : ProductMediaAsset}
    {after : MediaTables} (assets : after.assets = db.assets ++ [asset]) (row : asset.Open)
    (next : asset.position = ((db.positions asset.storeProductId).length : Int)) : after.Numbered := by
  have places : after.places = db.places ++ [(asset.storeProductId, asset.position)] := by
    rw [MediaTables.places, assets, List.map_append, MediaTables.places]
    rfl
  refine ⟨fun other member => ?_, fun listingId => ?_⟩
  · rw [assets] at member
    rcases List.mem_append.mp member with before | last
    · exact numbered.rows other before
    · rw [List.mem_singleton.mp last]
      exact row
  · by_cases own : asset.storeProductId = listingId
    · subst own
      have longer : after.positions asset.storeProductId =
          db.positions asset.storeProductId ++ [asset.position] := by
        simp [MediaTables.positions, places, List.filter_append]
      rw [longer, List.length_append, List.length_singleton, List.range_succ, List.map_append,
        ← numbered.positions, next]
      rfl
    · have same : after.positions listingId = db.positions listingId := by
        simp [MediaTables.positions, places, List.filter_append, own]
      rw [same]
      exact numbered.positions listingId

/-- What an accepted upload leaves. -/
theorem queueListingImage_ok {file : UploadFile} {replies : UploadReplies} {after : MediaTables}
    (ran : queueListingImage settings market db subject listingId file replies assetId jobId now =
      .ok after) :
    after.Constraints ∧ db.jobs ⊆ after.jobs ∧ ∃ asset : ProductMediaAsset, after.assets = db.assets ++ [asset] ∧
      asset.storeProductId = listingId ∧ asset.state = .quarantined ∧ asset.retiredAt = none ∧
      asset.position = ((liveImages db listingId).length : Int) := by
  simp only [queueListingImage, getCurrentUser_bind_ok, requireRoles_bind_ok, require_bind_ok,
    found_bind_ok] at ran
  obtain ⟨user, -, -, -, -, listing, -, store, -, merchant, -, ran⟩ := ran
  rw [bind_ok] at ran
  obtain ⟨_, -, ran⟩ := ran
  rw [bind_ok] at ran
  obtain ⟨_, -, ran⟩ := ran
  simp only [require_bind_ok, found_bind_ok, pure_ok] at ran
  obtain ⟨-, -, -, -, stored, -, kept, rfl⟩ := ran
  refine ⟨kept, ?_, newQuarantinedAsset assetId listingId (quarantineKey listingId assetId)
    (mimeOf file.contentType) stored (liveImages db listingId).length, ?_, rfl, rfl, rfl, rfl⟩
  · split
    · exact List.subset_append_left ..
    · exact List.Subset.refl _
  · split <;> rfl

/-! ## Runs -/

/-- The numbering, and the open transactions of the workers. -/
structure MediaWorld.Filed (libraries : MediaLibraries) (world : MediaWorld) : Prop where
  sessions : world.Sessions libraries
  numbered : world.tables.Numbered

theorem SlotFree.of_constraints {asset : ProductMediaAsset} {after : MediaTables}
    (kept : after.Constraints) (assets : after.assets = db.assets ++ [asset])
    (place : asset.activePosition = some (listingId, ((liveImages db listingId).length : Int))) :
    SlotFree db listingId := by
  intro other member same
  have positions := kept.activePositions
  rw [assets] at positions
  have differ := (uniqueWhenSet_append.mp positions).2 _ place other member
  exact differ same

theorem imageStep_filed (filed : world.Filed libraries) (action : ImageAction) :
    (imageStep settings libraries market world action).Filed libraries := by
  cases action with
  | work action =>
    exact ⟨MediaWorld.step_sessions filed.sessions action,
      filed.sessions.step_numbered filed.numbered action⟩
  | upload subject listingId file replies assetId jobId now =>
    simp only [imageStep]
    split
    case h_2 => exact filed
    case h_1 after ran =>
    obtain ⟨kept, jobs, asset, assets, own, state, live, position⟩ := queueListingImage_ok ran
    subst own
    have committed : (world.database.commit after .commits).1.tables = after := by
      simp only [MediaDatabase.commit, dif_pos kept]
    have row : asset.Open := ⟨live, by simp [state]⟩
    have place : asset.activePosition = some (asset.storeProductId,
        ((liveImages world.tables asset.storeProductId).length : Int)) := by
      rw [row.activePosition, position]
    -- the index has let the row in, so no image of the listing was rejected
    have free := SlotFree.of_constraints kept assets place
    have unrejected := (filed.numbered.slotFree_iff _).mp free
    have count := filed.numbered.count asset.storeProductId
    have none : (rejectedImages world.tables asset.storeProductId).length = 0 := by
      rw [List.length_eq_zero_iff, rejectedImages, List.filter_eq_nil_iff]
      simpa using unrejected
    rw [none, Nat.add_zero] at count
    refine ⟨?_, ?_⟩
    · have spares : ∀ state : MediaWorker, world.tables.Spares
          (world.database.commit after .commits).1.tables state := by
        intro held
        rw [committed]
        refine ⟨fun job member _ => jobs member, fun other member _ => ?_⟩
        rw [assets]
        exact List.mem_append_left _ member
      exact ⟨fun worker held here => (filed.sessions.rows worker held here).spared (spares held),
        filed.sessions.jobs, filed.sessions.assets⟩
    · have next : asset.position =
          ((world.tables.positions asset.storeProductId).length : Int) := by
        rw [position, count]
      have after := filed.numbered.append assets row next
      rw [← committed] at after
      exact after

theorem reachable_filed
    (reached : Reachable (imageSystem settings libraries market) world) : world.Filed libraries := by
  refine reached.invariant ?_ fun world action filed => imageStep_filed filed action
  refine ⟨⟨fun _ _ here => by simp [imageSystem] at here,
    fun _ _ _ _ _ here => by simp [imageSystem] at here,
    fun _ _ _ _ _ here => by simp [imageSystem] at here⟩, ?_, fun listingId => rfl⟩
  intro asset member
  cases member

/-- Below the limit an upload finds its slot free exactly when no image of the listing
was ever rejected. -/
theorem upload_slot_free_iff (reached : Reachable (imageSystem settings libraries market) world)
    (listingId : UUID) :
    ((liveImages world.tables listingId).length < settings.mediaImageMaxPerListing →
        SlotFree world.tables listingId) ↔
      ((liveImages world.tables listingId).length < settings.mediaImageMaxPerListing →
        ∀ asset ∈ world.tables.assets, asset.storeProductId = listingId → asset.state ≠ .rejected) :=
  imp_congr_right fun _ => (reachable_filed reached).numbered.slotFree_iff listingId

/-! ## One rejected image -/

/-- A merchant with two listings. -/
def ricePantry : Tables where
  catalogue :=
    { users := [⟨2, .merchant, false, true, true⟩], merchants := [⟨1, 2, .approved⟩]
      stores := [⟨1, 1, 1, some 1, "Kirana", none, none, none, none, none, none, true, true⟩]
      storeProducts := [⟨1, 1, 1, 5000, 10, true⟩, ⟨2, 1, 2, 6000, 10, true⟩] }

/-- The merchant uploads a picture of a listing. -/
def pixelUpload (listing number : UUID) : ImageAction :=
  .upload 2 listing ⟨some "image/png", pixelSource⟩ ⟨.ok (), some (pixelSourceSha256, 69)⟩ number number 0

/-- A worker finds its private object gone and rejects it. -/
def pixelRejected : List ImageAction :=
  [pixelUpload 1 5, .work .start, .work (.step 0 (.claim [] 0 .commits)),
    .work (.step 0 (.lock 1 .commits)),
    .work (.step 0 (.publish { pixelReplies with source := .missing } 2)),
    .work (.step 0 (.finish (seconds 1) .commits))]

/-- A worker publishes a picture of the other listing and commits its approval, which the schema
refuses. -/
def pixelApproved : List ImageAction :=
  [pixelUpload 2 1, .work .start, .work (.step 1 (.claim [] (seconds 2) .commits)),
    .work (.step 1 (.lock (seconds 2) .commits)), .work (.step 1 (.publish pixelReplies (seconds 3))),
    .work (.step 1 (.finish (seconds 4) .commits))]

/-- The two pictures of the merchant, one rejected and one published. -/
def twoPictures : MediaWorld :=
  (imageSystem {} pixelLibraries ricePantry).run (imageSystem {} pixelLibraries ricePantry).initial
    (pixelRejected ++ pixelApproved)

theorem upload_slot_free_iff_rejected :
    twoPictures.tables.assets.map (fun asset => (asset.storeProductId, asset.state)) =
        [(1, .rejected), (2, .quarantined)] ∧
      twoPictures.store.map PublicObject.key = [derivativeKey pixelAsset] ∧
      ¬SlotFree twoPictures.tables 1 ∧ SlotFree twoPictures.tables 2 := by
  have reached : Reachable (imageSystem {} pixelLibraries ricePantry) twoPictures :=
    Reachable.run ReachableWhile.initial _
  obtain ⟨assets, store, first, second⟩ :
      twoPictures.tables.assets.map (fun asset => (asset.storeProductId, asset.state)) =
        [(1, .rejected), (2, .quarantined)] ∧
      twoPictures.store.map PublicObject.key = [derivativeKey pixelAsset] ∧
      (liveImages twoPictures.tables 1).length < 8 ∧ (liveImages twoPictures.tables 2).length < 8 := by
    decide +kernel
  refine ⟨assets, store, fun free => ?_, ?_⟩
  · have never := (upload_slot_free_iff reached 1).mp (fun _ => free) first
    have listed : (1, .rejected) ∈ twoPictures.tables.assets.map fun asset =>
        (asset.storeProductId, asset.state) := assets ▸ List.mem_cons_self
    obtain ⟨asset, member, shown⟩ := List.mem_map.mp listed
    obtain ⟨own, rejected⟩ := Prod.mk.inj shown
    exact never asset member own rejected
  · refine (upload_slot_free_iff reached 2).mpr (fun _ asset member own rejected => ?_) second
    have listed : (2, .rejected) ∈ twoPictures.tables.assets.map fun asset =>
        (asset.storeProductId, asset.state) :=
      List.mem_map.mpr ⟨asset, member, Prod.ext own rejected⟩
    rw [assets] at listed
    simp at listed

theorem upload_slot_taken :
    ¬∀ (settings : UploadSettings) (libraries : MediaLibraries) (market : Tables) (world : MediaWorld)
      (listingId : UUID), Reachable (imageSystem settings libraries market) world →
      (liveImages world.tables listingId).length < settings.mediaImageMaxPerListing →
      SlotFree world.tables listingId := by
  intro always
  have free := always {} pixelLibraries ricePantry _ 1
    (Reachable.run ReachableWhile.initial pixelRejected) (by decide +kernel)
  obtain ⟨asset, member, place⟩ :
      ∃ asset ∈ ((imageSystem {} pixelLibraries ricePantry).run
        (imageSystem {} pixelLibraries ricePantry).initial pixelRejected).tables.assets,
      asset.activePosition = some (1, ((liveImages ((imageSystem {} pixelLibraries ricePantry).run
        (imageSystem {} pixelLibraries ricePantry).initial pixelRejected).tables 1).length : Int)) := by
    decide +kernel
  exact free asset member place

end GaonOne
