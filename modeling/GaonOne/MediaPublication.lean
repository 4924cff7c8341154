import GaonOne.Library.Json
import GaonOne.MediaAdmission

/-! The publication of one asset, call by call. Storage and scanner do what they like
at every call: answer anything, answer something that is no answer, or raise. The
asset becomes approved on one path only, and a run that raises leaves it alone. -/
namespace GaonOne
open UnitOfWork

/-- What the coordinator asks of storage and scanner. -/
inductive MediaCall where
  | readQuarantine (key : String)
  | scanBytes (item : StoredMediaObject) (content : Content)
  | putPublicDerivative (key : String) (content : Content) (contentType : String)
  | deletePublicDerivative (key : String)
  deriving DecidableEq

/-- An attribute of an answer, as the code reads it. -/
inductive Reported (α : Type) where
  | value (value : α)
  /-- A value of another type: unequal to whatever it is compared with. -/
  | other
  /-- No such attribute: reading it raises. -/
  | absent
  deriving DecidableEq

inductive ScanReply where
  | returned (verdict : Reported String)
  | raised
  deriving DecidableEq

structure StoreReport where
  key : Reported String
  contentType : Reported String
  byteSize : Reported Nat
  sha256 : Reported String

inductive StoreReply where
  | returned (report : StoreReport)
  | raised

/-- The behaviour of storage and scanner; each is asked once in a run. -/
structure MediaBackends where
  read : String → SourceReply
  /-- Absent where the scanner cannot inspect bytes. -/
  scan : Option (StoredMediaObject → Content → ScanReply)
  put : String → Content → String → StoreReply

/-- How a run ends: what it returns or raises, the session's asset, and the calls made. -/
structure PublicationRun where
  outcome : Except MediaException PublicationResult
  asset : ProductMediaAsset
  calls : List MediaCall

/-- `inspect_and_render` past the scanner: decoding and re-encoding. -/
def renderDerivative (settings : MediaSettings) (libraries : MediaLibraries) (source : Content)
    (original : StoredMediaObject) : Except MediaException SafeDerivative := do
  let probe ← caught (libraries.probe source)
  require ((probe.format.bind supportedFormat) = some original.contentType)
    (.rejected "unsupported_or_mismatched_format")
  require (¬(probe.width = 0 ∨ probe.height = 0 ∨ settings.mediaImageMaxWidth < probe.width ∨
    settings.mediaImageMaxHeight < probe.height ∨
    settings.mediaImageMaxPixels < probe.width * probe.height)) (.rejected "image_dimensions_exceeded")
  caught (libraries.verify source)
  let image ← caught (libraries.thumbnail source 1280)
  pure ⟨image.content, "image/webp", image.width, image.height⟩

/-- `inspect_and_render`, with the calls it makes. -/
def inspectAndRenderCalls (settings : MediaSettings) (libraries : MediaLibraries)
    (backends : MediaBackends) (source : Content) (original : StoredMediaObject) :
    Except MediaException SafeDerivative × List MediaCall :=
  if source = [] ∨ settings.mediaUploadMaxBytes < source.length ∨ original.byteSize ≠ source.length then
    (.error (.rejected "invalid_size"), [])
  else if libraries.sha256 source ≠ original.sha256 then
    (.error (.rejected "source_hash_mismatch"), [])
  else
    match backends.scan with
    | none => (.error .scanUnavailable, [])
    | some scan =>
      match scan original source with
      | .raised => (.error .scanUnavailable, [.scanBytes original source])
      | .returned .absent => (.error .other, [.scanBytes original source])
      | .returned .other => (.error (.rejected "scan_rejected"), [.scanBytes original source])
      | .returned (.value verdict) =>
        if verdict = "unavailable" then (.error .scanUnavailable, [.scanBytes original source])
        else if verdict ≠ "clean" then
          (.error (.rejected "scan_rejected"), [.scanBytes original source])
        else (renderDerivative settings libraries source original, [.scanBytes original source])

/-- One comparison of the verification: the later ones count where it holds. -/
def Reported.agrees [DecidableEq α] (answer : Reported α) (expected : α) (later : Option Bool) :
    Option Bool :=
  match answer with
  | .absent => none
  | .other => some false
  | .value reported => if reported = expected then later else some false

/-- The verification of what the store answers; nothing where it raises. -/
def verification (libraries : MediaLibraries) (asset : ProductMediaAsset)
    (derivative : SafeDerivative) (report : StoreReport) : Option Bool :=
  report.sha256.agrees (libraries.sha256 derivative.content) <|
    report.byteSize.agrees derivative.content.length <|
      report.key.agrees (derivativeKey asset) <|
        report.contentType.agrees "image/webp" (some true)

/-- `process_quarantined_asset` once a derivative is rendered. -/
def publishDerivativeCalls (libraries : MediaLibraries) (backends : MediaBackends)
    (asset : ProductMediaAsset) (derivative : SafeDerivative) (calls : List MediaCall) (now : Instant) :
    PublicationRun :=
  let calls := calls ++
    [.putPublicDerivative (derivativeKey asset) derivative.content derivative.contentType]
  match backends.put (derivativeKey asset) derivative.content derivative.contentType with
  | .raised => ⟨.error .other, asset, calls⟩
  | .returned report =>
    match verification libraries asset derivative report with
    | none => ⟨.error .other, asset, calls⟩
    | some false =>
      -- whatever the deletion raises is dropped
      ⟨.error .other, asset, calls ++ [.deletePublicDerivative (derivativeKey asset)]⟩
    | some true => ⟨.ok ⟨.approved, none⟩, approvedAsset libraries asset derivative now, calls⟩

/-- `process_quarantined_asset`. -/
def processQuarantinedAssetCalls (settings : MediaSettings) (libraries : MediaLibraries)
    (backends : MediaBackends) (asset : ProductMediaAsset) (now : Instant) : PublicationRun :=
  if settings.productMediaEnabled = false then ⟨.error .other, asset, []⟩
  else if asset.state ≠ .quarantined ∨ asset.retiredAt.isSome = true then
    ⟨.ok ⟨asset.state, some "not_eligible"⟩, asset, []⟩
  else if asset.publicObjectKey.any (· ≠ "") = true then ⟨.error .other, asset, []⟩
  else
    let calls := [MediaCall.readQuarantine asset.sourceObjectKey]
    match backends.read asset.sourceObjectKey with
    | .missing =>
      ⟨.ok ⟨.rejected, some "source_missing"⟩, rejectedAsset asset "source_missing", calls⟩
    | .failed => ⟨.error .other, asset, calls⟩
    | .bytes source =>
      match inspectAndRenderCalls settings libraries backends source (originalObject asset source) with
      | (.error (.rejected message), scans) =>
        ⟨.ok ⟨.rejected, some (Text.cut 80 message)⟩, rejectedAsset asset (Text.cut 80 message),
          calls ++ scans⟩
      | (.error error, scans) => ⟨.error error, asset, calls ++ scans⟩
      | (.ok derivative, scans) =>
        publishDerivativeCalls libraries backends asset derivative (calls ++ scans) now

/-! ## The scanner behind HTTP -/

/-- What comes back from the scanner's endpoint. -/
inductive ScannerResponse where
  /-- `httpx.HTTPError`. -/
  | failed
  /-- The body, where `response.json()` does not raise. -/
  | answered (statusCode : Nat) (body : Option Json)
  /-- Anything the adapter does not catch. -/
  | broken

def scanVerdicts : List String := ["clean", "infected", "rejected"]

/-- A reason that is missing or a short text. -/
def acceptableReason : Json → Bool
  | .null => true
  | .str reason => decide (reason.length ≤ 80)
  | _ => false

/-- `ScanResult(verdict="unavailable")`. -/
def unavailable : ScanReply := .returned (.value "unavailable")

/-- `HttpContentScanner.scan_bytes`. -/
def httpScanBytes : ScannerResponse → ScanReply
  | .failed => unavailable
  | .broken => .raised
  | .answered statusCode body =>
    if ¬(200 ≤ statusCode ∧ statusCode < 300) then unavailable
    else
      match body with
      | some (.obj fields) =>
        match Json.get fields "verdict" with
        | .str verdict =>
          if verdict ∈ scanVerdicts ∧ acceptableReason (Json.get fields "reason_code") then
            .returned (.value verdict)
          else unavailable
        | _ => unavailable
      | _ => unavailable

variable {settings : MediaSettings} {libraries : MediaLibraries} {backends : MediaBackends}
  {asset : ProductMediaAsset} {source : Content} {original : StoredMediaObject}

/-- The adapter says clean exactly on a successful answer whose object says so. -/
theorem httpScanBytes_clean_iff (response : ScannerResponse) :
    httpScanBytes response = .returned (.value "clean") ↔
      ∃ statusCode fields, response = .answered statusCode (some (.obj fields)) ∧
        200 ≤ statusCode ∧ statusCode < 300 ∧ Json.get fields "verdict" = .str "clean" ∧
        acceptableReason (Json.get fields "reason_code") := by
  have other : unavailable ≠ .returned (.value "clean") := by decide
  constructor
  · intro clean
    unfold httpScanBytes at clean
    split at clean
    · exact absurd clean other
    · cases clean
    · next statusCode body =>
      split at clean
      · exact absurd clean other
      · next success =>
        split at clean
        · next fields =>
          split at clean
          · next verdict said =>
            split at clean
            · next accepted =>
              cases clean
              have status := not_not.mp success
              exact ⟨statusCode, fields, rfl, status.1, status.2, said, accepted.2⟩
            · exact absurd clean other
          · exact absurd clean other
        · exact absurd clean other
  · rintro ⟨statusCode, fields, rfl, least, below, said, reason⟩
    simp [httpScanBytes, least, below, said, reason, scanVerdicts]

/-! ## What inspection asks -/

theorem inspectAndRenderCalls_ok
    (rendered : (inspectAndRenderCalls settings libraries backends source original).1 = .ok derivative) :
    source.length ≤ settings.mediaUploadMaxBytes ∧ libraries.sha256 source = original.sha256 ∧
      (∃ scan, backends.scan = some scan ∧ scan original source = .returned (.value "clean")) ∧
      renderDerivative settings libraries source original = .ok derivative ∧
      (inspectAndRenderCalls settings libraries backends source original).2 =
        [.scanBytes original source] := by
  unfold inspectAndRenderCalls at rendered ⊢
  split at rendered
  · cases rendered
  next sized =>
  split at rendered
  · cases rendered
  next hashed =>
  split at rendered
  · cases rendered
  next scan present =>
  split at rendered
  · cases rendered
  · cases rendered
  · cases rendered
  next verdict answer =>
  split at rendered
  · cases rendered
  next available =>
  split at rendered
  · cases rendered
  next clean =>
  have verdictClean : verdict = "clean" := not_not.mp clean
  subst verdictClean
  refine ⟨by omega, not_not.mp hashed, ⟨scan, present, answer⟩, rendered, ?_⟩
  simp [sized, hashed]

theorem inspectAndRenderCalls_calls :
    ∀ call ∈ (inspectAndRenderCalls settings libraries backends source original).2,
      call = .scanBytes original source := by
  unfold inspectAndRenderCalls
  intro call made
  repeat' split at made
  all_goals simp_all

theorem renderDerivative_contentType
    (rendered : renderDerivative settings libraries source original = .ok derivative) :
    derivative.contentType = "image/webp" := by
  simp only [renderDerivative, bind_ok, pure_ok] at rendered
  obtain ⟨probe, -, -, -, -, -, -, -, image, -, rfl⟩ := rendered
  rfl

/-! ## What the store has to answer -/

theorem agrees_iff [DecidableEq α] {answer : Reported α} {expected : α} {later : Option Bool} :
    answer.agrees expected later = some true ↔ answer = .value expected ∧ later = some true := by
  cases answer with
  | value reported =>
    by_cases same : reported = expected
    · simp [Reported.agrees, same]
    · simp [Reported.agrees, same]
  | other => simp [Reported.agrees]
  | absent => simp [Reported.agrees]

theorem verification_iff {report : StoreReport} :
    verification libraries asset derivative report = some true ↔
      report.sha256 = .value (libraries.sha256 derivative.content) ∧
        report.byteSize = .value derivative.content.length ∧
        report.key = .value (derivativeKey asset) ∧ report.contentType = .value "image/webp" := by
  simp [verification, agrees_iff]

/-! ## One run -/

/-- The one path to approval. -/
structure SafelyPublished (settings : MediaSettings) (libraries : MediaLibraries)
    (backends : MediaBackends) (asset : ProductMediaAsset) (run : PublicationRun) : Prop where
  quarantined : asset.state = .quarantined
  live : asset.retiredAt = none
  /-- The bytes that were read are the bytes that were scanned, and their derivative
  is what the store says it keeps. -/
  evidence : ∃ source scan derivative report,
    backends.read asset.sourceObjectKey = .bytes source ∧
    libraries.sha256 source = asset.sourceSha256 ∧
    source.length ≤ settings.mediaUploadMaxBytes ∧
    backends.scan = some scan ∧
    scan (originalObject asset source) source = .returned (.value "clean") ∧
    renderDerivative settings libraries source (originalObject asset source) = .ok derivative ∧
    derivative.contentType = "image/webp" ∧
    backends.put (derivativeKey asset) derivative.content derivative.contentType = .returned report ∧
    report.key = .value (derivativeKey asset) ∧
    report.sha256 = .value (libraries.sha256 derivative.content) ∧
    report.byteSize = .value derivative.content.length ∧
    report.contentType = .value derivative.contentType ∧
    run.calls = [.readQuarantine asset.sourceObjectKey,
      .scanBytes (originalObject asset source) source,
      .putPublicDerivative (derivativeKey asset) derivative.content derivative.contentType]

/-- A run that raises has left the asset alone, and has asked for the deletion of what
the store does not vouch for. -/
structure Harmless (libraries : MediaLibraries) (backends : MediaBackends)
    (asset : ProductMediaAsset) (run : PublicationRun) : Prop where
  unchanged : run.asset = asset
  cleaned : ∀ derivative report,
    MediaCall.putPublicDerivative (derivativeKey asset) derivative.content derivative.contentType ∈
      run.calls →
    backends.put (derivativeKey asset) derivative.content derivative.contentType = .returned report →
    verification libraries asset derivative report = some false →
    MediaCall.deletePublicDerivative (derivativeKey asset) ∈ run.calls

/-- How one run can end: raised, passed over or rejected, or published. -/
inductive PublicationEnd (settings : MediaSettings) (libraries : MediaLibraries)
    (backends : MediaBackends) (asset : ProductMediaAsset) (run : PublicationRun) : Prop where
  | raised (error : MediaException) (failed : run.outcome = .error error)
      (harmless : Harmless libraries backends asset run)
  | passedOver (same : run.asset = asset) (result : PublicationResult)
      (returned : run.outcome = .ok result)
  | rejected (code : String) (closed : run.asset = rejectedAsset asset code)
      (result : PublicationResult) (returned : run.outcome = .ok result)
  | published (result : PublicationResult) (returned : run.outcome = .ok result)
      (path : SafelyPublished settings libraries backends asset run)

/-- A run that raises before it stores anything has nothing to clean. -/
theorem harmless_before_put {outcome : Except MediaException PublicationResult}
    {calls : List MediaCall}
    (unstored : ∀ content contentType,
      MediaCall.putPublicDerivative (derivativeKey asset) content contentType ∉ calls) :
    Harmless libraries backends asset ⟨outcome, asset, calls⟩ where
  unchanged := rfl
  cleaned derivative _ put _ _ := absurd put (unstored derivative.content derivative.contentType)

theorem scans_store_nothing (settings : MediaSettings) (libraries : MediaLibraries)
    (backends : MediaBackends) (source : Content) (original : StoredMediaObject)
    (quarantineKey key : String) (content : Content) (contentType : String) :
    MediaCall.putPublicDerivative key content contentType ∉
      MediaCall.readQuarantine quarantineKey ::
        (inspectAndRenderCalls settings libraries backends source original).2 := by
  intro put
  rcases List.mem_cons.mp put with read | scanned
  · cases read
  · cases inspectAndRenderCalls_calls _ scanned

/-- Past the rendering, the answer of the store decides. -/
theorem publishDerivativeCalls_end (settings : MediaSettings) (libraries : MediaLibraries)
    (quarantined : asset.state = .quarantined) (live : asset.retiredAt = none)
    (read : backends.read asset.sourceObjectKey = .bytes source) (now : Instant)
    (derivative : SafeDerivative) (rendered : (inspectAndRenderCalls settings libraries backends source
      (originalObject asset source)).1 = .ok derivative) :
    PublicationEnd settings libraries backends asset
      (publishDerivativeCalls libraries backends asset derivative
        (.readQuarantine asset.sourceObjectKey :: (inspectAndRenderCalls settings libraries backends
          source (originalObject asset source)).2) now) := by
  obtain ⟨sized, hashed, ⟨scan, present, clean⟩, derived, scans⟩ := inspectAndRenderCalls_ok rendered
  have webp := renderDerivative_contentType derived
  rw [scans]
  unfold publishDerivativeCalls
  cases stored : backends.put (derivativeKey asset) derivative.content derivative.contentType with
  | raised =>
    refine .raised .other rfl ⟨rfl, ?_⟩
    intro other report put answered
    simp only [List.mem_append, List.mem_cons, List.not_mem_nil, or_false, reduceCtorEq, false_or,
      MediaCall.putPublicDerivative.injEq, true_and] at put
    rw [put.1, put.2, stored] at answered
    cases answered
  | returned report =>
    cases verified : verification libraries asset derivative report with
    | none =>
      simp only [verified]
      refine .raised .other rfl ⟨rfl, ?_⟩
      intro other answer put answered unverified
      simp only [List.mem_append, List.mem_cons, List.not_mem_nil, or_false, reduceCtorEq, false_or,
        MediaCall.putPublicDerivative.injEq, true_and] at put
      rw [put.1, put.2, stored] at answered
      cases answered
      have same : verification libraries asset other report =
          verification libraries asset derivative report := by
        simp only [verification, put.1]
      rw [same, verified] at unverified
      cases unverified
    | some outcome =>
      cases outcome with
      | false =>
        simp only [verified]
        refine .raised .other rfl ⟨rfl, ?_⟩
        intro _ _ _ _ _
        simp
      | true =>
        simp only [verified]
        obtain ⟨sha, size, key, contentType⟩ := verification_iff.mp verified
        refine .published _ rfl ⟨quarantined, live, source, scan, derivative, report, read, hashed,
          sized, present, clean, derived, webp, stored, key, sha, size, ?_, rfl⟩
        rw [webp, contentType]

theorem processQuarantinedAssetCalls_end (now : Instant) :
    PublicationEnd settings libraries backends asset
      (processQuarantinedAssetCalls settings libraries backends asset now) := by
  unfold processQuarantinedAssetCalls
  split
  · exact .raised .other rfl (harmless_before_put (by simp))
  split
  · exact .passedOver rfl _ rfl
  next eligible =>
  split
  · exact .raised .other rfl (harmless_before_put (by simp))
  cases read : backends.read asset.sourceObjectKey with
  | missing => exact .rejected _ rfl _ rfl
  | failed => exact .raised .other rfl (harmless_before_put (by simp))
  | bytes source =>
    have quarantined : asset.state = .quarantined := by
      by_contra other
      exact eligible (.inl other)
    have live : asset.retiredAt = none := by
      cases retired : asset.retiredAt with
      | none => rfl
      | some at_ => exact absurd (.inr (by simp [retired])) eligible
    have unstored := scans_store_nothing settings libraries backends source
      (originalObject asset source) asset.sourceObjectKey (derivativeKey asset)
    have after := publishDerivativeCalls_end settings libraries quarantined live read now
    generalize inspected : inspectAndRenderCalls settings libraries backends source
      (originalObject asset source) = inspection at unstored after
    obtain ⟨outcome, scans⟩ := inspection
    cases outcome with
    | error error =>
      cases error with
      | rejected message => simp only [inspected]; exact .rejected _ rfl _ rfl
      | scanUnavailable =>
        simp only [inspected]
        exact .raised .scanUnavailable rfl (harmless_before_put unstored)
      | other => simp only [inspected]; exact .raised .other rfl (harmless_before_put unstored)
    | ok derivative =>
      simp only [inspected]
      exact after derivative rfl

/-- Publication fails closed: approval needs a quarantined live asset, the bytes the
upload recorded, a scanner that called exactly these bytes clean, and a store that
names the rendered derivative; a run that raises changes no field and asks for the
deletion of what failed verification; and behind HTTP only a successful answer whose
object says clean is clean. -/
theorem publication_fails_closed (settings : MediaSettings) (libraries : MediaLibraries)
    (backends : MediaBackends) (asset : ProductMediaAsset) (now : Instant) :
    let run := processQuarantinedAssetCalls settings libraries backends asset now
    (asset.state ≠ .approved → run.asset.state = .approved →
      SafelyPublished settings libraries backends asset run) ∧
    (∀ error, run.outcome = .error error → Harmless libraries backends asset run) ∧
    ∀ response, httpScanBytes response = .returned (.value "clean") ↔
      ∃ statusCode fields, response = .answered statusCode (some (.obj fields)) ∧
        200 ≤ statusCode ∧ statusCode < 300 ∧ Json.get fields "verdict" = .str "clean" ∧
        acceptableReason (Json.get fields "reason_code") := by
  intro run
  have ending : PublicationEnd settings libraries backends asset run :=
    processQuarantinedAssetCalls_end now
  refine ⟨?_, ?_, httpScanBytes_clean_iff⟩
  · intro before after
    cases ending with
    | raised _ _ harmless =>
      rw [harmless.unchanged] at after
      exact absurd after before
    | passedOver same =>
      rw [same] at after
      exact absurd after before
    | rejected code closed =>
      rw [closed] at after
      cases after
    | published _ _ path => exact path
  · intro error raised
    cases ending with
    | raised _ _ harmless => exact harmless
    | passedOver _ _ returned | rejected _ _ _ returned | published _ returned =>
      rw [returned] at raised
      cases raised

/-- The pixel, published by a scanner and a store that do their work. -/
def pixelBackends : MediaBackends where
  read _ := .bytes pixelSource
  scan := some fun _ _ => .returned (.value "clean")
  put key content contentType :=
    .returned ⟨.value key, .value contentType, .value content.length,
      .value (pixelLibraries.sha256 content)⟩

theorem publication_fails_closed_pixel :
    SafelyPublished {} pixelLibraries pixelBackends pixelAsset
      (processQuarantinedAssetCalls {} pixelLibraries pixelBackends pixelAsset 0) :=
  (publication_fails_closed {} pixelLibraries pixelBackends pixelAsset 0).1 (by decide)
    (by decide +kernel)

/-! ## The same run, as the workers see it -/

theorem require_bind {check : Prop} [Decidable check] {error : ε} {next : Unit → Except ε β} :
    (require check error >>= next) = if check then next () else .error error := by
  by_cases held : check
  · rw [require, if_pos held, if_pos held]
    rfl
  · rw [require, if_neg held, if_neg held]
    rfl

/-- The checks before the scanner's verdict fail alike, and past it the rendering is one. -/
theorem inspectAndRenderCalls_eq (settings : MediaSettings) (libraries : MediaLibraries)
    (backends : MediaBackends) (source : Content) (original : StoredMediaObject) :
    (∃ verdict, (inspectAndRenderCalls settings libraries backends source original).1 =
      inspectAndRender settings libraries source original verdict) ∨
    (inspectAndRenderCalls settings libraries backends source original).1 = .error .other := by
  have rest : ∀ verdict, inspectAndRender settings libraries source original verdict =
      (require (¬(source = [] ∨ settings.mediaUploadMaxBytes < source.length ∨
        original.byteSize ≠ source.length)) (.rejected "invalid_size") >>= fun _ =>
      require (libraries.sha256 source = original.sha256) (.rejected "source_hash_mismatch") >>= fun _ =>
      found verdict .scanUnavailable >>= fun verdict =>
      require (verdict ≠ "unavailable") .scanUnavailable >>= fun _ =>
      require (verdict = "clean") (.rejected "scan_rejected") >>= fun _ =>
      renderDerivative settings libraries source original) := fun _ => rfl
  simp only [rest, require_bind]
  unfold inspectAndRenderCalls
  by_cases sized : source = [] ∨ settings.mediaUploadMaxBytes < source.length ∨
    original.byteSize ≠ source.length
  · rw [if_pos sized]
    exact .inl ⟨none, by rw [if_neg (not_not.mpr sized)]⟩
  rw [if_neg sized]
  simp only [if_pos sized]
  by_cases hashed : libraries.sha256 source = original.sha256
  · rw [if_neg (not_not.mpr hashed)]
    simp only [if_pos hashed]
    split
    · exact .inl ⟨none, rfl⟩
    split
    · exact .inl ⟨none, rfl⟩
    · exact .inr rfl
    · exact .inl ⟨some "", rfl⟩
    next verdict _ =>
    refine .inl ⟨some verdict, ?_⟩
    by_cases off : verdict = "unavailable"
    · subst off
      rfl
    · by_cases clean : verdict = "clean"
      · subst clean
        rfl
      · simp [found, bind, Except.bind, off, clean]
  · rw [if_pos hashed]
    exact .inl ⟨none, by rw [if_neg hashed]⟩

/-- What the worker gets of a run. -/
def PublicationRun.result (run : PublicationRun) :
    Except MediaException (ProductMediaAsset × PublicationResult) :=
  run.outcome.map (run.asset, ·)

theorem publishDerivativeCalls_simulated (libraries : MediaLibraries) (backends : MediaBackends)
    (store : PublicStore) (asset : ProductMediaAsset) (derivative : SafeDerivative)
    (replies : MediaReplies) (calls : List MediaCall) (now : Instant) :
    ∃ put, (publishDerivative libraries store asset derivative { replies with put := put } now).1 =
      (publishDerivativeCalls libraries backends asset derivative calls now).result := by
  unfold publishDerivativeCalls
  split
  · exact ⟨.failed .before, rfl⟩
  split
  · exact ⟨.failed .before, rfl⟩
  · exact ⟨.failed .before, rfl⟩
  · have kept : Verified libraries asset derivative ⟨derivativeKey asset, "image/webp",
      derivative.content.length, libraries.sha256 derivative.content⟩ := ⟨rfl, rfl, rfl, rfl⟩
    refine ⟨.stored ⟨derivativeKey asset, "image/webp", derivative.content.length,
      libraries.sha256 derivative.content⟩, ?_⟩
    simp only [publishDerivative, if_pos kept]
    rfl

/-- Whatever storage and scanner do, the workers' coordinator does the same with the
replies they amount to. -/
theorem processQuarantinedAssetCalls_simulated (settings : MediaSettings)
    (libraries : MediaLibraries) (backends : MediaBackends) (store : PublicStore)
    (asset : ProductMediaAsset) (now : Instant) :
    ∃ replies, (processQuarantinedAsset settings libraries store asset replies now).1 =
      (processQuarantinedAssetCalls settings libraries backends asset now).result := by
  let failing : MediaReplies := ⟨.failed, none, .failed .before, false⟩
  unfold processQuarantinedAssetCalls processQuarantinedAsset
  by_cases disabled : settings.productMediaEnabled = false
  · simp only [if_pos disabled]
    exact ⟨failing, rfl⟩
  by_cases ineligible : asset.state ≠ .quarantined ∨ asset.retiredAt.isSome = true
  · simp only [if_neg disabled, if_pos ineligible]
    exact ⟨failing, rfl⟩
  by_cases keyed : asset.publicObjectKey.any (· ≠ "") = true
  · simp only [if_neg disabled, if_neg ineligible, if_pos keyed]
    exact ⟨failing, rfl⟩
  simp only [if_neg disabled, if_neg ineligible, if_neg keyed]
  cases backends.read asset.sourceObjectKey with
  | missing => exact ⟨{ failing with source := .missing }, rfl⟩
  | failed => exact ⟨failing, rfl⟩
  | bytes source =>
    have same := inspectAndRenderCalls_eq settings libraries backends source
      (originalObject asset source)
    dsimp only
    generalize inspectAndRenderCalls settings libraries backends source
      (originalObject asset source) = inspection at same ⊢
    obtain ⟨outcome, scans⟩ := inspection
    rcases same with ⟨verdict, same⟩ | broken
    · replace same : outcome =
        inspectAndRender settings libraries source (originalObject asset source) verdict := same
      cases outcome with
      | error error =>
        refine ⟨⟨.bytes source, verdict, .failed .before, false⟩, ?_⟩
        simp only [← same]
        cases error with
        | rejected message => rfl
        | scanUnavailable => rfl
        | other => rfl
      | ok derivative =>
        obtain ⟨put, published⟩ := publishDerivativeCalls_simulated libraries backends store asset
          derivative ⟨.bytes source, verdict, .failed .before, false⟩
          ([.readQuarantine asset.sourceObjectKey] ++ scans) now
        refine ⟨⟨.bytes source, verdict, put, false⟩, ?_⟩
        simp only [← same]
        exact published
    · replace broken : outcome = .error .other := broken
      subst broken
      exact ⟨failing, rfl⟩

end GaonOne
