import GaonOne.ActionEvents

/-! The budget of a delivery's code. A code that is issued, a wrong code that is
compared and a verification are the only things that happen to a proof; whoever asks
and however often, what has happened so far decides what may happen next. -/
namespace GaonOne
open Relational UnitOfWork Transitions System

variable {env : Environment} {world : World} {deliveryId : UUID}

/-- What happens to the proof of a delivery. -/
inductive ProofEvent where
  | issued (otp : String) (now : Instant)
  /-- A wrong code was compared, and the guess committed. -/
  | wrong (otp : String) (now : Instant)
  | verified (payload : DeliveryProofSubmit) (now : Instant)

def ProofEvent.isIssued : ProofEvent → Bool
  | issued .. => true
  | _ => false

def ProofEvent.isWrong : ProofEvent → Bool
  | wrong .. => true
  | _ => false

def ProofEvent.isVerified : ProofEvent → Bool
  | verified .. => true
  | _ => false

def Tables.proof? (db : Tables) (deliveryId : UUID) : Option DeliveryProof :=
  lookup DeliveryProof.deliveryId deliveryId db.deliveryProofs

/-- What an action does to the proof of one delivery. A replay of a verified proof does
nothing. -/
def World.proofEvent (env : Environment) (world : World) (deliveryId : UUID) :
    Action → Option ProofEvent
  | .request _ (.issueProofChallenge subject asked otp admitted) draws =>
    if asked = deliveryId ∧ draws.Fresh world.tables then
      match issueDeliveryProofChallenge env (Session.start world.tables) subject asked otp admitted
        draws with
      | .ok _ => some (.issued otp draws.now)
      | .error _ => none
    else none
  | .request _ (.verifyDeliveryProof subject asked payload admitted) draws =>
    if asked = deliveryId ∧ draws.Fresh world.tables then
      match verifyDeliveryProof env (Session.start world.tables) subject asked payload admitted
        draws with
      | .ok (_, some _) => some (.wrong payload.otp draws.now)
      | .ok (_, none) =>
        if (world.tables.proof? deliveryId).any (·.verifiedAt.isSome) then none
        else some (.verified payload draws.now)
      | .error _ => none
    else none
  | _ => none

/-- Everything that happens to one delivery's proof in a run. -/
def proofLog (env : Environment) (deliveryId : UUID) : World → List Action → List ProofEvent
  | _, [] => []
  | world, action :: rest =>
    (world.proofEvent env deliveryId action).toList ++
      proofLog env deliveryId (world.step env action) rest

/-- A proof that still takes codes. -/
structure DeliveryProof.Open (proof : DeliveryProof) : Prop where
  unverified : proof.verifiedAt = none
  unlocked : proof.verificationLockedAt = none
  attempts : proof.verificationAttemptCount < otpMaxVerificationAttempts

/-- What each event leaves of the row. -/
inductive ProofStep (env : Environment) (deliveryId : UUID) :
    Option ProofEvent → Option DeliveryProof → Option DeliveryProof → Prop where
  | quiet : ProofStep env deliveryId none row row
  | first (otp : String) (draws : Draws) :
      ProofStep env deliveryId (some (.issued otp draws.now)) none
        (some (newProof deliveryId (env.sha256 otp) draws))
  | again (taking : proof.Open) (below : proof.challengeCount < otpMaxChallenges) (otp : String)
      (now : Instant) :
      ProofStep env deliveryId (some (.issued otp now)) (some proof)
        (some { proof with
          otpHash := env.sha256 otp, otpExpiresAt := now + otpTtl, lastChallengeAt := some now
          challengeCount := proof.challengeCount + 1, updatedAt := now })
  | wrong (taking : proof.Open) (otp : String) (now : Instant) :
      ProofStep env deliveryId (some (.wrong otp now)) (some proof) (some (wrongCode proof now))
  | verified (taking : proof.Open) (payload : DeliveryProofSubmit) (now : Instant)
      (valid : now < proof.otpExpiresAt) (matching : proof.otpHash = env.sha256 payload.otp) :
      ProofStep env deliveryId (some (.verified payload now)) (some proof)
        (some { proof with
          verifiedAt := some now, evidenceUrl := payload.evidenceUrl
          recipientName := payload.recipientName, notes := payload.notes, updatedAt := now })

/-! ## One step of the system -/

theorem requireUnlockedProof_ok (proof : DeliveryProof) (value : Unit) :
    requireUnlockedProof proof = .ok value ↔ proof.verificationLockedAt = none ∧
      proof.verificationAttemptCount < otpMaxVerificationAttempts := by
  unfold requireUnlockedProof
  exact require_ok ..

theorem requireChallengeable_ok (held : requireChallengeable proof now = .ok value) :
    proof.Open ∧ proof.challengeCount < otpMaxChallenges := by
  simp only [requireChallengeable, require_bind_ok] at held
  obtain ⟨unverified, held⟩ := held
  rw [bind_ok] at held
  obtain ⟨_, unlocked, held⟩ := held
  obtain ⟨free, attempts⟩ := (requireUnlockedProof_ok ..).mp unlocked
  rw [require_bind_ok] at held
  exact ⟨⟨unverified, free, attempts⟩, held.1⟩

section
variable {tables : Tables}

theorem Tables.proof?_addProof (row : DeliveryProof) (missing : tables.proof? row.deliveryId = none)
    (other : UUID) : (tables.addProof row).proof? other =
      if row.deliveryId = other then some row else tables.proof? other :=
  lookup_append_fresh (lookup_eq_none_iff.mp missing)

theorem Tables.Coherent.proof?_putProof (coherent : tables.Coherent) {old new : DeliveryProof}
    (recorded : tables.proof? deliveryId = some old) (sameId : new.id = old.id)
    (sameDelivery : new.deliveryId = old.deliveryId) (other : UUID) :
    (tables.putProof new).proof? other =
      if new.deliveryId = other then some new else tables.proof? other :=
  lookup_put other (lookup_mem recorded) sameId.symm sameDelivery.symm coherent.proofIds
    coherent.proofDeliveries

/-- What a step leaves of one delivery's proof, and of the others'. -/
def ProofMoves (env : Environment) (deliveryId : UUID) (event : Option ProofEvent)
    (before after : Tables) : Prop :=
  ProofStep env deliveryId event (before.proof? deliveryId) (after.proof? deliveryId) ∧
    ∀ other, other ≠ deliveryId → after.proof? other = before.proof? other

/-- A row that is updated in place. -/
theorem ProofMoves.put (coherent : tables.Coherent) {old new : DeliveryProof}
    (recorded : tables.proof? deliveryId = some old) (sameId : new.id = old.id)
    (sameDelivery : new.deliveryId = old.deliveryId)
    (step : ProofStep env deliveryId event (some old) (some new)) :
    ProofMoves env deliveryId event tables (tables.putProof new) := by
  have after := coherent.proof?_putProof recorded sameId sameDelivery
  have own : new.deliveryId = deliveryId := sameDelivery.trans (lookup_col recorded)
  refine ⟨?_, fun other differ => ?_⟩
  · rw [after, if_pos own, recorded]
    exact step
  · rw [after, if_neg fun same => differ (same.symm.trans own)]

theorem issueDeliveryProofChallenge_proof (coherent : tables.Coherent)
    (ran : issueDeliveryProofChallenge env (Session.start tables) subject deliveryId otp admitted
      draws = .ok result) :
    ProofMoves env deliveryId (some (.issued otp draws.now)) tables result.pending := by
  simp only [issueDeliveryProofChallenge, getCurrentUser_bind_ok, requireRoles_bind_ok,
    lockedDeliveryOrder_bind_ok] at ran
  obtain ⟨user, -, -, delivery, carried, order, -, ran⟩ := ran
  have same : delivery.id = deliveryId := lookup_col carried
  subst same
  rw [bind_ok] at ran
  obtain ⟨-, -, ran⟩ := ran
  simp only [require_bind_ok] at ran
  obtain ⟨-, ran⟩ := ran
  split at ran
  · next missing =>
    simp only [require_bind_ok, pure_ok] at ran
    obtain ⟨-, rfl⟩ := ran
    have own : (newProof delivery.id (env.sha256 otp) draws).deliveryId = delivery.id := rfl
    have absent : tables.proof? delivery.id = none := missing
    have after := Tables.proof?_addProof (newProof delivery.id (env.sha256 otp) draws) absent
    refine ⟨?_, fun other differ => (after other).trans (if_neg (Ne.symm differ))⟩
    rw [Session.write_pending, after, if_pos own, absent]
    exact .first otp draws
  · next proof recorded =>
    rw [bind_ok] at ran
    obtain ⟨_, challengeable, ran⟩ := ran
    simp only [require_bind_ok, pure_ok] at ran
    obtain ⟨-, rfl⟩ := ran
    obtain ⟨taking, below⟩ := requireChallengeable_ok challengeable
    exact ProofMoves.put coherent recorded rfl rfl (.again taking below otp draws.now)

/-- A submission replays a verified proof, or is compared with the code of an open one. -/
theorem verifyDeliveryProof_proof (coherent : tables.Coherent)
    (ran : verifyDeliveryProof env (Session.start tables) subject deliveryId payload admitted draws =
      .ok (result, raised)) :
    (raised = none ∧ result.pending = tables ∧
        (tables.proof? deliveryId).any (·.verifiedAt.isSome) = true) ∨
      (raised = none ∧ (tables.proof? deliveryId).any (·.verifiedAt.isSome) = false ∧
        ProofMoves env deliveryId (some (.verified payload draws.now)) tables result.pending) ∨
      (raised.isSome ∧
        ProofMoves env deliveryId (some (.wrong payload.otp draws.now)) tables result.pending) := by
  simp only [verifyDeliveryProof, getCurrentUser_bind_ok, requireRoles_bind_ok, require_bind_ok,
    lockedDeliveryOrder_bind_ok] at ran
  obtain ⟨user, -, -, -, delivery, carried, order, -, ran⟩ := ran
  have same : delivery.id = deliveryId := lookup_col carried
  subst same
  rw [bind_ok] at ran
  obtain ⟨-, -, ran⟩ := ran
  simp only [require_bind_ok, found_bind_ok] at ran
  obtain ⟨-, proof, found, ran⟩ := ran
  have recorded : tables.proof? delivery.id = some proof := found
  rw [recorded, Option.any_some]
  split at ran
  · next verified =>
    cases ran
    exact Or.inl ⟨rfl, rfl, verified⟩
  · next unverified =>
    rw [bind_ok] at ran
    obtain ⟨_, unlocked, ran⟩ := ran
    obtain ⟨free, attempts⟩ := (requireUnlockedProof_ok ..).mp unlocked
    have taking : proof.Open := ⟨by simpa using unverified, free, attempts⟩
    simp only [require_bind_ok] at ran
    obtain ⟨-, valid, ran⟩ := ran
    split at ran
    · next matching =>
      cases ran
      exact Or.inr (Or.inl ⟨rfl, by simpa using unverified,
        ProofMoves.put coherent recorded rfl rfl (.verified taking payload draws.now valid matching)⟩)
    · have guess : ProofMoves env delivery.id (some (.wrong payload.otp draws.now)) tables
          (tables.putProof (wrongCode proof draws.now)) :=
        ProofMoves.put coherent recorded rfl rfl (.wrong taking payload.otp draws.now)
      split at ran
      all_goals
        cases ran
        exact Or.inr (Or.inr ⟨rfl, guess⟩)

/-- A proof is found by its delivery, or in the file of the delivery's order. -/
theorem Tables.Coherent.proof_iff_file (coherent : tables.Coherent) (deliveryId : UUID)
    (proof : DeliveryProof) : tables.proof? deliveryId = some proof ↔
      proof.deliveryId = deliveryId ∧ ∃ orderId, (tables.file orderId).proof = some proof := by
  constructor
  · intro recorded
    obtain ⟨delivery, carried, own⟩ := coherent.proofParents proof (lookup_mem recorded)
    have held : (tables.file delivery.orderId).delivery = some delivery :=
      (lookup_eq_some_iff coherent.deliveryOrders).mpr ⟨carried, rfl⟩
    refine ⟨lookup_col recorded, delivery.orderId, ?_⟩
    rw [Tables.file_proof held, own, lookup_col recorded]
    exact recorded
  · rintro ⟨rfl, orderId, proved⟩
    obtain ⟨delivery, -, recorded⟩ := Option.bind_eq_some_iff.mp proved
    exact (lookup_eq_some_iff coherent.proofDeliveries).mpr ⟨lookup_mem recorded, rfl⟩

end

/-- Only a change of the proof changes the proof on file. -/
theorem FileStep.keptProof {file next : OrderFile} (step : FileStep event file next)
    (other : event ≠ .proofChanged) : next.proof = file.proof := by
  cases step with
  | proofChanged => exact absurd rfl other
  | cancelled _ _ _ ensured | capturedAfterCancellation _ _ _ _ _ ensured =>
    cases ensured <;> rfl
  | returned _ _ _ _ _ _ voided ensured =>
    refine Eq.trans ?_ voided.kept_rows.2.2.1
    cases ensured <;> rfl
  | completed _ _ _ _ _ _ _ _ _ ensured | captured _ _ _ _ ensured | settlementChecked _ _ ensured =>
    exact ensured.kept_rows.2.2.1
  | refundSucceeded _ _ _ _ _ voided => exact voided.kept_rows.2.2.1
  | _ => rfl

/-- An action that cannot change a proof leaves every proof as it was. -/
theorem step_proof_quiet (reached : Reachable (system env) world) {action : Action}
    (other : ¬action.mayCause .proofChanged) (deliveryId : UUID) :
    (world.step env action).tables.proof? deliveryId = world.tables.proof? deliveryId := by
  have kept : ∀ orderId, ((world.step env action).tables.file orderId).proof =
      (world.tables.file orderId).proof := by
    intro orderId
    obtain ⟨event, caused, step⟩ := step_events reached action orderId
    refine step.keptProof ?_
    rintro rfl
    rcases caused with same | may
    · cases same
    · exact other may
  have after : (world.step env action).tables.Coherent := reachable_coherent (reached.step action)
  ext proof
  rw [after.proof_iff_file, (reachable_coherent reached).proof_iff_file]
  simp only [kept]

/-- A request that ran to its end has committed. -/
theorem World.request_commits {draws : Draws} {request : Request} (fresh : draws.Fresh world.tables)
    (ran : request.handle env settings draws (Session.start world.tables) = .ok result)
    (moves : Moves allowed world.tables result.pending) :
    (world.step env (.request settings request draws)).tables = result.pending := by
  simp only [World.step, World.request, if_pos fresh, ran, World.commit, Database.commit,
    World.tables]
  rw [dif_pos moves.coherent.toConstraints]

/-- A request that is refused commits nothing. -/
theorem World.request_refused {draws : Draws} {request : Request}
    (refused : draws.Fresh world.tables → ∃ error,
      request.handle env settings draws (Session.start world.tables) = .error error) :
    (world.step env (.request settings request draws)).tables = world.tables := by
  simp only [World.step, World.request]
  split
  · next fresh =>
    obtain ⟨error, ran⟩ := refused fresh
    rw [ran]
  · rfl

/-- What moves one delivery's proof is seen by every delivery. -/
theorem ProofMoves.at {before after : Tables} (moves : ProofMoves env asked event before after)
    (deliveryId : UUID) : ProofStep env deliveryId (if asked = deliveryId then event else none)
      (before.proof? deliveryId) (after.proof? deliveryId) := by
  split
  · next same => exact same ▸ moves.1
  · next differ =>
    rw [moves.2 deliveryId (Ne.symm differ)]
    exact .quiet

/-- One step of the system moves each delivery's proof as its event says. -/
theorem step_proof (reached : Reachable (system env) world) (action : Action) (deliveryId : UUID) :
    ProofStep env deliveryId (world.proofEvent env deliveryId action)
      (world.tables.proof? deliveryId) ((world.step env action).tables.proof? deliveryId) := by
  have coherent := reachable_coherent reached
  have still : world.proofEvent env deliveryId action = none → ¬action.mayCause .proofChanged →
      ProofStep env deliveryId (world.proofEvent env deliveryId action)
        (world.tables.proof? deliveryId) ((world.step env action).tables.proof? deliveryId) := by
    intro silent other
    rw [silent, step_proof_quiet reached other]
    exact .quiet
  cases action with
  | request settings request draws =>
    cases request with
    | issueProofChallenge subject asked otp admitted =>
      by_cases fresh : draws.Fresh world.tables
      · cases ran : issueDeliveryProofChallenge env (Session.start world.tables) subject asked otp
          admitted draws with
        | error refusal =>
          have refused : (Request.issueProofChallenge subject asked otp admitted).handle env settings
              draws (Session.start world.tables) = .error refusal := ran
          rw [World.request_refused fun _ => ⟨refusal, refused⟩]
          simp only [World.proofEvent, ran, ite_self]
          exact .quiet
        | ok result =>
          have handled : (Request.issueProofChallenge subject asked otp admitted).handle env settings
              draws (Session.start world.tables) = .ok result := ran
          rw [World.request_commits fresh handled
            (issueDeliveryProofChallenge_moves coherent fresh ran)]
          have moved := (issueDeliveryProofChallenge_proof coherent ran).at deliveryId
          simpa only [World.proofEvent, ran, fresh, and_true] using moved
      · rw [World.request_refused fun held => absurd held fresh]
        simp only [World.proofEvent, fresh, and_false, if_false]
        exact .quiet
    | verifyDeliveryProof subject asked payload admitted =>
      by_cases fresh : draws.Fresh world.tables
      · cases ran : verifyDeliveryProof env (Session.start world.tables) subject asked payload
          admitted draws with
        | error refusal =>
          have refused : (Request.verifyDeliveryProof subject asked payload admitted).handle env
              settings draws (Session.start world.tables) = .error refusal := by
            simp only [Request.handle, ran]
            rfl
          rw [World.request_refused fun _ => ⟨refusal, refused⟩]
          simp only [World.proofEvent, ran, ite_self]
          exact .quiet
        | ok answer =>
          obtain ⟨result, raised⟩ := answer
          have handled : (Request.verifyDeliveryProof subject asked payload admitted).handle env
              settings draws (Session.start world.tables) = .ok result := by
            simp only [Request.handle, ran]
            rfl
          rw [World.request_commits fresh handled (verifyDeliveryProof_moves coherent ran)]
          rcases verifyDeliveryProof_proof coherent ran with ⟨rfl, same, replayed⟩ |
            ⟨rfl, first, moves⟩ | ⟨failed, moves⟩
          · rw [same]
            by_cases own : asked = deliveryId
            · subst own
              simp only [World.proofEvent, ran, replayed, if_true, ite_self]
              exact .quiet
            · simp only [World.proofEvent, own, false_and, if_false]
              exact .quiet
          · have moved := moves.at deliveryId
            by_cases own : asked = deliveryId
            · subst own
              simpa only [World.proofEvent, ran, fresh, first, and_true, if_true,
                Bool.false_eq_true, if_false] using moved
            · simpa only [World.proofEvent, own, false_and, if_false] using moved
          · obtain ⟨refusal, rfl⟩ := Option.isSome_iff_exists.mp failed
            have moved := moves.at deliveryId
            simpa only [World.proofEvent, ran, fresh, and_true] using moved
      · rw [World.request_refused fun held => absurd held fresh]
        simp only [World.proofEvent, fresh, and_false, if_false]
        exact .quiet
    | webhook request => exact still rfl (by simp [Action.mayCause])
    | updateOrderStatus subject orderId status =>
      refine still rfl ?_
      simp only [Action.mayCause, Request.events]
      split <;> simp
    | resolveFailedDelivery subject asked resolution notes =>
      exact still rfl (by cases resolution <;> simp [Action.mayCause, Request.events])
    | _ => exact still rfl (by simp [Action.mayCause, Request.events])
  | _ => exact still rfl (by simp [Action.mayCause])

/-! ## What has happened decides what may happen -/

/-- The code in force: the latest one issued, when, and what came after it. -/
structure CodeInForce (log : List ProofEvent) (otp : String) (issuedAt : Instant) : Prop where
  latest : ∃ before after, log = before ++ .issued otp issuedAt :: after ∧
    ∀ event ∈ after, event.isIssued = false

/-- What the events so far allow next. -/
structure Allowed (env : Environment) (earlier : List ProofEvent) (event : ProofEvent) : Prop where
  unlocked : earlier.countP ProofEvent.isWrong < otpMaxVerificationAttempts
  unverified : ∀ past ∈ earlier, past.isVerified = false
  below : event.isIssued → earlier.countP ProofEvent.isIssued < otpMaxChallenges
  matching : ∀ payload now, event = .verified payload now → ∃ otp issuedAt,
    CodeInForce earlier otp issuedAt ∧ env.sha256 payload.otp = env.sha256 otp ∧
      now < issuedAt + otpTtl

/-- Every event was allowed when it happened. -/
def Orderly (env : Environment) (log : List ProofEvent) : Prop :=
  ∀ earlier event later, log = earlier ++ event :: later → Allowed env earlier event

theorem Orderly.of_empty : Orderly env [] := fun _ _ _ split => by simp at split

theorem Orderly.concat (orderly : Orderly env log) (allowed : Allowed env log event) :
    Orderly env (log ++ [event]) := by
  intro earlier other later split
  rcases List.eq_nil_or_concat later with rfl | ⟨rest, last, rfl⟩
  · obtain ⟨rfl, same⟩ := List.append_inj' split rfl
    cases same
    exact allowed
  · rw [List.concat_eq_append, ← List.cons_append, ← List.append_assoc] at split
    exact orderly earlier other rest (List.append_inj' split rfl).1

/-- The row says what happened. -/
structure Records (env : Environment) (log : List ProofEvent) (proof : DeliveryProof) : Prop where
  issued : proof.challengeCount = log.countP ProofEvent.isIssued
  wrong : proof.verificationAttemptCount = log.countP ProofEvent.isWrong
  issuedBound : proof.challengeCount ≤ otpMaxChallenges
  wrongBound : proof.verificationAttemptCount ≤ otpMaxVerificationAttempts
  locked : proof.verificationLockedAt.isSome ↔
    proof.verificationAttemptCount = otpMaxVerificationAttempts
  code : ∃ otp issuedAt, CodeInForce log otp issuedAt ∧ proof.otpHash = env.sha256 otp ∧
    proof.otpExpiresAt = issuedAt + otpTtl
  verified : (proof.verifiedAt = none ∧ ∀ event ∈ log, event.isVerified = false) ∨
    ∃ payload now, .verified payload now ∈ log ∧ proof.verifiedAt = some now ∧
      proof.evidenceUrl = payload.evidenceUrl ∧ proof.recipientName = payload.recipientName ∧
      proof.notes = payload.notes

/-- Before the first code there is no row and nothing has happened. -/
def Recorded (env : Environment) (log : List ProofEvent) : Option DeliveryProof → Prop
  | none => log = []
  | some proof => Records env log proof

theorem CodeInForce.concat (code : CodeInForce log otp issuedAt) (other : event.isIssued = false) :
    CodeInForce (log ++ [event]) otp issuedAt := by
  obtain ⟨before, after, rfl, kept⟩ := code.latest
  refine ⟨before, after ++ [event], by simp, fun past member => ?_⟩
  rcases List.mem_append.mp member with inside | last
  · exact kept past inside
  · rw [List.mem_singleton.mp last]
    exact other

theorem CodeInForce.issued (log : List ProofEvent) (otp : String) (now : Instant) :
    CodeInForce (log ++ [.issued otp now]) otp now :=
  ⟨log, [], rfl, by simp⟩

section
variable {log : List ProofEvent} {proof : DeliveryProof} (records : Records env log proof)
include records

theorem Records.open_unverified (taking : proof.Open) : ∀ event ∈ log, event.isVerified = false := by
  rcases records.verified with ⟨-, never⟩ | ⟨_, _, -, verified, -⟩
  · exact never
  · rw [taking.unverified] at verified
    cases verified

/-- While a proof takes codes, an event that is not a fourth or later code too many is
allowed. -/
theorem Records.allows (taking : proof.Open)
    (below : event.isIssued → proof.challengeCount < otpMaxChallenges)
    (matching : ∀ payload now, event = .verified payload now →
      now < proof.otpExpiresAt ∧ proof.otpHash = env.sha256 payload.otp) :
    Allowed env log event where
  unlocked := records.wrong ▸ taking.attempts
  unverified := records.open_unverified taking
  below := fun issuing => records.issued ▸ below issuing
  matching := fun payload now same => by
    obtain ⟨otp, issuedAt, code, hash, expiry⟩ := records.code
    obtain ⟨valid, agrees⟩ := matching payload now same
    exact ⟨otp, issuedAt, code, agrees.symm.trans hash, expiry ▸ valid⟩

end

/-- An event happens in order and is recorded. -/
theorem ProofStep.keeps (step : ProofStep env deliveryId event row next)
    (orderly : Orderly env log) (recorded : Recorded env log row) :
    Orderly env (log ++ event.toList) ∧ Recorded env (log ++ event.toList) next := by
  cases step with
  | quiet =>
    rw [Option.toList_none, List.append_nil]
    exact ⟨orderly, recorded⟩
  | first otp draws =>
    have empty : log = [] := recorded
    subst empty
    refine ⟨orderly.concat ⟨by decide, by simp, fun _ => by decide, by simp⟩, ?_⟩
    exact ⟨rfl, rfl, by simp [newProof, otpMaxChallenges], by simp [newProof],
      by simp [newProof, otpMaxVerificationAttempts],
      ⟨otp, draws.now, .issued [] otp draws.now, rfl, rfl⟩,
      Or.inl ⟨rfl, by simp [ProofEvent.isVerified]⟩⟩
  | @again proof taking below otp now =>
    have records : Records env log proof := recorded
    refine ⟨orderly.concat (records.allows taking (fun _ => below) (by simp)), ?_⟩
    refine ⟨?_, ?_, below, records.wrongBound, records.locked,
      ⟨otp, now, .issued log otp now, rfl, rfl⟩, Or.inl ⟨taking.unverified, ?_⟩⟩
    · simp [records.issued, ProofEvent.isIssued]
    · simp [records.wrong, ProofEvent.isWrong]
    · have never := records.open_unverified taking
      simpa [or_imp, forall_and, ProofEvent.isVerified] using never
  | @wrong proof taking otp now =>
    have records : Records env log proof := recorded
    have bound := taking.attempts
    refine ⟨orderly.concat (records.allows taking (by simp [ProofEvent.isIssued]) (by simp)), ?_⟩
    obtain ⟨code, issuedAt, inForce, hash, expiry⟩ := records.code
    refine ⟨?_, ?_, records.issuedBound, bound, ?_,
      ⟨code, issuedAt, inForce.concat rfl, hash, expiry⟩, Or.inl ⟨taking.unverified, ?_⟩⟩
    · simp [wrongCode, records.issued, ProofEvent.isIssued]
    · simp [wrongCode, records.wrong, ProofEvent.isWrong]
    · by_cases last : otpMaxVerificationAttempts ≤ proof.verificationAttemptCount + 1
      · simp only [wrongCode, if_pos last, Option.isSome_some, true_iff]
        omega
      · simp only [wrongCode, if_neg last, taking.unlocked, Option.isSome_none, Bool.false_eq_true,
          false_iff]
        omega
    · have never := records.open_unverified taking
      simpa [or_imp, forall_and, ProofEvent.isVerified] using never
  | @verified proof taking payload now valid matching =>
    have records : Records env log proof := recorded
    refine ⟨orderly.concat (records.allows taking (by simp [ProofEvent.isIssued]) ?_), ?_⟩
    · intro other moment same
      cases same
      exact ⟨valid, matching⟩
    · obtain ⟨code, issuedAt, inForce, hash, expiry⟩ := records.code
      refine ⟨?_, ?_, records.issuedBound, records.wrongBound, records.locked,
        ⟨code, issuedAt, inForce.concat rfl, hash, expiry⟩,
        Or.inr ⟨payload, now, by simp, rfl, rfl, rfl, rfl⟩⟩
      · simp [records.issued, ProofEvent.isIssued]
      · simp [records.wrong, ProofEvent.isWrong]

/-- A proof that takes no more codes stays as it is. -/
theorem ProofStep.closed (step : ProofStep env deliveryId event (some proof) next)
    (closed : ¬proof.Open) : event = none ∧ next = some proof := by
  cases step with
  | quiet => exact ⟨rfl, rfl⟩
  | again taking | wrong taking | verified taking => exact absurd taking closed

/-! ## Runs -/

theorem run_records (reached : Reachable (system env) world) (orderly : Orderly env log)
    (recorded : Recorded env log (world.tables.proof? deliveryId)) (actions : List Action) :
    Orderly env (log ++ proofLog env deliveryId world actions) ∧
      Recorded env (log ++ proofLog env deliveryId world actions)
        (((system env).run world actions).tables.proof? deliveryId) := by
  induction actions generalizing world log with
  | nil =>
    rw [proofLog, List.append_nil]
    exact ⟨orderly, recorded⟩
  | cons action rest ih =>
    obtain ⟨orderlyNext, recordedNext⟩ := (step_proof reached action deliveryId).keeps orderly recorded
    rw [proofLog, ← List.append_assoc]
    exact ih (reached.step action) orderlyNext recordedNext

theorem run_closed (reached : Reachable (system env) world)
    (held : world.tables.proof? deliveryId = some proof) (closed : ¬proof.Open)
    (actions : List Action) : proofLog env deliveryId world actions = [] ∧
      ((system env).run world actions).tables.proof? deliveryId = some proof := by
  induction actions generalizing world with
  | nil => exact ⟨rfl, held⟩
  | cons action rest ih =>
    have step := step_proof reached action deliveryId
    rw [held] at step
    obtain ⟨silent, kept⟩ := step.closed closed
    obtain ⟨quiet, stays⟩ := ih (reached.step action) kept
    refine ⟨?_, stays⟩
    rw [proofLog, silent]
    exact quiet

theorem Orderly.verified_once (orderly : Orderly env log) :
    log.countP ProofEvent.isVerified ≤ 1 := by
  rcases List.eq_nil_or_concat log with rfl | ⟨earlier, last, rfl⟩
  · decide
  · rw [List.concat_eq_append] at orderly ⊢
    have never := (orderly earlier last [] rfl).unverified
    have none : earlier.countP ProofEvent.isVerified = 0 := by
      rw [List.countP_eq_zero]
      exact fun event member => by simp [never event member]
    have final : [last].countP ProofEvent.isVerified ≤ 1 := List.countP_le_length
    rw [List.countP_append]
    omega

end GaonOne
