import GaonOne.RefundOnce

/-! Whether an open refund can still be sent. A row that is not being processed is taken
up by an administrator's retry; a row that is, is left alone by every dispatcher, so it
has to be held by a process or accepted by the provider. A crash between claim and
recording, and a provider event for a refund nobody sent, break that. -/
namespace GaonOne
open Relational UnitOfWork Transitions System

variable {env : Environment} {world : World} {tables : Tables} {file next : OrderFile}

/-! ## Being sent -/

/-- A process stands between its claim of the refund and its recording of the answer. -/
def World.Sending (world : World) (refund : PaymentRefund) : Prop :=
  ∃ index claim, world.HoldsAt index claim ∧ claim.refundId = refund.id

/-- The provider has carried out a refund under this key. -/
def Provider.CarriedOut (provider : Provider) (idempotencyKey : String) : Prop :=
  ∃ call ∈ provider.executed, call.idempotencyKey = idempotencyKey

/-- The provider has accepted a refund for this obligation. -/
def World.Accepted (world : World) (refund : PaymentRefund) : Prop :=
  world.provider.CarriedOut (providerIdempotencyKey refund.idempotencyKey)

/-- No dispatcher crashes with the only claim of a refund that is being processed and
was not accepted, and no provider event reports such progress for a refund that
nobody is sending and the provider has not accepted. -/
def World.keepsSendable (env : Environment) (world : World) (action : Action) : Prop :=
  match action with
  | .crash index => ∀ claim, world.HoldsAt index claim → ∀ refund ∈ world.tables.paymentRefunds,
      refund.id = claim.refundId → refund.status = .processing → world.Accepted refund ∨
        ∃ other held, other ≠ index ∧ world.HoldsAt other held ∧ held.refundId = refund.id
  | .request _ (.webhook _) _ => ∀ refund payload,
      world.reported env action = some (refund, .ok payload) →
      (Json.get payload "status").text env.print ∉ [some "processed", some "failed"] →
      world.Accepted refund ∨ world.Sending refund
  | _ => True

theorem Provider.CarriedOut.step {idempotencyKey : String}
    (done : world.provider.CarriedOut idempotencyKey) (env : Environment) (action : Action) :
    (world.step env action).provider.CarriedOut idempotencyKey := by
  obtain ⟨call, executed, key⟩ := done
  refine ⟨call, ?_, key⟩
  rcases World.step_provider env world action with same | ⟨_, _, _, _, accepts, _, made, -, -, -, -, received⟩
  · exact same ▸ executed
  · rw [received]
    rcases Provider.receive_executed world.provider made accepts with none | ⟨added, -⟩
    · exact none ▸ executed
    · exact added ▸ List.mem_append_left _ executed

/-- A call that the provider accepts leaves a refund under its key carried out. -/
theorem Provider.receive_accepted (provider : Provider) (call : RefundCall) :
    (provider.receive call true).CarriedOut call.idempotencyKey := by
  unfold Provider.receive
  by_cases apart : ∀ earlier ∈ provider.executed, earlier.idempotencyKey ≠ call.idempotencyKey
  · exact ⟨call, by simp [if_pos apart], rfl⟩
  · obtain ⟨earlier, done, same⟩ := by simpa using apart
    exact ⟨earlier, by simp [if_neg apart, done], same⟩

/-- Every answer that names a refund is of a refund the provider carried out. -/
def World.Answered (world : World) : Prop :=
  ∀ (index : Nat) (settings : Settings) (rest : List UUID) (claim : RefundClaim)
    (payload : List (String × Json)),
    world.processes[index]? = some ⟨settings, rest, .answered claim (.ok payload)⟩ →
    world.provider.CarriedOut (providerIdempotencyKey claim.idempotencyKey)

/-- What a process makes of the provider's answer. -/
theorem World.callProvider_answered {accepts : Bool}
    (standing : world.processes[index]? = some ⟨settings, rest, .claimed claim⟩)
    (found : (world.callProvider env index accepts response).processes[index]? =
      some ⟨settings, rest, .answered claim (.ok payload)⟩) :
    (world.callProvider env index accepts response).provider.CarriedOut
      (providerIdempotencyKey claim.idempotencyKey) := by
  simp only [World.callProvider, standing] at found ⊢
  obtain ⟨inside, -⟩ := List.getElem?_eq_some_iff.mp standing
  cases called : claim.call settings with
  | none =>
    rw [called] at found
    have disabled : ¬razorpayEnabled settings := by
      intro enabled
      simp [RefundClaim.call, refundCall, enabled] at called
    simp only [World.setProcess_processes, List.getElem?_set_self inside, Option.some.injEq,
      Process.mk.injEq, true_and, Phase.answered.injEq] at found
    simp [createRazorpayRefund, disabled] at found
  | some call =>
    rw [called] at found
    dsimp only at found ⊢
    have key : call.idempotencyKey = providerIdempotencyKey claim.idempotencyKey := by
      unfold RefundClaim.call refundCall at called
      split at called
      · cases called
        rfl
      · cases called
    split at found
    · next accepted =>
      rw [if_pos accepted]
      simp only [World.setProcess_processes, List.getElem?_set_self inside, Option.some.injEq,
        Process.mk.injEq, true_and, Phase.answered.injEq] at found
      rw [found] at accepted
      have taken : accepts = true := accepted rfl
      subst taken
      exact key ▸ Provider.receive_accepted world.provider call
    · cases standing.symm.trans found

theorem reachable_answered (reached : Reachable (system env) world) : world.Answered := by
  refine reached.invariant (P := World.Answered) ?_ ?_
  · intro index settings rest claim payload found
    simp [system, World.empty] at found
  · intro world action answered index settings rest claim payload found
    change (world.step env action).processes[index]? = _ at found
    rcases World.step_process env world action found with before | free | ⟨_, phase, -⟩ |
      ⟨settings', rest', claim', accepts, response, rfl, standing, same⟩
    · exact (answered index settings rest claim payload before).step env action
    · cases free
    · cases phase
    · simp only [Process.mk.injEq, Phase.answered.injEq] at same
      obtain ⟨rfl, rfl, rfl, -⟩ := same
      exact World.callProvider_answered standing found

/-! ## Rows that are being processed -/

/-- How a row comes to be processing: it was, it is claimed, or it is reported so. -/
theorem FileStep.processing {refund : PaymentRefund} (step : FileStep event file next)
    (owed : next.refund = some refund) (status : refund.status = .processing) :
    (∃ before, file.refund = some before ∧ before.status = .processing ∧
        SameObligation before refund) ∨
      event = .refundClaimed ∨
      ∃ reported, event = .refundReported reported ∧ reported ∉ [some "processed", some "failed"] := by
  have still : file.refund = some refund → ∃ before, file.refund = some before ∧
      before.status = .processing ∧ SameObligation before refund :=
    fun same => ⟨refund, same, status, .refl refund⟩
  have ensured_still : ∀ {attempt start}, RefundEnsured attempt start next →
      start.refund = file.refund → file.refund = some refund := by
    intro attempt start ensured same
    cases ensured with
    | notOwed | onRecord => exact same ▸ owed
    | recorded =>
      cases owed
      cases status
  cases step with
  | unchanged | placed | advanced | assigned | assignedUnclaimed | released | pickedUp | failed
  | proofChanged | collected | resumed | intended | capturedLate | paymentFailed | paidOut =>
    exact Or.inl (still owed)
  | cancelled _ _ _ ensured => exact Or.inl (still (ensured_still ensured (by rfl)))
  | returned _ _ _ _ _ _ voided ensured =>
    exact Or.inl (still (ensured_still ensured voided.keptRefund))
  | completed _ _ _ _ _ _ _ _ _ ensured => exact Or.inl (still (ensured.keptRefund ▸ owed))
  | captured _ _ _ _ ensured => exact Or.inl (still (ensured.keptRefund ▸ owed))
  | capturedAfterCancellation _ _ _ _ _ ensured =>
    exact Or.inl (still (ensured_still ensured (by rfl)))
  | settlementChecked _ _ ensured => exact Or.inl (still (ensured.keptRefund ▸ owed))
  | refundClaimed => exact Or.inr (Or.inl rfl)
  | refundGivenUp | refundErrored | refundFailed | refundRepeated =>
    cases owed
    cases status
  | refundPending _ _ unprocessed standing =>
    exact Or.inr (Or.inr ⟨_, rfl, by simp [unprocessed, standing]⟩)
  | refundSucceeded _ _ _ _ _ voided =>
    cases voided.keptRefund.symm.trans owed
    cases status
  | refundCleared held =>
    cases owed
    exact Or.inl ⟨_, held, status, rfl, rfl, rfl, rfl, rfl⟩

/-- A row waits to be sent for the first time with no attempt behind it. -/
def OrderFile.FirstAttempt (file : OrderFile) : Prop :=
  ∀ refund, file.refund = some refund → refund.status = .requested → refund.attemptCount = 0

theorem FileStep.firstAttempt (step : FileStep event file next) (first : file.FirstAttempt) :
    next.FirstAttempt := by
  intro refund owed status
  have ensured_first : ∀ {attempt start}, RefundEnsured attempt start next →
      start.refund = file.refund → refund.attemptCount = 0 := by
    intro attempt start ensured same
    cases ensured with
    | notOwed | onRecord => exact first refund (same ▸ owed) status
    | recorded =>
      cases owed
      rfl
  cases step with
  | unchanged | placed | advanced | assigned | assignedUnclaimed | released | pickedUp | failed
  | proofChanged | collected | resumed | intended | capturedLate | paymentFailed | paidOut =>
    exact first refund owed status
  | cancelled _ _ _ ensured => exact ensured_first ensured (by rfl)
  | returned _ _ _ _ _ _ voided ensured => exact ensured_first ensured voided.keptRefund
  | completed _ _ _ _ _ _ _ _ _ ensured => exact first refund (ensured.keptRefund ▸ owed) status
  | captured _ _ _ _ ensured => exact first refund (ensured.keptRefund ▸ owed) status
  | capturedAfterCancellation _ _ _ _ _ ensured => exact ensured_first ensured (by rfl)
  | settlementChecked _ _ ensured => exact first refund (ensured.keptRefund ▸ owed) status
  | refundClaimed | refundGivenUp | refundErrored | refundFailed | refundPending
  | refundRepeated =>
    cases owed
    cases status
  | refundSucceeded _ _ _ _ _ voided =>
    cases voided.keptRefund.symm.trans owed
    cases status
  | refundCleared =>
    cases owed
    rfl

theorem reachable_firstAttempt (reached : Reachable (system env) world) (orderId : UUID) :
    (world.tables.file orderId).FirstAttempt :=
  file_always reached (fun _ owed => by cases owed) (fun _ _ _ first step => step.firstAttempt first)
    orderId

/-- Where no claim is granted, no row comes to be processing. -/
theorem claimRefund_none
    (ungranted : (claimRefund settings (Session.start tables) refundId now).2 = none)
    (member : refund ∈ (claimRefund settings (Session.start tables) refundId now).1.pending.paymentRefunds)
    (status : refund.status = .processing) : refund ∈ tables.paymentRefunds := by
  have written : ∀ {saved : PaymentRefund}, saved.status ≠ .processing →
      refund ∈ put PaymentRefund.id saved tables.paymentRefunds → refund ∈ tables.paymentRefunds := by
    intro saved other member
    rcases mem_put.mp member with ⟨rfl, -⟩ | ⟨inside, -⟩
    · exact absurd status other
    · exact inside
  unfold claimRefund at ungranted member
  split at member
  · exact member
  · split at member
    · exact member
    · split at member
      · exact member
      · split at member
        · exact written (by simp [failedRefund]) member
        · split at member
          · simp_all
          · exact written (by simp [failedRefund]) member

theorem World.commitProcess_holds {pending : Tables} {next : Process}
    (kept : pending.Constraints) (inside : index < world.processes.length)
    (held : next.phase.claim? = some claim) :
    (world.commitProcess index pending next).HoldsAt index claim := by
  refine ⟨next, ?_, held⟩
  rw [(World.commitProcess_kept kept).2, List.getElem?_set_self inside]

section
variable (coherent : world.tables.Coherent)
include coherent

/-- Only the row that is claimed comes to be processing, and the process holds its claim. -/
theorem World.claimNext_processing {index : Nat} {now : Instant}
    (member : refund ∈ (world.claimNext index now).tables.paymentRefunds)
    (status : refund.status = .processing) :
    refund ∈ world.tables.paymentRefunds ∨ (world.claimNext index now).Sending refund := by
  unfold World.claimNext at member ⊢
  split at member
  · next settings refundId rest standing =>
    obtain ⟨inside, -⟩ := List.getElem?_eq_some_iff.mp standing
    have kept : (claimRefund settings (Session.start world.tables) refundId now).1.pending.Constraints :=
      (claimRefund_moves coherent).coherent.toConstraints
    cases granted : (claimRefund settings (Session.start world.tables) refundId now).2 with
    | none =>
      left
      refine claimRefund_none granted ?_ status
      simpa only [granted, (World.commitProcess_kept kept).1] using member
    | some claim =>
      obtain ⟨row, paymentId, held, -, -, -, -, rfl, written⟩ :=
        claimRefund_some (Prod.ext rfl granted)
      simp only [granted] at member ⊢
      have pending := congrArg Session.pending written
      rw [(World.commitProcess_kept kept).1, pending] at member
      rcases mem_put.mp member with ⟨rfl, -⟩ | ⟨before, -⟩
      · right
        exact ⟨index, _, World.commitProcess_holds kept inside rfl, (lookup_col held).symm⟩
      · exact Or.inl before
  · exact Or.inl member

/-- An error that is recorded fails the row, and the process goes on. -/
theorem World.recordAnswer_error (env : Environment) (draws : Draws)
    (standing : world.processes[index]? = some ⟨settings, rest, .answered claim (.error message)⟩)
    (held : world.tables.refund? claim.refundId = some refund) :
    (world.recordAnswer env index draws).tables =
        world.tables.putRefund (failedRefund refund message draws.now) ∧
      (world.recordAnswer env index draws).processes = world.processes.set index ⟨settings, rest, .idle⟩ := by
  obtain ⟨start, owed⟩ := refund_frame coherent held
  have unused := ProviderRefundUnused.of_mem coherent (lookup_mem held)
  have saved : Frame world.tables refund.orderId
      (world.tables.putRefund (failedRefund refund message draws.now))
      { world.tables.file refund.orderId with
        refund := some (failedRefund refund message draws.now) } :=
    start.putRefund owed rfl rfl rfl unused
  have recorded : (recordRefund env (Session.start world.tables) claim (.error message) draws).pending =
      world.tables.putRefund (failedRefund refund message draws.now) := by
    unfold recordRefund
    have found : (Session.start world.tables).flushed.refund? claim.refundId = some refund := held
    rw [found]
    rfl
  simp only [World.recordAnswer, standing]
  rw [if_pos (by simp [Except.isOk, Except.toBool]), recorded]
  exact World.commitProcess_kept saved.coherent.toConstraints

/-- A process with a claim keeps it, or records an error on its row, or holds the answer
of an accepted refund, or crashes. -/
theorem World.HoldsAt.progress {refund : PaymentRefund} (answered : world.Answered)
    (holds : world.HoldsAt index claim) (held : world.tables.refund? claim.refundId = some refund)
    (action : Action) :
    (world.step env action).HoldsAt index claim ∨ action = .crash index ∨
      world.provider.CarriedOut (providerIdempotencyKey claim.idempotencyKey) ∨
      ∃ message now, (world.step env action).tables =
        world.tables.putRefund (failedRefund refund message now) := by
  by_cases crashed : action = .crash index
  · exact Or.inr (Or.inl crashed)
  by_cases recording : ∃ draws, action = .recordAnswer index draws
  · obtain ⟨draws, rfl⟩ := recording
    obtain ⟨⟨settings, rest, phase⟩, standing, carries⟩ := holds
    cases phase with
    | idle | retrying => cases carries
    | claimed given =>
      left
      refine ⟨_, ?_, carries⟩
      simp only [World.step, World.recordAnswer, standing]
    | answered given result =>
      cases carries
      cases result with
      | ok payload => exact Or.inr (Or.inr (Or.inl (answered index settings rest claim payload standing)))
      | error message =>
        exact Or.inr (Or.inr (Or.inr ⟨message, draws.now,
          (World.recordAnswer_error coherent _ _ standing held).1⟩))
  · exact Or.inl (holds.step env action (fun draws same => recording ⟨draws, same⟩) crashed)

end

/-- While no claim is lost and no progress is made up, a row that is being processed is
accepted by the provider or being sent. -/
theorem reachable_processing
    (reached : ReachableWhile (system env) (World.keepsSendable env) world) :
    ∀ refund ∈ world.tables.paymentRefunds, refund.status = .processing →
      world.Accepted refund ∨ world.Sending refund := by
  refine reached.invariant_given (P := fun world => ∀ refund ∈ world.tables.paymentRefunds,
    refund.status = .processing → world.Accepted refund ∨ world.Sending refund)
    (Q := Reachable (system env)) (fun refund member => by cases member) (fun _ held => held) ?_
  intro world action before standing keeps refund member status
  change refund ∈ (world.step env action).tables.paymentRefunds at member
  change (world.step env action).Accepted refund ∨ (world.step env action).Sending refund
  have coherent := reachable_coherent before
  -- a row that was processing before, in this or an earlier form
  have carried : ∀ old ∈ world.tables.paymentRefunds, old.status = .processing →
      SameObligation old refund →
      (world.step env action).Accepted refund ∨ (world.step env action).Sending refund := by
    intro old recorded processing same
    have accepted : world.provider.CarriedOut (providerIdempotencyKey old.idempotencyKey) →
        (world.step env action).Accepted refund := by
      intro done
      rw [World.Accepted, same.idempotencyKey]
      exact done.step env action
    have sending : ∀ {index claim}, world.HoldsAt index claim → claim.refundId = old.id →
        action ≠ .crash index →
        (world.step env action).Accepted refund ∨ (world.step env action).Sending refund := by
      intro index claim holds own running
      have held : world.tables.refund? claim.refundId = some old := by
        rw [own]
        exact (lookup_eq_some_iff coherent.refundIds).mpr ⟨recorded, rfl⟩
      rcases holds.progress coherent (reachable_answered before) held action with
        kept | crashed | done | ⟨message, now, failed⟩
      · exact Or.inr ⟨index, claim, kept, own.trans same.id.symm⟩
      · exact absurd crashed running
      · obtain ⟨row, inside, of⟩ := (reachable_obliged before).claims index claim holds
        have sole := unique_eq coherent.refundIds inside recorded (of.refundId.symm.trans own)
        subst sole
        exact Or.inl (accepted (of.key ▸ done))
      · rw [failed] at member
        rcases mem_put.mp member with ⟨rfl, -⟩ | ⟨-, apart⟩
        · cases status
        · exact absurd same.id apart
    rcases standing old recorded processing with done | ⟨index, claim, holds, own⟩
    · exact Or.inl (accepted done)
    · by_cases crashed : action = .crash index
      · subst crashed
        rcases keeps claim holds old recorded own.symm processing with done | ⟨other, held, apart, still, own'⟩
        · exact Or.inl (accepted done)
        · exact sending still own' fun same => apart (Action.crash.inj same).symm
      · exact sending holds own crashed
  by_cases claiming : ∃ index now, action = .claimNext index now
  · obtain ⟨index, now, rfl⟩ := claiming
    rcases World.claimNext_processing coherent member status with old | sending
    · exact carried refund old status (.refl refund)
    · exact Or.inr sending
  · obtain ⟨event, caused, step⟩ := step_cause before action refund.orderId
    have owed := (World.step_moves coherent action).coherent.file_refund member
    rcases step.processing owed status with ⟨old, recorded, processing, same⟩ | claimed |
      ⟨reported, rfl, unsettled⟩
    · exact carried old (file_refund_mem recorded).1 processing same
    · exact absurd (caused.claimed claimed) claiming
    · obtain ⟨row, payload, folding, own, rfl⟩ := caused.explains
      have held := coherent.file_refund (World.reported_mem folding)
      rw [own] at held
      obtain ⟨kept, owed', same⟩ := step.obligation held
      cases owed.symm.trans owed'
      cases action with
      | request settings request draws =>
        cases request with
        | webhook webhook =>
          rcases keeps row payload folding unsettled with done | ⟨index, claim, holds, own'⟩
          · left
            rw [World.Accepted, same.idempotencyKey]
            exact done.step env _
          · exact Or.inr ⟨index, claim, holds.step env _ nofun nofun, own'.trans same.id.symm⟩
        | _ => cases folding
      | recordAnswer index draws =>
        have recorded := World.reported_mem folding
        simp only [World.reported] at folding
        split at folding
        · next settings rest claim result standing =>
          split at folding
          · obtain ⟨found, held', same'⟩ := Option.map_eq_some_iff.mp folding
            cases same'
            obtain ⟨other, inside, of⟩ :=
              (reachable_obliged before).claims index claim ⟨_, standing, rfl⟩
            have sole := unique_eq coherent.refundIds inside recorded
              (of.refundId.symm.trans (lookup_col held').symm)
            subst sole
            have done := reachable_answered before index settings rest claim payload standing
            left
            rw [World.Accepted, same.idempotencyKey, ← of.key]
            exact done.step env _
          · cases folding
        · cases folding
      | _ => cases folding

end GaonOne
