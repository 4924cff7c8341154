import GaonOne.RefundFinality

/-! The dispatching processes and the provider, one step at a time. A process comes to
a claim only by committing it, keeps it until it records the answer or crashes, and
calls the provider only with the claim it holds. -/
namespace GaonOne
open Relational UnitOfWork Transitions System

variable {env : Environment} {world : World} {index : Nat} {claim : RefundClaim}

/-! ## Claims -/

/-- The claim a process holds between its two commits. -/
def Phase.claim? : Phase → Option RefundClaim
  | .claimed claim => some claim
  | .answered claim _ => some claim
  | _ => none

/-- The process at this place holds this claim. -/
def World.HoldsAt (world : World) (index : Nat) (claim : RefundClaim) : Prop :=
  ∃ process, world.processes[index]? = some process ∧ process.phase.claim? = some claim

/-- This action commits this claim for the process at this place. -/
def World.Grants (world : World) (action : Action) (index : Nat) (claim : RefundClaim) : Prop :=
  ∃ settings refundId rest now, action = .claimNext index now ∧
    world.processes[index]? = some ⟨settings, refundId :: rest, .idle⟩ ∧
    (claimRefund settings (Session.start world.tables) refundId now).2 = some claim

@[simp] theorem World.commit_processes (world : World) (pending : Tables) :
    (world.commit pending).processes = world.processes := rfl

@[simp] theorem World.commit_provider (world : World) (pending : Tables) :
    (world.commit pending).provider = world.provider := rfl

@[simp] theorem World.setProcess_processes (world : World) (index : Nat) (process : Process) :
    (world.setProcess index process).processes = world.processes.set index process := rfl

@[simp] theorem World.setProcess_provider (world : World) (index : Nat) (process : Process) :
    (world.setProcess index process).provider = world.provider := rfl

@[simp] theorem World.setProcess_tables (world : World) (index : Nat) (process : Process) :
    (world.setProcess index process).tables = world.tables := rfl

@[simp] theorem World.addProcess_processes (world : World) (process : Process) :
    (world.addProcess process).processes = world.processes ++ [process] := rfl

@[simp] theorem World.commitProcess_provider (world : World) (index : Nat) (pending : Tables)
    (next : Process) : (world.commitProcess index pending next).provider = world.provider := by
  unfold World.commitProcess
  split <;> rfl

/-- A process whose commit is refused has ended. -/
theorem World.commitProcess_processes (world : World) (index : Nat) (pending : Tables) (next : Process) :
    ∃ process, (process = next ∨ process = next.ended) ∧
      (world.commitProcess index pending next).processes = world.processes.set index process := by
  unfold World.commitProcess
  split
  · exact ⟨next, Or.inl rfl, rfl⟩
  · exact ⟨next.ended, Or.inr rfl, rfl⟩

/-- A commit that meets the constraints is the pending state. -/
theorem World.commit_kept {pending : Tables} (kept : pending.Constraints) :
    (world.commit pending).tables = pending := by
  unfold World.commit Database.commit
  dsimp only [World.tables]
  rw [dif_pos kept]

theorem World.commitProcess_kept {pending : Tables} {next : Process} (kept : pending.Constraints) :
    (world.commitProcess index pending next).tables = pending ∧
      (world.commitProcess index pending next).processes = world.processes.set index next := by
  rw [World.commitProcess, if_pos kept]
  exact ⟨World.commit_kept kept, rfl⟩

@[simp] theorem Process.ended_claim (process : Process) : process.ended.phase.claim? = none := rfl

/-- What stands at a place after one process was replaced. -/
theorem process_set {processes : List Process} {process next : Process} {place : Nat}
    (found : (processes.set place next)[index]? = some process) :
    (place = index ∧ process = next) ∨ processes[index]? = some process := by
  by_cases same : place = index
  · subst same
    rw [List.getElem?_set_self'] at found
    cases inside : processes[place]? with
    | none => simp [inside] at found
    | some old =>
      rw [inside] at found
      exact Or.inl ⟨rfl, (Option.some.inj found).symm⟩
  · rw [List.getElem?_set_ne same] at found
    exact Or.inr found

/-- What stands at a place after a process was started. -/
theorem process_append {processes : List Process} {process next : Process}
    (found : (processes ++ [next])[index]? = some process) :
    process = next ∨ processes[index]? = some process := by
  by_cases bound : index < processes.length
  · rw [List.getElem?_append_left bound] at found
    exact Or.inr found
  · rw [List.getElem?_append_right (Nat.le_of_not_lt bound)] at found
    exact Or.inl (List.mem_singleton.mp (List.mem_of_getElem? found))

/-- Everything a step can do to a process: nothing, to free it of its claim, to grant it
a claim, or to give it the provider's answer. -/
theorem World.step_process (env : Environment) (world : World) (action : Action)
    (found : (world.step env action).processes[index]? = some process) :
    world.processes[index]? = some process ∨ process.phase.claim? = none ∨
      (∃ claim, process.phase = .claimed claim ∧ world.Grants action index claim) ∨
      ∃ settings rest claim accepts response, action = .callProvider index accepts response ∧
        world.processes[index]? = some ⟨settings, rest, .claimed claim⟩ ∧
        process = ⟨settings, rest, .answered claim (createRazorpayRefund env settings response)⟩ := by
  have free : ∀ {next : Process} {pending : Tables} {place : Nat}, next.phase.claim? = none →
      (world.commitProcess place pending next).processes[index]? = some process →
      world.processes[index]? = some process ∨ process.phase.claim? = none := by
    intro next pending place unclaimed found
    obtain ⟨standing, either, changed⟩ := World.commitProcess_processes world place pending next
    rw [changed] at found
    rcases process_set found with ⟨-, rfl⟩ | before
    · rcases either with rfl | rfl
      · exact Or.inr unclaimed
      · exact Or.inr rfl
    · exact Or.inl before
  cases action with
  | request settings request draws =>
    left
    simp only [World.step, World.request] at found
    split at found
    · split at found <;> exact found
    · exact found
  | dispatchDueRefunds settings limit orderId =>
    rcases process_append found with rfl | before
    · exact Or.inr (Or.inl rfl)
    · exact Or.inl before
  | retryRefund settings subject refundId =>
    simp only [World.step, World.retryRefund] at found
    split at found
    · rcases process_append found with rfl | before
      · exact Or.inr (Or.inl rfl)
      · exact Or.inl before
    · exact Or.inl found
  | commitRetry place =>
    simp only [World.step, World.commitRetry] at found
    split at found
    · exact (free rfl found).imp_right Or.inl
    · exact Or.inl found
  | claimNext place now =>
    simp only [World.step, World.claimNext] at found
    split at found
    · next settings refundId rest standing =>
      cases granted : (claimRefund settings (Session.start world.tables) refundId now).2 with
      | none =>
        rw [granted] at found
        exact (free rfl found).imp_right Or.inl
      | some claim =>
        rw [granted] at found
        obtain ⟨next, either, changed⟩ := World.commitProcess_processes world place _ _
        rw [changed] at found
        rcases process_set found with ⟨rfl, rfl⟩ | before
        · rcases either with rfl | rfl
          · exact Or.inr (Or.inr (Or.inl
              ⟨claim, rfl, settings, refundId, rest, now, rfl, standing, granted⟩))
          · exact Or.inr (Or.inl rfl)
        · exact Or.inl before
    · exact Or.inl found
  | callProvider place accepts response =>
    simp only [World.step, World.callProvider] at found
    split at found
    · next settings rest claim standing =>
      have called : ∀ {after : World}, after.processes = world.processes.set place
          ⟨settings, rest, .answered claim (createRazorpayRefund env settings response)⟩ →
          after.processes[index]? = some process → world.processes[index]? = some process ∨
          ∃ settings rest claim accepts' response', Action.callProvider place accepts response =
              .callProvider index accepts' response' ∧
            world.processes[index]? = some ⟨settings, rest, .claimed claim⟩ ∧
            process = ⟨settings, rest, .answered claim (createRazorpayRefund env settings response')⟩ := by
        intro after changed found
        rw [changed] at found
        rcases process_set found with ⟨rfl, rfl⟩ | before
        · exact Or.inr ⟨settings, rest, claim, accepts, response, rfl, standing, rfl⟩
        · exact Or.inl before
      split at found
      · exact (called rfl found).imp_right fun answered => Or.inr (Or.inr answered)
      · split at found
        · exact (called rfl found).imp_right fun answered => Or.inr (Or.inr answered)
        · exact Or.inl found
    · exact Or.inl found
  | recordAnswer place draws =>
    simp only [World.step, World.recordAnswer] at found
    split at found
    · split at found
      · exact (free rfl found).imp_right Or.inl
      · exact Or.inl found
    · exact Or.inl found
  | crash place =>
    simp only [World.step] at found
    split at found
    · next standing _ =>
      rcases process_set found with ⟨-, rfl⟩ | before
      · exact Or.inr (Or.inl rfl)
      · exact Or.inl before
    · exact Or.inl found
  | payOut entryId now =>
    left
    simp only [World.step, World.payOut] at found
    split at found
    · split at found <;> exact found
    · exact found
  | editCatalogue catalogue => exact Or.inl found

/-- A claim that is held was held before, or is granted by this very step. -/
theorem World.step_holds (env : Environment) (world : World) (action : Action)
    (holds : (world.step env action).HoldsAt index claim) :
    world.HoldsAt index claim ∨ world.Grants action index claim := by
  obtain ⟨process, found, held⟩ := holds
  rcases World.step_process env world action found with before | free |
    ⟨granted, phase, grants⟩ | ⟨settings, rest, kept, accepts, response, -, standing, rfl⟩
  · exact Or.inl ⟨process, before, held⟩
  · rw [free] at held
    cases held
  · rw [phase] at held
    cases held
    exact Or.inr grants
  · cases held
    exact Or.inl ⟨_, standing, rfl⟩

theorem World.HoldsAt.set_of_ne {after : World} {process : Process} {place : Nat}
    (holds : world.HoldsAt index claim) (changed : after.processes = world.processes.set place process)
    (elsewhere : place ≠ index) : after.HoldsAt index claim := by
  obtain ⟨found, at_, held⟩ := holds
  refine ⟨found, ?_, held⟩
  rw [changed, List.getElem?_set_ne elsewhere]
  exact at_

/-- A process that stands somewhere it cannot hold a claim is another one. -/
theorem World.HoldsAt.ne {process : Process} {place : Nat} (holds : world.HoldsAt index claim)
    (standing : world.processes[place]? = some process) (unclaimed : process.phase.claim? = none) :
    place ≠ index := by
  rintro rfl
  obtain ⟨found, at_, held⟩ := holds
  cases standing.symm.trans at_
  rw [unclaimed] at held
  cases held

/-- A process keeps its claim until it records the answer or crashes. -/
theorem World.HoldsAt.step (holds : world.HoldsAt index claim) (env : Environment) (action : Action)
    (unrecorded : ∀ draws, action ≠ .recordAnswer index draws) (running : action ≠ .crash index) :
    (world.step env action).HoldsAt index claim := by
  have same : ∀ {after : World}, after.processes = world.processes → after.HoldsAt index claim := by
    intro after same
    obtain ⟨process, found, held⟩ := holds
    exact ⟨process, same ▸ found, held⟩
  have grown : ∀ {after : World} {process}, after.processes = world.processes ++ [process] →
      after.HoldsAt index claim := by
    intro after process grown
    obtain ⟨old, found, held⟩ := holds
    obtain ⟨bound, -⟩ := List.getElem?_eq_some_iff.mp found
    exact ⟨old, by rw [grown, List.getElem?_append_left bound, found], held⟩
  cases action with
  | request settings request draws =>
    apply same
    simp only [World.step, World.request]
    split
    · split <;> rfl
    · rfl
  | dispatchDueRefunds settings limit orderId => exact grown rfl
  | retryRefund settings subject refundId =>
    simp only [World.step, World.retryRefund]
    split
    · exact grown rfl
    · exact same rfl
  | commitRetry place =>
    simp only [World.step, World.commitRetry]
    split
    · next standing =>
      obtain ⟨process, -, changed⟩ := World.commitProcess_processes world place _ _
      exact holds.set_of_ne changed (holds.ne standing rfl)
    · exact same rfl
  | claimNext place now =>
    simp only [World.step, World.claimNext]
    split
    · next standing =>
      obtain ⟨process, -, changed⟩ := World.commitProcess_processes world place _ _
      exact holds.set_of_ne changed (holds.ne standing rfl)
    · exact same rfl
  | callProvider place accepts response =>
    simp only [World.step, World.callProvider]
    split
    · next settings rest standing_claim standing =>
      have kept : ∀ {after : World} {result}, after.processes =
          world.processes.set place ⟨settings, rest, .answered standing_claim result⟩ →
          after.HoldsAt index claim := by
        intro after result changed
        by_cases here : place = index
        · subst here
          obtain ⟨found, at_, held⟩ := holds
          cases standing.symm.trans at_
          obtain ⟨bound, -⟩ := List.getElem?_eq_some_iff.mp standing
          exact ⟨⟨settings, rest, .answered standing_claim result⟩,
            by rw [changed, List.getElem?_set_self bound], held⟩
        · exact holds.set_of_ne changed here
      split
      · exact kept rfl
      · split
        · exact kept rfl
        · exact same rfl
    · exact same rfl
  | recordAnswer place draws =>
    simp only [World.step, World.recordAnswer]
    split
    · split
      · obtain ⟨process, -, changed⟩ := World.commitProcess_processes world place _ _
        exact holds.set_of_ne changed fun here => unrecorded draws (here ▸ rfl)
      · exact same rfl
    · exact same rfl
  | crash place =>
    simp only [World.step]
    split
    · exact holds.set_of_ne rfl fun here => running (here ▸ rfl)
    · exact same rfl
  | payOut entryId now =>
    apply same
    simp only [World.step, World.payOut]
    split
    · split <;> rfl
    · rfl
  | editCatalogue catalogue => exact same rfl

/-! ## Calls -/

/-- The provider changes only by a call that a process makes with its claim. -/
theorem World.step_provider (env : Environment) (world : World) (action : Action) :
    (world.step env action).provider = world.provider ∨
      ∃ index settings rest claim accepts response call,
        action = .callProvider index accepts response ∧
        world.processes[index]? = some ⟨settings, rest, .claimed claim⟩ ∧
        claim.call settings = some call ∧
        ((createRazorpayRefund env settings response).isOk → accepts) ∧
        (world.step env action).provider = world.provider.receive call accepts := by
  cases action with
  | request settings request draws =>
    left
    simp only [World.step, World.request]
    split
    · split <;> rfl
    · rfl
  | dispatchDueRefunds settings limit orderId => exact Or.inl rfl
  | retryRefund settings subject refundId =>
    left
    simp only [World.step, World.retryRefund]
    split <;> rfl
  | commitRetry place =>
    left
    simp only [World.step, World.commitRetry]
    split
    · exact World.commitProcess_provider ..
    · rfl
  | claimNext place now =>
    left
    simp only [World.step, World.claimNext]
    split
    · exact World.commitProcess_provider ..
    · rfl
  | callProvider place accepts response =>
    simp only [World.step, World.callProvider]
    split
    · next settings rest claim standing =>
      split
      · exact Or.inl rfl
      · next call called =>
        split
        · next accepted =>
          exact Or.inr ⟨place, settings, rest, claim, accepts, response, call, rfl, standing, called,
            accepted, rfl⟩
        · exact Or.inl rfl
    · exact Or.inl rfl
  | recordAnswer place draws =>
    left
    simp only [World.step, World.recordAnswer]
    split
    · split
      · exact World.commitProcess_provider ..
      · rfl
    · rfl
  | crash place =>
    left
    simp only [World.step]
    split <;> rfl
  | payOut entryId now =>
    left
    simp only [World.step, World.payOut]
    split
    · split <;> rfl
    · rfl
  | editCatalogue catalogue => exact Or.inl rfl

end GaonOne
