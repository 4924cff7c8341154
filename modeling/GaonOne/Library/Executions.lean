import GaonOne.Library.Changes
import Mathlib.Data.List.Induction

/-! One transaction from its first statement to its end, its queries answered by
databases that were committed at the time. In a run of a service these are databases the run
went through, so what is known of every execution of a request's program is known of every
commit, and of which request it is the commit. -/
namespace ReadCommitted
open Transitions

variable {δ κ ν ε α β ρ : Type}

/-- With its queries answered by databases among those seen, the program ends with this
value, and stands so when it does. -/
def Program.Reaches (seen : δ → Prop) :
    Program δ κ ν ε α → Footing δ κ ν → α → Footing δ κ ν → Prop
  | .done result, footing, value, last => result = value ∧ footing = last
  | .raise _, _, _, _ => False
  | .select next, footing, value, last =>
    ∃ db, seen db ∧ (next (footing.change db)).Reaches seen footing value last
  | .lock row next, footing, value, last =>
    next.Reaches seen { footing with held := row :: footing.held } value last
  | .lockFirst rows next, footing, value, last =>
    ∃ row, (∀ found ∈ row, found ∈ rows) ∧
      (next row).Reaches seen { footing with held := row.toList ++ footing.held } value last
  | .write change next, footing, value, last =>
    next.Reaches seen { footing with change := change ∘ footing.change } value last
  | .note fact next, footing, value, last =>
    next.Reaches seen { footing with notes := fact :: footing.notes } value last

namespace Program
variable {seen : δ → Prop} {footing last : Footing δ κ ν} {value : α} {program : Program δ κ ν ε α}

/-- One part of a transaction, and then the rest. -/
theorem reaches_bind {value : β} (next : α → Program δ κ ν ε β) :
    (program >>= next).Reaches seen footing value last ↔
      ∃ result middle, program.Reaches seen footing result middle ∧
        (next result).Reaches seen middle value last := by
  change (program.bind next).Reaches seen footing value last ↔ _
  induction program generalizing footing with
  | done result =>
    constructor
    · exact fun reaches => ⟨result, footing, ⟨rfl, rfl⟩, reaches⟩
    · rintro ⟨_, _, ⟨rfl, rfl⟩, reaches⟩
      exact reaches
  | raise error => exact ⟨False.elim, fun ⟨_, _, impossible, _⟩ => impossible⟩
  | select rest ih =>
    constructor
    · rintro ⟨db, now, reaches⟩
      obtain ⟨result, middle, first, second⟩ := (ih _).mp reaches
      exact ⟨result, middle, ⟨db, now, first⟩, second⟩
    · rintro ⟨result, middle, ⟨db, now, first⟩, second⟩
      exact ⟨db, now, (ih _).mpr ⟨result, middle, first, second⟩⟩
  | lockFirst rows rest ih =>
    constructor
    · rintro ⟨row, found, reaches⟩
      obtain ⟨result, middle, first, second⟩ := (ih _).mp reaches
      exact ⟨result, middle, ⟨row, found, first⟩, second⟩
    · rintro ⟨result, middle, ⟨row, found, first⟩, second⟩
      exact ⟨row, found, (ih _).mpr ⟨result, middle, first, second⟩⟩
  | lock row rest ih => exact ih
  | write change rest ih => exact ih
  | note fact rest ih => exact ih

/-- What a program yields it yields wherever it ends. -/
theorem Reaches.yields {post : α → (δ → δ) → Prop} (reaches : program.Reaches seen footing value last)
    (yields : program.Yields post footing.change) : post value last.change := by
  induction program generalizing footing with
  | done result =>
    obtain ⟨rfl, rfl⟩ := reaches
    exact yields
  | raise error => exact reaches.elim
  | select next ih =>
    obtain ⟨db, -, reaches⟩ := reaches
    exact ih _ reaches (yields _)
  | lockFirst rows next ih =>
    obtain ⟨row, -, reaches⟩ := reaches
    exact ih row reaches (yields row)
  | lock row next ih => exact ih reaches yields
  | write change next ih => exact ih reaches yields
  | note fact next ih => exact ih reaches yields

/-! One statement, and the rest of the transaction. -/

theorem Reaches.query {read : δ → β} {next : β → Program δ κ ν ε α}
    (reaches : (Program.query read >>= next).Reaches seen footing value last) :
    ∃ db, seen db ∧ (next (read (footing.change db))).Reaches seen footing value last := reaches

theorem Reaches.check {check : Except ε β} {next : β → Program δ κ ν ε α}
    (reaches : (Program.ofExcept check >>= next).Reaches seen footing value last) :
    ∃ result, check = .ok result ∧ (next result).Reaches seen footing value last := by
  cases check with
  | ok result => exact ⟨result, rfl, reaches⟩
  | error error => exact reaches.elim

theorem Reaches.lockRows {rows : List κ} {next : Unit → Program δ κ ν ε α}
    (reaches : (Program.lockRows rows >>= next).Reaches seen footing value last) :
    (next ()).Reaches seen { footing with held := rows.reverse ++ footing.held } value last := by
  induction rows generalizing footing with
  | nil => exact reaches
  | cons row rows ih =>
    have rest : (Program.lockRows rows >>= next).Reaches seen { footing with held := row :: footing.held }
        value last := reaches
    rw [List.reverse_cons, List.append_assoc]
    exact ih rest

theorem Reaches.branch {check : Prop} [Decidable check] {left right : Program δ κ ν ε α}
    (reaches : (if check then left else right).Reaches seen footing value last) :
    (check ∧ left.Reaches seen footing value last) ∨ (¬check ∧ right.Reaches seen footing value last) := by
  split at reaches
  · next held => exact .inl ⟨held, reaches⟩
  · next refused => exact .inr ⟨refused, reaches⟩

end Program

/-! ## Runs -/

/-- What a session answered with, once it has committed. -/
def Session.answer : Session δ κ ν ε α → Option α
  | committed value => some value
  | _ => none

/-- The request an action starts. -/
def Action.request? : Action δ ρ → Option ρ
  | .start request => some request
  | _ => none

/-- The requests a run starts, each served by the session of its place. -/
def requested (actions : List (Action δ ρ)) : List ρ := actions.filterMap Action.request?

namespace Service
variable (service : Service δ κ ν ε α ρ)

/-- A database that a run from this state goes through. -/
def Passes (state : State δ κ ν ε α) (actions : List (Action δ ρ)) (db : δ) : Prop :=
  ∃ earlier, earlier <+: actions ∧ (earlier.foldl service.step state).database = db

/-- However a running session will end, the program of its request ends so. -/
def Stems (seen : δ → Prop) (requests : List ρ) (state : State δ κ ν ε α) : Prop :=
  requests.length = state.sessions.length ∧
    ∀ (index : Nat) program footing, state.sessions[index]? = some (.running program footing) →
      ∃ request, requests[index]? = some request ∧ ∀ value last,
        program.Reaches seen footing value last → (service.program request).Reaches seen {} value last

variable {service} {seen : δ → Prop} {requests : List ρ} {state : State δ κ ν ε α} {index : Nat}
  {program : Program δ κ ν ε α} {footing : Footing δ κ ν}

/-- A session moves on to statements that end as the ones it had. -/
theorem Stems.set (stems : service.Stems seen requests state)
    (standing : state.sessions[index]? = some (.running program footing)) (session : Session δ κ ν ε α)
    (ends : ∀ next later, session = .running next later → ∀ value last,
      next.Reaches seen later value last → program.Reaches seen footing value last) :
    service.Stems seen requests { state with sessions := state.sessions.set index session } := by
  refine ⟨by simpa using stems.1, fun other next later there => ?_⟩
  rw [List.getElem?_set] at there
  split at there
  · next same =>
    subst same
    obtain ⟨request, asked, before⟩ := stems.2 _ _ _ standing
    split at there
    · exact ⟨request, asked, fun value last reaches =>
        before value last (ends next later (Option.some.inj there) value last reaches)⟩
    · cases there
  · exact stems.2 other next later there

theorem Stems.step (stems : service.Stems seen requests state) (now : seen state.database)
    (action : Action δ ρ) :
    service.Stems seen (requests ++ action.request?.toList) (service.step state action) := by
  cases action with
  | start request =>
    refine ⟨by simp [Service.step, Action.request?, stems.1], fun index program footing there => ?_⟩
    simp only [Service.step, List.getElem?_append] at there
    split at there
    · obtain ⟨asked, earlier, before⟩ := stems.2 index program footing there
      have bound := (List.getElem?_eq_some_iff.mp earlier).1
      exact ⟨asked, by rwa [List.getElem?_append_left bound], before⟩
    · next beyond =>
      have place : index - state.sessions.length = 0 := by
        have := (List.getElem?_eq_some_iff.mp there).1
        simpa using this
      have fresh := List.mem_singleton.mp (List.mem_of_getElem? there)
      obtain ⟨rfl, rfl⟩ := Session.running.inj fresh
      refine ⟨request, ?_, fun _ _ reaches => reaches⟩
      have same := stems.1
      rw [List.getElem?_append_right (by omega), same, place]
      rfl
  | advance index =>
    simp only [Action.request?, Option.toList_none, List.append_nil]
    unfold Service.step
    dsimp only
    split
    · next program footing standing =>
      cases program with
      | done value =>
        simp only [Service.advance]
        split
        · exact stems.set standing (.committed value) (by rintro _ _ ⟨⟩)
        · exact stems.set standing .failed (by rintro _ _ ⟨⟩)
      | raise error => exact stems.set standing .failed (by rintro _ _ ⟨⟩)
      | select next =>
        refine stems.set standing _ ?_
        rintro _ _ ⟨rfl, rfl⟩ value last reaches
        exact ⟨state.database, now, reaches⟩
      | lock row next =>
        simp only [Service.advance]
        split
        · refine stems.set standing (.running next _) ?_
          rintro _ _ ⟨rfl, rfl⟩ value last reaches
          exact reaches
        · exact stems
      | lockFirst rows next =>
        refine stems.set standing _ ?_
        rintro _ _ ⟨rfl, rfl⟩ value last reaches
        exact ⟨_, fun found taken => List.mem_of_find?_eq_some taken, reaches⟩
      | write change next =>
        refine stems.set standing _ ?_
        rintro _ _ ⟨rfl, rfl⟩ value last reaches
        exact reaches
      | note fact next =>
        refine stems.set standing _ ?_
        rintro _ _ ⟨rfl, rfl⟩ value last reaches
        exact reaches
    · exact stems
  | abort index =>
    simp only [Action.request?, Option.toList_none, List.append_nil]
    refine ⟨by simpa [Service.step] using stems.1, fun other program footing there => ?_⟩
    simp only [Service.step, List.getElem?_set] at there
    split at there
    · split at there <;> cases there
    · exact stems.2 other program footing there
  | other database =>
    simp only [Action.request?, Option.toList_none, List.append_nil]
    exact stems

theorem Stems.run {start : δ} (actions : List (Action δ ρ))
    (passed : ∀ earlier, earlier <+: actions → seen (earlier.foldl service.step ⟨start, []⟩).database) :
    service.Stems seen (requested actions) (actions.foldl service.step ⟨start, []⟩) := by
  induction actions using List.reverseRecOn with
  | nil => exact ⟨rfl, fun _ _ _ held => by simp at held⟩
  | append_singleton earlier action ih =>
    have before := ih fun first begins => passed first (begins.trans (List.prefix_append ..))
    rw [List.foldl_append, requested, List.filterMap_append]
    exact before.step (passed earlier (List.prefix_append ..)) action

/-- A session that comes to answer was about to commit, and commits its own change. -/
theorem step_answer (waits : state.sessions[index]?.bind Session.answer = none)
    (answers : (service.step state (.advance index)).sessions[index]?.bind Session.answer = some value) :
    ∃ footing, state.sessions[index]? = some (.running (.done value) footing) ∧
      service.valid (footing.change state.database) ∧
      (service.step state (.advance index)).database = footing.change state.database := by
  cases standing : state.sessions[index]? with
  | none => simp [Service.step, standing] at answers
  | some session =>
    have bound := (List.getElem?_eq_some_iff.mp standing).1
    cases session with
    | committed | failed => simp_all [Service.step, Session.answer]
    | running program footing =>
      rw [service.step_advance standing] at answers ⊢
      cases program with
      | done result =>
        rw [Service.advance] at answers ⊢
        split at answers
        · next valid =>
          have same : result = value := by simpa [bound, Session.answer] using answers
          subst same
          rw [if_pos valid]
          exact ⟨footing, rfl, valid, rfl⟩
        · simp [bound, Session.answer] at answers
      | lock row next =>
        rw [Service.advance] at answers
        split at answers
        · simp [bound, Session.answer] at answers
        · simp [standing, Session.answer] at answers
      | _ => simp [Service.advance, bound, Session.answer] at answers

/-- In a run, every session that is about to commit ends an execution of the request at its
place, with its queries answered by databases the run went through. -/
theorem run_reaches {start : δ} {actions : List (Action δ ρ)} {value : α} {footing : Footing δ κ ν}
    (standing : ((service.system start).run ⟨start, []⟩ actions).sessions[index]? =
      some (.running (.done value) footing)) :
    ∃ request, (requested actions)[index]? = some request ∧
      (service.program request).Reaches (service.Passes ⟨start, []⟩ actions) {} value footing := by
  have stems : service.Stems (service.Passes ⟨start, []⟩ actions) (requested actions)
      (actions.foldl service.step ⟨start, []⟩) :=
    Stems.run actions fun earlier begins => ⟨earlier, begins, rfl⟩
  obtain ⟨request, asked, ends⟩ := stems.2 index _ footing standing
  exact ⟨request, asked, ends value footing ⟨rfl, rfl⟩⟩

end Service

/-! ## Nobody else -/

/-- What a transaction answers with and leaves when nobody else runs. -/
def Program.alone : Program δ κ ν ε α → δ → Except ε (α × δ)
  | .done value, db => .ok (value, db)
  | .raise error, _ => .error error
  | .select next, db => (next db).alone db
  | .lock _ next, db => next.alone db
  | .lockFirst rows next, db => (next rows.head?).alone db
  | .write change next, db => next.alone (change db)
  | .note _ next, db => next.alone db

/-- One part of it, and then the rest. -/
theorem Program.alone_bind (program : Program δ κ ν ε α) (next : α → Program δ κ ν ε β) (db : δ) :
    (program >>= next).alone db = program.alone db >>= fun ended => (next ended.1).alone ended.2 := by
  change (program.bind next).alone db = _
  induction program generalizing db with
  | done value => rfl
  | raise error => rfl
  | select rest ih => exact ih db db
  | lock row rest ih => exact ih db
  | lockFirst rows rest ih => exact ih rows.head? db
  | write change rest ih => exact ih (change db)
  | note fact rest ih => exact ih db

theorem Program.alone_ofExcept (check : Except ε α) (db : δ) :
    (Program.ofExcept check : Program δ κ ν ε α).alone db = (·, db) <$> check := by
  cases check <;> rfl

theorem Program.alone_lockRows (rows : List κ) (db : δ) :
    (Program.lockRows rows : Program δ κ ν ε Unit).alone db = .ok ((), db) := by
  induction rows with
  | nil => rfl
  | cons row rows ih => exact ih

namespace Service
variable (service : Service δ κ ν ε α ρ)

/-- Where the only session ends. -/
def ended (db : δ) : Except ε (α × δ) → State δ κ ν ε α
  | .ok (value, after) =>
    if service.valid after then ⟨after, [.committed value]⟩ else ⟨db, [.failed]⟩
  | .error _ => ⟨db, [.failed]⟩

theorem step_ended (db : δ) (outcome : Except ε (α × δ)) :
    service.step (service.ended db outcome) (.advance 0) = service.ended db outcome := by
  unfold ended
  split
  · split <;> rfl
  · rfl

theorem steps_ended (db : δ) (outcome : Except ε (α × δ)) (more : Nat) :
    (List.replicate more (.advance 0)).foldl service.step (service.ended db outcome) =
      service.ended db outcome := by
  induction more with
  | zero => rfl
  | succ more ih => rw [List.replicate_succ, List.foldl_cons, step_ended, ih]

/-- Turns enough bring the only session there. -/
def EndsIn (state last : State δ κ ν ε α) : Prop :=
  ∃ enough, ∀ more, enough ≤ more → (List.replicate more (.advance 0)).foldl service.step state = last

variable {service}

theorem EndsIn.ended (db : δ) (outcome : Except ε (α × δ)) :
    service.EndsIn (service.ended db outcome) (service.ended db outcome) :=
  ⟨0, fun more _ => service.steps_ended db outcome more⟩

theorem EndsIn.step (step : service.step state (.advance 0) = next) (rest : service.EndsIn next last) :
    service.EndsIn state last := by
  obtain ⟨enough, reaches⟩ := rest
  refine ⟨enough + 1, fun more bound => ?_⟩
  obtain ⟨fewer, rfl⟩ : ∃ fewer, more = fewer + 1 := ⟨more - 1, by omega⟩
  rw [List.replicate_succ, List.foldl_cons, step]
  exact reaches fewer (by omega)

/-- Nobody holds a lock against the only session. -/
theorem free_alone (db : δ) (session : Session δ κ ν ε α) (row : κ) :
    service.Free ⟨db, [session]⟩ 0 row := by
  intro other bound differ
  simp only [List.length_singleton] at bound
  omega

theorem endsIn_alone (program : Program δ κ ν ε α) (footing : Footing δ κ ν) (db : δ) :
    service.EndsIn ⟨db, [.running program footing]⟩
      (service.ended db (program.alone (footing.change db))) := by
  induction program generalizing footing with
  | done value => exact .step rfl (.ended db (.ok (value, footing.change db)))
  | raise error => exact .step rfl (.ended db (.error error))
  | select next ih => exact .step rfl (ih _ footing)
  | lock row next ih => exact .step (service.step_lock footing rfl (free_alone db _ row)) (ih _)
  | lockFirst rows next ih =>
    have first : rows.find? (fun row => decide (service.Free
        ⟨db, [.running (.lockFirst rows next) footing]⟩ 0 row)) = rows.head? := by
      cases rows with
      | nil => rfl
      | cons row rows => exact List.find?_cons_of_pos (decide_eq_true (free_alone db _ row))
    refine .step ?_ (ih rows.head? { footing with held := rows.head?.toList ++ footing.held })
    rw [service.step_advance rfl, advance, first]
    rfl
  | write change next ih => exact .step rfl (ih _)
  | note fact next ih => exact .step rfl (ih _)

/-- A request served with nobody else about ends, and leaves what its program leaves. -/
theorem run_alone (request : ρ) (db : δ) :
    ∃ enough, ∀ more, enough ≤ more →
      (service.system db).run ⟨db, []⟩ (.start request :: List.replicate more (.advance 0)) =
        service.ended db ((service.program request).alone db) :=
  endsIn_alone (service.program request) {} db

end Service

end ReadCommitted
