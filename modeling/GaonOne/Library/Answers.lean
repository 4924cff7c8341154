import GaonOne.Library.ReadCommitted

/-! What a request answers, errors included. A condition on how a request ends is
followed through its statements like a condition on what it commits, and holds of every
request of a service that keeps its discipline. -/
namespace ReadCommitted
open Transitions

variable {δ κ ν ε α β ρ : Type}

/-- The same statements, with what is raised as one more answer. -/
def Program.caught : Program δ κ ν ε α → Program δ κ ν ε (Except ε α)
  | done value => done (.ok value)
  | raise error => done (.error error)
  | select next => select fun db => (next db).caught
  | lock row next => lock row next.caught
  | lockFirst rows next => lockFirst rows fun row => (next row).caught
  | write change next => write change next.caught
  | note fact next => note fact next.caught

namespace Discipline
variable {D : Discipline δ κ ν} {post weaker : Except ε α → Footing δ κ ν → δ → Prop}
  {footing : Footing δ κ ν} {db now : δ}

variable (D) in
/-- Whatever the others commit meanwhile, the request answers or raises as the condition
says. -/
def Ends (program : Program δ κ ν ε α) (post : Except ε α → Footing δ κ ν → δ → Prop)
    (footing : Footing δ κ ν) (db : δ) : Prop :=
  D.Holds program.caught post footing db

theorem Ends.later {program : Program δ κ ν ε α} (stable : D.Stable post)
    (ends : D.Ends program post footing db) (later : D.Later footing db now) :
    D.Ends program post footing now :=
  Holds.later stable ends later

theorem Ends.mono {program : Program δ κ ν ε α}
    (weakens : ∀ result footing db, post result footing db → weaker result footing db)
    (ends : D.Ends program post footing db) : D.Ends program weaker footing db :=
  Holds.mono weakens ends

/-- What is known of every end is known of a commit. -/
theorem Ends.holds {program : Program δ κ ν ε α} (ends : D.Ends program post footing db) :
    D.Holds program (fun value => post (.ok value)) footing db := by
  unfold Ends at ends
  induction program generalizing footing db with
  | done value => exact ends
  | raise error => trivial
  | select next ih => exact fun now later => ih _ (ends now later)
  | lock row next ih => exact fun now later => ih (ends now later)
  | lockFirst rows next ih => exact fun now later row found => ih _ (ends now later row found)
  | write change next ih => exact ih ends
  | note fact next ih => exact fun now later => ih (ends now later)

/-- A condition that is met wherever a request raises. -/
theorem Holds.ends {program : Program δ κ ν ε α} (raised : ∀ error footing db, post (.error error) footing db)
    (holds : D.Holds program (fun value => post (.ok value)) footing db) : D.Ends program post footing db := by
  unfold Ends
  induction program generalizing footing db with
  | done value => exact holds
  | raise error => exact raised error footing db
  | select next ih => exact fun now later => ih _ (holds now later)
  | lock row next ih => exact fun now later => ih (holds now later)
  | lockFirst rows next ih => exact fun now later row found => ih _ (holds now later row found)
  | write change next ih => exact ih holds
  | note fact next ih => exact fun now later => ih (holds now later)

/-- One part of a request, and what follows where it does not raise. -/
@[simp]
theorem ends_bind (program : Program δ κ ν ε β) (next : β → Program δ κ ν ε α) :
    D.Ends (program >>= next) post footing db ↔
      D.Ends program (fun result footing db => match result with
        | .ok value => D.Ends (next value) post footing db
        | .error error => post (.error error) footing db) footing db := by
  change D.Holds (program.bind next).caught post footing db ↔ D.Holds program.caught _ footing db
  induction program generalizing footing db with
  | done value => exact Iff.rfl
  | raise error => exact Iff.rfl
  | select rest ih => exact forall₂_congr fun now _ => ih _
  | lock row rest ih => exact forall₂_congr fun now _ => ih
  | lockFirst rows rest ih => exact forall₄_congr fun now _ row _ => ih _
  | write change rest ih => exact ih
  | note fact rest ih => exact forall₂_congr fun now _ => ih

/-! One statement, and the rest of the request. -/

theorem Ends.query {read : δ → β} {next : β → Program δ κ ν ε α}
    (rest : ∀ now, D.Later footing db now →
      D.Ends (next (read (footing.change now))) post footing now) :
    D.Ends (Program.query read >>= next) post footing db := rest

theorem Ends.lockRow {row : κ} {next : Unit → Program δ κ ν ε α}
    (rest : ∀ now, D.Later footing db now →
      D.Ends (next ()) post { footing with held := row :: footing.held } now) :
    D.Ends (Program.lockRow row >>= next) post footing db := rest

theorem Ends.flush {change : δ → δ} {next : Unit → Program δ κ ν ε α}
    (rest : D.Ends (next ()) post { footing with change := change ∘ footing.change } db) :
    D.Ends (Program.flush change >>= next) post footing db := rest

theorem Ends.remember {fact : ν} {next : Unit → Program δ κ ν ε α}
    (rest : ∀ now, D.Later footing db now →
      D.Ends (next ()) post { footing with notes := fact :: footing.notes } now) :
    D.Ends (Program.remember fact >>= next) post footing db := rest

theorem Ends.check {check : Except ε β} {next : β → Program δ κ ν ε α}
    (passes : ∀ value, check = .ok value → D.Ends (next value) post footing db)
    (raises : ∀ error, check = .error error → post (.error error) footing db) :
    D.Ends (Program.ofExcept check >>= next) post footing db := by
  cases check with
  | ok value => exact passes value rfl
  | error error => exact raises error rfl

/-- A check that ends the request. -/
theorem Ends.last {check : Except ε α} (passes : ∀ value, check = .ok value → post (.ok value) footing db)
    (raises : ∀ error, check = .error error → post (.error error) footing db) :
    D.Ends (Program.ofExcept check : Program δ κ ν ε α) post footing db := by
  cases check with
  | ok value => exact passes value rfl
  | error error => exact raises error rfl

theorem Ends.branch {check : Prop} [Decidable check] {left right : Program δ κ ν ε α}
    (taken : check → D.Ends left post footing db) (other : ¬check → D.Ends right post footing db) :
    D.Ends (if check then left else right) post footing db := by
  split
  · next held => exact taken held
  · next refused => exact other refused

theorem ends_done (value : α) :
    D.Ends (.done value : Program δ κ ν ε α) post footing db ↔ post (.ok value) footing db := Iff.rfl

theorem ends_raise (error : ε) :
    D.Ends (.raise error : Program δ κ ν ε α) post footing db ↔ post (.error error) footing db := Iff.rfl

/-- The request is done. -/
theorem Ends.pure {value : α} (ended : post (.ok value) footing db) :
    D.Ends (Pure.pure value : Program δ κ ν ε α) post footing db := ended

/-- Every running session will end as the condition says. -/
def Answers (D : Discipline δ κ ν) (post : Except ε α → Footing δ κ ν → δ → Prop)
    (state : State δ κ ν ε α) : Prop :=
  ∀ (index : Nat) program footing, state.sessions[index]? = some (Session.running program footing) →
    D.Ends program post footing state.database

variable {service : Service δ κ ν ε α ρ} {ok : State δ κ ν ε α → Action δ ρ → Prop}
  {state : State δ κ ν ε α} {action : Action δ ρ} {index : Nat}

/-- A session moves on to the rest of its statements. -/
theorem Answers.set (answers : D.Answers post state) (session : Session δ κ ν ε α)
    (ends : ∀ program footing, session = .running program footing →
      D.Ends program post footing state.database) :
    D.Answers post { state with sessions := state.sessions.set index session } := by
  intro other program footing there
  rw [List.getElem?_set] at there
  split at there
  · split at there
    · exact ends program footing (Option.some.inj there)
    · cases there
  · exact answers other program footing there

theorem Answers.step (upheld : Upheld service D ok) (safe : Safe service D state)
    (admitted : ok state action) (stable : D.Stable post)
    (starts : ∀ request, D.invariant state.database →
      D.Ends (service.program request) post {} state.database)
    (answers : D.Answers post state) : D.Answers post (service.step state action) := by
  cases action with
  | start request =>
    intro index program footing there
    simp only [Service.step, List.getElem?_append] at there
    split at there
    · exact answers index program footing there
    · have fresh := List.mem_singleton.mp (List.mem_of_getElem? there)
      obtain ⟨rfl, rfl⟩ := Session.running.inj fresh
      exact starts request safe.invariant
  | advance index =>
    unfold Service.step
    dsimp only
    split
    · next program footing standing =>
      have ends := answers index program footing standing
      cases program with
      | done value =>
        simp only [Service.advance]
        split
        · next valid =>
          obtain ⟨kept, -, reliable⟩ := safe.commit upheld admitted standing valid
          intro other program next there
          rw [List.getElem?_set] at there
          split at there
          · split at there <;> cases there
          · next differ =>
            refine (answers other program next there).later stable ⟨?_, kept⟩
            exact reliable other program next (Ne.symm differ) there
        · exact answers.set .failed (by rintro _ _ ⟨⟩)
      | raise error => exact answers.set .failed (by rintro _ _ ⟨⟩)
      | select next =>
        refine answers.set (.running _ footing) ?_
        rintro _ _ ⟨rfl, rfl⟩
        exact ends state.database (.refl safe.invariant)
      | lock row next =>
        simp only [Service.advance]
        split
        · refine answers.set (.running _ { footing with held := row :: footing.held }) ?_
          rintro _ _ ⟨rfl, rfl⟩
          exact ends state.database (.refl safe.invariant)
        · exact answers
      | lockFirst rows next =>
        refine answers.set (.running _ { footing with held := _ ++ footing.held }) ?_
        rintro _ _ ⟨rfl, rfl⟩
        refine ends state.database (.refl safe.invariant) _ fun found taken => ?_
        exact List.mem_of_find?_eq_some taken
      | write change next =>
        refine answers.set (.running _ { footing with change := change ∘ footing.change }) ?_
        rintro _ _ ⟨rfl, rfl⟩
        exact ends
      | note fact next =>
        refine answers.set (.running _ { footing with notes := fact :: footing.notes }) ?_
        rintro _ _ ⟨rfl, rfl⟩
        exact ends state.database (.refl safe.invariant)
    · exact answers
  | abort index => exact answers.set .failed (by rintro _ _ ⟨⟩)
  | other after =>
    obtain ⟨kept, reliable⟩ := upheld.others state after admitted safe.invariant
    intro index program footing there
    exact (answers index program footing there).later stable ⟨reliable _ _, kept⟩

/-- In every state of an admitted run, every request will end as its program does alone. -/
theorem Upheld.answers {start : δ} (upheld : Upheld service D ok) (kept : D.invariant start)
    (stable : D.Stable post)
    (starts : ∀ request db, D.invariant db → D.Ends (service.program request) post {} db)
    (reached : System.ReachableWhile (service.system start) ok state) : D.Answers post state := by
  induction reached with
  | initial => exact fun _ _ _ held => by simp [Service.system] at held
  | next earlier admitted ih =>
    exact ih.step upheld (upheld.safe kept earlier) admitted stable fun request => starts request _

-- conditions on ends are met by the rules above, never by running the program
attribute [irreducible] Ends

end Discipline

/-! ## Requests come to an end -/

/-- Whatever its queries return, the request is over after so many statements. -/
def Program.Within : Nat → Program δ κ ν ε α → Prop
  | _, done _ => True
  | _, raise _ => True
  | 0, _ => False
  | bound + 1, select next => ∀ db, (next db).Within bound
  | bound + 1, lock _ next => next.Within bound
  | bound + 1, lockFirst _ next => ∀ row, (next row).Within bound
  | bound + 1, write _ next => next.Within bound
  | bound + 1, note _ next => next.Within bound

namespace Program

@[simp]
theorem within_done (value : α) : (done value : Program δ κ ν ε α).Within bound := by
  cases bound <;> trivial

@[simp]
theorem within_raise (error : ε) : (raise error : Program δ κ ν ε α).Within bound := by
  cases bound <;> trivial

theorem Within.mono {program : Program δ κ ν ε α} (within : program.Within bound)
    (least : bound ≤ more) : program.Within more := by
  induction program generalizing bound more with
  | done value => exact within_done value
  | raise error => exact within_raise error
  | select next ih | lockFirst rows next ih =>
    obtain _ | bound := bound
    · exact within.elim
    obtain _ | more := more
    · omega
    exact fun answer => ih answer (within answer) (by omega)
  | lock row next ih | write change next ih | note fact next ih =>
    obtain _ | bound := bound
    · exact within.elim
    obtain _ | more := more
    · omega
    exact ih within (by omega)

theorem Within.bind {program : Program δ κ ν ε α} {next : α → Program δ κ ν ε β}
    (within : program.Within first) (rest : ∀ value, (next value).Within second) :
    (program >>= next).Within (second + first) := by
  change (program.bind next).Within (second + first)
  induction program generalizing first with
  | done value => exact (rest value).mono (by omega)
  | raise error => exact within_raise error
  | select step ih | lockFirst rows step ih =>
    obtain _ | first := first
    · exact within.elim
    exact fun answer => ih answer (within answer)
  | lock row step ih | write change step ih | note fact step ih =>
    obtain _ | first := first
    · exact within.elim
    exact ih within

theorem Within.query (read : δ → α) : (query read : Program δ κ ν ε α).Within 1 := fun _ => trivial

theorem Within.lockRow (row : κ) : (lockRow row : Program δ κ ν ε Unit).Within 1 := trivial

theorem Within.flush (change : δ → δ) : (flush change : Program δ κ ν ε Unit).Within 1 := trivial

theorem Within.remember (fact : ν) : (remember fact : Program δ κ ν ε Unit).Within 1 := trivial

theorem Within.ofExcept (check : Except ε α) : (ofExcept check : Program δ κ ν ε α).Within 0 := by
  cases check <;> trivial

end Program

namespace Service
variable (service : Service δ κ ν ε α ρ)

/-- The session does not wait for a lock. -/
def Moving (state : State δ κ ν ε α) (index : Nat) : Prop :=
  ∀ row next footing, state.sessions[index]? = some (.running (.lock row next) footing) →
    service.Free state index row

/-- In a run, the session is not aborted and takes its turn so often. -/
inductive Turns (index : Nat) : Nat → State δ κ ν ε α → List (Action δ ρ) → Prop where
  | past : Turns index 0 state []
  | own (moving : service.Moving state index)
      (rest : Turns index turns (service.step state (.advance index)) actions) :
      Turns index (turns + 1) state (.advance index :: actions)
  | other (spared : action ≠ .abort index) (rest : Turns index turns (service.step state action) actions) :
      Turns index turns state (action :: actions)

end Service

/-- The session is over, or will be after so many turns. -/
def Session.Within (bound : Nat) : Session δ κ ν ε α → Prop
  | running program _ => program.Within bound
  | _ => True

def Session.Over : Session δ κ ν ε α → Prop
  | running _ _ => False
  | _ => True

section
variable {service : Service δ κ ν ε α ρ} {state : State δ κ ν ε α} {index : Nat}
  {session : Session δ κ ν ε α} {action : Action δ ρ}

/-- Only its own turns move a session, unless it is aborted. -/
theorem Service.step_session (standing : state.sessions[index]? = some session)
    (spared : action ≠ .abort index) :
    action = .advance index ∨ (service.step state action).sessions[index]? = some session := by
  cases action with
  | start request =>
    right
    have bound := (List.getElem?_eq_some_iff.mp standing).1
    simp only [step, List.getElem?_append, bound, if_true]
    exact standing
  | advance other =>
    by_cases own : other = index
    · exact .inl (own ▸ rfl)
    · exact .inr ((service.advance_other own state).trans standing)
  | abort other =>
    right
    have differ : other ≠ index := fun same => spared (same ▸ rfl)
    simp only [step]
    rw [List.getElem?_set_ne differ]
    exact standing
  | other database => exact .inr standing

/-- A session that is over stays as it is. -/
theorem Session.Over.step (past : session.Over) (standing : state.sessions[index]? = some session)
    (spared : action ≠ .abort index) :
    (service.step state action).sessions[index]? = some session := by
  rcases Service.step_session standing spared with rfl | same
  · cases session with
    | running => exact past.elim
    | committed value => simp only [Service.step, standing]
    | failed => simp only [Service.step, standing]
  · exact same

theorem Service.set_session (standing : state.sessions[index]? = some session)
    (next : Session δ κ ν ε α) : (state.sessions.set index next)[index]? = some next := by
  rw [List.getElem?_set_self (List.getElem?_eq_some_iff.mp standing).1]

/-- What one turn makes of a running session. -/
inductive Turned (service : Service δ κ ν ε α ρ) (state : State δ κ ν ε α) (index : Nat)
    (footing : Footing δ κ ν) : Program δ κ ν ε α → Session δ κ ν ε α → Prop where
  | committed (valid : service.valid (footing.change state.database)) :
      Turned service state index footing (.done value) (.committed value)
  | invalid (broken : ¬service.valid (footing.change state.database)) :
      Turned service state index footing (.done value) .failed
  | raised : Turned service state index footing (.raise error) .failed
  | waits (held : ¬service.Free state index row) :
      Turned service state index footing (.lock row next) (.running (.lock row next) footing)
  | goes (next : Program δ κ ν ε α) (later : Footing δ κ ν) (notes : ∀ note ∈ footing.notes, note ∈ later.notes)
      (shorter : ∀ bound, program.Within bound → 0 < bound ∧ next.Within (bound - 1)) :
      Turned service state index footing program (.running next later)

theorem Service.turned {program : Program δ κ ν ε α} {footing : Footing δ κ ν}
    (standing : state.sessions[index]? = some (.running program footing)) :
    ∃ next, (service.step state (.advance index)).sessions[index]? = some next ∧
      Turned service state index footing program next := by
  rw [service.step_advance standing]
  have shorter {rest : Program δ κ ν ε α} {bound : Nat} (zero : ¬program.Within 0)
      (step : ∀ bound, program.Within (bound + 1) → rest.Within bound) (within : program.Within bound) :
      0 < bound ∧ rest.Within (bound - 1) := by
    obtain _ | bound := bound
    · exact absurd within zero
    · exact ⟨Nat.succ_pos _, step bound within⟩
  cases program with
  | done value =>
    simp only [advance]
    split
    · next valid => exact ⟨_, set_session standing _, .committed valid⟩
    · next broken => exact ⟨_, set_session standing _, .invalid broken⟩
  | raise error => exact ⟨_, set_session standing _, .raised⟩
  | select next =>
    refine ⟨_, set_session standing _, .goes _ _ (fun _ noted => noted) fun bound => ?_⟩
    exact shorter id fun _ within => within _
  | lock row next =>
    simp only [advance]
    split
    · refine ⟨_, set_session standing _, .goes _ _ (fun _ noted => noted) fun bound => ?_⟩
      exact shorter id fun _ within => within
    · next held => exact ⟨_, standing, .waits held⟩
  | lockFirst rows next =>
    refine ⟨_, set_session standing _, .goes _ _ (fun _ noted => noted) fun bound => ?_⟩
    exact shorter id fun _ within => within _
  | write change next =>
    refine ⟨_, set_session standing _, .goes _ _ (fun _ noted => noted) fun bound => ?_⟩
    exact shorter id fun _ within => within
  | note fact next =>
    refine ⟨_, set_session standing _, .goes _ _ (fun _ noted => List.mem_cons_of_mem _ noted) fun bound => ?_⟩
    exact shorter id fun _ within => within

theorem Session.Over.within (past : session.Over) : session.Within bound := by
  cases session with
  | running => exact past.elim
  | committed | failed => trivial

/-- No step takes a session away from its end, and its own turn brings it nearer unless it
waits. -/
theorem Service.step_within (standing : state.sessions[index]? = some session)
    (within : session.Within bound) (spared : action ≠ .abort index) :
    ∃ next, (service.step state action).sessions[index]? = some next ∧ next.Within bound ∧
      (session.Over → next.Over) ∧ (action = .advance index → service.Moving state index →
        next.Over ∨ (0 < bound ∧ next.Within (bound - 1))) := by
  by_cases ended : session.Over
  · refine ⟨session, ended.step standing spared, within, id, fun _ _ => .inl ended⟩
  rcases Service.step_session standing spared with rfl | same
  · cases session with
    | committed | failed => exact absurd trivial ended
    | running program footing =>
      obtain ⟨next, there, turned⟩ := Service.turned standing
      cases turned with
      | committed | invalid | raised =>
        exact ⟨_, there, trivial, fun past => absurd past ended, fun _ _ => .inl trivial⟩
      | waits held =>
        refine ⟨_, there, within, fun past => absurd past ended, fun _ moving => ?_⟩
        exact absurd (moving _ _ _ standing) held
      | goes next later notes shorter =>
        obtain ⟨some, less⟩ := shorter bound within
        exact ⟨_, there, less.mono (by omega), fun past => absurd past ended, fun _ _ => .inr ⟨some, less⟩⟩
  · refine ⟨session, same, within, id, fun own moving => ?_⟩
    subst own
    cases session with
    | committed | failed => exact absurd trivial ended
    | running program footing =>
      obtain ⟨next, there, turned⟩ := Service.turned standing
      cases Option.some.inj (same.symm.trans there)
      cases turned with
      | waits held => exact absurd (moving _ _ _ standing) held
      | goes _ _ notes shorter => exact .inr (shorter bound within)

/-- A step adds at most the session it starts. -/
theorem Service.step_fresh (absent : state.sessions[index]? = none)
    (standing : (service.step state action).sessions[index]? = some session) :
    ∃ request, session = .running (service.program request) {} := by
  have beyond : state.sessions.length ≤ index := List.getElem?_eq_none_iff.mp absent
  have none_set (other : Nat) (next : Session δ κ ν ε α) : (state.sessions.set other next)[index]? = none := by
    rw [List.getElem?_eq_none_iff, List.length_set]
    exact beyond
  cases action with
  | start request =>
    simp only [step, List.getElem?_append, Nat.not_lt.mpr beyond, if_false] at standing
    exact ⟨request, List.mem_singleton.mp (List.mem_of_getElem? standing)⟩
  | abort other =>
    simp only [step, none_set] at standing
    cases standing
  | other database => cases absent.symm.trans standing
  | advance other =>
    have differ : other ≠ index ∨ state.sessions[other]? = none := by
      by_cases same : other = index
      · exact .inr (same ▸ absent)
      · exact .inl same
    rcases differ with differ | gone
    · rw [service.advance_other differ, absent] at standing
      cases standing
    · simp only [step, gone, absent] at standing
      cases standing

/-- Every session of a service is within the bound of its longest request. -/
theorem Service.reached_within {start : δ} {ok : State δ κ ν ε α → Action δ ρ → Prop}
    (bounded : ∀ request, (service.program request).Within bound)
    (reached : System.ReachableWhile (service.system start) ok state) :
    ∀ (index : Nat) session, state.sessions[index]? = some session → session.Within bound := by
  induction reached with
  | initial => exact fun _ _ standing => by simp [system] at standing
  | @next state action earlier admitted ih =>
    intro index session standing
    cases before : state.sessions[index]? with
    | none =>
      obtain ⟨request, rfl⟩ := service.step_fresh before standing
      exact bounded request
    | some old =>
      by_cases spared : action = .abort index
      · subst spared
        have failed := standing.symm.trans (set_session before .failed)
        cases failed
        trivial
      · obtain ⟨next, there, within, -⟩ := service.step_within before (ih index old before) spared
        cases standing.symm.trans there
        exact within

/-- A session that takes more turns than its request has statements is over. -/
theorem Service.over_of_turns {start : δ} (turns : service.Turns index count state actions)
    (standing : state.sessions[index]? = some session) (within : session.Within bound)
    (enough : session.Over ∨ bound < count) :
    ∃ last, ((service.system start).run state actions).sessions[index]? = some last ∧ last.Over := by
  induction turns generalizing session bound with
  | past =>
    rcases enough with past | none
    · exact ⟨session, standing, past⟩
    · omega
  | own moving rest ih =>
    have spared : (.advance index : Action δ ρ) ≠ .abort index := by simp
    obtain ⟨next, there, still, ended, nearer⟩ := Service.step_within standing within spared
    rcases nearer rfl moving with past | ⟨some, less⟩
    · exact ih there still (.inl past)
    · exact ih there less (enough.imp ended fun more => by omega)
  | other spared rest ih =>
    obtain ⟨next, there, still, ended, -⟩ := Service.step_within standing within spared
    exact ih there still (enough.imp ended id)

end

-- bounds are added up by the rules above
attribute [irreducible] Program.Within

end ReadCommitted
