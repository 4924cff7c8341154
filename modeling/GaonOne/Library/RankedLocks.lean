import GaonOne.Library.LockOrder
import Mathlib.Data.Fintype.Card
import Mathlib.Logic.Hydra

/-! Ranked locks. Where every lock has a rank, and a transaction asks for a lock that it
holds already or that ranks above all it holds, sessions never wait for each other in a
cycle. Nothing is relied on between statements but an invariant of the committed data. -/
namespace ReadCommitted
open Transitions

variable {δ κ ν ε α β ρ ω : Type} [Preorder ω]

/-- A lock may be asked for again, or above all that are held. -/
def MayAsk (rank : κ → ω) (held : List κ) (row : κ) : Prop :=
  row ∈ held ∨ ∀ other ∈ held, rank other < rank row

/-- Whatever data with the invariant the queries read, the transaction asks for its locks in
order, and ends with what it holds and has changed as the condition says. -/
def Program.Asks (rank : κ → ω) (invariant : δ → Prop) :
    Program δ κ ν ε α → (α → List κ → (δ → δ) → Prop) → List κ → (δ → δ) → Prop
  | .done value, post, held, change => post value held change
  | .raise _, _, _, _ => True
  | .select next, post, held, change =>
    ∀ db, invariant db → (next (change db)).Asks rank invariant post held change
  | .lock row next, post, held, change =>
    MayAsk rank held row ∧ next.Asks rank invariant post (row :: held) change
  | .lockFirst rows next, post, held, change =>
    ∀ row, (∀ found ∈ row, found ∈ rows) →
      (next row).Asks rank invariant post (row.toList ++ held) change
  | .write later next, post, held, change => next.Asks rank invariant post held (later ∘ change)
  | .note _ next, post, held, change => next.Asks rank invariant post held change

namespace Program
variable {rank : κ → ω} {invariant : δ → Prop} {program : Program δ κ ν ε α}
  {post weaker : α → List κ → (δ → δ) → Prop} {held : List κ} {change : δ → δ}

theorem Asks.mono (weakens : ∀ value held change, post value held change → weaker value held change)
    (asks : program.Asks rank invariant post held change) :
    program.Asks rank invariant weaker held change := by
  induction program generalizing held change with
  | done value => exact weakens _ _ _ asks
  | raise error => trivial
  | select next ih => exact fun db kept => ih _ (asks db kept)
  | lock row next ih => exact ⟨asks.1, ih asks.2⟩
  | lockFirst rows next ih => exact fun row found => ih _ (asks row found)
  | write later next ih => exact ih asks
  | note fact next ih => exact ih asks

@[simp]
theorem asks_bind {post : β → List κ → (δ → δ) → Prop} (next : α → Program δ κ ν ε β) :
    (program >>= next).Asks rank invariant post held change ↔
      program.Asks rank invariant
        (fun value held change => (next value).Asks rank invariant post held change) held change := by
  change (program.bind next).Asks rank invariant post held change ↔ _
  induction program generalizing held change with
  | done value => exact Iff.rfl
  | raise error => exact Iff.rfl
  | select rest ih => exact forall_congr' fun db => forall_congr' fun _ => ih _
  | lock row rest ih => exact and_congr_right fun _ => ih
  | lockFirst rows rest ih => exact forall_congr' fun row => forall_congr' fun _ => ih row
  | write later rest ih => exact ih
  | note fact rest ih => exact ih

/-! One statement, and the rest of the transaction. -/

theorem Asks.query {read : δ → β} {next : β → Program δ κ ν ε α}
    (rest : ∀ db, invariant db → (next (read (change db))).Asks rank invariant post held change) :
    (Program.query read >>= next).Asks rank invariant post held change := rest

theorem Asks.flush {later : δ → δ} {next : Unit → Program δ κ ν ε α}
    (rest : (next ()).Asks rank invariant post held (later ∘ change)) :
    (Program.flush later >>= next).Asks rank invariant post held change := rest

theorem Asks.remember {fact : ν} {next : Unit → Program δ κ ν ε α}
    (rest : (next ()).Asks rank invariant post held change) :
    (Program.remember fact >>= next).Asks rank invariant post held change := rest

theorem Asks.lockRow {row : κ} {next : Unit → Program δ κ ν ε α} (may : MayAsk rank held row)
    (rest : (next ()).Asks rank invariant post (row :: held) change) :
    (Program.lockRow row >>= next).Asks rank invariant post held change := ⟨may, rest⟩

theorem Asks.check {check : Except ε β} {next : β → Program δ κ ν ε α}
    (rest : ∀ value, check = .ok value → (next value).Asks rank invariant post held change) :
    (Program.ofExcept check >>= next).Asks rank invariant post held change := by
  cases check with
  | ok value => exact rest value rfl
  | error error => trivial

theorem Asks.branch {check : Prop} [Decidable check] {left right : Program δ κ ν ε α}
    (taken : check → left.Asks rank invariant post held change)
    (other : ¬check → right.Asks rank invariant post held change) :
    (if check then left else right).Asks rank invariant post held change := by
  split
  · next holds => exact taken holds
  · next fails => exact other fails

/-- Rows locked one after another, each above those before it. -/
theorem Asks.lockRows {rows : List κ} {next : Unit → Program δ κ ν ε α}
    (rising : rows.Pairwise fun first second => rank first < rank second)
    (above : ∀ row ∈ rows, ∀ other ∈ held, rank other < rank row)
    (rest : (next ()).Asks rank invariant post (rows.reverse ++ held) change) :
    (Program.lockRows rows >>= next).Asks rank invariant post held change := by
  rw [asks_bind]
  induction rows generalizing held with
  | nil => exact rest
  | cons row rows ih =>
    obtain ⟨lowest, rising⟩ := List.pairwise_cons.mp rising
    refine ⟨.inr (above row List.mem_cons_self), ih rising ?_ ?_⟩
    · intro next member other inside
      rcases List.mem_cons.mp inside with rfl | before
      · exact lowest next member
      · exact above next (List.mem_cons_of_mem _ member) other before
    · rwa [List.reverse_cons, List.append_assoc] at rest

end Program

/-! ## Services whose requests ask in order -/

/-- Nothing is relied on but the invariant. -/
def invariantOnly (invariant : δ → Prop) : Discipline δ κ ν where
  invariant := invariant
  guarantee _ _ := True
  rely _ _ _ _ := True
  refl _ _ _ := trivial
  trans _ _ := trivial
  weaken _ := trivial
  admits _ _ := True
  apart _ _ := True

/-- A change that commits leaves the invariant. -/
def Keeps (invariant valid : δ → Prop) (_ : α) (_ : List κ) (change : δ → δ) : Prop :=
  ∀ db, invariant db → valid (change db) → invariant (change db)

section
variable {rank : κ → ω} {invariant : δ → Prop} {service : Service δ κ ν ε α ρ}
  {ok : State δ κ ν ε α → Action δ ρ → Prop} {state : State δ κ ν ε α} {action : Action δ ρ}

theorem Program.Asks.holds {program : Program δ κ ν ε α} {footing : Footing δ κ ν} {db : δ}
    (asks : program.Asks rank invariant (Keeps invariant service.valid) footing.held footing.change) :
    (invariantOnly invariant).Holds program ((invariantOnly invariant).Commits service.valid) footing
      db := by
  induction program generalizing footing db with
  | done value => exact fun now later _ valid => ⟨asks now later.2 valid, trivial, fun _ _ => trivial⟩
  | raise error => trivial
  | select next ih => exact fun now later => ih _ (asks now later.2)
  | lock row next ih => exact fun now _ => ih asks.2
  | lockFirst rows next ih => exact fun now _ row found => ih _ (asks row found)
  | write later next ih => exact ih asks
  | note fact next ih => exact fun now _ => ih asks

/-- What a service's requests and the rest of the program must meet. -/
structure AsksInOrder (service : Service δ κ ν ε α ρ) (rank : κ → ω) (invariant : δ → Prop)
    (ok : State δ κ ν ε α → Action δ ρ → Prop) : Prop where
  requests : ∀ request, (service.program request).Asks rank invariant
    (Keeps invariant service.valid) [] id
  others : ∀ state after, ok state (.other after) → invariant state.database → invariant after
  /-- Two locks on one row rank alike. -/
  agrees : ∀ {held row}, service.conflicts held row → rank held = rank row

theorem AsksInOrder.upheld (orderly : AsksInOrder service rank invariant ok) :
    Discipline.Upheld service (invariantOnly invariant) ok where
  starts _ request _ _ := (orderly.requests request).holds
  others state after admitted kept := ⟨orderly.others state after admitted kept, fun _ _ => trivial⟩
  admitted _ _ _ _ _ _ := trivial
  separated _ _ _ _ _ _ _ _ _ _ _ _ := trivial

/-- Every running session asks in order from where it stands. -/
def AllAsk (service : Service δ κ ν ε α ρ) (rank : κ → ω) (invariant : δ → Prop)
    (state : State δ κ ν ε α) : Prop :=
  ∀ (index : Nat) program footing, state.sessions[index]? = some (Session.running program footing) →
    program.Asks rank invariant (Keeps invariant service.valid) footing.held footing.change

theorem AllAsk.step (orderly : AsksInOrder service rank invariant ok) (kept : invariant state.database)
    (asking : AllAsk service rank invariant state) (action : Action δ ρ) :
    AllAsk service rank invariant (service.step state action) := by
  intro other program footing there
  cases action with
  | start request =>
    simp only [Service.step, List.getElem?_append] at there
    split at there
    · exact asking other program footing there
    · have fresh := List.mem_singleton.mp (List.mem_of_getElem? there)
      obtain ⟨rfl, rfl⟩ := Session.running.inj fresh
      exact orderly.requests request
  | other after => exact asking other program footing there
  | abort index =>
    simp only [Service.step, List.getElem?_set] at there
    split at there
    · split at there <;> cases there
    · exact asking other program footing there
  | advance index =>
    by_cases own : other = index
    · subst own
      cases standing : state.sessions[other]? with
      | none =>
        rw [Service.step, standing] at there
        cases standing.symm.trans there
      | some session =>
        have bound : other < state.sessions.length := (List.getElem?_eq_some_iff.mp standing).1
        cases session with
        | committed value =>
          rw [Service.step, standing] at there
          cases standing.symm.trans there
        | failed =>
          rw [Service.step, standing] at there
          cases standing.symm.trans there
        | running before footingBefore =>
          have asks := asking other before footingBefore standing
          rw [service.step_advance standing] at there
          cases before with
          | done value =>
            simp only [Service.advance] at there
            split at there <;> simp [bound] at there
          | raise error => simp [Service.advance, bound] at there
          | select next =>
            simp only [Service.advance, List.getElem?_set_self bound, Option.some.injEq,
              Session.running.injEq] at there
            obtain ⟨rfl, rfl⟩ := there
            exact asks state.database kept
          | lock row next =>
            simp only [Service.advance] at there
            split at there
            · simp only [List.getElem?_set_self bound, Option.some.injEq, Session.running.injEq] at there
              obtain ⟨rfl, rfl⟩ := there
              exact asks.2
            · cases standing.symm.trans there
              exact asks
          | lockFirst rows next =>
            simp only [Service.advance, List.getElem?_set_self bound, Option.some.injEq,
              Session.running.injEq] at there
            obtain ⟨rfl, rfl⟩ := there
            exact asks _ fun found taken => List.mem_of_find?_eq_some taken
          | write change next =>
            simp only [Service.advance, List.getElem?_set_self bound, Option.some.injEq,
              Session.running.injEq] at there
            obtain ⟨rfl, rfl⟩ := there
            exact asks
          | note fact next =>
            simp only [Service.advance, List.getElem?_set_self bound, Option.some.injEq,
              Session.running.injEq] at there
            obtain ⟨rfl, rfl⟩ := there
            exact asks
    · rw [service.advance_other (Ne.symm own)] at there
      exact asking other program footing there

/-- A session that waits asks for a lock above all it holds: nobody waits for its own. -/
theorem waits_above (exclusive : service.Exclusive state) (asking : AllAsk service rank invariant state)
    (waits : service.WaitsFor (fun _ => True) state waiter holder) :
    ∃ first row, state.sessions[waiter]? = some first ∧ first.awaits = some row ∧
      (∀ other ∈ first.held, rank other < rank row) ∧
      ∃ second held, state.sessions[holder]? = some second ∧ held ∈ second.held ∧
        service.conflicts held row := by
  obtain ⟨differ, first, second, row, held, here, there, awaits, holds, -, -, clash⟩ := waits
  refine ⟨first, row, here, awaits, ?_, second, held, there, holds, clash⟩
  have may : MayAsk rank first.held row := by
    unfold Session.awaits at awaits
    split at awaits
    · cases awaits
      exact (asking waiter _ _ here).1
    · cases awaits
  rcases may with own | above
  · exact absurd (service.symmetric clash)
      (exclusive waiter holder first second differ here there row own held holds)
  · exact above

/-- Along a chain of waits the locks asked for rise. -/
theorem chain_above (orderly : AsksInOrder service rank invariant ok) (exclusive : service.Exclusive state)
    (asking : AllAsk service rank invariant state)
    (chain : Relation.TransGen (service.WaitsFor (fun _ => True) state) waiter holder) :
    ∃ first row, state.sessions[waiter]? = some first ∧ first.awaits = some row ∧
      ∀ last, service.WaitsFor (fun _ => True) state holder last →
        ∀ second next, state.sessions[holder]? = some second → second.awaits = some next →
          rank row < rank next := by
  have link : ∀ {waiter holder}, service.WaitsFor (fun _ => True) state waiter holder →
      ∃ first row, state.sessions[waiter]? = some first ∧ first.awaits = some row ∧
        ∀ last, service.WaitsFor (fun _ => True) state holder last →
          ∀ second next, state.sessions[holder]? = some second → second.awaits = some next →
            rank row < rank next := by
    intro waiter holder waits
    obtain ⟨first, row, here, awaits, -, second, held, there, holds, clash⟩ :=
      waits_above exclusive asking waits
    refine ⟨first, row, here, awaits, fun last onwards other next again asks => ?_⟩
    obtain ⟨third, asked, place, wants, above, -⟩ := waits_above exclusive asking onwards
    cases there.symm.trans again
    cases there.symm.trans place
    cases asks.symm.trans wants
    rw [← orderly.agrees clash]
    exact above held holds
  induction chain with
  | single waits => exact link waits
  | tail _ waits ih =>
    obtain ⟨first, row, here, awaits, rises⟩ := ih
    obtain ⟨middle, between, place, asked, onwards⟩ := link waits
    refine ⟨first, row, here, awaits, fun last next second other again asks => ?_⟩
    exact (rises _ waits middle between place asked).trans (onwards last next second other again asks)

/-- Sessions of a service whose requests ask in order never wait for each other in a cycle,
and the invariant is kept. -/
theorem AsksInOrder.never_deadlocked {start : δ} (orderly : AsksInOrder service rank invariant ok)
    (kept : invariant start) (reached : System.ReachableWhile (service.system start) ok state) :
    invariant state.database ∧ ¬service.Deadlocked (fun _ => True) state := by
  have safe := orderly.upheld.safe kept reached
  have asking : AllAsk service rank invariant state := by
    induction reached with
    | initial => exact fun _ _ _ there => by simp [Service.system] at there
    | next before _ ih =>
      have standing := orderly.upheld.safe kept before
      exact (ih standing).step orderly standing.invariant _
  refine ⟨safe.invariant, ?_⟩
  rintro ⟨index, cycle⟩
  obtain ⟨first, row, here, awaits, rises⟩ := chain_above orderly safe.exclusive asking cycle
  -- who is at the end of the cycle is at its start, and waits
  obtain ⟨last, waits⟩ : ∃ last, service.WaitsFor (fun _ => True) state index last := by
    rcases Relation.TransGen.head'_iff.mp cycle with ⟨last, waits, -⟩
    exact ⟨last, waits⟩
  exact lt_irrefl _ (rises last waits first row here awaits)

end

/-! ## Every request can finish -/

/-- What is left of a transaction after one statement. -/
inductive Program.Part : Program δ κ ν ε α → Program δ κ ν ε α → Prop where
  | select (next : δ → Program δ κ ν ε α) (db : δ) : Part (next db) (.select next)
  | lock (row : κ) (next : Program δ κ ν ε α) : Part next (.lock row next)
  | lockFirst (rows : List κ) (next : Option κ → Program δ κ ν ε α) (row : Option κ) :
    Part (next row) (.lockFirst rows next)
  | write (change : δ → δ) (next : Program δ κ ν ε α) : Part next (.write change next)
  | note (fact : ν) (next : Program δ κ ν ε α) : Part next (.note fact next)

theorem Program.part_wellFounded : WellFounded (@Program.Part δ κ ν ε α) := by
  constructor
  intro program
  induction program with
  | done value => exact ⟨_, fun _ part => by cases part⟩
  | raise error => exact ⟨_, fun _ part => by cases part⟩
  | select next ih =>
    refine ⟨_, fun _ part => ?_⟩
    cases part with
    | select _ db => exact ih db
  | lock row next ih =>
    refine ⟨_, fun _ part => ?_⟩
    cases part
    exact ih
  | lockFirst rows next ih =>
    refine ⟨_, fun _ part => ?_⟩
    cases part with
    | lockFirst _ _ row => exact ih row
  | write change next ih =>
    refine ⟨_, fun _ part => ?_⟩
    cases part
    exact ih
  | note fact next ih =>
    refine ⟨_, fun _ part => ?_⟩
    cases part
    exact ih

/-- What a session still has to do. -/
def Session.left : Session δ κ ν ε α → Option (Program δ κ ν ε α)
  | running program _ => some program
  | _ => none

section
variable {rank : κ → ω} {invariant : δ → Prop} {service : Service δ κ ν ε α ρ}
  {ok : State δ κ ν ε α → Action δ ρ → Prop} {state : State δ κ ν ε α} {index : Nat}
  {program : Program δ κ ν ε α} {footing : Footing δ κ ν}

/-- Where nobody waits in a cycle, some running session waits for nobody. -/
theorem someone_proceeds (acyclic : ¬service.Deadlocked (fun _ => True) state)
    (standing : state.sessions[index]? = some (.running program footing)) :
    ∃ next program footing, state.sessions[next]? = some (.running program footing) ∧
      ∀ holder, ¬service.WaitsFor (fun _ => True) state next holder := by
  let below : Fin state.sessions.length → Fin state.sessions.length → Prop := fun later earlier =>
    Relation.TransGen (service.WaitsFor (fun _ => True) state) earlier later
  have transitive : IsTrans _ below := ⟨fun _ _ _ first second => second.trans first⟩
  have irreflexive : Std.Irrefl below := ⟨fun index cycle => acyclic ⟨index, cycle⟩⟩
  have founded : WellFounded below := Finite.wellFounded_of_trans_of_irrefl below
  have proceeds : ∀ index : Fin state.sessions.length, ∀ program footing,
      state.sessions[index.val]? = some (.running program footing) →
      ∃ next program footing, state.sessions[next]? = some (.running program footing) ∧
        ∀ holder, ¬service.WaitsFor (fun _ => True) state next holder := by
    intro index
    induction index using founded.induction with
    | _ index ih =>
      intro program footing standing
      by_cases waits : ∃ holder, service.WaitsFor (fun _ => True) state index.val holder
      · obtain ⟨holder, waits⟩ := waits
        have wait := waits
        obtain ⟨-, -, second, -, held, -, there, -, holds, -⟩ := wait
        have bound : holder < state.sessions.length := (List.getElem?_eq_some_iff.mp there).1
        cases second with
        | running program footing => exact ih ⟨holder, bound⟩ (.single waits) program footing there
        | committed value => cases holds
        | failed => cases holds
      · exact ⟨index, program, footing, standing, fun holder wait => waits ⟨holder, wait⟩⟩
  exact proceeds ⟨index, (List.getElem?_eq_some_iff.mp standing).1⟩ program footing standing

/-- A running session that waits for nobody moves on, or ends. -/
theorem advance_moves (standing : state.sessions[index]? = some (.running program footing))
    (proceeds : ∀ holder, ¬service.WaitsFor (fun _ => True) state index holder) :
    ∃ session, (service.step state (.advance index)).sessions = state.sessions.set index session ∧
      ∀ rest, session.left = some rest → rest.Part program := by
  rw [service.step_advance standing]
  cases program with
  | done value =>
    simp only [Service.advance]
    split
    · exact ⟨.committed value, rfl, fun _ none_ => by cases none_⟩
    · exact ⟨.failed, rfl, fun _ none_ => by cases none_⟩
  | raise error => exact ⟨.failed, rfl, fun _ none_ => by cases none_⟩
  | select next =>
    refine ⟨_, rfl, fun rest left => ?_⟩
    cases left
    exact .select next _
  | lock row next =>
    have free : service.Free state index row := by
      intro other bound differ session there held holds clash
      exact proceeds other
        ⟨differ.symm, _, session, row, held, standing, there, rfl, holds, trivial, trivial, clash⟩
    simp only [Service.advance, if_pos free]
    refine ⟨_, rfl, fun rest left => ?_⟩
    cases left
    exact .lock row next
  | lockFirst rows next =>
    refine ⟨_, rfl, fun rest left => ?_⟩
    cases left
    exact .lockFirst rows next _
  | write change next =>
    refine ⟨_, rfl, fun rest left => ?_⟩
    cases left
    exact .write change next
  | note fact next =>
    refine ⟨_, rfl, fun rest left => ?_⟩
    cases left
    exact .note fact next

/-- What all sessions still have to do. -/
def State.work (state : State δ κ ν ε α) : Multiset (Program δ κ ν ε α) :=
  ↑(state.sessions.filterMap Session.left)

/-- Replacing one element of a list replaces what is kept of it. -/
theorem filterMap_set {τ σ : Type} (keep : τ → Option σ) (new : τ) {rows : List τ} {index : Nat}
    {old : τ} {kept : σ} (there : rows[index]? = some old) (own : keep old = some kept) :
    (↑((rows.set index new).filterMap keep) + {kept} : Multiset σ) =
      ↑(rows.filterMap keep) + ↑(keep new).toList := by
  induction rows generalizing index with
  | nil => cases there
  | cons row rows ih =>
    cases index with
    | zero =>
      cases there
      simp only [List.set_cons_zero, List.filterMap_cons, own]
      cases keep new with
      | none => simp [← Multiset.cons_coe, ← Multiset.singleton_add, add_comm]
      | some value => simp [← Multiset.cons_coe, ← Multiset.singleton_add, add_comm, add_assoc,
        add_left_comm]
    | succ index =>
      have rest := ih there
      simp only [List.set_cons_succ, List.filterMap_cons]
      cases keep row with
      | none => exact rest
      | some value =>
        simp only [← Multiset.cons_coe, Multiset.cons_add]
        exact congrArg (value ::ₘ ·) rest

theorem work_falls {after : State δ κ ν ε α} {session : Session δ κ ν ε α}
    (standing : state.sessions[index]? = some (.running program footing))
    (moves : after.sessions = state.sessions.set index session)
    (parts : ∀ rest, session.left = some rest → rest.Part program) :
    Relation.CutExpand Program.Part after.work state.work := by
  refine ⟨↑session.left.toList, program, fun rest inside => ?_, ?_⟩
  · exact parts rest (Option.mem_toList.mp inside)
  · unfold State.work
    rw [moves]
    exact filterMap_set Session.left session standing rfl

/-- From every state that is reached, the running requests can all end, without a new one. -/
theorem AsksInOrder.drains {start : δ} (orderly : AsksInOrder service rank invariant ok)
    (advances : ∀ state index, ok state (.advance index)) (kept : invariant start)
    (reached : System.ReachableWhile (service.system start) ok state) :
    ∃ indices : List Nat, ∀ session ∈ ((service.system start).run state (indices.map .advance)).sessions,
      session.left = none := by
  have founded : WellFounded (Relation.CutExpand (@Program.Part δ κ ν ε α)) :=
    Program.part_wellFounded.cutExpand
  generalize work : state.work = left
  induction left using founded.induction generalizing state with
  | _ left ih =>
    by_cases idle : ∀ session ∈ state.sessions, session.left = none
    · exact ⟨[], idle⟩
    · simp only [not_forall] at idle
      obtain ⟨session, inside, busy⟩ := idle
      obtain ⟨index, standing⟩ := List.mem_iff_getElem?.mp inside
      cases session with
      | committed value => exact absurd rfl busy
      | failed => exact absurd rfl busy
      | running program footing =>
        have acyclic := (orderly.never_deadlocked kept reached).2
        obtain ⟨next, ahead, carried, there, proceeds⟩ := someone_proceeds acyclic standing
        obtain ⟨session, moves, parts⟩ := advance_moves there proceeds
        have falls := work_falls there moves parts
        rw [work] at falls
        obtain ⟨indices, ended⟩ := ih _ falls (reached.next (advances state next)) rfl
        exact ⟨next :: indices, ended⟩

end
end ReadCommitted
