import GaonOne.Library.ReadCommitted
import Mathlib.Logic.Relation
import Mathlib.Order.Basic

/-! Waiting for locks. A session at a lock statement waits for every session that holds
a lock against it; sessions that wait for each other in a cycle never go on. Where every
session asks only for locks ranked above those it holds, nobody waits in a cycle. -/
namespace ReadCommitted
open Transitions

variable {δ κ ν ε α β ρ ω : Type}

/-- The lock a session asks for next. -/
def Session.awaits : Session δ κ ν ε α → Option κ
  | running (.lock row _) _ => some row
  | _ => none

namespace Service
variable (service : Service δ κ ν ε α ρ) (counted : κ → Prop)

/-- One session asks for a lock, of the kind that counts, that another holds against it. -/
def WaitsFor (state : State δ κ ν ε α) (waiter holder : Nat) : Prop :=
  waiter ≠ holder ∧ ∃ first second row held, state.sessions[waiter]? = some first ∧
    state.sessions[holder]? = some second ∧ first.awaits = some row ∧ held ∈ second.held ∧
    counted row ∧ counted held ∧ service.conflicts held row

/-- Some sessions wait for each other in a cycle. -/
def Deadlocked (state : State δ κ ν ε α) : Prop :=
  ∃ index, Relation.TransGen (service.WaitsFor counted state) index index

end Service

/-- Locks of the kind that counts, ranked so that two locks on one row rank alike. -/
structure LockOrder (conflicts : κ → κ → Prop) (ω : Type) [Preorder ω] where
  counted : κ → Prop
  rank : κ → ω
  agrees : ∀ {held row}, counted held → counted row → conflicts held row → rank held = rank row

namespace LockOrder
variable [Preorder ω]

variable {conflicts : κ → κ → Prop} (O : LockOrder conflicts ω)

/-- A lock may be asked for above all that are held. -/
def Above (held : List κ) (row : κ) : Prop :=
  O.counted row → ∀ other ∈ held, O.counted other → O.rank other < O.rank row

section
variable {service : Service δ κ ν ε α ρ} (O : LockOrder service.conflicts ω) {state : State δ κ ν ε α}

/-- Along a chain of waits the locks asked for rise. -/
theorem chain_rises
    (ordered : ∀ session ∈ state.sessions, ∀ row, session.awaits = some row → O.Above session.held row)
    (chain : Relation.TransGen (service.WaitsFor O.counted state) waiter holder) :
    ∃ first row, state.sessions[waiter]? = some first ∧ first.awaits = some row ∧ O.counted row ∧
      ∀ second next, state.sessions[holder]? = some second → second.awaits = some next →
        O.counted next → O.rank row < O.rank next := by
  induction chain with
  | single wait =>
    obtain ⟨-, first, second, row, held, here, there, awaits, holds, counts, countsHeld, clash⟩ := wait
    refine ⟨first, row, here, awaits, counts, fun other next again asks countsNext => ?_⟩
    cases there.symm.trans again
    rw [← O.agrees countsHeld counts clash]
    exact ordered second (List.mem_of_getElem? there) next asks countsNext held holds countsHeld
  | tail _ wait ih =>
    obtain ⟨first, row, here, awaits, started, rises⟩ := ih
    obtain ⟨-, middle, second, between, held, between_, there, asked, holds, counts, countsHeld, clash⟩ :=
      wait
    refine ⟨first, row, here, awaits, started, fun other next again asks countsNext => ?_⟩
    cases there.symm.trans again
    have below := ordered second (List.mem_of_getElem? there) next asks countsNext held holds countsHeld
    rw [O.agrees countsHeld counts clash] at below
    exact (rises middle between between_ asked counts).trans below

theorem not_deadlocked
    (ordered : ∀ session ∈ state.sessions, ∀ row, session.awaits = some row → O.Above session.held row) :
    ¬service.Deadlocked O.counted state := by
  rintro ⟨index, cycle⟩
  obtain ⟨first, row, here, awaits, counts, rises⟩ := O.chain_rises ordered cycle
  exact lt_irrefl _ (rises first row here awaits counts)

end

/-! ## Orderly programs -/

variable (D : Discipline δ κ ν) {program : Program δ κ ν ε α} {footing : Footing δ κ ν} {db now : δ}

/-- Whatever the others commit meanwhile, the transaction asks for locks in order. -/
def Orderly : Program δ κ ν ε α → Footing δ κ ν → δ → Prop
  | .done _, _, _ => True
  | .raise _, _, _ => True
  | .select next, footing, db =>
    ∀ now, D.Later footing db now → Orderly (next (footing.change now)) footing now
  | .lock row next, footing, db => O.Above footing.held row ∧
    ∀ now, D.Later footing db now → Orderly next { footing with held := row :: footing.held } now
  | .lockFirst rows next, footing, db =>
    ∀ now, D.Later footing db now → ∀ row, (∀ found ∈ row, found ∈ rows) →
      Orderly (next row) { footing with held := row.toList ++ footing.held } now
  | .write change next, footing, db =>
    Orderly next { footing with change := change ∘ footing.change } db
  | .note fact next, footing, db =>
    ∀ now, D.Later footing db now → Orderly next { footing with notes := fact :: footing.notes } now

variable {O D}

theorem Orderly.later (orderly : O.Orderly D program footing db) (later : D.Later footing db now) :
    O.Orderly D program footing now := by
  induction program generalizing footing db now with
  | done value => trivial
  | raise error => trivial
  | select next => exact fun next after => orderly next (later.trans after)
  | lock row next => exact ⟨orderly.1, fun next after => orderly.2 next (later.trans after)⟩
  | lockFirst rows next => exact fun next after => orderly next (later.trans after)
  | write change next ih => exact ih orderly later
  | note fact next => exact fun next after => orderly next (later.trans after)

/-- One part of a transaction, and the rest from where it ends. -/
theorem Orderly.bind {first : Program δ κ ν ε β} {next : β → Program δ κ ν ε α}
    (orderly : O.Orderly D first footing db)
    (rest : D.Holds first (fun value footing db => O.Orderly D (next value) footing db) footing db) :
    O.Orderly D (first >>= next) footing db := by
  change O.Orderly D (first.bind next) footing db
  induction first generalizing footing db with
  | done value => exact rest
  | raise error => trivial
  | select next ih => exact fun now later => ih _ (orderly now later) (rest now later)
  | lock row next ih =>
    exact ⟨orderly.1, fun now later => ih (orderly.2 now later) (rest now later)⟩
  | lockFirst rows next ih =>
    exact fun now later row found => ih _ (orderly now later row found) (rest now later row found)
  | write change next ih => exact ih orderly rest
  | note fact next ih => exact fun now later => ih (orderly now later) (rest now later)

theorem Orderly.query {read : δ → β} {next : β → Program δ κ ν ε α}
    (rest : ∀ now, D.Later footing db now →
      O.Orderly D (next (read (footing.change now))) footing now) :
    O.Orderly D (Program.query read >>= next) footing db := rest

theorem Orderly.lockRow {row : κ} {next : Unit → Program δ κ ν ε α} (above : O.Above footing.held row)
    (rest : ∀ now, D.Later footing db now →
      O.Orderly D (next ()) { footing with held := row :: footing.held } now) :
    O.Orderly D (Program.lockRow row >>= next) footing db := ⟨above, rest⟩

theorem Orderly.flush {change : δ → δ} {next : Unit → Program δ κ ν ε α}
    (rest : O.Orderly D (next ()) { footing with change := change ∘ footing.change } db) :
    O.Orderly D (Program.flush change >>= next) footing db := rest

theorem Orderly.check {check : Except ε β} {next : β → Program δ κ ν ε α}
    (rest : ∀ value, check = .ok value → O.Orderly D (next value) footing db) :
    O.Orderly D (liftM check >>= next) footing db := by
  cases check with
  | ok value => exact rest value rfl
  | error error => trivial

theorem Orderly.branch {check : Prop} [Decidable check] {left right : Program δ κ ν ε α}
    (taken : check → O.Orderly D left footing db) (other : ¬check → O.Orderly D right footing db) :
    O.Orderly D (if check then left else right) footing db := by
  split
  · next held => exact taken held
  · next refused => exact other refused

/-- Rows locked one after another, each above those before it. -/
theorem orderly_lockRows {rows : List κ} (kept : D.invariant db)
    (rising : rows.Pairwise fun first second => O.Above [first] second)
    (above : ∀ row ∈ rows, O.Above footing.held row) :
    O.Orderly D (Program.lockRows rows : Program δ κ ν ε Unit) footing db := by
  induction rows generalizing footing db with
  | nil => trivial
  | cons row rows ih =>
    obtain ⟨lowest, rising⟩ := List.pairwise_cons.mp rising
    refine ⟨above row List.mem_cons_self, fun now later => ih later.2 rising fun next member => ?_⟩
    intro counts other held countsOther
    rcases List.mem_cons.mp held with rfl | before
    · exact lowest next member counts other (List.mem_singleton_self _) countsOther
    · exact above next (List.mem_cons_of_mem _ member) counts other before countsOther

/-! ## Orderly services -/

section
variable {service : Service δ κ ν ε α ρ} {O : LockOrder service.conflicts ω}
  {state : State δ κ ν ε α} {ok : State δ κ ν ε α → Action δ ρ → Prop} {action : Action δ ρ}

/-- Every running session asks for its locks in order. -/
def Sessions (O : LockOrder service.conflicts ω) (D : Discipline δ κ ν) (state : State δ κ ν ε α) : Prop :=
  ∀ (index : Nat) program footing, state.sessions[index]? = some (Session.running program footing) →
    O.Orderly D program footing state.database

theorem Sessions.ordered (sessions : O.Sessions D state) :
    ∀ session ∈ state.sessions, ∀ row, session.awaits = some row → O.Above session.held row := by
  intro session inside row awaits
  obtain ⟨index, there⟩ := List.mem_iff_getElem?.mp inside
  unfold Session.awaits at awaits
  split at awaits
  · cases awaits
    exact (sessions index _ _ there).1
  · cases awaits

theorem Sessions.step (upheld : Discipline.Upheld service D ok)
    (starts : ∀ database request, D.invariant database →
      O.Orderly D (service.program request) {} database)
    (safe : Discipline.Safe service D state) (sessions : O.Sessions D state)
    (admitted : ok state action) : O.Sessions D (service.step state action) := by
  cases action with
  | start request =>
    intro index program footing there
    simp only [Service.step, List.getElem?_append] at there
    split at there
    · exact sessions index program footing there
    · have fresh := List.mem_singleton.mp (List.mem_of_getElem? there)
      obtain ⟨rfl, rfl⟩ := Session.running.inj fresh
      exact starts state.database request safe.invariant
  | abort index =>
    intro other program footing there
    simp only [Service.step, List.getElem?_set] at there
    split at there
    · split at there <;> cases there
    · exact sessions other program footing there
  | other after =>
    obtain ⟨kept, reliable⟩ := upheld.others state after admitted safe.invariant
    exact fun index program footing there => (sessions index program footing there).later
      ⟨reliable footing.held footing.notes, kept⟩
  | advance index =>
    intro other program footing there
    by_cases own : other = index
    · subst own
      unfold Service.step at there ⊢
      dsimp only at there ⊢
      split at there
      · next before standing standingAt =>
        have orderly := sessions other before standing standingAt
        have bound : other < state.sessions.length := (List.getElem?_eq_some_iff.mp standingAt).1
        cases before with
        | done value =>
          simp only [Service.advance] at there
          split at there <;> simp [bound] at there
        | raise error => simp [Service.advance, bound] at there
        | select next =>
          simp only [Service.advance, List.getElem?_set_self bound, Option.some.injEq,
            Session.running.injEq] at there ⊢
          obtain ⟨rfl, rfl⟩ := there
          exact orderly state.database (.refl safe.invariant)
        | lock row next =>
          simp only [Service.advance] at there ⊢
          split at there
          · next free =>
            simp only [List.getElem?_set_self bound, Option.some.injEq, Session.running.injEq] at there
            obtain ⟨rfl, rfl⟩ := there
            simp only [if_pos free]
            exact orderly.2 state.database (.refl safe.invariant)
          · next taken =>
            simp only [if_neg taken]
            cases standingAt.symm.trans there
            exact orderly
        | lockFirst rows next =>
          simp only [Service.advance, List.getElem?_set_self bound, Option.some.injEq,
            Session.running.injEq] at there ⊢
          obtain ⟨rfl, rfl⟩ := there
          exact orderly state.database (.refl safe.invariant) _ fun found taken =>
            List.mem_of_find?_eq_some taken
        | write change next =>
          simp only [Service.advance, List.getElem?_set_self bound, Option.some.injEq,
            Session.running.injEq] at there ⊢
          obtain ⟨rfl, rfl⟩ := there
          exact orderly
        | note fact next =>
          simp only [Service.advance, List.getElem?_set_self bound, Option.some.injEq,
            Session.running.injEq] at there ⊢
          obtain ⟨rfl, rfl⟩ := there
          exact orderly state.database (.refl safe.invariant)
      · next idle => exact absurd there (idle program footing)
    · rw [service.advance_other (Ne.symm own)] at there
      have orderly := sessions other program footing there
      rcases service.step_advance_database state index with
        same | ⟨value, committing, standing, valid, same⟩
      · rwa [same]
      · obtain ⟨kept, -, reliable⟩ := safe.commit upheld admitted standing valid
        rw [same]
        exact orderly.later ⟨reliable other program footing own there, kept⟩

/-- A service whose programs ask for locks in order never has sessions waiting for each
other in a cycle. -/
theorem deadlock_free {start : δ} (upheld : Discipline.Upheld service D ok) (kept : D.invariant start)
    (starts : ∀ database request, D.invariant database →
      O.Orderly D (service.program request) {} database)
    (reached : System.ReachableWhile (service.system start) ok state) :
    ¬service.Deadlocked O.counted state := by
  have sessions : O.Sessions D state := by
    induction reached with
    | initial => exact fun _ _ _ there => by simp [Service.system] at there
    | next before admitted ih => exact ih.step upheld starts (upheld.safe kept before) admitted
  exact O.not_deadlocked sessions.ordered

end
end LockOrder
end ReadCommitted
