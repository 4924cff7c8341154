import GaonOne.Library.Transitions
import Mathlib.Data.List.Nodup
import Mathlib.Data.List.Perm.Subperm

/-! Counters under keys that expire, and clients that count and bound in separate commands. A
command may be carried out and its answer lost, it may fail, and a client may die between any
two commands. A key is never left without an expiry as long as some client still owes it one;
and however the commands interleave, no two clients see one count under one life of a key. -/
namespace Counters
open Transitions

/-! ## The store -/

structure Counter where
  count : Nat
  expiresAt : Option Nat := none
  /-- Which creation of the key this is; no command reads it. -/
  epoch : Nat
  deriving DecidableEq

structure Store (κ : Type) where
  now : Nat := 0
  counters : κ → Option Counter := fun _ => none
  texts : κ → Option (String × Nat) := fun _ => none
  /-- How often a key may have been created. -/
  created : Nat := 0

variable {κ γ ρ α : Type} [DecidableEq κ]

namespace Store

def put (store : Store κ) (key : κ) (counter : Option Counter) : Store κ :=
  { store with counters := fun other => if other = key then counter else store.counters other }

@[simp] theorem put_self (store : Store κ) (key : κ) (counter : Option Counter) :
    (store.put key counter).counters key = counter := if_pos rfl

theorem put_other (store : Store κ) (counter : Option Counter) (apart : other ≠ key) :
    (store.put key counter).counters other = store.counters other := if_neg apart

/-- What counting once more leaves under a key. -/
def counted (store : Store κ) (key : κ) : Counter :=
  match store.counters key with
  | some counter => { counter with count := counter.count + 1 }
  | none => { count := 1, epoch := store.created }

/-- `INCR`. -/
def incr (store : Store κ) (key : κ) : Store κ :=
  { store.put key (some (store.counted key)) with created := store.created + 1 }

/-- `EXPIRE`; a time that is not in the future removes the key. -/
def expire (store : Store κ) (key : κ) (seconds : Int) : Store κ :=
  match store.counters key with
  | none => store
  | some counter =>
    store.put key (if seconds ≤ 0 then none
      else some { counter with expiresAt := some (store.now + seconds.toNat) })

/-- `DEL`. -/
def delete (store : Store κ) (keys : List κ) : Store κ :=
  { store with
    counters := fun key => if key ∈ keys then none else store.counters key
    texts := fun key => if key ∈ keys then none else store.texts key }

/-- `SETEX`, refused for a time that is not in the future. -/
def setText (store : Store κ) (key : κ) (seconds : Int) (value : String) : Store κ :=
  if seconds ≤ 0 then store
  else { store with
    texts := fun other => if other = key then some (value, store.now + seconds.toNat)
      else store.texts other }

/-- Time goes by, and keys expire. -/
def pass (store : Store κ) (seconds : Nat) : Store κ :=
  { store with
    now := store.now + seconds
    counters := fun key => (store.counters key).filter fun counter =>
      counter.expiresAt.all (store.now + seconds < ·)
    texts := fun key => (store.texts key).filter (store.now + seconds < ·.2) }

end Store

/-! ## Clients -/

/-- What a client does, command by command. The next step of a failed command is that of its
exception. -/
inductive Program (κ γ α : Type) where
  | done (value : α)
  | incr (key : κ) (next : Option Nat → Program κ γ α)
  | expire (key : κ) (seconds : Int) (next : Bool → Program κ γ α)
  | delete (keys : List κ) (next : Bool → Program κ γ α)
  | setText (key : κ) (seconds : Int) (value : String) (next : Bool → Program κ γ α)
  | getText (key : κ) (next : Option (Option String) → Program κ γ α)
  /-- Some other service is asked. -/
  | ask (next : γ → Program κ γ α)
  /-- The count is within the limit, or is waived; no command. -/
  | allow (limit : Int) (next : Program κ γ α)

/-- A count that a client was given, under which life of which key. -/
structure Ticket (κ : Type) where
  key : κ
  epoch : Nat
  count : Nat
  deriving DecidableEq

structure Call (κ γ α : Type) where
  /-- None once the call has ended, whether it finished or died. -/
  running : Option (Program κ γ α)
  result : Option α := none
  ticket : Option (Ticket κ) := none
  /-- The limit under which it was let through. -/
  admitted : Option Int := none

structure State (κ γ α : Type) where
  store : Store κ := {}
  calls : List (Call κ γ α) := []

/-- What can happen next. -/
inductive Action (γ ρ : Type) where
  | call (request : ρ)
  /-- A command is carried out and answered. -/
  | answer (index : Nat) (reply : γ)
  /-- A command is carried out and its answer lost; the client may send it again. -/
  | lose (index : Nat)
  /-- The client gives a command up: an exception. -/
  | fail (index : Nat)
  | die (index : Nat)
  | pass (seconds : Nat)

/-- What a command does to the store. -/
def Program.effect (store : Store κ) : Program κ γ α → Store κ
  | .incr key _ => store.incr key
  | .expire key seconds _ => store.expire key seconds
  | .delete keys _ => store.delete keys
  | .setText key seconds value _ => store.setText key seconds value
  | .done _ | .getText _ _ | .ask _ | .allow _ _ => store

def Store.ticket (store : Store κ) (key : κ) : Ticket κ :=
  ⟨key, (store.counted key).epoch, (store.counted key).count⟩

/-- Where a call stands when its command is answered. -/
def Call.answered (call : Call κ γ α) (store : Store κ) (reply : γ) : Program κ γ α → Call κ γ α
  | .done value => { call with running := none, result := some value }
  | .incr key next =>
    { call with running := some (next (some (store.counted key).count)), ticket := some (store.ticket key) }
  | .expire _ _ next => { call with running := some (next true) }
  | .delete _ next => { call with running := some (next true) }
  | .setText _ seconds _ next => { call with running := some (next (decide (0 < seconds))) }
  | .getText key next => { call with running := some (next (some ((store.texts key).map (·.1)))) }
  | .ask next => { call with running := some (next reply) }
  | .allow limit next => { call with running := some next, admitted := some limit }

/-- Where a call stands when its command has failed. -/
def Call.failed (call : Call κ γ α) : Program κ γ α → Call κ γ α
  | .incr _ next => { call with running := some (next none) }
  | .expire _ _ next | .delete _ next | .setText _ _ _ next => { call with running := some (next false) }
  | .getText _ next => { call with running := some (next none) }
  | .done _ | .ask _ | .allow _ _ => call

/-- The program that a call is running. -/
def State.program? (state : State κ γ α) (index : Nat) : Option (Call κ γ α × Program κ γ α) :=
  state.calls[index]?.bind fun call => call.running.map (call, ·)

def step (program : ρ → Program κ γ α) (state : State κ γ α) : Action γ ρ → State κ γ α
  | .call request => { state with calls := state.calls ++ [{ running := some (program request) }] }
  | .answer index reply =>
    match state.program? index with
    | some (call, current) =>
      { store := current.effect state.store
        calls := state.calls.set index (call.answered state.store reply current) }
    | none => state
  | .lose index =>
    match state.program? index with
    | some (_, current) => { state with store := current.effect state.store }
    | none => state
  | .fail index =>
    match state.program? index with
    | some (call, current) => { state with calls := state.calls.set index (call.failed current) }
    | none => state
  | .die index =>
    match state.program? index with
    | some (call, _) => { state with calls := state.calls.set index { call with running := none } }
    | none => state
  | .pass seconds => { state with store := state.store.pass seconds }

def system (program : ρ → Program κ γ α) : System (State κ γ α) (Action γ ρ) where
  initial := {}
  step := step program

/-! ## Well-behaved clients -/

/-- The key that a program is about to bound. -/
def Program.owes : Program κ γ α → Option κ
  | .expire key _ _ => some key
  | _ => none

/-- A client counts once, bounds a key right after it has been told that it is the first and does
not try again, and is let through only by a count within the limit, unless limits are waived. -/
def Program.Sound (waived : Bool) : Program κ γ α → Option Nat → Prop
  | .done _, _ => True
  | .incr key next, counted =>
    counted = none ∧ (∃ seconds rest, next (some 1) = .expire key seconds rest) ∧
      (next none).Sound waived none ∧ ∀ count, (next (some count)).Sound waived (some count)
  | .expire _ _ next, counted =>
    ∀ answered, (next answered).owes = none ∧ (next answered).Sound waived counted
  | .delete _ next, counted | .setText _ _ _ next, counted =>
    ∀ answered, (next answered).Sound waived counted
  | .getText _ next, counted => ∀ found, (next found).Sound waived counted
  | .ask next, counted => ∀ reply, (next reply).Sound waived counted
  | .allow limit next, counted =>
    (waived = true ∨ ∃ count, counted = some count ∧ (count : Int) ≤ limit) ∧ next.Sound waived counted

/-- The key that a program is about to count under. -/
def Program.counts : Program κ γ α → Option κ
  | .incr key _ => some key
  | _ => none

def Call.owes (call : Call κ γ α) : Option κ := call.running.bind Program.owes

/-- A call other than this one is about to bound the key. -/
def State.othersOwe (state : State κ γ α) (index : Nat) (key : κ) : Bool :=
  (List.range state.calls.length).any fun other =>
    decide (other ≠ index ∧ state.calls[other]?.bind Call.owes = some key)

/-- No key is left unbounded: the answer that a key is new is lost only where another call still
bounds it, and a call that is to bound a key fails or dies only where the key is gone, is bounded
already, or is still to be bounded by another. -/
def Bounding (state : State κ γ α) : Action γ ρ → Prop
  | .lose index =>
    ∀ key ∈ (state.program? index).bind (·.2.counts),
      (state.store.counters key).isSome = true ∨ state.othersOwe index key = true
  | .fail index | .die index =>
    ∀ key ∈ (state.program? index).bind (·.2.owes),
      (∀ counter ∈ state.store.counters key, counter.expiresAt.isSome = true) ∨
        state.othersOwe index key = true
  | .call _ | .answer _ _ | .pass _ => True

instance (state : State κ γ α) : (action : Action γ ρ) → Decidable (Bounding state action)
  | .lose _ | .fail _ | .die _ => inferInstanceAs (Decidable (∀ _ ∈ _, _ ∨ _))
  | .call _ | .answer _ _ | .pass _ => .isTrue trivial

variable {state : State κ γ α}

omit [DecidableEq κ] in
theorem State.program?_eq : state.program? index = some (call, current) ↔
    state.calls[index]? = some call ∧ call.running = some current := by
  simp only [program?, Option.bind_eq_some_iff, Option.map_eq_some_iff, Prod.mk.injEq]
  constructor
  · rintro ⟨found, standing, program, running, rfl, rfl⟩
    exact ⟨standing, running⟩
  · rintro ⟨standing, running⟩
    exact ⟨call, standing, current, running, rfl, rfl⟩

omit [DecidableEq κ] in
theorem State.owes_of_program (running : state.program? index = some (call, current)) :
    state.calls[index]?.bind Call.owes = current.owes := by
  obtain ⟨standing, current⟩ := State.program?_eq.mp running
  rw [standing, Option.bind_some, Call.owes, current, Option.bind_some]

theorem State.othersOwe_iff : state.othersOwe index key = true ↔
    ∃ other, other ≠ index ∧ state.calls[other]?.bind Call.owes = some key := by
  simp only [othersOwe, List.any_eq_true, List.mem_range, decide_eq_true_eq]
  constructor
  · rintro ⟨other, -, apart, owing⟩
    exact ⟨other, apart, owing⟩
  · rintro ⟨other, apart, owing⟩
    refine ⟨other, ?_, apart, owing⟩
    obtain ⟨call, standing, -⟩ := Option.bind_eq_some_iff.mp owing
    exact (List.getElem?_eq_some_iff.mp standing).1

/-! ## Every key is bounded, or still owed a bound -/

def State.Owed (state : State κ γ α) : Prop :=
  ∀ key counter, state.store.counters key = some counter → counter.expiresAt = none →
    ∃ index : Nat, state.calls[index]?.bind Call.owes = some key

/-- A command that leaves a key unbounded does not bound it, and has either found it unbounded
or created it. -/
theorem Program.effect_unbounded {store : Store κ} {current : Program κ γ α}
    (held : (current.effect store).counters key = some counter) (unbounded : counter.expiresAt = none) :
    current.owes ≠ some key ∧
      ((∃ old, store.counters key = some old ∧ old.expiresAt = none) ∨
        current.counts = some key ∧ store.counters key = none) := by
  cases current with
  | incr named next =>
    refine ⟨by simp [owes], ?_⟩
    by_cases same : key = named
    · subst same
      have now : store.counted key = counter := Option.some.inj ((Store.put_self ..).symm.trans held)
      cases before : store.counters key with
      | none => exact .inr ⟨rfl, rfl⟩
      | some old =>
        refine .inl ⟨old, rfl, ?_⟩
        rw [Store.counted, before] at now
        rw [← unbounded, ← now]
    · exact .inl ⟨counter, (Store.put_other _ _ same).symm.trans held, unbounded⟩
  | expire named seconds next =>
    by_cases same : key = named
    · subst same
      simp only [effect, Store.expire] at held
      split at held
      · next absent => cases absent.symm.trans held
      · rw [Store.put_self] at held
        split at held
        · cases held
        · cases held
          cases unbounded
    · refine ⟨by simpa [owes] using Ne.symm same, .inl ⟨counter, ?_, unbounded⟩⟩
      simp only [effect, Store.expire] at held
      split at held
      · exact held
      · rw [Store.put_other _ _ same] at held
        exact held
  | delete keys next =>
    refine ⟨by simp [owes], .inl ⟨counter, ?_, unbounded⟩⟩
    simp only [effect, Store.delete] at held
    split at held
    · cases held
    · exact held
  | setText named seconds value next =>
    refine ⟨by simp [owes], .inl ⟨counter, ?_, unbounded⟩⟩
    simp only [effect, Store.setText] at held
    split at held <;> exact held
  | _ => exact ⟨by simp [owes], .inl ⟨counter, held, unbounded⟩⟩

omit [DecidableEq κ] in
/-- What another call owes, it owes whatever becomes of this one. -/
theorem owes_set {calls : List (Call κ γ α)} (apart : other ≠ index)
    (owing : calls[other]?.bind Call.owes = some key) (after : Call κ γ α) :
    (calls.set index after)[other]?.bind Call.owes = some key := by
  rw [List.getElem?_set_ne (Ne.symm apart)]
  exact owing

omit [DecidableEq κ] in
theorem Program.Sound.first {current : Program κ γ α} (sound : current.Sound waived counted)
    (counts : current.counts = some key) (absent : store.counters key = none) (call : Call κ γ α)
    (reply : γ) :
    (call.answered store reply current).owes = some key := by
  cases current with
  | incr named next =>
    cases counts
    obtain ⟨-, ⟨seconds, rest, bounds⟩, -⟩ := sound
    have one : (store.counted key).count = 1 := by rw [Store.counted, absent]
    simp only [Call.answered, Call.owes, one, bounds, Option.bind_some, Program.owes]
  | _ => cases counts

/-- A call that will not bound its key does no harm where the condition holds. -/
theorem State.Owed.ends (owed : state.Owed) (running : state.program? index = some (call, current))
    (bounding : ∀ key ∈ (state.program? index).bind (·.2.owes),
      (∀ counter ∈ state.store.counters key, counter.expiresAt.isSome = true) ∨
        state.othersOwe index key = true)
    (after : Call κ γ α) : State.Owed { state with calls := state.calls.set index after } := by
  intro key counter held unbounded
  obtain ⟨other, owing⟩ := owed key counter held unbounded
  by_cases mine : other = index
  · subst mine
    rw [State.owes_of_program running] at owing
    have due : key ∈ (state.program? other).bind (·.2.owes) := by
      rw [running, Option.bind_some]
      exact owing
    rcases bounding key due with bounded | others
    · have set := bounded counter held
      rw [unbounded] at set
      cases set
    · obtain ⟨another, apart, owes⟩ := State.othersOwe_iff.mp others
      exact ⟨another, owes_set apart owes after⟩
  · exact ⟨other, owes_set mine owing after⟩

theorem State.Owed.step {program : ρ → Program κ γ α} {action : Action γ ρ} (owed : state.Owed)
    (sound : ∀ index call current, state.program? index = some (call, current) →
      current.Sound waived (call.ticket.map Ticket.count))
    (bounding : Bounding state action) : (step program state action).Owed := by
  cases action with
  | call request =>
    intro key counter held unbounded
    obtain ⟨index, owing⟩ := owed key counter held unbounded
    refine ⟨index, ?_⟩
    obtain ⟨call, standing, owes⟩ := Option.bind_eq_some_iff.mp owing
    have bound : index < state.calls.length := (List.getElem?_eq_some_iff.mp standing).1
    exact (congrArg (·.bind Call.owes) (List.getElem?_append_left bound)).trans owing
  | answer index reply =>
    simp only [Counters.step]
    split
    · next call current running =>
      obtain ⟨standing, -⟩ := State.program?_eq.mp running
      intro key counter held unbounded
      obtain ⟨kept, found | ⟨counts, absent⟩⟩ := Program.effect_unbounded held unbounded
      · obtain ⟨old, before, free⟩ := found
        obtain ⟨other, owing⟩ := owed key old before free
        refine ⟨other, owes_set ?_ owing _⟩
        rintro rfl
        exact kept ((State.owes_of_program running).symm.trans owing)
      · have bound : index < state.calls.length := (List.getElem?_eq_some_iff.mp standing).1
        refine ⟨index, ?_⟩
        rw [List.getElem?_set_self bound, Option.bind_some]
        exact (sound index call current running).first counts absent call reply
    · exact owed
  | lose index =>
    simp only [Counters.step]
    split
    · next call current running =>
      intro key counter held unbounded
      obtain ⟨-, found | ⟨counts, absent⟩⟩ := Program.effect_unbounded held unbounded
      · obtain ⟨old, before, free⟩ := found
        exact owed key old before free
      · have due : key ∈ (state.program? index).bind (·.2.counts) := by
          rw [running, Option.bind_some]
          exact counts
        rcases bounding key due with there | others
        · rw [absent] at there
          cases there
        · obtain ⟨other, -, owing⟩ := State.othersOwe_iff.mp others
          exact ⟨other, owing⟩
    · exact owed
  | pass seconds =>
    intro key counter held unbounded
    obtain ⟨before, -⟩ := Option.filter_eq_some_iff.mp held
    exact owed key counter before unbounded
  | fail index =>
    simp only [Counters.step]
    split
    · next call current running => exact owed.ends running bounding _
    · exact owed
  | die index =>
    simp only [Counters.step]
    split
    · next call current running => exact owed.ends running bounding _
    · exact owed

/-! ## No count is given twice -/

/-- What happens to a store never takes a count back, and a key that is created anew starts a
new life. -/
def Store.Follows (before after : Store κ) : Prop :=
  before.created ≤ after.created ∧ ∀ key counter, after.counters key = some counter →
    counter.epoch < after.created ∧ (before.created ≤ counter.epoch ∨
      ∃ old, before.counters key = some old ∧ old.epoch = counter.epoch ∧ old.count ≤ counter.count)

/-- Every life has begun. -/
def Store.Begun (store : Store κ) : Prop :=
  ∀ key counter, store.counters key = some counter → counter.epoch < store.created

omit [DecidableEq κ] in
theorem Store.Begun.follows_kept {store : Store κ} (begun : store.Begun)
    (same : after.created = store.created)
    (kept : ∀ key counter, after.counters key = some counter → ∃ old, store.counters key = some old ∧
      old.epoch = counter.epoch ∧ old.count ≤ counter.count) : store.Follows after := by
  refine ⟨Nat.le_of_eq same.symm, fun key counter held => ?_⟩
  obtain ⟨old, before, life, count⟩ := kept key counter held
  refine ⟨?_, .inr ⟨old, before, life, count⟩⟩
  rw [same, ← life]
  exact begun key old before

theorem Store.Begun.effect {store : Store κ} (begun : store.Begun) (current : Program κ γ α) :
    store.Follows (current.effect store) := by
  cases current with
  | incr named next =>
    refine ⟨Nat.le_succ _, fun key counter held => ?_⟩
    by_cases same : key = named
    · subst same
      have now : store.counted key = counter := Option.some.inj ((Store.put_self ..).symm.trans held)
      cases before : store.counters key with
      | none =>
        rw [Store.counted, before] at now
        subst now
        exact ⟨Nat.lt_succ_self _, .inl (Nat.le_refl _)⟩
      | some old =>
        rw [Store.counted, before] at now
        subst now
        exact ⟨Nat.lt_succ_of_lt (begun key old before), .inr ⟨old, rfl, rfl, Nat.le_succ _⟩⟩
    · have there : store.counters key = some counter := (Store.put_other _ _ same).symm.trans held
      exact ⟨Nat.lt_succ_of_lt (begun key counter there), .inr ⟨counter, there, rfl, Nat.le_refl _⟩⟩
  | expire named seconds next =>
    simp only [Program.effect, Store.expire]
    split
    · exact begun.follows_kept rfl fun key counter held => ⟨counter, held, rfl, Nat.le_refl _⟩
    · next old before =>
      refine begun.follows_kept rfl fun key counter held => ?_
      by_cases same : key = named
      · subst same
        rw [Store.put_self] at held
        split at held
        · cases held
        · cases held
          exact ⟨old, before, rfl, Nat.le_refl _⟩
      · rw [Store.put_other _ _ same] at held
        exact ⟨counter, held, rfl, Nat.le_refl _⟩
  | delete keys next =>
    refine begun.follows_kept rfl fun key counter held => ?_
    simp only [Program.effect, Store.delete] at held
    split at held
    · cases held
    · exact ⟨counter, held, rfl, Nat.le_refl _⟩
  | setText named seconds value next =>
    simp only [Program.effect, Store.setText]
    have kept := begun.follows_kept rfl fun key counter held => ⟨counter, held, rfl, Nat.le_refl _⟩
    split <;> exact kept
  | _ => exact begun.follows_kept rfl fun key counter held => ⟨counter, held, rfl, Nat.le_refl _⟩

omit [DecidableEq κ] in
theorem Store.Begun.pass {store : Store κ} (begun : store.Begun) (seconds : Nat) :
    store.Follows (store.pass seconds) := by
  refine begun.follows_kept rfl fun key counter held => ?_
  exact ⟨counter, (Option.filter_eq_some_iff.mp held).1, rfl, Nat.le_refl _⟩

/-- A ticket's life has begun, and while it lasts its counter has not fallen behind. -/
def Ticket.Issued (ticket : Ticket κ) (store : Store κ) : Prop :=
  0 < ticket.count ∧ ticket.epoch < store.created ∧ ∀ counter, store.counters ticket.key = some counter →
    counter.epoch = ticket.epoch → ticket.count ≤ counter.count

omit [DecidableEq κ] in
theorem Ticket.Issued.follows {ticket : Ticket κ} (issued : ticket.Issued before)
    (follows : Store.Follows before after) : ticket.Issued after := by
  obtain ⟨positive, begun, behind⟩ := issued
  refine ⟨positive, Nat.lt_of_lt_of_le begun follows.1, fun counter held life => ?_⟩
  obtain ⟨-, later | ⟨old, there, same, count⟩⟩ := follows.2 ticket.key counter held
  · omega
  · exact Nat.le_trans (behind old there (same.trans life)) count

/-- The ticket that counting gives is issued, and nobody had it before. -/
theorem Store.Begun.ticket {store : Store κ} (begun : store.Begun) (key : κ) :
    (store.ticket key).Issued (store.incr key) ∧
      ∀ other : Ticket κ, other.Issued store → other ≠ store.ticket key := by
  cases before : store.counters key with
  | none =>
    constructor
    · refine ⟨by simp [Store.ticket, Store.counted, before],
        by simp [Store.ticket, Store.counted, before, Store.incr], fun counter held _ => ?_⟩
      have now : store.counted key = counter := Option.some.inj ((Store.put_self ..).symm.trans held)
      exact now ▸ Nat.le_refl _
    · rintro other ⟨-, earlier, -⟩ rfl
      simp [Store.ticket, Store.counted, before] at earlier
  | some old =>
    constructor
    · refine ⟨by simp [Store.ticket, Store.counted, before], ?_, fun counter held _ => ?_⟩
      · simp only [Store.ticket, Store.counted, before, Store.incr]
        exact Nat.lt_succ_of_lt (begun key old before)
      · have now : store.counted key = counter := Option.some.inj ((Store.put_self ..).symm.trans held)
        exact now ▸ Nat.le_refl _
    · rintro other ⟨-, -, behind⟩ rfl
      have count := behind old before (by simp [Store.ticket, Store.counted, before])
      simp only [Store.ticket, Store.counted, before] at count
      omega

/-- What holds of all calls in every run: they are sound, they share no ticket, and whoever was
let through holds a ticket within the limit. -/
structure State.Ordered (waived : Bool) (state : State κ γ α) : Prop where
  begun : state.store.Begun
  sound : ∀ call ∈ state.calls, ∀ current, call.running = some current →
    current.Sound waived (call.ticket.map Ticket.count)
  issued : ∀ call ∈ state.calls, ∀ ticket, call.ticket = some ticket → ticket.Issued state.store
  distinct : ((state.calls.map Call.ticket).filterMap id).Nodup
  admitted : ∀ call ∈ state.calls, ∀ limit, call.admitted = some limit →
    waived = true ∨ ∃ ticket, call.ticket = some ticket ∧ (ticket.count : Int) ≤ limit

theorem nodup_set_new {options : List (Option τ)} (empty : options[index]? = some none)
    (fresh : new ∉ options.filterMap id) (distinct : (options.filterMap id).Nodup) :
    ((options.set index (some new)).filterMap id).Nodup := by
  obtain ⟨bound, here⟩ := List.getElem?_eq_some_iff.mp empty
  have split : options = options.take index ++ none :: options.drop (index + 1) := by
    rw [← here, List.getElem_cons_drop, List.take_append_drop]
  rw [split, List.filterMap_append, List.filterMap_cons_none rfl] at fresh distinct
  rw [List.set_eq_take_append_cons_drop, if_pos bound, List.filterMap_append,
    List.filterMap_cons_some (by rfl : id (some new) = some new), List.nodup_middle]
  exact List.nodup_cons.mpr ⟨fresh, distinct⟩

omit [DecidableEq κ] in
/-- A call that takes no new ticket leaves the tickets as they were. -/
theorem tickets_set {calls : List (Call κ γ α)} (standing : calls[index]? = some call)
    (same : after.ticket = call.ticket) : (calls.set index after).map Call.ticket = calls.map Call.ticket := by
  obtain ⟨bound, rfl⟩ := List.getElem?_eq_some_iff.mp standing
  rw [List.map_set, same, ← List.getElem_map Call.ticket (h := by simpa using bound), List.set_getElem_self]

omit [DecidableEq κ] in
theorem State.Ordered.update {store : Store κ} (ordered : state.Ordered waived)
    (follows : state.store.Follows store)
    (begun : store.Begun) (standing : state.calls[index]? = some call) (same : after.ticket = call.ticket)
    (sound : ∀ current, after.running = some current → current.Sound waived (after.ticket.map Ticket.count))
    (admitted : ∀ limit, after.admitted = some limit →
      waived = true ∨ ∃ ticket, after.ticket = some ticket ∧ (ticket.count : Int) ≤ limit) :
    State.Ordered waived ⟨store, state.calls.set index after⟩ where
  begun := begun
  sound other member := by
    rcases List.mem_or_eq_of_mem_set member with before | rfl
    · exact ordered.sound other before
    · exact sound
  issued other member ticket holds := by
    rcases List.mem_or_eq_of_mem_set member with before | rfl
    · exact (ordered.issued other before ticket holds).follows follows
    · exact (ordered.issued call (List.mem_of_getElem? standing) ticket (same ▸ holds)).follows follows
  distinct := by
    rw [tickets_set standing same]
    exact ordered.distinct
  admitted other member := by
    rcases List.mem_or_eq_of_mem_set member with before | rfl
    · exact ordered.admitted other before
    · exact admitted

omit [DecidableEq κ] in
theorem Store.Follows.begun {store : Store κ} (follows : Store.Follows before store) : store.Begun :=
  fun key counter held => (follows.2 key counter held).1

theorem State.Ordered.answer (ordered : state.Ordered waived)
    (running : state.program? index = some (call, current)) (reply : γ) : State.Ordered waived
      ⟨current.effect state.store, state.calls.set index (call.answered state.store reply current)⟩ := by
  obtain ⟨standing, program⟩ := State.program?_eq.mp running
  have member := List.mem_of_getElem? standing
  have sound := ordered.sound call member current program
  have admitted := ordered.admitted call member
  have follows := ordered.begun.effect current
  cases current with
  | incr key next =>
    obtain ⟨fresh, -, -, counted⟩ := sound
    have none : call.ticket = none := Option.map_eq_none_iff.mp fresh
    obtain ⟨issued, new⟩ := ordered.begun.ticket key
    refine ⟨follows.begun, ?_, ?_, ?_, ?_⟩
    · intro other inside
      rcases List.mem_or_eq_of_mem_set inside with before | rfl
      · exact ordered.sound other before
      · rintro _ ⟨⟩
        exact counted _
    · intro other inside ticket holds
      rcases List.mem_or_eq_of_mem_set inside with before | rfl
      · exact (ordered.issued other before ticket holds).follows follows
      · cases holds
        exact issued
    · rw [List.map_set]
      refine nodup_set_new ?_ ?_ ordered.distinct
      · rw [List.getElem?_map, standing, Option.map_some, none]
      · intro taken
        obtain ⟨_, mapped, rfl⟩ := List.mem_filterMap.mp taken
        obtain ⟨other, inside, holds⟩ := List.mem_map.mp mapped
        exact new _ (ordered.issued other inside _ holds) rfl
    · intro other inside
      rcases List.mem_or_eq_of_mem_set inside with before | rfl
      · exact ordered.admitted other before
      · intro limit given
        rcases admitted limit given with waived | ⟨ticket, holds, -⟩
        · exact .inl waived
        · cases none.symm.trans holds
  | done value => exact ordered.update follows follows.begun standing rfl nofun admitted
  | allow limit next =>
    obtain ⟨within, rest⟩ := sound
    refine ordered.update follows follows.begun standing rfl ?_ ?_
    · rintro _ ⟨⟩
      exact rest
    · rintro _ ⟨⟩
      rcases within with waived | ⟨count, counted, le⟩
      · exact .inl waived
      · obtain ⟨ticket, holds, rfl⟩ := Option.map_eq_some_iff.mp counted
        exact .inr ⟨ticket, holds, le⟩
  | expire key seconds next =>
    refine ordered.update follows follows.begun standing rfl ?_ admitted
    rintro _ ⟨⟩
    exact (sound _).2
  | delete keys next | setText key seconds value next | getText key next | ask next =>
    refine ordered.update follows follows.begun standing rfl ?_ admitted
    rintro _ ⟨⟩
    exact sound _

/-- Whatever happens, no count is given twice and nobody is let through past a limit. -/
theorem State.Ordered.step {program : ρ → Program κ γ α} (ordered : state.Ordered waived)
    (starts : ∀ request, (program request).Sound waived none) (action : Action γ ρ) :
    (step program state action).Ordered waived := by
  have still : state.store.Follows state.store :=
    ordered.begun.follows_kept rfl fun key counter held => ⟨counter, held, rfl, Nat.le_refl _⟩
  cases action with
  | call request =>
    refine ⟨ordered.begun, ?_, ?_, ?_, ?_⟩
    · intro call member
      rcases List.mem_append.mp member with before | new
      · exact ordered.sound call before
      · cases List.mem_singleton.mp new
        rintro _ ⟨⟩
        exact starts request
    · intro call member
      rcases List.mem_append.mp member with before | new
      · exact ordered.issued call before
      · cases List.mem_singleton.mp new
        exact nofun
    · simpa [Counters.step] using ordered.distinct
    · intro call member
      rcases List.mem_append.mp member with before | new
      · exact ordered.admitted call before
      · cases List.mem_singleton.mp new
        exact nofun
  | answer index reply =>
    simp only [Counters.step]
    split
    · next call current running => exact ordered.answer running reply
    · exact ordered
  | lose index =>
    simp only [Counters.step]
    split
    · next call current running =>
      have follows := ordered.begun.effect current
      exact ⟨follows.begun, ordered.sound,
        fun call member ticket holds => (ordered.issued call member ticket holds).follows follows,
        ordered.distinct, ordered.admitted⟩
    · exact ordered
  | fail index =>
    simp only [Counters.step]
    split
    · next call current running =>
      obtain ⟨standing, program⟩ := State.program?_eq.mp running
      have member := List.mem_of_getElem? standing
      have sound := ordered.sound call member current program
      have admitted := ordered.admitted call member
      cases current with
      | incr key next =>
        refine ordered.update still ordered.begun standing rfl ?_ admitted
        rintro _ ⟨⟩
        change Program.Sound waived _ (call.ticket.map Ticket.count)
        rw [sound.1]
        exact sound.2.2.1
      | expire key seconds next =>
        refine ordered.update still ordered.begun standing rfl ?_ admitted
        rintro _ ⟨⟩
        exact (sound _).2
      | delete keys next | setText key seconds value next | getText key next =>
        refine ordered.update still ordered.begun standing rfl ?_ admitted
        rintro _ ⟨⟩
        exact sound _
      | done | ask | allow =>
        exact ordered.update still ordered.begun standing rfl (ordered.sound call member) admitted
    · exact ordered
  | die index =>
    simp only [Counters.step]
    split
    · next call current running =>
      obtain ⟨standing, -⟩ := State.program?_eq.mp running
      exact ordered.update still ordered.begun standing rfl nofun
        (ordered.admitted call (List.mem_of_getElem? standing))
    · exact ordered
  | pass seconds =>
    have follows := ordered.begun.pass seconds
    exact ⟨follows.begun, ordered.sound,
      fun call member ticket holds => (ordered.issued call member ticket holds).follows follows,
      ordered.distinct, ordered.admitted⟩

/-! ## Runs -/

/-- A call that was let through by the counter of one life of a key, within the limit asked about. -/
def Call.within (key : κ) (epoch : Nat) (bound : Int) (call : Call κ γ α) : Bool :=
  decide (∃ ticket ∈ call.ticket, ticket.key = key ∧ ticket.epoch = epoch) &&
    call.admitted.any (· ≤ bound)

variable {program : ρ → Program κ γ α}

theorem reachable_ordered (starts : ∀ request, (program request).Sound waived none)
    (reached : System.Reachable (system program) state) : state.Ordered waived := by
  refine reached.invariant ?_ fun before action ordered => ordered.step starts action
  refine ⟨fun _ _ held => (by cases held), ?_, ?_, List.nodup_nil, ?_⟩
  · exact fun _ member => absurd member List.not_mem_nil
  · exact fun _ member => absurd member List.not_mem_nil
  · exact fun _ member => absurd member List.not_mem_nil

/-- In every run, one life of a key lets no more calls through than their limit. -/
theorem reachable_within (starts : ∀ request, (program request).Sound false none)
    (reached : System.Reachable (system program) state) (key : κ) (epoch bound : Nat) :
    (state.calls.filter (Call.within key epoch bound)).length ≤ bound := by
  have ordered := reachable_ordered starts reached
  have holding : ∀ call ∈ state.calls.filter (Call.within key epoch bound), ∃ ticket,
      call.ticket = some ticket ∧ ticket.key = key ∧ ticket.epoch = epoch ∧
        0 < ticket.count ∧ ticket.count ≤ bound := by
    intro call member
    obtain ⟨inside, within⟩ := List.mem_filter.mp member
    simp only [Call.within, Bool.and_eq_true, decide_eq_true_eq, Option.any_eq_true] at within
    obtain ⟨⟨ticket, holds, named, life⟩, limit, admitted, le⟩ := within
    obtain waived | ⟨_, same, count⟩ := ordered.admitted call inside limit admitted
    · cases waived
    · cases same.symm.trans holds
      exact ⟨ticket, holds, named, life, (ordered.issued call inside ticket holds).1, by omega⟩
  have counts : ((state.calls.filter (Call.within key epoch bound)).map fun call =>
      (call.ticket.map Ticket.count).getD 0).Nodup := by
    have apart := ordered.distinct
    rw [List.filterMap_map, List.Nodup, List.pairwise_filterMap] at apart
    rw [List.Nodup, List.pairwise_map]
    refine (apart.filter _).imp_of_mem ?_
    intro first second inside inside' differ same
    obtain ⟨⟨_, _, _⟩, holds, rfl, rfl, -⟩ := holding first inside
    obtain ⟨⟨_, _, _⟩, holds', rfl, rfl, -⟩ := holding second inside'
    rw [holds, holds'] at same
    refine differ _ holds _ holds' ?_
    simpa using same
  have inside : ((state.calls.filter (Call.within key epoch bound)).map fun call =>
      (call.ticket.map Ticket.count).getD 0) ⊆ List.range' 1 bound := by
    intro count member
    obtain ⟨call, there, rfl⟩ := List.mem_map.mp member
    obtain ⟨ticket, holds, -, -, positive, le⟩ := holding call there
    rw [holds, List.mem_range'_1]
    simp only [Option.map_some, Option.getD_some]
    omega
  have length := (List.Nodup.subperm counts inside).length_le
  rwa [List.length_map, List.length_range'] at length

/-- In every run whose steps keep keys bounded, a key without an expiry is still owed one. -/
theorem reachable_owed (starts : ∀ request, (program request).Sound waived none)
    (reached : System.ReachableWhile (system program) Bounding state) : state.Owed := by
  refine reached.invariant_given (fun _ _ held => by cases held) (fun _ => reachable_ordered starts) ?_
  intro before action ordered owed bounding
  have sound : ∀ index call current, before.program? index = some (call, current) →
      current.Sound waived (call.ticket.map Ticket.count) := by
    intro index call current running
    obtain ⟨standing, program⟩ := State.program?_eq.mp running
    exact ordered.sound call (List.mem_of_getElem? standing) current program
  exact owed.step sound bounding

omit [DecidableEq κ] in
/-- When all calls have ended, every key is bounded. -/
theorem State.Owed.settled (owed : state.Owed) (ended : ∀ call ∈ state.calls, call.running = none)
    (held : state.store.counters key = some counter) : counter.expiresAt.isSome = true := by
  cases unbounded : counter.expiresAt with
  | some _ => rfl
  | none =>
    obtain ⟨index, owing⟩ := owed key counter held unbounded
    obtain ⟨call, standing, owes⟩ := Option.bind_eq_some_iff.mp owing
    rw [Call.owes, ended call (List.mem_of_getElem? standing)] at owes
    cases owes

theorem ends_strands (running : state.program? index = some (call, current))
    (broken : ¬∀ key ∈ (state.program? index).bind (·.2.owes),
      (∀ counter ∈ state.store.counters key, counter.expiresAt.isSome = true) ∨
        state.othersOwe index key = true) (after : Call κ γ α) (quiet : after.owes = none) :
    ∃ key counter, state.store.counters key = some counter ∧ counter.expiresAt = none ∧
      ∀ other : Nat, (state.calls.set index after)[other]?.bind Call.owes ≠ some key := by
  simp only [not_forall, not_or] at broken
  obtain ⟨key, due, ⟨counter, held, unbounded⟩, alone⟩ := broken
  refine ⟨key, counter, held, by simpa using unbounded, fun other owing => ?_⟩
  by_cases mine : other = index
  · subst mine
    obtain ⟨standing, -⟩ := State.program?_eq.mp running
    rw [List.getElem?_set_self (List.getElem?_eq_some_iff.mp standing).1, Option.bind_some, quiet] at owing
    cases owing
  · rw [List.getElem?_set_ne (Ne.symm mine)] at owing
    exact alone (State.othersOwe_iff.mpr ⟨other, mine, owing⟩)

/-- The condition is tight: a step that breaks it leaves a key that nobody will bound. -/
theorem strands (ordered : state.Ordered waived) {action : Action γ ρ} (broken : ¬Bounding state action) :
    ∃ key counter, (step program state action).store.counters key = some counter ∧ counter.expiresAt = none ∧
      ∀ index : Nat, (step program state action).calls[index]?.bind Call.owes ≠ some key := by
  cases action with
  | lose index =>
    simp only [Bounding, not_forall, not_or] at broken
    obtain ⟨key, due, absent, alone⟩ := broken
    obtain ⟨⟨call, current⟩, running, counts⟩ := Option.bind_eq_some_iff.mp due
    cases current with
    | incr named next =>
      cases counts
      have none : state.store.counters key = none := by simpa using absent
      refine ⟨key, state.store.counted key, ?_, ?_, ?_⟩
      · simp only [step, running, Program.effect, Store.incr, Store.put_self]
      · rw [Store.counted, none]
      · intro other owing
        simp only [step, running] at owing
        refine alone (State.othersOwe_iff.mpr ⟨other, ?_, owing⟩)
        rintro rfl
        cases (State.owes_of_program running).symm.trans owing
    | _ => cases counts
  | fail index =>
    obtain ⟨key, due⟩ := not_forall.mp broken
    obtain ⟨⟨call, current⟩, running, owes⟩ := Option.bind_eq_some_iff.mp (Classical.not_imp.mp due).1
    obtain ⟨standing, running'⟩ := State.program?_eq.mp running
    have sound := ordered.sound call (List.mem_of_getElem? standing) current running'
    cases current with
    | expire named seconds next =>
      simp only [step, running]
      exact ends_strands running broken _ (sound false).1
    | _ => cases owes
  | die index =>
    obtain ⟨key, due⟩ := not_forall.mp broken
    obtain ⟨⟨call, current⟩, running, -⟩ := Option.bind_eq_some_iff.mp (Classical.not_imp.mp due).1
    simp only [step, running]
    exact ends_strands running broken _ rfl
  | call | answer | pass => exact absurd trivial broken

end Counters
