import GaonOne.Library.ReadCommitted

/-! Triggers. What a table keeps of the writes to other tables is written by the database, in
the transaction that makes the write, from the rows before and after it. A program is told
its triggers by `triggered`; what its writes make of any database is the replay of the list
of them, and that list is what `traced` answers with. -/
namespace ReadCommitted

variable {δ κ ν ε α β τ ω : Type}

/-- Writes made one after another. -/
def applied (writes : List (δ → δ)) (db : δ) : δ := writes.foldl (fun db write => write db) db

/-- One write, and the trigger that sees the database before and after it. -/
def fired (fire : δ → δ → τ → τ) (write : δ → δ) (both : δ × τ) : δ × τ :=
  (write both.1, fire both.1 (write both.1) both.2)

/-- Writes made one after another, each with its trigger. -/
def replay (fire : δ → δ → τ → τ) (writes : List (δ → δ)) (both : δ × τ) : δ × τ :=
  writes.foldl (fun both write => fired fire write both) both

@[simp]
theorem replay_nil (fire : δ → δ → τ → τ) (both : δ × τ) : replay fire [] both = both := rfl

@[simp]
theorem replay_cons (fire : δ → δ → τ → τ) (write : δ → δ) (writes : List (δ → δ)) (both : δ × τ) :
    replay fire (write :: writes) both = replay fire writes (fired fire write both) := rfl

theorem applied_snoc (made : List (δ → δ)) (write : δ → δ) :
    applied (made ++ [write]) = write ∘ applied made := by
  funext db
  simp [applied]

theorem replay_snoc (fire : δ → δ → τ → τ) (made : List (δ → δ)) (write : δ → δ) :
    replay fire (made ++ [write]) = fired fire write ∘ replay fire made := by
  funext both
  simp [replay]

/-- Triggers write to their own table only. -/
@[simp]
theorem replay_fst (fire : δ → δ → τ → τ) (writes : List (δ → δ)) (both : δ × τ) :
    (replay fire writes both).1 = applied writes both.1 := by
  induction writes generalizing both with
  | nil => rfl
  | cons write writes ih => exact ih (fired fire write both)

namespace Program

/-- The same statements; the answer lists the writes made, after those made before. -/
def traced : Program δ κ ν ε α → List (δ → δ) → Program δ κ ν ε (α × List (δ → δ))
  | done value, made => done (value, made)
  | raise error, _ => raise error
  | select next, made => select fun db => (next db).traced made
  | lock row next, made => lock row (next.traced made)
  | lockFirst rows next, made => lockFirst rows fun row => (next row).traced made
  | write change next, made => write change (next.traced (made ++ [change]))
  | note fact next, made => note fact (next.traced made)

/-- The same statements on a database with triggers. -/
def triggered (fire : δ → δ → τ → τ) : Program δ κ ν ε α → Program (δ × τ) κ ν ε α
  | done value => done value
  | raise error => raise error
  | select next => select fun both => (next both.1).triggered fire
  | lock row next => lock row (next.triggered fire)
  | lockFirst rows next => lockFirst rows fun row => (next row).triggered fire
  | write change next => write (fired fire change) (next.triggered fire)
  | note fact next => note fact (next.triggered fire)

/-- A part of a transaction that writes nothing. -/
def Quiet : Program δ κ ν ε α → Prop
  | done _ => True
  | raise _ => True
  | select next => ∀ db, (next db).Quiet
  | lock _ next => next.Quiet
  | lockFirst _ next => ∀ row, (next row).Quiet
  | write _ _ => False
  | note _ next => next.Quiet

variable {first : Program δ κ ν ε β} {next : β → Program δ κ ν ε α} {made : List (δ → δ)}

protected theorem bind_assoc (first : Program δ κ ν ε β) (next : β → Program δ κ ν ε α)
    (last : α → Program δ κ ν ε ω) :
    (first >>= next >>= last) = first >>= fun value => next value >>= last := by
  change (first.bind next).bind last = first.bind fun value => (next value).bind last
  induction first with
  | done value => rfl
  | raise error => rfl
  | select rest ih => exact congrArg select (funext ih)
  | lock row rest ih => exact congrArg (lock row) ih
  | lockFirst rows rest ih => exact congrArg (lockFirst rows) (funext ih)
  | write change rest ih => exact congrArg (write change) ih
  | note fact rest ih => exact congrArg (note fact) ih

theorem Quiet.bind (quiet : first.Quiet) (rest : ∀ value, (next value).Quiet) :
    (first >>= next).Quiet := by
  change (first.bind next).Quiet
  induction first with
  | done value => exact rest value
  | raise error => trivial
  | select inner ih => exact fun db => ih db (quiet db)
  | lock row inner ih => exact ih quiet
  | lockFirst rows inner ih => exact fun row => ih row (quiet row)
  | write change inner => exact quiet.elim
  | note fact inner ih => exact ih quiet

theorem quiet_ofExcept (check : Except ε α) : (ofExcept check : Program δ κ ν ε α).Quiet := by
  cases check <;> trivial

theorem quiet_lockRows (rows : List κ) : (lockRows rows : Program δ κ ν ε Unit).Quiet := by
  induction rows with
  | nil => trivial
  | cons row rows ih => exact ih

/-- What a quiet part is followed by makes all the writes. -/
theorem traced_bind (quiet : first.Quiet) :
    (first >>= next).traced made = first >>= fun value => (next value).traced made := by
  change (first.bind next).traced made = first.bind fun value => (next value).traced made
  induction first with
  | done value => rfl
  | raise error => rfl
  | select inner ih => exact congrArg select (funext fun db => ih db (quiet db))
  | lock row inner ih => exact congrArg (lock row) (ih quiet)
  | lockFirst rows inner ih => exact congrArg (lockFirst rows) (funext fun row => ih row (quiet row))
  | write change inner => exact quiet.elim
  | note fact inner ih => exact congrArg (note fact) (ih quiet)

@[simp]
theorem traced_pure (value : α) :
    (pure value : Program δ κ ν ε α).traced made = pure (value, made) := rfl

@[simp]
theorem traced_query (read : δ → β) :
    (query read >>= next).traced made = query read >>= fun value => (next value).traced made := rfl

@[simp]
theorem traced_flush (change : δ → δ) (next : Unit → Program δ κ ν ε α) :
    (flush change >>= next).traced made =
      flush change >>= fun _ => (next ()).traced (made ++ [change]) := rfl

@[simp]
theorem traced_check (check : Except ε β) :
    (liftM check >>= next).traced made = liftM check >>= fun value => (next value).traced made :=
  traced_bind (quiet_ofExcept check)

@[simp]
theorem traced_ite (check : Prop) [Decidable check] (left right : Program δ κ ν ε α) :
    (if check then left else right).traced made =
      if check then left.traced made else right.traced made := by
  split <;> rfl

end Program

namespace Discipline

/-- A session on the database with triggers stands where its traced copy does. -/
structure Mirrors (fire : δ → δ → τ → τ) (made : List (δ → δ)) (plain : Footing δ κ ν)
    (triggering : Footing (δ × τ) κ ν) : Prop where
  held : triggering.held = plain.held
  notes : triggering.notes = plain.notes
  plainly : plain.change = applied made
  change : triggering.change = replay fire made

variable {D : Discipline δ κ ν} {E : Discipline (δ × τ) κ ν} {fire : δ → δ → τ → τ}
  {program : Program δ κ ν ε α} {post : α × List (δ → δ) → Footing δ κ ν → δ → Prop}
  {made : List (δ → δ)} {plain : Footing δ κ ν} {triggering : Footing (δ × τ) κ ν} {both : δ × τ}

/-- What a program comes to with its triggers: its writes replayed, and whatever holds of
them without triggers. -/
theorem triggered_holds
    (reliance : ∀ {plain : Footing δ κ ν} {triggering : Footing (δ × τ) κ ν} {both now : δ × τ},
      triggering.held = plain.held → triggering.notes = plain.notes →
      E.Later triggering both now → D.Later plain both.1 now.1)
    (mirrors : Mirrors fire made plain triggering)
    (holds : D.Holds (program.traced made) post plain both.1) :
    E.Holds (program.triggered fire)
      (fun value triggering both => ∃ made plain, Mirrors fire made plain triggering ∧
        post (value, made) plain both.1) triggering both := by
  induction program generalizing made plain triggering both with
  | done value => exact ⟨made, plain, mirrors, holds⟩
  | raise error => trivial
  | select next ih =>
    intro now later
    have reads : plain.change now.1 = (triggering.change now).1 := by
      rw [mirrors.plainly, mirrors.change, replay_fst]
    apply ih _ mirrors
    rw [← reads]
    exact holds now.1 (reliance mirrors.held mirrors.notes later)
  | lock row next ih =>
    intro now later
    have locked : Mirrors fire made { plain with held := row :: plain.held }
        { triggering with held := row :: triggering.held } :=
      ⟨congrArg (row :: ·) mirrors.held, mirrors.notes, mirrors.plainly, mirrors.change⟩
    exact ih locked (holds now.1 (reliance mirrors.held mirrors.notes later))
  | lockFirst rows next ih =>
    intro now later row found
    have locked : Mirrors fire made { plain with held := row.toList ++ plain.held }
        { triggering with held := row.toList ++ triggering.held } :=
      ⟨congrArg (row.toList ++ ·) mirrors.held, mirrors.notes, mirrors.plainly, mirrors.change⟩
    exact ih row locked (holds now.1 (reliance mirrors.held mirrors.notes later) row found)
  | write change next ih =>
    have written : Mirrors fire (made ++ [change]) { plain with change := change ∘ plain.change }
        { triggering with change := fired fire change ∘ triggering.change } := by
      refine ⟨mirrors.held, mirrors.notes, ?_, ?_⟩
      · rw [applied_snoc, ← mirrors.plainly]
      · rw [replay_snoc, ← mirrors.change]
    exact ih written holds
  | note fact next ih =>
    intro now later
    have noted : Mirrors fire made { plain with notes := fact :: plain.notes }
        { triggering with notes := fact :: triggering.notes } :=
      ⟨mirrors.held, congrArg (fact :: ·) mirrors.notes, mirrors.plainly, mirrors.change⟩
    exact ih noted (holds now.1 (reliance mirrors.held mirrors.notes later))

end Discipline

/-! ## Trails -/

section
variable {σ : Type} (moves : σ → σ → Prop) (record : σ → σ → ω → Prop)

/-- Records of one move after another, from a start to where things stand. -/
def Trail : σ → List ω → σ → Prop
  | start, [], current => start = current
  | start, entry :: rest, current => ∃ next, moves start next ∧ record start next entry ∧
      Trail next rest current

variable {moves record}

theorem Trail.append {left right : List ω} (first : Trail moves record start left middle)
    (second : Trail moves record middle right current) :
    Trail moves record start (left ++ right) current := by
  induction left generalizing start with
  | nil =>
    cases first
    exact second
  | cons entry rest ih =>
    obtain ⟨next, moved, recorded, tail⟩ := first
    exact ⟨next, moved, recorded, ih tail⟩

/-- Records that say the same leave the same trail. -/
theorem Trail.map {entries : List ω} (rewrite : ω → ω)
    (same : ∀ first second entry, record first second entry → record first second (rewrite entry))
    (trail : Trail moves record start entries current) :
    Trail moves record start (entries.map rewrite) current := by
  induction entries generalizing start with
  | nil => exact trail
  | cons entry rest ih =>
    obtain ⟨next, moved, recorded, tail⟩ := trail
    exact ⟨next, moved, same _ _ _ recorded, ih tail⟩

/-- Where moves only go up, a trail records no move to a place above its end. -/
theorem Trail.bounded {rank : σ → Nat} {entries : List ω}
    (rises : ∀ first second, moves first second → rank first < rank second)
    (trail : Trail moves record start entries current) :
    rank start ≤ rank current ∧ ∀ entry ∈ entries, ∃ first second, record first second entry ∧
      rank second ≤ rank current := by
  induction entries generalizing start with
  | nil =>
    cases trail
    exact ⟨Nat.le_refl _, fun _ inside => by cases inside⟩
  | cons entry rest ih =>
    obtain ⟨next, moved, recorded, tail⟩ := trail
    obtain ⟨above, bounded⟩ := ih tail
    have below := rises start next moved
    constructor
    · omega
    · intro other inside
      rcases List.mem_cons.mp inside with rfl | later
      · exact ⟨start, next, recorded, above⟩
      · exact bounded other later

end
end ReadCommitted
