import GaonOne.PaymentProgress
import GaonOne.UniqueValues

/-! The rollback branches of the financial helpers. A helper that looked for its own key
while it held the order's or the entry's lock still finds it free when it flushes. The ids
that the provider brings are guarded by no such lock. -/
namespace GaonOne
open Relational UnitOfWork ReadCommitted Transitions

variable {before after : Tables} {held : List RowLock}

/-! ## The discipline -/

/-- An id that the provider draws. -/
def UniqueValue.Provided : UniqueValue → Prop
  | .paymentId _ | .refundId _ => True
  | _ => False

instance (value : UniqueValue) : Decidable value.Provided :=
  match value with
  | .paymentId _ | .refundId _ => .isTrue trivial
  | .eventKey _ | .refundKey _ | .reversalKey _ => .isFalse id

/-- No provider id that a helper flushes is on another row. -/
def Note.ProviderIdsFree (db : Tables) : Note → Prop
  | .flushing values => ∀ entry ∈ values, entry.1.Provided → ¬entry.1.Taken db entry.2
  | _ => True

/-- Nothing was rolled back so far; what the provider brings is free where it is flushed. -/
def helperDiscipline : Discipline Market RowLock Note where
  invariant market := market.tables.Constraints ∧ market.rolledBack = []
  guarantee _ _ := True
  rely held _ before after := ValuesKept held before.tables after.tables
  refl _ _ _ := ⟨.refl _, fun _ _ _ => Iff.rfl⟩
  trans first second :=
    ⟨first.toRowsKept.trans second.toRowsKept, fun value rowId guard =>
      (second.values value rowId guard).trans (first.values value rowId guard)⟩
  weaken kept := ⟨kept.toRowsKept, fun value rowId ⟨row, guard, held⟩ =>
    kept.values value rowId ⟨row, guard, List.mem_cons_of_mem _ held⟩⟩
  admits footing market := ∀ fact ∈ footing.notes, fact.ProviderIdsFree market.tables
  apart footing other := ∀ row ∈ footing.held, ∀ held ∈ other.held, ¬RowLock.conflicts row held

variable {footing : Standing} {db now : Market} {pending : Pending}

/-- The session has flushed a provider id that another row carries. -/
def Lost (footing : Standing) (db : Market) : Prop :=
  ∀ now, helperDiscipline.Later footing db now → ¬helperDiscipline.admits footing now

theorem Lost.later (lost : Lost footing db) (later : helperDiscipline.Later footing db now) :
    Lost footing now := fun next after => lost next (later.trans after)

/-- Whatever it goes on to do, such a session is not admitted to commit. -/
theorem Lost.holds {α : Type} {valid : Market → Prop} (lost : Lost footing db) (program : Statements α) :
    helperDiscipline.Holds program (helperDiscipline.Commits valid) footing db := by
  induction program generalizing footing db with
  | done value => exact fun now later admitted => absurd admitted (lost now later)
  | raise error => trivial
  | select next ih => exact fun now later => ih _ (lost.later later)
  | lock row next ih =>
    exact fun now later => ih fun next after => lost next (later.trans after.weaken)
  | lockFirst rows next ih =>
    exact fun now later row _ => ih row fun next after => lost next (later.trans (after.release row.toList))
  | write change next ih => exact ih lost
  | note fact next ih =>
    refine fun now later => ih fun next after admitted => ?_
    exact lost next (later.trans after) fun held inside => admitted held (List.mem_cons_of_mem _ inside)

/-! ## Where a request stands -/

/-- The request has gone on: it holds more, wrote nothing, and the others went on. -/
structure Further (footing standing : Standing) (db now : Market) : Prop where
  held : footing.held ⊆ standing.held
  change : standing.change = footing.change
  reach : ∀ next, helperDiscipline.Later standing now next → helperDiscipline.Later footing db next

theorem Further.later (later : helperDiscipline.Later footing db now) : Further footing footing db now :=
  ⟨List.Subset.refl _, rfl, fun _ next => later.trans next⟩

theorem Further.trans {standing last : Standing} (first : Further footing standing db now)
    (second : Further standing last now next) : Further footing last db next :=
  ⟨List.Subset.trans first.held second.held, second.change.trans first.change, fun after later =>
    first.reach after (second.reach after later)⟩

theorem Further.locked (locks : List RowLock) (later : helperDiscipline.Later footing db now) :
    Further footing { footing with held := locks ++ footing.held } db now :=
  ⟨List.subset_append_right _ _, rfl, fun _ next => later.trans (next.release locks)⟩

theorem Further.blank {standing : Standing} (further : Further footing standing db now)
    (blank : footing.change = id) : standing.change = id := further.change.trans blank

/-- What is pending may be committed, wherever its values are locked too. -/
def Committable (pending : Pending) (footing : Standing) (db : Market) : Prop :=
  ∀ now, helperDiscipline.Later footing db now → ∀ held, footing.held ⊆ held → pending.locks ⊆ held →
    ValuesMoved held now.tables (pending.change now).tables ∧
      (pending.change now).rolledBack = now.rolledBack

/-- What is pending may be committed, and the values left to flush are the provider's. -/
structure Ready (pending : Pending) (footing : Standing) (db : Market) : Prop where
  moves : Committable pending footing db
  provided : ∀ entry ∈ pending.values, entry.1.Provided

theorem Ready.nothing : Ready {} footing db :=
  ⟨fun _ _ _ _ _ => ⟨SamePayments.moved ⟨rfl, rfl, rfl, rfl⟩, rfl⟩, List.forall_mem_nil _⟩

theorem Committable.further {standing : Standing} (moves : Committable pending footing db)
    (further : Further footing standing db now) : Committable pending standing now :=
  fun next after held mine locks =>
    moves next (further.reach next after) held (List.Subset.trans further.held mine) locks

theorem Ready.further {standing : Standing} (ready : Ready pending footing db)
    (further : Further footing standing db now) : Ready pending standing now :=
  ⟨ready.moves.further further, ready.provided⟩

/-- A write to other tables, on top of what is pending. -/
theorem Ready.write {write : Tables → Tables} (ready : Ready pending footing db)
    (same : ∀ db, SamePayments db (write db)) : Ready (pending.write write) footing db := by
  refine ⟨fun now later held mine locks => ?_, ready.provided⟩
  obtain ⟨moved, quiet⟩ := ready.moves now later held mine locks
  exact ⟨moved.trans (same _).moved, quiet⟩

/-- Values that are flushed are locked. -/
theorem Committable.flushed {standing : Standing} (moves : Committable pending footing db)
    (further : Further footing standing db now) (locks : pending.locks ⊆ standing.held) :
    Ready pending.flushed standing now :=
  ⟨fun next after held mine _ => moves next (further.reach next after) held
      (List.Subset.trans further.held mine) (List.Subset.trans locks mine),
    List.forall_mem_nil _⟩

theorem Pending.locks_bring (pending : Pending) (value : UniqueValue) (rowId : UUID) :
    (pending.bring value rowId).locks = pending.locks ++ [(Row.value value).forUpdate] := by
  simp [Pending.bring, Pending.locks]

/-- A write that moves one value more, which is brought with it. -/
theorem Ready.bring {write : Tables → Tables} {value : UniqueValue} {rowId : UUID}
    (ready : Ready pending footing db)
    (guarded : ∀ row ∈ value.guards rowId, row = .value value ∨ row.forUpdate ∈ footing.held)
    (moved : ∀ held, (∀ row ∈ value.guards rowId, row.forUpdate ∈ held) → ∀ db, ValuesMoved held db (write db)) :
    Committable ((pending.write write).bring value rowId) footing db := by
  intro now later held mine locks
  rw [Pending.locks_bring] at locks
  obtain ⟨first, quiet⟩ := ready.moves now later held mine fun lock inside =>
    locks (List.mem_append_left _ inside)
  refine ⟨first.trans (moved held (fun row guard => ?_) _), quiet⟩
  rcases guarded row guard with rfl | locked
  · exact locks (List.mem_append_right _ (List.mem_singleton_self _))
  · exact mine locked

/-! ## Flushes -/

/-- What a flush of a helper tells its caller. -/
theorem holds_flushOrRollback {post : Bool → Standing → Market → Prop}
    (kept : helperDiscipline.invariant db) (blank : footing.change = id)
    (absent : ∀ entry ∈ pending.values, ¬entry.1.Provided → ∀ now, helperDiscipline.Later footing db now →
      ¬entry.1.Taken now.tables entry.2)
    (through : ∀ standing now, Further footing standing db now → helperDiscipline.invariant now →
      pending.locks ⊆ standing.held → post true standing now)
    (lost : ∀ standing now, Lost standing now → post false standing now) :
    helperDiscipline.Holds pending.flushOrRollback post footing db := by
  unfold Pending.flushOrRollback
  rw [Discipline.holds_bind]
  refine Discipline.holds_lockRows kept fun first after => ?_
  refine Discipline.Holds.remember fun second between => ?_
  refine Discipline.Holds.query fun third last => ?_
  have held : pending.locks ⊆ pending.locks.reverse ++ footing.held := fun lock inside =>
    List.mem_append_left _ (List.mem_reverse.mpr inside)
  have here := between.trans last
  have further : Further footing
      { footing with
        held := pending.locks.reverse ++ footing.held
        notes := .flushing pending.values :: footing.notes } db third :=
    ⟨List.subset_append_right _ _, rfl, fun next later =>
      after.trans ((here.trans later).release pending.locks.reverse)⟩
  have own : footing.change third = third := by rw [blank]; rfl
  dsimp only
  rw [own]
  cases broken : pending.violation third.tables with
  | none => exact through _ third further last.2 held
  | some value =>
    refine lost _ third fun next later admitted => ?_
    obtain ⟨entry, found, rfl⟩ := Option.map_eq_some_iff.mp broken
    have taken : entry.1.Taken third.tables entry.2 := by simpa using List.find?_some found
    have listed := List.mem_of_find?_eq_some found
    by_cases provided : entry.1.Provided
    · -- the value stays locked from before the check to the end
      have free := admitted _ List.mem_cons_self entry listed provided
      obtain ⟨other, carries, differ⟩ := taken
      refine free ⟨other, ?_, differ⟩
      have guard : Row.value entry.1 ∈ entry.1.guards other := List.mem_cons_self
      refine (later.1.values entry.1 other ⟨_, guard, held ?_⟩).mpr carries
      exact List.mem_map.mpr ⟨entry.1, List.mem_append_right _ (List.mem_map_of_mem listed), rfl⟩
    · exact absent entry listed provided third (after.trans (here.release pending.locks.reverse)) taken

/-- Any other flush either goes through or ends the request. -/
theorem holds_flush {post : Unit → Standing → Market → Prop} (kept : helperDiscipline.invariant db)
    (through : ∀ standing now, Further footing standing db now → helperDiscipline.invariant now →
      pending.locks ⊆ standing.held → post () standing now) :
    helperDiscipline.Holds pending.flush post footing db := by
  unfold Pending.flush
  rw [Discipline.holds_bind]
  refine Discipline.holds_lockRows kept fun first after => ?_
  refine Discipline.Holds.query fun second between => ?_
  rw [holds_require]
  intro _
  refine through _ second (.trans (.locked pending.locks.reverse after) (.later between)) between.2 ?_
  exact fun lock inside => List.mem_append_left _ (List.mem_reverse.mpr inside)

/-- What is ready is committed. -/
theorem holds_ready (kept : helperDiscipline.invariant db) (blank : footing.change = id)
    (ready : Ready pending footing db) :
    helperDiscipline.Holds pending.commit (helperDiscipline.Commits (paymentService env).valid) footing db := by
  unfold Pending.commit
  rw [Discipline.holds_bind]
  refine holds_flush kept fun standing now further sound locks => ?_
  refine Discipline.Holds.flush fun next later admitted valid => ?_
  rw [further.blank blank] at valid ⊢
  obtain ⟨moved, quiet⟩ := ready.moves next (further.reach next later) standing.held further.held locks
  exact ⟨⟨valid, quiet.trans later.2.2⟩, trivial, fun other apart => moved.kept apart⟩

/-- A commit of nothing. -/
theorem commits_unchanged (blank : footing.change = id) (value : Option String) :
    helperDiscipline.Commits (paymentService env).valid value footing db := by
  intro now later admitted valid
  rw [blank] at valid ⊢
  exact ⟨later.2, trivial, fun other apart => (SamePayments.moved ⟨rfl, rfl, rfl, rfl⟩ : ValuesMoved
    footing.held now.tables now.tables).kept apart⟩

/-! ## The helpers -/

/-- An order's refund key that is free stays free while the order is locked. -/
theorem refundKey_free (locked : (Row.order orderId).forUpdate ∈ footing.held)
    (later : helperDiscipline.Later footing db now)
    (free : lookup PaymentRefund.idempotencyKey (refundIdempotencyKey orderId) db.tables.paymentRefunds = none) :
    ∀ rowId, ¬(UniqueValue.refundKey orderId).Taken now.tables rowId := by
  rintro rowId ⟨other, carries, -⟩
  have guard : Row.order orderId ∈ (UniqueValue.refundKey orderId).guards other := by simp [UniqueValue.guards]
  have before := (later.1.values _ other ⟨_, guard, locked⟩).mp carries
  obtain ⟨row, listed, -, key⟩ := mem_carriers_refundKey.mp before
  exact lookup_eq_none_iff.mp free row listed key

/-- An obligation that is on record stays the one on record. -/
theorem refundKey_kept {seen : PaymentRefund} (later : helperDiscipline.Later footing db now)
    (read : lookup PaymentRefund.idempotencyKey (refundIdempotencyKey orderId) db.tables.paymentRefunds =
      some seen) :
    ∃ row, lookup PaymentRefund.idempotencyKey (refundIdempotencyKey orderId) now.tables.paymentRefunds =
      some row ∧ row.id = seen.id := by
  obtain ⟨row, listed, same, key⟩ := later.1.refunds seen (lookup_mem read)
  refine ⟨row, ?_, same⟩
  rw [lookup_eq_some_iff later.2.1.refundKeys]
  exact ⟨listed, key.trans (lookup_col read)⟩

/-- The order's lock keeps its refund key free from the look for it to the flush. -/
theorem holds_ensureRefundRequest {order : Order} {post : Option (Pending × Order) → Standing → Market → Prop}
    (kept : helperDiscipline.invariant db) (blank : footing.change = id)
    (locked : (Row.order order.id).forUpdate ∈ footing.held) (ready : Ready pending footing db)
    (recorded : ∀ standing now result, Further footing standing db now → helperDiscipline.invariant now →
      result.2.id = order.id → Ready result.1 standing now → post (some result) standing now)
    (lost : ∀ standing now, Lost standing now → post none standing now) :
    helperDiscipline.Holds (Flushed.ensureRefundRequest pending order reason draws) post footing db := by
  unfold Flushed.ensureRefundRequest
  refine Discipline.Holds.branch (fun _ => ?_) fun _ => recorded _ _ _ (.later (.refl kept)) kept rfl ready
  rw [Discipline.holds_bind]
  have own (market : Market) : footing.change market = market := by rw [blank]; rfl
  refine holds_selectForUpdate_cases ?_ ?_ ?_
  · intro first later free
    rw [own] at free
    simp only [Option.isSome_none, Bool.false_eq_true, if_false]
    refine Discipline.Holds.query fun second since => ?_
    rw [own]
    -- the obligation that is flushed
    obtain ⟨refund, made⟩ : ∃ refund, refund = refundRequest order
      (latestCapturedAttempt ⟨second.tables, second.tables, (pending.change second).tables⟩ order.id)
      reason draws := ⟨_, rfl⟩
    rw [← made]
    have further := Further.later (later.trans since)
    have brought : Committable ((pending.write (·.addRefund refund)).bring (.refundKey order.id) refund.id)
        footing second := by
      refine (ready.further further).bring (fun row guard => ?_) fun held guarded db => ?_
      · simp only [UniqueValue.guards, List.mem_cons, List.not_mem_nil, or_false] at guard
        rcases guard with rfl | rfl
        · exact .inl rfl
        · exact .inr locked
      · exact addRefund_moved refund (by rw [made]; rfl) (by rw [made]; rfl) guarded
    rw [Discipline.holds_bind]
    refine holds_flushOrRollback since.2 blank ?_ ?_ fun standing now gone => lost standing now gone
    · intro entry listed foreign now after
      rcases List.mem_append.mp listed with old | new
      · exact absurd (ready.provided entry old) foreign
      · rw [List.mem_singleton.mp new]
        exact refundKey_free locked (since.trans after) free _
    · intro standing now next sound locks
      refine recorded standing now (_, _) (further.trans next) sound rfl ?_
      exact (brought.flushed next locks).write fun _ => ⟨rfl, rfl, rfl, rfl⟩
  · intro seen first now later read since gone
    rw [own] at read gone
    obtain ⟨row, current, same⟩ := refundKey_kept since read
    rw [current] at gone
    simp [same] at gone
  · intro refund now later _
    have further := Further.locked [(Row.refund refund.id).forUpdate] later
    exact recorded _ _ (pending, order) further later.2 rfl (ready.further further)

/-- A settlement entry is read under its lock, and its reversal key looked for there. -/
theorem reversalKey_free {entryId : UUID} (locked : (Row.settlement entryId).forUpdate ∈ footing.held)
    (later : helperDiscipline.Later footing db now)
    (free : lookup SettlementAdjustment.idempotencyKey (settlementReversalKey entryId)
      db.tables.settlementAdjustments = none) :
    ∀ rowId, ¬(UniqueValue.reversalKey entryId).Taken now.tables rowId := by
  rintro rowId ⟨other, carries, -⟩
  have guard : Row.settlement entryId ∈ (UniqueValue.reversalKey entryId).guards other := by
    simp [UniqueValue.guards]
  have before := (later.1.values _ other ⟨_, guard, locked⟩).mp carries
  obtain ⟨row, listed, -, key⟩ := mem_carriers_reversalKey.mp before
  exact lookup_eq_none_iff.mp free row listed key

theorem holds_voidSettlementForRefund {order : Order} {post : Option Pending → Standing → Market → Prop}
    (blank : footing.change = id) (ready : Ready pending footing db)
    (voided : ∀ standing now result, Further footing standing db now → helperDiscipline.invariant now →
      Ready result standing now → post (some result) standing now)
    (lost : ∀ standing now, Lost standing now → post none standing now) :
    helperDiscipline.Holds (Flushed.voidSettlementForRefund pending order reason draws) post footing db := by
  unfold Flushed.voidSettlementForRefund Flushed.lockedSettlement
  rw [Discipline.holds_bind]
  have own (market : Market) : footing.change market = market := by rw [blank]; rfl
  refine holds_selectForUpdate (fun now held later => ?_) fun entry first later _ => ?_
  · have further := Further.locked held later
    exact voided _ now pending further later.2 (ready.further further)
  · have locked := Further.locked [(Row.settlement entry.id).forUpdate] later
    dsimp only
    cases entry.status with
    | voided => exact voided _ first pending locked later.2 (ready.further locked)
    | pending =>
      refine voided _ first _ locked later.2 ((ready.further locked).write fun _ => ?_)
      exact ⟨rfl, rfl, rfl, rfl⟩
    | settled =>
      refine Discipline.Holds.query fun second since => ?_
      dsimp only
      rw [own]
      have further := locked.trans (.later since)
      refine Discipline.Holds.branch (fun _ => ?_) fun absent => ?_
      · exact voided _ second pending further since.2 (ready.further further)
      · have free := Option.not_isSome_iff_eq_none.mp absent
        rw [Discipline.holds_bind]
        refine holds_flushOrRollback since.2 blank ?_ ?_ fun standing now gone => lost standing now gone
        · intro item listed foreign now after
          rcases List.mem_append.mp listed with old | new
          · exact absurd (ready.provided item old) foreign
          · rw [List.mem_singleton.mp new]
            exact reversalKey_free List.mem_cons_self after free _
        · intro standing now next sound locks
          refine voided standing now _ (further.trans next) sound (Committable.flushed ?_ next locks)
          refine (ready.further further).bring (fun row guard => ?_) fun held guarded db => ?_
          · simp only [UniqueValue.guards, List.mem_cons, List.not_mem_nil, or_false] at guard
            rcases guard with rfl | rfl
            · exact .inl rfl
            · exact .inr List.mem_cons_self
          · exact addAdjustment_moved _ rfl guarded

theorem holds_ensureSettlementEntry {order : Order} {post : Pending → Standing → Market → Prop}
    (ready : Ready pending footing db)
    (entered : ∀ standing now result, Further footing standing db now → helperDiscipline.invariant now →
      Ready result standing now → post result standing now) :
    helperDiscipline.Holds (Flushed.ensureSettlementEntry pending order draws) post footing db := by
  unfold Flushed.ensureSettlementEntry Flushed.lockedSettlement
  rw [Discipline.holds_bind]
  refine holds_selectForUpdate (fun first held later => ?_) fun entry now later _ => ?_
  · have locked := Further.locked held later
    refine Discipline.Holds.branch (fun set => absurd set (by simp)) fun _ => ?_
    refine Discipline.Holds.query fun second since => ?_
    have further := locked.trans (.later since)
    refine Discipline.Holds.branch (fun _ => ?_) fun _ => ?_
    · refine Discipline.Holds.query fun third next => ?_
      refine Holds.found fun store _ => ?_
      rw [Discipline.holds_bind]
      refine holds_flush next.2 fun standing now after sound locks => ?_
      have whole := further.trans (.later next)
      refine entered standing now _ (whole.trans after) sound ?_
      exact ((ready.further whole).moves.flushed after locks).write fun _ => ⟨rfl, rfl, rfl, rfl⟩
    · exact entered _ second pending further since.2 (ready.further further)
  · have further := Further.locked [(Row.settlement entry.id).forUpdate] later
    exact entered _ now pending further later.2 (ready.further further)

/-! ## Decisions on orders -/

theorem holds_restoring {order : Order} {instant : Instant}
    {post : Pending × Order → Standing → Market → Prop} (blank : footing.change = id)
    (ready : Ready pending footing db)
    (restored : ∀ now result, helperDiscipline.Later footing db now → result.2.id = order.id →
      Ready result.1 footing now → post result footing now) :
    helperDiscipline.Holds (Flushed.restoreOrderStockOnce pending order instant) post footing db := by
  unfold Flushed.restoreOrderStockOnce
  refine Holds.statement fun now later value read => ?_
  rw [blank] at read
  refine restored now (_, value) later ?_ ((ready.further (.later later)).write fun db => ?_)
  · obtain ⟨⟨session, copy⟩, ran, rfl⟩ : ∃ result, restoreOrderStockOnce (Session.start now.tables) order
        instant = .ok result ∧ result.2 = value := by
      cases ran : restoreOrderStockOnce (Session.start now.tables) order instant with
      | error error => simp [ran, Except.map] at read
      | ok result => exact ⟨result, rfl, by simpa [ran, Except.map] using read⟩
    exact (restoreOrderStockOnce_payments ran).2
  · split
    · next ran => exact (restoreOrderStockOnce_payments ran).1
    · exact ⟨rfl, rfl, rfl, rfl⟩

/-- An order that is loaded under its lock is the one that was asked for. -/
theorem holds_lockedOrder {post : Option Order → Standing → Market → Prop}
    (missing : ∀ standing now, Further footing standing db now → helperDiscipline.invariant now →
      post none standing now)
    (found : ∀ standing now order, Further footing standing db now → helperDiscipline.invariant now →
      (Row.order order.id).forUpdate ∈ standing.held → post (some order) standing now) :
    helperDiscipline.Holds (Statement.lockedOrder orderId) post footing db := by
  refine holds_selectForUpdate (fun now held later => ?_) fun order now later _ => ?_
  · exact missing _ now (.locked held later) later.2
  · exact found _ now order (.locked [_] later) later.2 List.mem_cons_self

variable {env : Environment} {start : Market}

/-- A request ends as the discipline asks. -/
abbrev Ends (env : Environment) (program : Statements (Option String)) (footing : Standing) (db : Market) : Prop :=
  helperDiscipline.Holds program (helperDiscipline.Commits (paymentService env).valid) footing db

theorem holds_cancelMyOrderSafely (subject orderId : UUID) (draws : Draws) :
    Ends env (Flushed.cancelMyOrderSafely subject orderId draws) {} start := by
  unfold Flushed.cancelMyOrderSafely
  refine Holds.statement fun first after user _ => ?_
  rw [Discipline.holds_bind]
  refine holds_lockedOrder (fun standing now _ _ => Holds.missing) fun standing now order further kept locked => ?_
  refine Holds.found fun own found => ?_
  cases (Option.filter_eq_some_iff.mp found).1
  refine Holds.require fun _ => ?_
  rw [Discipline.holds_bind]
  have blank := further.blank rfl
  refine holds_restoring blank .nothing fun second result later same ready => ?_
  obtain ⟨pending, restored⟩ := result
  refine Discipline.Holds.check fun cancelled moves => ?_
  have ids : cancelled.id = order.id := by rw [← (transitionOrder_ok.mp moves).2]; exact same
  rw [Discipline.holds_bind]
  refine holds_ensureRefundRequest later.2 blank (by rwa [ids]) (ready.write fun _ => ⟨rfl, rfl, rfl, rfl⟩)
    (fun standing now result more sound _ ready => ?_) fun standing now gone => ?_
  · exact holds_ready sound (more.blank blank) ready
  · exact gone.holds _

theorem holds_updateOrderStatusSafely (subject orderId : UUID) (status : OrderStatus) (draws : Draws) :
    Ends env (Flushed.updateOrderStatusSafely subject orderId status draws) {} start := by
  unfold Flushed.updateOrderStatusSafely
  refine Holds.statement fun first after user _ => ?_
  refine Discipline.Holds.check fun _ _ => ?_
  rw [Discipline.holds_bind]
  refine holds_lockedOrder (fun standing now _ _ => Holds.missing) fun standing now order further kept locked => ?_
  refine Holds.found fun own found => ?_
  cases found
  refine Holds.statement fun second since _ _ => ?_
  refine Holds.require fun _ => ?_
  refine Holds.require fun _ => ?_
  refine Holds.require fun _ => ?_
  have blank := further.blank rfl
  refine Discipline.Holds.branch (fun _ => ?_) fun _ => ?_
  · refine Discipline.Holds.check fun _ _ => ?_
    rw [Discipline.holds_bind]
    refine holds_restoring blank .nothing fun third result later same ready => ?_
    obtain ⟨pending, restored⟩ := result
    rw [Discipline.holds_bind]
    refine holds_ensureRefundRequest later.2 blank (by rwa [same]) ready
      (fun standing now result more sound _ ready => ?_) fun standing now gone => gone.holds _
    refine Discipline.Holds.check fun cancelled _ => ?_
    exact holds_ready sound (more.blank blank) (ready.write fun _ => ⟨rfl, rfl, rfl, rfl⟩)
  · refine Discipline.Holds.check fun moved _ => ?_
    exact holds_ready since.2 blank (Ready.nothing.write fun _ => ⟨rfl, rfl, rfl, rfl⟩)

theorem holds_returnToStore {admin : User} {delivery : Delivery} {order : Order} (draws : Draws)
    (blank : footing.change = id) (locked : (Row.order order.id).forUpdate ∈ footing.held) :
    Ends env (Flushed.returnToStore admin delivery order draws) footing db := by
  unfold Flushed.returnToStore
  refine Discipline.Holds.check fun _ _ => ?_
  refine Discipline.Holds.check fun _ _ => ?_
  refine Holds.require fun _ => ?_
  refine Discipline.Holds.query fun first _ => ?_
  refine Holds.require fun _ => ?_
  rw [Discipline.holds_bind]
  refine holds_restoring blank .nothing fun second result later same ready => ?_
  obtain ⟨pending, restored⟩ := result
  refine Discipline.Holds.check fun returned moves => ?_
  have ids : returned.id = order.id := by rw [← (transitionOrder_ok.mp moves).2]; exact same
  rw [Discipline.holds_bind]
  refine holds_voidSettlementForRefund blank (ready.write fun _ => ⟨rfl, rfl, rfl, rfl⟩)
    (fun standing now pending further sound ready => ?_) fun standing now gone => gone.holds _
  have clear := further.blank blank
  rw [Discipline.holds_bind]
  refine holds_ensureRefundRequest sound clear (further.held (by rwa [ids])) ready
    (fun standing now result more sound _ ready => ?_) fun standing now gone => gone.holds _
  exact holds_ready sound (more.blank clear) ready

theorem holds_resolveFailedDelivery (subject deliveryId : UUID) (resolution : Resolution)
    (notes : Option String) (draws : Draws) :
    Ends env (Flushed.resolveFailedDelivery subject deliveryId resolution notes draws) {} start := by
  unfold Flushed.resolveFailedDelivery
  refine Holds.statement fun first after admin _ => ?_
  refine Holds.require fun _ => ?_
  rw [Discipline.holds_bind]
  refine holds_selectForUpdate (fun _ _ _ => Holds.missing) fun delivery second since _ => ?_
  refine Holds.found fun own found => ?_
  cases found
  rw [Discipline.holds_bind]
  refine holds_lockedOrder (fun standing now _ _ => Holds.missing) fun standing now order further kept locked => ?_
  refine Holds.found fun held found => ?_
  cases found
  refine Holds.require fun _ => ?_
  have blank := further.blank rfl
  cases resolution with
  | returnToStore => exact holds_returnToStore draws blank locked
  | reassign =>
    refine Holds.require fun _ => ?_
    refine Holds.require fun _ => ?_
    refine Discipline.Holds.check fun released _ => ?_
    exact holds_ready kept blank (Ready.nothing.write fun _ => ⟨rfl, rfl, rfl, rfl⟩)

/-! ## Captures -/

/-- A column's new text is locked, and the old one. -/
theorem Pending.locks_assign {value : String → UniqueValue} {old new : Option String} (differ : new ≠ old)
    (involved : new = some text ∨ old = some text) :
    (Row.value (value text)).forUpdate ∈ (pending.assign value rowId old new).locks := by
  rw [Pending.assign, if_neg differ]
  refine List.mem_map.mpr ⟨value text, ?_, rfl⟩
  rcases involved with rfl | rfl <;> simp

theorem Pending.provided_assign (value : String → UniqueValue) (provided : ∀ text, (value text).Provided)
    (old new : Option String) (rowId : UUID) (rest : ∀ entry ∈ pending.values, entry.1.Provided) :
    ∀ entry ∈ (pending.assign value rowId old new).values, entry.1.Provided := by
  intro entry listed
  unfold Pending.assign at listed
  split at listed
  · exact rest entry listed
  · rcases List.mem_append.mp listed with before | brought
    · exact rest entry before
    · obtain ⟨text, -, rfl⟩ := List.mem_map.mp brought
      exact provided text

theorem Pending.change_assign (pending : Pending) (value : String → UniqueValue) (rowId : UUID)
    (old new : Option String) : (pending.assign value rowId old new).change = pending.change := by
  unfold Pending.assign
  split <;> rfl

/-- The session holds this attempt, and nobody else changes its payment id. -/
structure OwnAttempt (attempt : PaymentAttempt) (footing : Standing) (db : Market) : Prop where
  locked : (Row.attempt attempt.id).forUpdate ∈ footing.held
  stored : ∃ row ∈ db.tables.paymentAttempts, row.id = attempt.id ∧
    row.providerPaymentId = attempt.providerPaymentId

theorem OwnAttempt.later {attempt : PaymentAttempt} (kept : helperDiscipline.invariant db)
    (own : OwnAttempt attempt footing db) (later : helperDiscipline.Later footing db now) :
    OwnAttempt attempt footing now := by
  refine ⟨own.locked, ?_⟩
  obtain ⟨row, listed, same, paid⟩ := own.stored
  obtain ⟨row', listed', same'⟩ := later.1.attempts row listed
  refine ⟨row', listed', same'.trans same, (Option.ext fun text => ?_).trans paid⟩
  have guard : Row.attempt attempt.id ∈ (UniqueValue.paymentId text).guards attempt.id := by
    simp [UniqueValue.guards]
  have carriers := later.1.values (.paymentId text) attempt.id ⟨_, guard, own.locked⟩
  rw [mem_carriers_paymentId, mem_carriers_paymentId, carries_own later.2.1.attemptIds listed' (same'.trans same),
    carries_own kept.1.attemptIds listed same] at carriers
  exact carriers

/-- The attempt that a session holds may be written, with the payment id it brings. -/
theorem OwnAttempt.ready {attempt : PaymentAttempt} (kept : helperDiscipline.invariant db)
    (own : OwnAttempt attempt footing db) (new : PaymentAttempt) (same : new.id = attempt.id) :
    Ready ((Pending.write {} (·.putAttempt new)).assign .paymentId attempt.id attempt.providerPaymentId
      new.providerPaymentId) footing db := by
  refine ⟨fun now later held mine locks => ?_, Pending.provided_assign .paymentId (fun _ => trivial) _ _ _
    (List.forall_mem_nil _)⟩
  rw [Pending.change_assign]
  refine ⟨?_, rfl⟩
  obtain ⟨locked, row, listed, rowId, paid⟩ := own.later kept later
  refine putAttempt_moved later.2.1.attemptIds listed (rowId.trans same.symm) (same ▸ mine locked) ?_
  intro differ text involved
  rw [paid] at differ involved
  exact locks (Pending.locks_assign differ involved)

theorem holds_lockPaymentContext {identity : Tables → Option PaymentAttempt} {userId : Option UUID}
    {post : Option (PaymentAttempt × Order) × Bool → Standing → Market → Prop} (blank : footing.change = id)
    (missing : ∀ standing now flag, Further footing standing db now → helperDiscipline.invariant now →
      post (none, flag) standing now)
    (found : ∀ standing now attempt order, Further footing standing db now → helperDiscipline.invariant now →
      (Row.order order.id).forUpdate ∈ standing.held → OwnAttempt attempt standing now →
      post (some (attempt, order), true) standing now) :
    helperDiscipline.Holds (Flushed.lockPaymentContext identity userId) post footing db := by
  unfold Flushed.lockPaymentContext
  refine Discipline.Holds.query fun first later => ?_
  split
  · exact missing _ _ _ (.later later) later.2
  · next known _ =>
    rw [Discipline.holds_bind]
    refine holds_selectForUpdate (fun now held since => ?_) fun order second since _ => ?_
    · exact missing _ _ _ (.locked held (later.trans since)) since.2
    dsimp only
    have further := Further.locked [(Row.order order.id).forUpdate] (later.trans since)
    rw [Discipline.holds_bind]
    refine holds_selectForUpdate (fun now held next => ?_) fun attempt third next read => ?_
    · exact missing _ _ _ (further.trans (.locked held next)) next.2
    refine found _ third attempt order (further.trans (.locked [_] next)) next.2 ?_ ⟨List.mem_cons_self, attempt, ?_, rfl, rfl⟩
    · exact List.mem_cons_of_mem _ List.mem_cons_self
    · rw [blank] at read
      exact lookup_mem (Option.filter_eq_some_iff.mp read).1

theorem holds_applyPaid {attempt : PaymentAttempt} {order : Order} {paymentId : Option String}
    {post : Option Pending → Standing → Market → Prop} (kept : helperDiscipline.invariant db)
    (blank : footing.change = id) (locked : (Row.order order.id).forUpdate ∈ footing.held)
    (own : OwnAttempt attempt footing db)
    (applied : ∀ standing now result, Further footing standing db now → helperDiscipline.invariant now →
      Ready result standing now → post (some result) standing now)
    (lost : ∀ standing now, Lost standing now → post none standing now) :
    helperDiscipline.Holds (Flushed.applyPaid attempt order paymentId draws) post footing db := by
  unfold Flushed.applyPaid
  refine Discipline.Holds.query fun first later => ?_
  refine Holds.require fun _ => ?_
  obtain ⟨time, captured⟩ := capturedAttempt_eq attempt paymentId draws.now
  have same : (capturedAttempt attempt paymentId draws.now).id = attempt.id := by rw [captured]
  have ready := (own.later kept later).ready later.2 _ same
  have here := Further.later later
  refine Discipline.Holds.branch (fun _ => ?_) fun _ => ?_
  · refine Discipline.Holds.branch (fun _ => ?_) fun _ => applied _ first _ here later.2 ready
    rw [Discipline.holds_bind]
    refine holds_ensureRefundRequest later.2 blank locked (ready.write fun _ => ⟨rfl, rfl, rfl, rfl⟩)
      (fun standing now result more sound _ ready => ?_) fun standing now gone => lost standing now gone
    exact applied standing now result.1 (here.trans more) sound ready
  · rw [Discipline.holds_bind]
    refine holds_ensureSettlementEntry (ready.write fun _ => ⟨rfl, rfl, rfl, rfl⟩)
      fun standing now result more sound ready => ?_
    exact applied standing now result (here.trans more) sound ready

theorem ready_applyFailed {attempt : PaymentAttempt} {order : Order} (kept : helperDiscipline.invariant db)
    (own : OwnAttempt attempt footing db) : Ready (Flushed.applyFailed attempt order draws) footing db := by
  refine ⟨fun now later held mine _ => ⟨?_, rfl⟩, List.forall_mem_nil _⟩
  change ValuesMoved held now.tables (applyFailed (Session.start now.tables) attempt order draws).pending
  unfold applyFailed
  split
  · exact SamePayments.moved ⟨rfl, rfl, rfl, rfl⟩
  · obtain ⟨time, saved⟩ := savedAttempt_eq attempt { attempt with status := .failed } draws.now
    rw [saved]
    obtain ⟨locked, row, listed, rowId, paid⟩ := own.later kept later
    have moved : ValuesMoved held now.tables
        (now.tables.putAttempt { attempt with status := .failed, updatedAt := time }) :=
      putAttempt_moved later.2.1.attemptIds listed rowId (mine locked) fun differ => absurd paid.symm differ
    exact moved.trans (SamePayments.moved ⟨rfl, rfl, rfl, rfl⟩)

theorem holds_hardenedVerifyPayment (settings : Settings) (subject : UUID) (payload : PaymentVerifyRequest)
    (draws : Draws) : Ends env (Flushed.hardenedVerifyPayment env settings subject payload draws) {} start := by
  unfold Flushed.hardenedVerifyPayment
  refine Holds.statement fun first after user _ => ?_
  refine Holds.require fun _ => ?_
  rw [Discipline.holds_bind]
  refine holds_lockPaymentContext rfl (fun standing now flag _ _ => ?_)
    fun standing now attempt order further kept locked own => ?_
  · exact Holds.require fun _ => Holds.missing
  refine Holds.require fun _ => ?_
  refine Holds.found fun context found => ?_
  cases found
  refine Holds.found fun providerOrderId _ => ?_
  have blank := further.blank rfl
  refine Discipline.Holds.branch (fun _ => ?_) fun _ => ?_
  · refine Discipline.Holds.branch (fun _ => commits_unchanged blank none) fun _ => ?_
    rw [Discipline.holds_bind]
    refine holds_ensureSettlementEntry .nothing fun standing now result more sound ready => ?_
    exact holds_ready sound (more.blank blank) ready
  · refine Discipline.Holds.check fun valid _ => ?_
    refine Discipline.Holds.branch (fun _ => ?_) fun _ => holds_ready kept blank (ready_applyFailed kept own)
    rw [Discipline.holds_bind]
    refine holds_applyPaid kept blank locked own (fun standing now result more sound ready => ?_)
      fun standing now gone => gone.holds _
    exact holds_ready sound (more.blank blank) ready

/-! ## Refund results -/

/-- The session holds this refund, and nobody else changes the provider's id of it. -/
structure OwnRefund (refund : PaymentRefund) (footing : Standing) (db : Market) : Prop where
  locked : (Row.refund refund.id).forUpdate ∈ footing.held
  stored : ∃ row ∈ db.tables.paymentRefunds, row.id = refund.id ∧
    row.idempotencyKey = refund.idempotencyKey ∧ row.providerRefundId = refund.providerRefundId

theorem OwnRefund.later {refund : PaymentRefund} (kept : helperDiscipline.invariant db)
    (own : OwnRefund refund footing db) (later : helperDiscipline.Later footing db now) :
    OwnRefund refund footing now := by
  refine ⟨own.locked, ?_⟩
  obtain ⟨row, listed, same, key, named⟩ := own.stored
  obtain ⟨row', listed', same', key'⟩ := later.1.refunds row listed
  refine ⟨row', listed', same'.trans same, key'.trans key, (Option.ext fun text => ?_).trans named⟩
  have guard : Row.refund refund.id ∈ (UniqueValue.refundId text).guards refund.id := by
    simp [UniqueValue.guards]
  have carriers := later.1.values (.refundId text) refund.id ⟨_, guard, own.locked⟩
  rw [mem_carriers_refundId, mem_carriers_refundId, carries_own later.2.1.refundIds listed' (same'.trans same),
    carries_own kept.1.refundIds listed same] at carriers
  exact carriers

theorem OwnRefund.moves {refund : PaymentRefund} (own : OwnRefund refund footing now)
    (kept : helperDiscipline.invariant now) (new : PaymentRefund) (same : new.id = refund.id)
    (key : new.idempotencyKey = refund.idempotencyKey) (mine : footing.held ⊆ held)
    (guarded : new.providerRefundId ≠ refund.providerRefundId → ∀ text,
      (new.providerRefundId = some text ∨ refund.providerRefundId = some text) →
        (Row.value (.refundId text)).forUpdate ∈ held) :
    ValuesMoved held now.tables (now.tables.putRefund new) := by
  obtain ⟨locked, row, listed, rowId, rowKey, named⟩ := own
  refine putRefund_moved kept.1.refundIds listed (rowId.trans same.symm) (key.trans rowKey.symm)
    (same ▸ mine locked) ?_
  rw [named]
  exact guarded

/-- The refund that a session holds may be written, with the provider's id of it. -/
theorem OwnRefund.ready {refund : PaymentRefund} (kept : helperDiscipline.invariant db)
    (own : OwnRefund refund footing db) (new : PaymentRefund) (same : new.id = refund.id)
    (key : new.idempotencyKey = refund.idempotencyKey) :
    Ready ((Pending.assign {} .refundId refund.id refund.providerRefundId new.providerRefundId).write
      (·.putRefund new)) footing db := by
  refine ⟨fun now later held mine locks => ?_, Pending.provided_assign .refundId (fun _ => trivial) _ _ _
    (List.forall_mem_nil _)⟩
  simp only [Pending.write, Pending.change_assign]
  refine ⟨(own.later kept later).moves later.2 new same key mine fun differ text involved => ?_, rfl⟩
  exact locks (Pending.locks_assign differ involved)

/-- A row that keeps the provider's id is just written. -/
theorem OwnRefund.ready_same {refund : PaymentRefund} (kept : helperDiscipline.invariant db)
    (own : OwnRefund refund footing db) (new : PaymentRefund) (same : new.id = refund.id)
    (key : new.idempotencyKey = refund.idempotencyKey) (named : new.providerRefundId = refund.providerRefundId) :
    Ready (Pending.write {} (·.putRefund new)) footing db :=
  ⟨fun _ later _ mine _ => ⟨(own.later kept later).moves later.2 new same key mine fun differ =>
    absurd named differ, rfl⟩, List.forall_mem_nil _⟩

theorem holds_applyProviderRefundResult {refund : PaymentRefund} {post : Option Pending → Standing → Market → Prop}
    (kept : helperDiscipline.invariant db) (blank : footing.change = id) (own : OwnRefund refund footing db)
    (applied : ∀ standing now result, Further footing standing db now → helperDiscipline.invariant now →
      Ready result standing now → post (some result) standing now)
    (lost : ∀ standing now, Lost standing now → post none standing now) :
    helperDiscipline.Holds (Flushed.applyProviderRefundResult env refund payload draws) post footing db := by
  unfold Flushed.applyProviderRefundResult
  generalize (Json.get payload "id").text env.print = providerRefundId
  generalize (Json.get payload "status").text env.print = providerStatus
  have here := Further.later (.refl kept : helperDiscipline.Later footing db db)
  refine Discipline.Holds.branch (fun _ => ?_) fun _ => ?_
  · have ready := own.ready kept
      (succeededRefund (reportedRefund refund providerRefundId providerStatus) providerStatus draws.now) rfl rfl
    rw [Discipline.holds_bind]
    refine holds_lockedOrder (fun standing now further sound => ?_)
      fun standing now order further sound locked => ?_
    · exact applied standing now _ further sound (ready.further further)
    · refine Discipline.Holds.branch (fun _ => ?_) fun _ => ?_
      · exact applied standing now _ further sound (ready.further further)
      · refine holds_voidSettlementForRefund (further.blank blank)
          ((ready.further further).write fun _ => ⟨rfl, rfl, rfl, rfl⟩)
          (fun last after result more sound ready => ?_) lost
        exact applied last after result (further.trans more) sound ready
  · refine Discipline.Holds.branch (fun _ => ?_) fun _ => ?_
    · exact applied _ _ _ here kept (own.ready kept (failedRefund (reportedRefund refund providerRefundId
        providerStatus) "Razorpay reported the refund as failed" draws.now) rfl rfl)
    · exact applied _ _ _ here kept (own.ready kept
        { reportedRefund refund providerRefundId providerStatus with status := .processing } rfl rfl)

theorem holds_lockedRefund {post : Option PaymentRefund → Standing → Market → Prop} (blank : footing.change = id)
    (missing : ∀ standing now, Further footing standing db now → helperDiscipline.invariant now →
      post none standing now)
    (found : ∀ standing now refund, Further footing standing db now → helperDiscipline.invariant now →
      refund.id = refundId → OwnRefund refund standing now → post (some refund) standing now) :
    helperDiscipline.Holds (Flushed.lockedRefund refundId) post footing db := by
  refine holds_selectForUpdate (fun now held later => ?_) fun refund now later read => ?_
  · exact missing _ now (.locked held later) later.2
  · rw [blank] at read
    exact found _ now refund (.locked [_] later) later.2 (lookup_col read)
      ⟨List.mem_cons_self, refund, lookup_mem read, rfl, rfl, rfl⟩

theorem holds_claimRefund (settings : Settings) (refundId : UUID) (instant : Instant) :
    Ends env (Flushed.claimRefund settings refundId instant) {} start := by
  unfold Flushed.claimRefund
  rw [Ends, Discipline.holds_bind]
  refine holds_lockedRefund rfl (fun standing now further _ => commits_unchanged (further.blank rfl) none)
    fun standing now refund further kept same own => ?_
  refine holds_ready kept (further.blank rfl) ⟨fun next later held mine _ => ⟨?_, rfl⟩, List.forall_mem_nil _⟩
  change ValuesMoved held next.tables (claimRefund settings (Session.start next.tables) refundId instant).1.pending
  have stays : ∀ db, ValuesMoved held db db := fun db => SamePayments.moved ⟨rfl, rfl, rfl, rfl⟩
  have writes : ∀ row new : PaymentRefund, next.tables.refund? refundId = some row → new.id = row.id →
      new.idempotencyKey = row.idempotencyKey → new.providerRefundId = row.providerRefundId →
      ValuesMoved held next.tables (next.tables.putRefund new) := by
    intro row new read id key named
    have rowId : row.id = refundId := lookup_col read
    refine putRefund_moved later.2.1.refundIds (lookup_mem read) id.symm key ?_ fun differ => absurd named differ
    rw [id, rowId, ← same]
    exact mine own.locked
  unfold claimRefund
  split
  · exact stays _
  · next row read =>
    split
    · exact stays _
    · split
      · exact stays _
      · split
        · exact writes row _ read rfl rfl rfl
        · split
          · exact writes row _ read rfl rfl rfl
          · exact writes row _ read rfl rfl rfl

theorem holds_recordRefund (refundId : UUID) (result : ProviderResult) (draws : Draws) :
    Ends env (Flushed.recordRefund env refundId result draws) {} start := by
  unfold Flushed.recordRefund
  rw [Ends, Discipline.holds_bind]
  refine holds_lockedRefund rfl (fun standing now further _ => commits_unchanged (further.blank rfl) none)
    fun standing now refund further kept same own => ?_
  have blank := further.blank rfl
  cases result with
  | error message => exact holds_ready kept blank (own.ready_same kept _ rfl rfl rfl)
  | ok payload =>
    change Ends env (Flushed.applyProviderRefundResult env refund payload draws >>= Flushed.commitPending) standing now
    rw [Ends, Discipline.holds_bind]
    refine holds_applyProviderRefundResult kept blank own (fun last after pending more sound ready => ?_)
      fun _ _ gone => gone.holds _
    exact holds_ready sound (more.blank blank) ready

/-! ## Webhooks -/

theorem mem_refundsPaidBy {refund : PaymentRefund} {db : Tables} (listed : refund ∈ Flushed.refundsPaidBy text db) :
    refund ∈ db.paymentRefunds :=
  (mem_belonging.mp ((List.perm_insertionSort _ _).mem_iff.mp listed)).1

theorem holds_newestRefundPaidBy {post : Option PaymentRefund → Standing → Market → Prop}
    (kept : helperDiscipline.invariant db) (blank : footing.change = id)
    (missing : ∀ standing now, Further footing standing db now → helperDiscipline.invariant now →
      post none standing now)
    (found : ∀ standing now refund, Further footing standing db now → helperDiscipline.invariant now →
      OwnRefund refund standing now → post (some refund) standing now) :
    helperDiscipline.Holds (Flushed.newestRefundPaidBy payment) post footing db := by
  cases payment with
  | none => exact missing _ _ (.later (.refl kept)) kept
  | some text =>
    refine Discipline.Holds.query fun first later => ?_
    rw [Discipline.holds_bind]
    generalize Flushed.refundsPaidBy text (footing.change first).tables = seen
    refine Discipline.holds_lockRows later.2 fun second since => ?_
    rw [Discipline.holds_query]
    intro third next
    have further := Further.locked (seen.map fun refund => (Row.refund refund.id).forUpdate).reverse
      (later.trans (since.trans (next.release _)))
    rw [blank]
    dsimp only [id]
    cases read : seen.findSome? fun refund =>
        (Flushed.refundsPaidBy text third.tables).find? (·.id = refund.id) with
    | none => exact missing _ third (blank ▸ further) next.2
    | some refund =>
      obtain ⟨row, listed, current⟩ := List.exists_of_findSome?_eq_some read
      have same : refund.id = row.id := by simpa using List.find?_some current
      refine found _ third refund (blank ▸ further) next.2 ⟨?_, refund, ?_, rfl, rfl, rfl⟩
      · refine List.mem_append_left _ (List.mem_reverse.mpr (List.mem_map.mpr ⟨row, listed, ?_⟩))
        rw [same]
      · exact mem_refundsPaidBy (List.mem_of_find?_eq_some current)

theorem holds_refundNamed {post : Option PaymentRefund → Standing → Market → Prop}
    (kept : helperDiscipline.invariant db) (blank : footing.change = id)
    (missing : ∀ standing now, Further footing standing db now → helperDiscipline.invariant now →
      post none standing now)
    (found : ∀ standing now refund, Further footing standing db now → helperDiscipline.invariant now →
      OwnRefund refund standing now → post (some refund) standing now) :
    helperDiscipline.Holds (Flushed.refundNamed name) post footing db := by
  cases name with
  | none => exact missing _ _ (.later (.refl kept)) kept
  | some text =>
    unfold Flushed.refundNamed
    refine holds_selectForUpdate (fun now held later => ?_) fun refund now later read => ?_
    · exact missing _ now (.locked held later) later.2
    · rw [blank] at read
      exact found _ now refund (.locked [_] later) later.2
        ⟨List.mem_cons_self, refund, lookup_mem read, rfl, rfl, rfl⟩

theorem holds_matchedRefund {post : Option PaymentRefund → Standing → Market → Prop}
    (kept : helperDiscipline.invariant db) (blank : footing.change = id)
    (missing : ∀ standing now, Further footing standing db now → helperDiscipline.invariant now →
      post none standing now)
    (found : ∀ standing now refund, Further footing standing db now → helperDiscipline.invariant now →
      OwnRefund refund standing now → post (some refund) standing now) :
    helperDiscipline.Holds (Flushed.matchedRefund providerRefundId refundPaymentId) post footing db := by
  unfold Flushed.matchedRefund
  rw [Discipline.holds_bind]
  refine holds_refundNamed kept blank (fun standing now further sound => ?_) found
  refine holds_newestRefundPaidBy sound (further.blank blank)
    (fun last after more => missing last after (further.trans more))
    fun last after refund more => found last after refund (further.trans more)

theorem holds_processEvent {post : Option Pending → Standing → Market → Prop}
    (kept : helperDiscipline.invariant db) (blank : footing.change = id)
    (processed : ∀ standing now result, Further footing standing db now → helperDiscipline.invariant now →
      Ready result standing now → post (some result) standing now)
    (lost : ∀ standing now, Lost standing now → post none standing now) :
    helperDiscipline.Holds (Flushed.processEvent env payload draws) post footing db := by
  unfold Flushed.processEvent
  refine Discipline.Holds.branch (fun _ => ?_) fun _ => ?_
  · unfold Flushed.processRefundEvent
    refine Discipline.Holds.check fun entity _ => ?_
    rw [Discipline.holds_bind]
    refine holds_matchedRefund kept blank (fun standing now further sound => ?_)
      fun standing now refund further sound own => ?_
    · exact processed standing now {} further sound .nothing
    · refine holds_applyProviderRefundResult sound (further.blank blank) own
        (fun last after result more sound ready => ?_) lost
      exact processed last after result (further.trans more) sound ready
  · unfold Flushed.processPaymentEvent
    refine Discipline.Holds.check fun payment _ => ?_
    refine Discipline.Holds.check fun order _ => ?_
    dsimp only
    split
    · exact processed _ _ {} (.later (.refl kept)) kept .nothing
    · rw [Discipline.holds_bind]
      refine holds_lockPaymentContext blank (fun standing now flag further sound => ?_)
        fun standing now attempt order further sound locked own => ?_
      · exact processed standing now {} further sound .nothing
      · refine Discipline.Holds.branch (fun _ => ?_) fun _ => ?_
        · refine holds_applyPaid sound (further.blank blank) locked own
            (fun last after result more sound ready => ?_) lost
          exact processed last after result (further.trans more) sound ready
        · refine Discipline.Holds.branch (fun _ => ?_) fun _ => ?_
          · exact processed _ _ _ further sound (ready_applyFailed sound own)
          · exact processed _ _ {} further sound .nothing

theorem holds_hardenedRazorpayWebhook (settings : Settings) (request : WebhookRequest)
    (draws : Draws) : Ends env (Flushed.hardenedRazorpayWebhook env settings request draws) {} start := by
  unfold Flushed.hardenedRazorpayWebhook
  refine Discipline.Holds.check fun payload _ => ?_
  refine Discipline.Holds.query fun first later => ?_
  refine Discipline.Holds.branch (fun _ => commits_unchanged rfl _) fun _ => ?_
  obtain ⟨recorded, made⟩ : ∃ recorded : Pending, recorded =
      { values := [(.eventKey (webhookEventKey env request), (webhookEvent env request payload draws).id)] } :=
    ⟨_, rfl⟩
  have brought : (Row.value (.eventKey (webhookEventKey env request))).forUpdate ∈ recorded.locks := by
    simp [made, Pending.locks]
  dsimp only
  rw [← made]
  rw [Discipline.holds_bind]
  refine Discipline.holds_lockRows later.2 fun second since => ?_
  refine Discipline.Holds.query fun third next => ?_
  refine Discipline.Holds.branch (fun _ => commits_unchanged rfl _) fun _ => ?_
  rw [Discipline.holds_bind]
  refine holds_processEvent next.2 rfl (fun standing now pending further sound ready => ?_)
    fun standing now gone => gone.holds _
  rw [Discipline.holds_bind]
  refine (holds_ready sound (further.blank rfl) (?_ : Ready (Pending.applying _ _) standing now)).mono
    fun _ _ _ commits => commits
  refine ⟨fun after last held mine locks => ?_, ready.provided⟩
  obtain ⟨moved, quiet⟩ := ready.moves after last held mine locks
  exact ⟨moved.trans (addWebhookEvent_moved _ (mine (further.held
    (List.mem_append_left _ (List.mem_reverse.mpr brought))))), quiet⟩

/-! ## Runs -/

/-- The rest of the program writes none of the values that the helpers' flushes bring: it
adds attempts that no payment was captured for, and changes other columns. -/
def LeavesValues (before after : Tables) : Prop :=
  (after.paymentAttempts.filter (·.providerPaymentId.isSome)).map (fun row => (row.id, row.providerPaymentId)) =
      (before.paymentAttempts.filter (·.providerPaymentId.isSome)).map
        (fun row => (row.id, row.providerPaymentId)) ∧
    (∀ row ∈ before.paymentAttempts, ∃ kept ∈ after.paymentAttempts, kept.id = row.id) ∧
    after.paymentRefunds.map (fun row => (row.id, row.idempotencyKey, row.providerRefundId)) =
      before.paymentRefunds.map (fun row => (row.id, row.idempotencyKey, row.providerRefundId)) ∧
    after.settlementAdjustments.map (fun row => (row.id, row.idempotencyKey)) =
      before.settlementAdjustments.map (fun row => (row.id, row.idempotencyKey)) ∧
    after.paymentWebhookEvents.map (fun row => (row.id, row.eventKey)) =
      before.paymentWebhookEvents.map (fun row => (row.id, row.eventKey))

instance : DecidableRel LeavesValues := fun _ _ => inferInstanceAs (Decidable (_ ∧ _))

theorem LeavesValues.kept (leaves : LeavesValues before after) : ValuesKept held before after := by
  obtain ⟨attempts, stay, refunds, adjustments, events⟩ := leaves
  have inside {ρ α : Type} (rows : List ρ) (key : ρ → UUID) (col : ρ → α) (id : UUID) (value : α) :
      (∃ row ∈ rows, key row = id ∧ col row = value) ↔ (id, value) ∈ rows.map fun row => (key row, col row) := by
    simp [List.mem_map]
  refine ⟨⟨fun row listed => ?_, stay⟩, fun value rowId _ => ?_⟩
  · have shown := List.mem_map_of_mem listed (f := fun row : PaymentRefund =>
      (row.id, row.idempotencyKey, row.providerRefundId))
    rw [← refunds] at shown
    obtain ⟨kept, listed, same⟩ := List.mem_map.mp shown
    simp only [Prod.mk.injEq] at same
    exact ⟨kept, listed, same.1, same.2.1⟩
  · cases value with
    | eventKey key =>
      rw [mem_carriers_eventKey, mem_carriers_eventKey, inside _ _ PaymentWebhookEvent.eventKey,
        inside _ _ PaymentWebhookEvent.eventKey, events]
    | reversalKey entryId =>
      rw [mem_carriers_reversalKey, mem_carriers_reversalKey, inside _ _ SettlementAdjustment.idempotencyKey,
        inside _ _ SettlementAdjustment.idempotencyKey, adjustments]
    | refundKey orderId =>
      have keys := congrArg (List.map fun entry => (entry.1, entry.2.1)) refunds
      simp only [List.map_map, Function.comp_def] at keys
      rw [mem_carriers_refundKey, mem_carriers_refundKey, inside _ _ PaymentRefund.idempotencyKey,
        inside _ _ PaymentRefund.idempotencyKey, keys]
    | refundId text =>
      have names := congrArg (List.map fun entry => (entry.1, entry.2.2)) refunds
      simp only [List.map_map, Function.comp_def] at names
      rw [mem_carriers_refundId, mem_carriers_refundId, inside _ _ PaymentRefund.providerRefundId,
        inside _ _ PaymentRefund.providerRefundId, names]
    | paymentId text =>
      have filtered (rows : List PaymentAttempt) :
          (∃ row ∈ rows, row.id = rowId ∧ row.providerPaymentId = some text) ↔
            (rowId, some text) ∈ (rows.filter (·.providerPaymentId.isSome)).map
              fun row => (row.id, row.providerPaymentId) := by
        simp only [List.mem_map, List.mem_filter, Prod.mk.injEq]
        grind
      rw [mem_carriers_paymentId, mem_carriers_paymentId, filtered, filtered, attempts]

abbrev PaymentState := State Market RowLock Note HTTPException (Option String)

instance (db : Tables) (note : Note) : Decidable (note.ProviderIdsFree db) :=
  match note with
  | .flushing values => inferInstanceAs (Decidable (∀ entry ∈ values, _))
  | .itemsRead _ | .adding _ _ _ | .removing _ _ _ | .claims _ => .isTrue trivial

/-- A request whose helper flushes an id that the provider brought goes on only while that
id is on no other row; and the rest of the program leaves unique values alone. -/
def ProviderIdsFree (state : PaymentState) : ReadCommitted.Action Market PaymentRequest → Prop
  | .advance index =>
    ∀ session ∈ state.sessions[index]?, ∀ fact ∈ session.notes, fact.ProviderIdsFree state.database.tables
  | .other after => after.tables.Constraints ∧ after.rolledBack = state.database.rolledBack ∧
      LeavesValues state.database.tables after.tables
  | _ => True

instance (state : PaymentState) (action : ReadCommitted.Action Market PaymentRequest) :
    Decidable (ProviderIdsFree state action) :=
  match action with
  | .start _ | .abort _ => .isTrue trivial
  | .advance index =>
    inferInstanceAs (Decidable (∀ session ∈ state.sessions[index]?, ∀ fact ∈ session.notes, _))
  | .other _ => inferInstanceAs (Decidable (_ ∧ _ ∧ _))

theorem helpers_upheld (env : Environment) :
    Discipline.Upheld (paymentService env) helperDiscipline ProviderIdsFree where
  starts state request _ _ := by
    cases request with
    | cancelMyOrder subject orderId draws => exact holds_cancelMyOrderSafely subject orderId draws
    | updateOrderStatus subject orderId status draws =>
      exact holds_updateOrderStatusSafely subject orderId status draws
    | resolveFailedDelivery subject deliveryId resolution notes draws =>
      exact holds_resolveFailedDelivery subject deliveryId resolution notes draws
    | verifyPayment settings subject payload draws =>
      exact holds_hardenedVerifyPayment settings subject payload draws
    | webhook settings request draws => exact holds_hardenedRazorpayWebhook settings request draws
    | claimRefund settings refundId now => exact holds_claimRefund settings refundId now
    | recordRefund refundId result draws => exact holds_recordRefund refundId result draws
  others := by
    rintro state after ⟨valid, quiet, leaves⟩ kept
    exact ⟨⟨valid, quiet.trans kept.2⟩, fun _ _ => leaves.kept⟩
  admitted := by
    intro state index value footing allowed standing
    exact allowed _ (Option.mem_def.mpr standing)
  separated _ _ _ _ _ _ _ _ _ _ _ apart := apart

/-- No helper ever rolls its caller's session back, in every run in which each id that the
provider brought to a helper's flush is on no other row. -/
theorem helpers_never_roll_back (env : Environment) (start : Tables) (valid : start.Constraints)
    (reached : System.ReachableWhile ((paymentService env).system { tables := start }) ProviderIdsFree state) :
    state.database.rolledBack = [] := by
  have initial : helperDiscipline.invariant { tables := start } := ⟨valid, rfl⟩
  exact ((helpers_upheld env).safe initial reached).invariant.2

/-! ### One payment for two orders -/

/-- The capture of the same payment, for another provider order. -/
def otherCapture : SampleMessage where
  body := "\x7b\"event\":\"payment.captured\",\"payload\":\x7b\"payment\":\x7b\"entity\":" ++
    "\x7b\"id\":\"pay_1\",\"order_id\":\"order_2\"\x7d\x7d\x7d\x7d"
  value := .obj [("event", .str "payment.captured"), ("payload", .obj [("payment", .obj [("entity",
    .obj [("id", .str "pay_1"), ("order_id", .str "order_2")])])])]
  digest := "6cd787bde2785484b610bf34037f848daa677f48c7779138701a0de68343e8db"

def twiceEnvironment : Environment :=
  { sampleEnvironment with
    hmacSha256 := fun key message =>
      if message = otherCapture.body then otherCapture.digest else sampleEnvironment.hmacSha256 key message
    loads := fun body =>
      if body = otherCapture.body then some otherCapture.value else sampleEnvironment.loads body }

def upiOrder (number : Nat) (orderNumber : String) (status : OrderStatus) : Order where
  id := number
  orderNumber := orderNumber
  userId := 1
  storeId := 1
  addressId := 1
  idempotencyKey := none
  stockRestoredAt := none
  status := status
  paymentMethod := .upi
  paymentStatus := .pending
  subtotal := 10000
  deliveryFee := 2000
  total := 12000

def openAttempt (number : Nat) (providerOrderId : String) : PaymentAttempt where
  id := number
  orderId := number
  providerOrderId := some providerOrderId
  providerPaymentId := none
  status := .attempted
  amount := 12000
  currency := "INR"
  createdAt := 1
  updatedAt := 1

/-- An order that was cancelled before it was paid, and one that waits for its payment. -/
def cancelledAndOpen : Tables where
  catalogue := sampleCatalogue
  orders := [upiOrder 1 "GO-1" .cancelled, upiOrder 2 "GO-2" .placed]
  paymentAttempts := [openAttempt 1 "order_1", openAttempt 2 "order_2"]

def captureOf (eventId : String) (message : SampleMessage) (number : Nat) : PaymentRequest :=
  .webhook sampleSettings ⟨message.body, some message.digest, some eventId⟩ (sampleDraws number)

/-- The capture on the cancelled order, while the other order is cancelled as well. -/
def captureAndCancel : List (ReadCommitted.Action Market PaymentRequest) :=
  [.start (captureOf "evt_1" firstCapture 3), .start (.cancelMyOrder 1 2 (sampleDraws 4))] ++
    (List.replicate 24 [.advance 0, .advance 1]).flatten

theorem helpers_never_roll_back_captured :
    let ended := ((paymentService twiceEnvironment).system { tables := cancelledAndOpen }).run
      ⟨{ tables := cancelledAndOpen }, []⟩ captureAndCancel
    ended.database.tables.paymentRefunds.map (·.orderId) = [1] ∧
      ended.database.tables.orders.map (·.status) = [.cancelled, .cancelled] ∧
      ended.database.rolledBack = [] := by
  have admitted : System.RunWhile ((paymentService twiceEnvironment).system { tables := cancelledAndOpen })
      ProviderIdsFree ⟨{ tables := cancelledAndOpen }, []⟩ captureAndCancel := by decide +kernel
  refine ⟨by decide +kernel, by decide +kernel, ?_⟩
  exact helpers_never_roll_back twiceEnvironment cancelledAndOpen (by decide +kernel)
    (System.ReachableWhile.initial.run captureAndCancel admitted)

/-- Both captures look for the payment before either commits. -/
def paymentTwice : List (ReadCommitted.Action Market PaymentRequest) :=
  .start (captureOf "evt_1" firstCapture 3) :: .start (captureOf "evt_2" otherCapture 4) ::
    List.replicate 11 (.advance 0) ++ List.replicate 24 (.advance 1) ++ List.replicate 12 (.advance 0)

/-- The helper of the second one rolls back the capture and the webhook record; the request
then commits nothing and answers as if it had been processed. -/
theorem helper_rolls_back_capture :
    let ended := ((paymentService twiceEnvironment).system { tables := cancelledAndOpen }).run
      ⟨{ tables := cancelledAndOpen }, []⟩ paymentTwice
    ended.database.rolledBack = [.paymentId "pay_1"] ∧
      ended.database.tables.paymentWebhookEvents.map (·.eventKey) = ["evt_2"] ∧
      ended.database.tables.paymentRefunds = [] ∧
      ended.sessions.map (fun session => match session with
        | .committed _ => true
        | _ => false) = [true, true] := by
  decide +kernel

end GaonOne
