import GaonOne.LoneCancellations

/-! Captures and refund results with nobody else about. What each writes is said once, as a
function of the tables. The handlers leave that on coherent tables, where no flush of theirs
fails, and so do the statements, where each flush brings the values that it has to check. -/
namespace GaonOne
open Relational UnitOfWork ReadCommitted

/-! ## What a capture writes -/

/-- The entry that a paid order is owed. -/
def entitled (order : Order) (draws : Draws) (db : Tables) : Handler Tables :=
  if lookup SettlementEntry.orderId order.id db.settlementEntries = none ∧
      settlementIsEligible (Session.start db) order then do
    let store ← found (db.store? order.storeId) ⟨500, "Settlement entry requires a valid store"⟩
    pure (db.addSettlement (settlementEntry order store draws))
  else pure db

theorem ensureSettlementEntry_entitled (db : DbSession) (order : Order) (draws : Draws)
    (frame : Frame before orderId db.pending file) (held : file.order = some order)
    (entries : db.flushed.settlementEntries = db.pending.settlementEntries)
    (refunds : db.flushed.paymentRefunds = db.pending.paymentRefunds)
    (catalogue : db.flushed.catalogue = db.pending.catalogue)
    (fresh : lookup SettlementEntry.id draws.settlementId db.pending.settlementEntries = none) :
    (·.1.pending) <$> ensureSettlementEntry db order draws = entitled order draws db.pending := by
  have own : order.id = orderId := lookup_col (frame.order_eq.trans held)
  have eligible : settlementIsEligible db order ↔ settlementIsEligible (Session.start db.pending) order := by
    rw [settlementIsEligible, settlementIsEligible, refunds]
  unfold ensureSettlementEntry entitled
  rw [entries]
  simp only [Tables.store?, catalogue, eligible]
  cases missing : lookup SettlementEntry.orderId order.id db.pending.settlementEntries with
  | some existing =>
    dsimp only
    rw [if_neg fun both => by cases both.1]
    rfl
  | none =>
    by_cases pays : settlementIsEligible (Session.start db.pending) order
    · rw [if_pos pays, if_pos ⟨rfl, pays⟩, map_bind]
      refine bind_congr_ok fun store _ => ?_
      rw [own, frame.settlement_eq] at missing
      have entered := frame.addSettlement (settlementEntry order store draws) held missing own fresh
      rw [flushRows_kept (by exact entered.coherent.toConstraints)]
      rfl
    · rw [if_neg pays, if_neg fun both => pays both.2]
      rfl

/-- A capture: the attempt's row, and what is made of the order. -/
def captured (attempt : PaymentAttempt) (order : Order) (paymentId : Option String) (draws : Draws)
    (db : Tables) : Handler Tables :=
  let taken := db.putAttempt (capturedAttempt attempt paymentId draws.now)
  let paid := { order with paymentStatus := .paid }
  if captureIsLate order then
    if order.status = .cancelled ∧ order.paymentStatus ∉ [PaymentStatus.refunded, .refundPending] then
      pure (obligation (latestCapturedAttempt ⟨db, db, taken.putOrder paid⟩ order.id) paid
        refundReasonOrphanedCapture draws (taken.putOrder paid)).1
    else pure taken
  else entitled paid draws (taken.putOrder paid)

section
variable {db : Tables} {attempt : PaymentAttempt} {order : Order} {paymentId : Option String} {draws : Draws}

theorem applyPaid_captured (committed : Tables) (coherent : db.Coherent)
    (member : attempt ∈ db.paymentAttempts) (placed : db.order? attempt.orderId = some order)
    (freshRefund : lookup PaymentRefund.id draws.refundId db.paymentRefunds = none)
    (freshEntry : lookup SettlementEntry.id draws.settlementId db.settlementEntries = none) :
    (·.pending) <$> applyPaid ⟨committed, db, db⟩ attempt order paymentId draws =
      require (paymentIdUnused db attempt paymentId) ⟨409, "Payment ID has already been used"⟩ >>= fun _ =>
        captured attempt order paymentId draws db := by
  rw [applyPaid, map_bind]
  refine bind_congr_ok fun _ checked => ?_
  obtain ⟨held, attempted, own⟩ := attempt_file member placed
  have taken := (Frame.refl coherent attempt.orderId).captureAttempt attempted
    ((require_ok ..).mp checked) draws.now
  have paid := taken.putOrder { order with paymentStatus := .paid } held rfl rfl rfl rfl
  unfold captureOrder captured
  split
  · split
    · have recorded := ensureRefundRequest_obligation
        ((Session.mk committed db db).write (·.putAttempt (capturedAttempt attempt paymentId draws.now))
          |>.write (·.putOrder { order with paymentStatus := .paid }))
        { order with paymentStatus := .paid } refundReasonOrphanedCapture draws paid rfl rfl rfl freshRefund
      exact congrArg (fun ended => (.ok ended.1 : Handler Tables)) recorded
    · rfl
  · refine (first_pending _).trans ?_
    exact ensureSettlementEntry_entitled (((Session.mk committed db db).write (·.putAttempt
        (capturedAttempt attempt paymentId draws.now))).write
          (·.putOrder { order with paymentStatus := .paid }))
      { order with paymentStatus := .paid } draws paid rfl rfl rfl rfl freshEntry

end

/-! ## What a refund result writes -/

theorem Tables.putRefund_putRefund (db : Tables) {first second : PaymentRefund}
    (same : first.id = second.id) : (db.putRefund first).putRefund second = db.putRefund second := by
  simp only [putRefund, put_put _ same]

/-- A provider's refund object, folded in. -/
def folded (env : Environment) (refund : PaymentRefund) (payload : List (String × Json)) (draws : Draws)
    (db : Tables) : Tables :=
  let providerStatus := (Json.get payload "status").text env.print
  let reported := reportedRefund refund ((Json.get payload "id").text env.print) providerStatus
  if providerStatus = some "processed" then
    let marked := db.putRefund (succeededRefund reported providerStatus draws.now)
    match db.order? refund.orderId with
    | none => marked
    | some order =>
      if order.paymentStatus = .refunded then marked
      else
        let closed := { order with paymentStatus := .refunded }
        takenBack closed voidReasonRefunded draws (marked.putOrder closed)
  else if providerStatus = some "failed" then
    db.putRefund (failedRefund reported "Razorpay reported the refund as failed" draws.now)
  else db.putRefund { reported with status := .processing }

section
variable {db : Tables} {env : Environment} {refund : PaymentRefund} {payload : List (String × Json)}
  {draws : Draws}

theorem applyProviderRefundResult_folded (committed : Tables) (coherent : db.Coherent)
    (member : refund ∈ db.paymentRefunds)
    (unused : ProviderRefundUnused db (reportedRefund refund ((Json.get payload "id").text env.print)
      ((Json.get payload "status").text env.print)))
    (fresh : lookup SettlementAdjustment.id draws.adjustmentId db.settlementAdjustments = none) :
    (applyProviderRefundResult env ⟨committed, db, db⟩ refund payload draws).pending =
      folded env refund payload draws db := by
  unfold applyProviderRefundResult folded
  generalize (Json.get payload "id").text env.print = providerRefundId at unused ⊢
  generalize (Json.get payload "status").text env.print = providerStatus at unused ⊢
  dsimp only
  split
  · unfold markSucceeded settleRefundedOrder
    have once : ((Session.mk committed db db).write (·.putRefund
        (reportedRefund refund providerRefundId providerStatus))).write (·.putRefund (succeededRefund
          (reportedRefund refund providerRefundId providerStatus) providerStatus draws.now)) =
        (Session.mk committed db db).write (·.putRefund (succeededRefund
          (reportedRefund refund providerRefundId providerStatus) providerStatus draws.now)) :=
      congrArg (Session.mk committed db) (Tables.putRefund_putRefund db rfl)
    have place : db.order? (reportedRefund refund providerRefundId providerStatus).orderId =
      db.order? refund.orderId := rfl
    dsimp only
    rw [once]
    simp only [Session.write_flushed, place]
    cases placed : db.order? refund.orderId with
    | none => rfl
    | some order =>
      have object : tracked Order.id order ((Session.mk committed db db).write (·.putRefund
          (succeededRefund (reportedRefund refund providerRefundId providerStatus) providerStatus
            draws.now))).pending.orders = order :=
        tracked_eq coherent.orderIds (lookup_mem placed)
      rw [Option.map_some, object]
      by_cases closed : order.paymentStatus = .refunded
      · simp only [if_pos closed]
        rfl
      · simp only [if_neg closed]
        have marked : Frame db refund.orderId (db.putRefund (succeededRefund
            (reportedRefund refund providerRefundId providerStatus) providerStatus draws.now)) _ :=
          (Frame.refl coherent refund.orderId).putRefund (coherent.file_refund member) rfl rfl rfl unused
        have written := marked.putOrder { order with paymentStatus := .refunded } placed rfl rfl rfl rfl
        have own : order.id = refund.orderId := lookup_col placed
        exact voidSettlementForRefund_takenBack _ { order with paymentStatus := .refunded } voidReasonRefunded
          (by exact written) own rfl rfl fresh
  · split <;> exact Tables.putRefund_putRefund db rfl

end

/-! ## Statement by statement -/

/-- A part of a request that hands over what is to be committed: it raises, or what it hands over
writes what it should and goes through. -/
def HandsOver (market : Market) (part : Statements (Option Pending)) (effect : Handler Tables) : Prop :=
  ∀ next : Option Pending → Statements (Option String),
    (∃ error, effect = .error error ∧ leaves (part >>= next) market = .error error) ∨
      ∃ pending : Pending, pending.Untaken market ∧ effect = .ok (pending.change market).tables ∧
        leaves (part >>= next) market = leaves (next (some pending)) market

section
variable {market : Market} {pending : Pending}

theorem HandsOver.ready (untaken : pending.Untaken market) :
    HandsOver market (pure (some pending)) (.ok (pending.change market).tables) :=
  fun _ => .inr ⟨pending, untaken, rfl, rfl⟩

/-- A check first. -/
theorem HandsOver.check {check : Handler β} {part : β → Statements (Option Pending)}
    {effect : β → Handler Tables}
    (handed : ∀ value, check = .ok value → HandsOver market (part value) (effect value)) :
    HandsOver market (Program.ofExcept check >>= part) (check >>= effect) := by
  intro next
  rw [Program.bind_assoc, leaves_ofExcept]
  cases check with
  | error error => exact .inl ⟨error, rfl, rfl⟩
  | ok value => exact handed value rfl next

/-- What follows it works on what it writes. -/
theorem HandsOver.followed {next : Option Pending → Statements (Option String)}
    {ends : Tables → Handler Tables} (handed : HandsOver market part effect)
    (follows : ∀ pending : Pending, pending.Untaken market →
      leaves (next (some pending)) market = ends (pending.change market).tables) :
    leaves (part >>= next) market = effect >>= ends := by
  rcases handed next with ⟨error, raises, fails⟩ | ⟨pending, untaken, writes, goes⟩
  · rw [fails, raises]
    rfl
  · rw [goes, writes]
    exact follows pending untaken

/-- Committed at once. -/
theorem HandsOver.committed (handed : HandsOver market part effect) :
    leaves (part >>= Flushed.commitPending) market = effect := by
  refine (handed.followed fun pending untaken => leaves_commit untaken).trans ?_
  cases effect <;> rfl

/-- Committed with the record of the delivery, by a webhook that acknowledges it. -/
theorem HandsOver.acknowledged {write : Tables → Tables} {key : String}
    (handed : HandsOver market part effect) :
    leaves (do
        match ← part with
        | none => pure (some key)
        | some pending => do
          let _ ← ((pending.write write).applying key).commit
          pure (some key)) market = effect >>= fun db => .ok (write db) := by
  refine handed.followed fun pending untaken => ?_
  have freely : ((pending.write write).applying key).Untaken market := untaken
  exact leaves_commit_untaken freely

/-- A value for a row that may have it. -/
theorem Pending.Untaken.assign {value : String → UniqueValue} {rowId : UUID} {old new : Option String}
    (untaken : pending.Untaken market)
    (free : ∀ text, new = some text → ¬(value text).Taken market.tables rowId) :
    (pending.assign value rowId old new).Untaken market := by
  unfold Pending.assign
  split
  · exact untaken
  · intro other otherId inside
    rcases List.mem_append.mp inside with earlier | added
    · exact untaken other otherId earlier
    · obtain ⟨text, held, same⟩ := List.mem_map.mp added
      cases same
      exact free text (Option.mem_toList.mp held)

theorem handsOver_ensureSettlementEntry (order : Order) (draws : Draws) (untaken : pending.Untaken market)
    (entries : (pending.change market).tables.settlementEntries = market.tables.settlementEntries)
    (refunds : (pending.change market).tables.paymentRefunds = market.tables.paymentRefunds)
    (catalogue : (pending.change market).tables.catalogue = market.tables.catalogue) :
    HandsOver market
      (Flushed.ensureSettlementEntry pending order draws >>= fun pending => pure (some pending))
      (entitled order draws (pending.change market).tables) := by
  intro next
  have eligible : settlementIsEligible (Session.start (pending.change market).tables) order ↔
      settlementIsEligible (Session.start market.tables) order := by
    rw [settlementIsEligible, settlementIsEligible]
    simp only [refunds]
  unfold Flushed.ensureSettlementEntry Flushed.lockedSettlement entitled
  simp only [Program.bind_assoc, leaves_selectForUpdate, entries, Tables.store?, catalogue, eligible]
  cases missing : lookup SettlementEntry.orderId order.id market.tables.settlementEntries with
  | some existing =>
    rw [if_neg fun both => by cases both.1]
    exact .inr ⟨pending, untaken, rfl, rfl⟩
  | none =>
    simp only [Option.isSome_none, Bool.false_eq_true, if_false, Program.bind_assoc, leaves_query, true_and]
    by_cases pays : settlementIsEligible (Session.start market.tables) order
    · rw [if_pos (decide_eq_true pays), if_pos pays]
      simp only [Program.bind_assoc, leaves_query, leaves_found]
      cases lookup Store.id order.storeId market.tables.catalogue.stores with
      | none => exact .inl ⟨_, rfl, rfl⟩
      | some store =>
        refine .inr ⟨pending.flushed.write (·.addSettlement (settlementEntry order store draws)),
          Pending.untaken_of_clean rfl, rfl, ?_⟩
        rw [found_some_bind, leaves_flush_untaken untaken]
        rfl
    · have refused : ¬decide (settlementIsEligible (Session.start market.tables) order) = true :=
        mt of_decide_eq_true pays
      rw [if_neg refused, if_neg pays]
      exact .inr ⟨pending, untaken, rfl, rfl⟩

theorem handsOver_applyPaid {attempt : PaymentAttempt} {order : Order} {paymentId : Option String}
    {draws : Draws}
    (coherent : market.tables.Coherent) (member : attempt ∈ market.tables.paymentAttempts) :
    HandsOver market (Flushed.applyPaid attempt order paymentId draws)
      (require (paymentIdUnused market.tables attempt paymentId) ⟨409, "Payment ID has already been used"⟩ >>=
        fun _ => captured attempt order paymentId draws market.tables) := by
  intro next
  unfold Flushed.applyPaid
  simp only [Program.bind_assoc, leaves_query, leaves_require,
    require_congr (decide_eq_true_iff (p := paymentIdUnused market.tables attempt paymentId))]
  by_cases unused : paymentIdUnused market.tables attempt paymentId
  case neg =>
    rw [require_error.mpr ⟨unused, rfl⟩]
    exact .inl ⟨_, rfl, rfl⟩
  rw [(require_ok _ _ ()).mpr unused]
  have untaken : ((Pending.write {} (·.putAttempt (capturedAttempt attempt paymentId draws.now))).assign
      .paymentId attempt.id attempt.providerPaymentId
      (capturedAttempt attempt paymentId draws.now).providerPaymentId).Untaken market := by
    refine Pending.Untaken.assign (Pending.untaken_of_clean rfl) fun text set => ?_
    rintro ⟨id, carried, differ⟩
    obtain ⟨other, inside, rfl⟩ := List.mem_map.mp carried
    obtain ⟨there, clash⟩ := mem_belonging.mp inside
    exact differ (captured_sole coherent.attemptProviderPayments member unused draws.now text set other there
      clash)
  have change : ∀ db : Market, ((Pending.write {}
      (·.putAttempt (capturedAttempt attempt paymentId draws.now))).assign .paymentId attempt.id
        attempt.providerPaymentId (capturedAttempt attempt paymentId draws.now).providerPaymentId).change db =
        db.change (·.putAttempt (capturedAttempt attempt paymentId draws.now)) := by
    intro db
    unfold Pending.assign
    split <;> rfl
  generalize (Pending.write {} (·.putAttempt (capturedAttempt attempt paymentId draws.now))).assign
    .paymentId attempt.id attempt.providerPaymentId
    (capturedAttempt attempt paymentId draws.now).providerPaymentId = pending at untaken change
  have written : (pending.change market).tables =
      market.tables.putAttempt (capturedAttempt attempt paymentId draws.now) := by
    rw [change]
    rfl
  have paid : ((pending.write (·.putOrder { order with paymentStatus := .paid })).change market).tables =
      (market.tables.putAttempt (capturedAttempt attempt paymentId draws.now)).putOrder
        { order with paymentStatus := .paid } :=
    congrArg (Tables.putOrder { order with paymentStatus := .paid }) written
  unfold captured
  by_cases late : captureIsLate order
  · by_cases orphaned :
      order.status = .cancelled ∧ order.paymentStatus ∉ [PaymentStatus.refunded, .refundPending]
    · simp only [if_pos late, if_pos orphaned, Program.bind_assoc]
      have freely : (pending.write (·.putOrder { order with paymentStatus := .paid })).Untaken market :=
        untaken
      obtain ⟨after, done, effect, goes⟩ := leaves_ensureRefundRequest { order with paymentStatus := .paid }
        refundReasonOrphanedCapture draws freely (by rw [paid]; rfl)
      rw [paid] at effect
      exact .inr ⟨after, done, congrArg Except.ok effect.symm, goes⟩
    · simp only [if_pos late, if_neg orphaned]
      exact .inr ⟨pending, untaken, congrArg Except.ok written.symm, rfl⟩
  · simp only [if_neg late]
    have freely : (pending.write (·.putOrder { order with paymentStatus := .paid })).Untaken market := untaken
    have entering := handsOver_ensureSettlementEntry { order with paymentStatus := .paid } draws freely
      (by rw [paid]; rfl) (by rw [paid]; rfl) (by rw [paid]; rfl)
    rw [paid] at entering
    exact entering next

end

/-! ## Provider events -/

/-- The record of webhook deliveries, whatever it says. -/
def Tables.withEvents (events : List PaymentWebhookEvent) (db : Tables) : Tables :=
  { db with paymentWebhookEvents := events }

/-- What a provider event writes. -/
def eventEffect (env : Environment) (payload : List (String × Json)) (draws : Draws) (db : Tables) :
    Handler Tables :=
  if isRefundEvent (eventName env payload) then do
    match ← readRefundEvent env db payload with
    | none => pure db
    | some (refund, entity) => pure (folded env refund entity draws db)
  else do
    match ← readPaymentEvent env db payload with
    | none => pure db
    | some (attempt, order, paymentId) =>
      if eventName env payload ∈ capturedEvents then do
        require (paymentIdUnused db attempt paymentId) ⟨409, "Payment ID has already been used"⟩
        captured attempt order paymentId draws db
      else if eventName env payload = "payment.failed" then
        pure (applyFailed (Session.start db) attempt order draws).pending
      else pure db

section
variable {db : Tables} {env : Environment} {payload : List (String × Json)} {draws : Draws}

theorem processEvent_eventEffect (committed : Tables) (coherent : db.Coherent)
    (freshRefund : lookup PaymentRefund.id draws.refundId db.paymentRefunds = none)
    (freshEntry : lookup SettlementEntry.id draws.settlementId db.settlementEntries = none)
    (freshAdjustment : lookup SettlementAdjustment.id draws.adjustmentId db.settlementAdjustments = none) :
    (·.pending) <$> processEvent env ⟨committed, db, db⟩ payload draws =
      eventEffect env payload draws db := by
  unfold processEvent eventEffect processRefundEvent processPaymentEvent
  split
  · rw [bind_assoc, map_bind]
    refine bind_congr_ok fun read reading => ?_
    cases read with
    | none => rfl
    | some found =>
      obtain ⟨refund, entity⟩ := found
      have matched := readRefundEvent_ok reading
      exact congrArg Except.ok (applyProviderRefundResult_folded committed coherent
        (matchedRefund_mem matched) (matchedRefund_unused coherent matched) freshAdjustment)
  · rw [map_bind]
    refine bind_congr_ok fun read reading => ?_
    cases read with
    | none => rfl
    | some found =>
      obtain ⟨attempt, order, paymentId⟩ := found
      obtain ⟨member, placed⟩ := readPaymentEvent_ok reading
      dsimp only
      split
      · exact applyPaid_captured committed coherent member placed freshRefund freshEntry
      · split
        · refine congrArg Except.ok ?_
          unfold applyFailed
          split <;> rfl
        · rfl

end

section
variable {market : Market}

/-- The attempt is found again behind its order. -/
theorem leaves_lockPaymentContext {identity : Tables → Option PaymentAttempt} {userId : Option UUID}
    {next : Option (PaymentAttempt × Order) × Bool → Statements α}
    (ids : Relational.Unique PaymentAttempt.id market.tables.paymentAttempts)
    (known : ∀ attempt, identity market.tables = some attempt → attempt ∈ market.tables.paymentAttempts) :
    leaves (Flushed.lockPaymentContext identity userId >>= next) market =
      leaves (next (lockPaymentContext market.tables (identity market.tables) userId)) market := by
  unfold Flushed.lockPaymentContext lockPaymentContext
  simp only [Program.bind_assoc, leaves_query]
  cases here : identity market.tables with
  | none => rfl
  | some attempt =>
    simp only [Program.bind_assoc, leaves_selectForUpdate]
    cases locked : (market.tables.order? attempt.orderId).filter fun order =>
        userId.all fun user => decide (order.userId = user) with
    | none => rfl
    | some order =>
      have own : attempt.orderId = order.id := (lookup_col (Option.filter_eq_some_iff.mp locked).1).symm
      have again : (market.tables.attempt? attempt.id).filter (fun row => decide (row.orderId = order.id)) =
          some attempt := by
        rw [show market.tables.attempt? attempt.id = some attempt from
          (lookup_eq_some_iff ids).mpr ⟨known attempt here, rfl⟩, Option.filter_some, decide_eq_true own]
        rfl
      simp only [Program.bind_assoc, leaves_selectForUpdate, again]
      rfl

/-- The newest row is the first of the rows that are locked. -/
theorem head?_refundsPaidBy (text : String) (db : Tables) :
    (Flushed.refundsPaidBy text db).head? =
      latest PaymentRefund.requestedAt
        (belonging PaymentRefund.providerPaymentId (some text) db.paymentRefunds) :=
  head?_ordered (fun refund : PaymentRefund => OrderDual.toDual refund.requestedAt) _

theorem leaves_newestRefundPaidBy {next : Option PaymentRefund → Statements α} (paymentId : Option String) :
    leaves (Flushed.newestRefundPaidBy paymentId >>= next) market =
      leaves (next (paymentId.bind fun id => latest PaymentRefund.requestedAt
        (belonging PaymentRefund.providerPaymentId (some id) market.tables.paymentRefunds))) market := by
  cases paymentId with
  | none => rfl
  | some text =>
    unfold Flushed.newestRefundPaidBy
    simp only [Program.bind_assoc, leaves_query, leaves_lockRows]
    have first : (Flushed.refundsPaidBy text market.tables).findSome? (fun refund =>
        (Flushed.refundsPaidBy text market.tables).find? fun row => decide (row.id = refund.id)) =
        (Flushed.refundsPaidBy text market.tables).head? := by
      cases Flushed.refundsPaidBy text market.tables with
      | nil => rfl
      | cons refund rest =>
        have itself : (refund :: rest).find? (fun row => decide (row.id = refund.id)) = some refund :=
          List.find?_cons_of_pos (decide_eq_true (by rfl))
        rw [List.findSome?_cons, itself]
        rfl
    rw [first, head?_refundsPaidBy]
    rfl

theorem leaves_matchedRefund {next : Option PaymentRefund → Statements α}
    (refundId paymentId : Option String) :
    leaves (Flushed.matchedRefund refundId paymentId >>= next) market =
      leaves (next (matchedRefund market.tables refundId paymentId)) market := by
  unfold Flushed.matchedRefund matchedRefund
  cases refundId with
  | none =>
    refine (leaves_newestRefundPaidBy paymentId).trans ?_
    rfl
  | some text =>
    unfold Flushed.refundNamed
    simp only [Program.bind_assoc, leaves_selectForUpdate, Option.bind_some]
    cases lookup PaymentRefund.providerRefundId (some text) market.tables.paymentRefunds with
    | some refund => rfl
    | none => exact leaves_newestRefundPaidBy paymentId

theorem handsOver_applyProviderRefundResult {env : Environment} {refund : PaymentRefund}
    {payload : List (String × Json)} {draws : Draws}
    (unused : ProviderRefundUnused market.tables (reportedRefund refund
      ((Json.get payload "id").text env.print) ((Json.get payload "status").text env.print))) :
    HandsOver market (Flushed.applyProviderRefundResult env refund payload draws)
      (.ok (folded env refund payload draws market.tables)) := by
  intro next
  unfold Flushed.applyProviderRefundResult folded
  generalize (Json.get payload "id").text env.print = providerRefundId at unused ⊢
  generalize (Json.get payload "status").text env.print = providerStatus at unused ⊢
  dsimp only
  have untaken : (Pending.assign {} .refundId refund.id refund.providerRefundId
      (reportedRefund refund providerRefundId providerStatus).providerRefundId).Untaken market := by
    refine Pending.Untaken.assign (Pending.untaken_of_clean rfl) fun text set => ?_
    rintro ⟨id, carried, differ⟩
    obtain ⟨other, inside, rfl⟩ := List.mem_map.mp carried
    obtain ⟨there, clash⟩ := mem_belonging.mp inside
    exact differ (unused text set other there clash)
  have change : (Pending.assign {} .refundId refund.id refund.providerRefundId
      (reportedRefund refund providerRefundId providerStatus).providerRefundId).change = id := by
    unfold Pending.assign
    split <;> rfl
  generalize Pending.assign {} .refundId refund.id refund.providerRefundId
    (reportedRefund refund providerRefundId providerStatus).providerRefundId = pending at untaken change
  have written : ∀ write : Tables → Tables,
      ((pending.write write).change market).tables = write market.tables := by
    intro write
    simp only [Pending.write, change]
    rfl
  have ready : ∀ write : Tables → Tables,
      HandsOver market (pure (some (pending.write write))) (.ok (write market.tables)) := by
    intro write
    rw [← written write]
    exact HandsOver.ready untaken
  by_cases processed : providerStatus = some "processed"
  · have marked := ready (·.putRefund (succeededRefund (reportedRefund refund providerRefundId providerStatus)
      providerStatus draws.now)) next
    simp only [if_pos processed, Program.bind_assoc, Statement.lockedOrder, leaves_selectForUpdate]
    cases market.tables.order? refund.orderId with
    | none => exact marked
    | some order =>
      by_cases closed : order.paymentStatus = .refunded
      · simp only [if_pos closed]
        exact marked
      · simp only [if_neg closed]
        have freely : ((pending.write (·.putRefund (succeededRefund
            (reportedRefund refund providerRefundId providerStatus) providerStatus draws.now))).write
              (·.putOrder { order with paymentStatus := .refunded })).Untaken market := untaken
        have rows : (((pending.write (·.putRefund (succeededRefund
            (reportedRefund refund providerRefundId providerStatus) providerStatus draws.now))).write
              (·.putOrder { order with paymentStatus := .refunded })).change market).tables = _ :=
          congrArg (Tables.putOrder { order with paymentStatus := .refunded }) (written _)
        obtain ⟨after, done, effect, goes⟩ := leaves_voidSettlementForRefund freely (by rw [rows]; rfl)
          (by rw [rows]; rfl)
        rw [rows] at effect
        exact .inr ⟨after, done, congrArg Except.ok effect.symm, goes⟩
  · simp only [if_neg processed]
    split
    · exact ready _ next
    · exact ready _ next

theorem handsOver_processEvent {env : Environment} {payload : List (String × Json)} {draws : Draws}
    (coherent : market.tables.Coherent) :
    HandsOver market (Flushed.processEvent env payload draws)
      (eventEffect env payload draws market.tables) := by
  have nothing : HandsOver market (pure (some {})) (.ok market.tables) :=
    HandsOver.ready (Pending.untaken_of_clean rfl)
  unfold Flushed.processEvent eventEffect
  split
  · unfold Flushed.processRefundEvent readRefundEvent
    rw [bind_assoc]
    refine HandsOver.check fun entity _ => ?_
    intro next
    rw [Program.bind_assoc, leaves_matchedRefund]
    cases matched : matchedRefund market.tables ((Json.get entity "id").text env.print)
        ((Json.get entity "payment_id").text env.print) with
    | none => exact nothing next
    | some refund =>
      exact handsOver_applyProviderRefundResult (matchedRefund_unused coherent matched) next
  · unfold Flushed.processPaymentEvent readPaymentEvent
    simp only [bind_assoc]
    refine HandsOver.check fun payment _ => HandsOver.check fun entity _ => ?_
    generalize Json.text env.print (if (Json.get payment "order_id").truthy = true then
      Json.get payment "order_id" else Json.get entity "id") = reference
    generalize Json.text env.print (Json.get payment "id") = paymentId
    cases reference with
    | none => exact nothing
    | some providerOrderId =>
      intro next
      rw [Program.bind_assoc, leaves_lockPaymentContext coherent.attemptIds fun _ => lookup_mem, pure_bind,
        Option.bind_some]
      cases context : (lockPaymentContext market.tables (lookup PaymentAttempt.providerOrderId
          (some providerOrderId) market.tables.paymentAttempts) none).1 with
      | none => exact nothing next
      | some found =>
        obtain ⟨attempt, order⟩ := found
        have member := lookup_mem (lockPaymentContext_some context).1
        dsimp only [Option.map_some]
        split
        · exact handsOver_applyPaid coherent member next
        · split
          · have failing : (Flushed.applyFailed attempt order draws).Untaken market :=
              Pending.untaken_of_clean rfl
            exact HandsOver.ready failing next
          · exact nothing next

end

section
variable (db : Tables) (events : List PaymentWebhookEvent) (draws : Draws)

/-! The record of deliveries plays no part in what an event writes. -/

theorem obligation_withEvents (attempt : Option PaymentAttempt) (order : Order) (reason : String) :
    (obligation attempt order reason draws (db.withEvents events)).1 =
      (obligation attempt order reason draws db).1.withEvents events := by
  have refunds : (db.withEvents events).paymentRefunds = db.paymentRefunds := rfl
  unfold obligation
  rw [refunds]
  split <;> rfl

theorem takenBack_withEvents (order : Order) (reason : String) :
    takenBack order reason draws (db.withEvents events) =
      (takenBack order reason draws db).withEvents events := by
  have entries : (db.withEvents events).settlementEntries = db.settlementEntries := rfl
  have adjustments : (db.withEvents events).settlementAdjustments = db.settlementAdjustments := rfl
  unfold takenBack
  rw [entries, adjustments]
  cases lookup SettlementEntry.orderId order.id db.settlementEntries with
  | none => rfl
  | some entry =>
    dsimp only
    cases entry.status with
    | voided => rfl
    | pending => rfl
    | settled =>
      cases lookup SettlementAdjustment.idempotencyKey (settlementReversalKey entry.id)
        db.settlementAdjustments <;> rfl

theorem entitled_withEvents (order : Order) :
    entitled order draws (db.withEvents events) = Tables.withEvents events <$> entitled order draws db := by
  have entries : (db.withEvents events).settlementEntries = db.settlementEntries := rfl
  have eligible : settlementIsEligible (Session.start (db.withEvents events)) order ↔
    settlementIsEligible (Session.start db) order := Iff.rfl
  have stores : (db.withEvents events).store? order.storeId = db.store? order.storeId := rfl
  unfold entitled
  simp only [entries, eligible, stores]
  split
  · cases db.store? order.storeId <;> rfl
  · rfl

theorem captured_withEvents (attempt : PaymentAttempt) (order : Order) (paymentId : Option String) :
    captured attempt order paymentId draws (db.withEvents events) =
      Tables.withEvents events <$> captured attempt order paymentId draws db := by
  have taken : (db.withEvents events).putAttempt (capturedAttempt attempt paymentId draws.now) =
    (db.putAttempt (capturedAttempt attempt paymentId draws.now)).withEvents events := rfl
  have paid : ∀ tables : Tables, (tables.withEvents events).putOrder { order with paymentStatus := .paid } =
    (tables.putOrder { order with paymentStatus := .paid }).withEvents events := fun _ => rfl
  unfold captured
  simp only [taken, paid]
  split
  · split
    · exact congrArg Except.ok (obligation_withEvents _ events draws _ _ _)
    · rfl
  · exact entitled_withEvents _ events draws _

theorem folded_withEvents (env : Environment) (refund : PaymentRefund) (payload : List (String × Json)) :
    folded env refund payload draws (db.withEvents events) =
      (folded env refund payload draws db).withEvents events := by
  have place : (db.withEvents events).order? refund.orderId = db.order? refund.orderId := rfl
  have marked : ∀ row, (db.withEvents events).putRefund row = (db.putRefund row).withEvents events :=
    fun _ => rfl
  have closed : ∀ (tables : Tables) (order : Order), (tables.withEvents events).putOrder order =
    (tables.putOrder order).withEvents events := fun _ _ => rfl
  unfold folded
  simp only [place, marked, closed]
  split
  · cases db.order? refund.orderId with
    | none => rfl
    | some order =>
      dsimp only
      split
      · rfl
      · exact takenBack_withEvents _ events draws _ _
  · split <;> rfl

theorem eventEffect_withEvents (env : Environment) (payload : List (String × Json)) :
    eventEffect env payload draws (db.withEvents events) =
      Tables.withEvents events <$> eventEffect env payload draws db := by
  have refunds : readRefundEvent env (db.withEvents events) payload = readRefundEvent env db payload := rfl
  have payments : readPaymentEvent env (db.withEvents events) payload = readPaymentEvent env db payload := rfl
  unfold eventEffect
  rw [refunds, payments]
  split
  · rw [map_bind]
    refine bind_congr_ok fun read _ => ?_
    cases read with
    | none => rfl
    | some found => exact congrArg Except.ok (folded_withEvents db events draws env found.1 found.2)
  · rw [map_bind]
    refine bind_congr_ok fun read _ => ?_
    cases read with
    | none => rfl
    | some found =>
      obtain ⟨attempt, order, paymentId⟩ := found
      dsimp only
      split
      · rw [map_bind]
        exact bind_congr_ok fun _ _ => captured_withEvents db events draws attempt order paymentId
      · split
        · refine congrArg Except.ok ?_
          unfold applyFailed
          split <;> rfl
        · rfl

end

/-- An event that is recorded first and marked then, or recorded once as processed. -/
theorem acknowledged_events {db : Tables} {event : PaymentWebhookEvent} {processedAt : Option Instant}
    {processed : Handler DbSession}
    (fresh : lookup PaymentWebhookEvent.id event.id db.paymentWebhookEvents = none)
    (effect : (·.pending) <$> processed = eventEffect env payload draws (db.addWebhookEvent event)) :
    (eventEffect env payload draws db >>= fun db => .ok (db.addWebhookEvent { event with processedAt })) =
      (·.pending) <$> (processed >>= fun session => pure (session.write
        (·.putWebhookEvent { event with processedAt }))) := by
  have kept : eventEffect env payload draws db =
      Tables.withEvents db.paymentWebhookEvents <$> eventEffect env payload draws db :=
    eventEffect_withEvents db db.paymentWebhookEvents draws env payload
  have moved := eventEffect_withEvents db (db.paymentWebhookEvents ++ [event]) draws env payload
  rw [show db.addWebhookEvent event = db.withEvents (db.paymentWebhookEvents ++ [event]) from rfl,
    moved] at effect
  cases outcome : eventEffect env payload draws db with
  | error error =>
    rw [outcome] at effect
    cases processed with
    | error raised => exact effect.symm
    | ok session => cases effect
  | ok after =>
    rw [outcome] at effect
    cases processed with
    | error raised => cases effect
    | ok session =>
      have written : session.pending = after.withEvents (db.paymentWebhookEvents ++ [event]) :=
        Except.ok.inj effect
      rw [outcome] at kept
      have whole : after = after.withEvents db.paymentWebhookEvents := Except.ok.inj kept
      have same : after.paymentWebhookEvents = db.paymentWebhookEvents := by
        rw [whole]
        rfl
      have marked : put PaymentWebhookEvent.id { event with processedAt }
          (db.paymentWebhookEvents ++ [event]) =
        after.paymentWebhookEvents ++ [{ event with processedAt }] := by
        rw [same]
        exact put_append_fresh fresh rfl
      refine congrArg Except.ok ?_
      change _ = session.pending.putWebhookEvent { event with processedAt }
      rw [written]
      exact congrArg (fun events => { after with paymentWebhookEvents := events }) marked.symm

/-! ## Requests -/

section
variable {market : Market} {env : Environment} {settings : Settings} {draws : Draws}
  (coherent : market.tables.Coherent) (fresh : draws.Fresh market.tables)
include coherent fresh

theorem flushed_hardenedVerifyPayment_alone {subject : UUID} {payload : PaymentVerifyRequest} :
    leaves (Flushed.hardenedVerifyPayment env settings subject payload draws) market =
      (·.1.pending) <$>
        hardenedVerifyPayment env settings (Session.start market.tables) subject payload draws := by
  simp only [Flushed.hardenedVerifyPayment, hardenedVerifyPayment, readVerification, leaves_statement,
    leaves_require, map_bind, bind_assoc, pure_bind]
  refine bind_congr_ok fun user _ => bind_congr_ok fun _ _ => ?_
  rw [leaves_lockPaymentContext coherent.attemptIds fun _ => lookup_mem]
  simp only [leaves_require, leaves_found]
  refine bind_congr_ok fun _ _ => bind_congr_ok fun context locked =>
    bind_congr_ok fun providerOrderId _ => ?_
  obtain ⟨attempt, order⟩ := context
  obtain ⟨known, placed⟩ := lockPaymentContext_some ((found_ok ..).mp locked)
  have member := lookup_mem known
  obtain ⟨held, -, -⟩ := attempt_file member placed
  split
  · split
    · rfl
    · have untaken : Pending.Untaken {} market := Pending.untaken_of_clean rfl
      have entering := (handsOver_ensureSettlementEntry order draws untaken rfl rfl rfl).committed
      rw [Program.bind_assoc] at entering
      refine Eq.trans entering ?_
      rw [map_bind]
      exact (ensureSettlementEntry_entitled (Session.start market.tables) order draws
        (Frame.refl coherent attempt.orderId) held rfl rfl rfl fresh.settlement).symm
  · simp only [leaves_ofExcept, map_bind]
    refine bind_congr_ok fun valid _ => ?_
    split
    · refine (HandsOver.committed (handsOver_applyPaid coherent member)).trans ?_
      rw [map_bind]
      exact (applyPaid_captured market.tables coherent member placed fresh.refund fresh.settlement).symm
    · exact leaves_commit (Pending.untaken_of_clean rfl)

theorem flushed_hardenedRazorpayWebhook_alone {request : WebhookRequest} :
    leaves (Flushed.hardenedRazorpayWebhook env settings request draws) market =
      (·.pending) <$> hardenedRazorpayWebhook env settings (Session.start market.tables) request draws := by
  simp only [Flushed.hardenedRazorpayWebhook, hardenedRazorpayWebhook, leaves_ofExcept, leaves_query,
    map_bind]
  refine bind_congr_ok fun payload _ => ?_
  generalize made : webhookEvent env request payload draws = event
  have id : event.id = draws.webhookEventId := made ▸ rfl
  have key : event.eventKey = webhookEventKey env request := made ▸ rfl
  rw [← key]
  cases seen : lookup PaymentWebhookEvent.eventKey event.eventKey market.tables.paymentWebhookEvents with
  | some earlier => rfl
  | none =>
    have freshEvent : lookup PaymentWebhookEvent.id event.id market.tables.paymentWebhookEvents = none :=
      id ▸ fresh.webhookEvent
    have recorded : (market.tables.addWebhookEvent event).Coherent :=
      coherent.addWebhookEvent event freshEvent seen
    have untaken : Pending.Untaken {} market := Pending.untaken_of_clean rfl
    have unused : UniqueValue.carriers market.tables (.eventKey event.eventKey) = [] := by
      rw [UniqueValue.carriers, belonging_of_missing seen]
      rfl
    have free : Pending.violation { values := [(.eventKey event.eventKey, event.id)] } market.tables = none :=
      (untaken.bring unused event.id).violation
    have passes := flushOrRollback_coherent ((Session.start market.tables).write (·.addWebhookEvent event))
      (by exact recorded)
    simp only [Option.isSome_none, Bool.false_eq_true, if_false, leaves_lockRows, leaves_query, free, passes]
    refine (handsOver_processEvent coherent).acknowledged.trans ?_
    exact acknowledged_events freshEvent (processEvent_eventEffect market.tables recorded fresh.refund
      fresh.settlement fresh.adjustment)

omit coherent fresh in
theorem flushed_claimRefund_alone {refundId : UUID} {now : Instant} :
    leaves (Flushed.claimRefund settings refundId now) market =
      .ok (claimRefund settings (Session.start market.tables) refundId now).1.pending := by
  unfold Flushed.claimRefund Flushed.lockedRefund
  rw [leaves_selectForUpdate]
  cases found : market.tables.refund? refundId with
  | none =>
    unfold claimRefund
    rw [Session.start, found]
    rfl
  | some refund => exact leaves_commit (Pending.untaken_of_clean rfl)

theorem flushed_recordRefund_alone {claim : RefundClaim} {result : ProviderResult}
    (unused : ∀ refund payload, market.tables.refund? claim.refundId = some refund → result = .ok payload →
      ProviderRefundUnused market.tables (reportedRefund refund ((Json.get payload "id").text env.print)
        ((Json.get payload "status").text env.print))) :
    leaves (Flushed.recordRefund env claim.refundId result draws) market =
      .ok (recordRefund env (Session.start market.tables) claim result draws).pending := by
  unfold Flushed.recordRefund Flushed.lockedRefund recordRefund
  rw [leaves_selectForUpdate, Session.start]
  cases found : market.tables.refund? claim.refundId with
  | none => rfl
  | some refund =>
    cases result with
    | error message => exact leaves_commit (Pending.untaken_of_clean rfl)
    | ok payload =>
      have sole := unused refund payload found rfl
      refine (handsOver_applyProviderRefundResult sole).committed.trans (congrArg Except.ok ?_)
      exact (applyProviderRefundResult_folded market.tables coherent (lookup_mem found) sole
        fresh.adjustment).symm

end

end GaonOne
