import GaonOne.AutoDispatch
import GaonOne.CartStatements
import GaonOne.Library.Executions
import GaonOne.Library.Queries
import GaonOne.PaymentStatements
import GaonOne.RequestLocks
import GaonOne.ServiceFrames
import GaonOne.World

/-! A request that nobody else runs beside. Statement by statement it leaves what its
handler leaves: what the statements add is only what others can see and change between
two of them. -/
namespace GaonOne
open Relational UnitOfWork ReadCommitted

/-- What a request leaves in the tables when nobody else runs. -/
def leaves (program : Statements α) (market : Market) : Handler Tables :=
  (·.2.tables) <$> program.alone market

/-- What an outcome leaves once its commit was tried. -/
def settles (db : Tables) : Handler Tables → Tables
  | .ok after => if after.Constraints then after else db
  | .error _ => db

theorem settles_congr {db : Tables} {first : Handler β} {left right : β → Handler Tables}
    (same : ∀ value, first = .ok value → settles db (left value) = settles db (right value)) :
    settles db (first >>= left) = settles db (first >>= right) := by
  cases first with
  | error error => rfl
  | ok value => exact same value rfl

theorem first_pending (answer : Handler (DbSession × β)) :
    (·.pending) <$> (answer >>= fun answered => pure answered.1) = (·.1.pending) <$> answer := by
  cases answer <;> rfl

/-- What the tables hold for good once a request was served with nobody else about. -/
def Served (service : Service Market RowLock Note HTTPException α ρ) (request : ρ) (market : Market)
    (after : Tables) : Prop :=
  ∃ enough, ∀ more, enough ≤ more →
    ((service.system market).run ⟨market, []⟩
      (.start request :: List.replicate more (.advance 0))).database.tables = after

/-- It settles to what its statements leave. -/
theorem served_alone {service : Service Market RowLock Note HTTPException α ρ} {request : ρ} {market : Market}
    (validity : ∀ value ended, (service.program request).alone market = .ok (value, ended) →
      (service.valid ended ↔ ended.tables.Constraints)) :
    Served service request market (settles market.tables (leaves (service.program request) market)) := by
  obtain ⟨enough, ends⟩ := service.run_alone request market
  refine ⟨enough, fun more bound => ?_⟩
  rw [ends more bound, leaves]
  cases alone : (service.program request).alone market with
  | error error => rfl
  | ok ended =>
    change (if service.valid ended.2 then (⟨ended.2, _⟩ : State Market RowLock Note HTTPException α)
      else ⟨market, _⟩).database.tables = if ended.2.tables.Constraints then ended.2.tables else market.tables
    have checked := validity ended.1 ended.2 alone
    by_cases valid : ended.2.tables.Constraints
    · rw [if_pos valid, if_pos (checked.mpr valid)]
    · rw [if_neg valid, if_neg (mt checked.mp valid)]

/-- A request of the whole program settles to what its handler leaves. -/
theorem World.request_settles {world : World} {draws : Draws} (env : Environment) (settings : Settings)
    (request : Request) (fresh : draws.Fresh world.tables) :
    (world.request env settings request draws).tables = settles world.tables
      ((·.pending) <$> request.handle env settings draws (Session.start world.tables)) := by
  unfold World.request
  rw [if_pos fresh]
  cases request.handle env settings draws (Session.start world.tables) with
  | error error => rfl
  | ok db =>
    change (world.database.commit db.pending).tables = if db.pending.Constraints then _ else _
    unfold Database.commit
    split <;> rfl

/-- Where the statements settle to what the handler settles to, a run of them is the request. -/
theorem World.served {world : World} {service : Service Market RowLock Note HTTPException α ρ} {request : ρ}
    {market : Market} {env : Environment} {settings : Settings} {handled : Request} {draws : Draws}
    (validity : ∀ value ended, (service.program request).alone market = .ok (value, ended) →
      (service.valid ended ↔ ended.tables.Constraints))
    (tables : world.tables = market.tables) (fresh : draws.Fresh market.tables)
    (same : settles market.tables (leaves (service.program request) market) = settles market.tables
      ((·.pending) <$> handled.handle env settings draws (Session.start market.tables))) :
    Served service request market (world.request env settings handled draws).tables := by
  rw [World.request_settles env settings handled (tables ▸ fresh), tables, ← same]
  exact served_alone validity

/-! ## Single statements -/

section
variable {market : Market} {next : β → Statements α}

theorem leaves_bind (first : Statements β) :
    leaves (first >>= next) market = first.alone market >>= fun ended => leaves (next ended.1) ended.2 := by
  rw [leaves, Program.alone_bind, map_bind]
  rfl

@[simp]
theorem leaves_pure (value : α) : leaves (pure value) market = pure market.tables := rfl

@[simp]
theorem leaves_query (read : Market → β) :
    leaves (Program.query read >>= next) market = leaves (next (read market)) market := rfl

@[simp]
theorem leaves_ofExcept (check : Handler β) :
    leaves (Program.ofExcept check >>= next) market = check >>= fun value => leaves (next value) market := by
  cases check <;> rfl

@[simp]
theorem leaves_check (check : Handler β) :
    leaves ((liftM check : Statements β) >>= next) market =
      check >>= fun value => leaves (next value) market :=
  leaves_ofExcept check

@[simp]
theorem leaves_statement (read : Tables → Handler β) :
    leaves (statement read >>= next) market =
      read market.tables >>= fun value => leaves (next value) market := by
  rw [leaves_bind, show (statement read : Statements β).alone market = (·, market) <$> read market.tables
    from Program.alone_ofExcept (read market.tables) market]
  cases read market.tables <;> rfl

@[simp]
theorem leaves_require (check : Prop) [Decidable check] (error : HTTPException) {next : Unit → Statements α} :
    leaves (Statement.require check error >>= next) market =
      require check error >>= fun value => leaves (next value) market :=
  leaves_ofExcept _

@[simp]
theorem leaves_found (value : Option β) (error : HTTPException) :
    leaves (Statement.found value error >>= next) market =
      found value error >>= fun row => leaves (next row) market :=
  leaves_ofExcept _

@[simp]
theorem leaves_remember (fact : Note) {next : Unit → Statements α} :
    leaves (Program.remember fact >>= next) market = leaves (next ()) market := rfl

@[simp]
theorem leaves_lockRow (row : RowLock) {next : Unit → Statements α} :
    leaves (Program.lockRow row >>= next) market = leaves (next ()) market := rfl

@[simp]
theorem leaves_lockRows (rows : List RowLock) {next : Unit → Statements α} :
    leaves (Program.lockRows rows >>= next) market = leaves (next ()) market := by
  rw [leaves_bind, Program.alone_lockRows]
  rfl

@[simp]
theorem leaves_flush (change : Market → Market) {next : Unit → Statements α} :
    leaves (Program.flush change >>= next) market = leaves (next ()) (change market) := rfl

@[simp]
theorem leaves_flushTables (write : Tables → Tables) {next : Unit → Statements α} :
    leaves (flushTables write >>= next) market = leaves (next ()) (market.change write) := rfl

/-- A locked row is the row that was seen. -/
@[simp]
theorem leaves_selectForUpdate (rowOf : ρ → Row) (find : Tables → Option ρ)
    {next : Option ρ → Statements α} :
    leaves (selectForUpdate rowOf find >>= next) market = leaves (next (find market.tables)) market := by
  have alone : (selectForUpdate rowOf find : Statements (Option ρ)).alone market =
      .ok (find market.tables, market) := by
    have read : (Program.query fun market : Market => find market.tables :
        Statements (Option ρ)).alone market = .ok (find market.tables, market) := rfl
    rw [selectForUpdate, Program.alone_bind, read]
    cases seen : find market.tables with
    | none => rfl
    | some row =>
      change (.ok ((find market.tables).filter fun current => rowOf current = rowOf row, market) :
        Handler (Option ρ × Market)) = _
      rw [seen, Option.filter_some, decide_eq_true rfl]
      rfl
  rw [leaves_bind, alone]
  rfl

/-- With nothing locked, the first row that meets the condition is taken. -/
theorem leaves_selectSkipLocked (rowOf : UUID → Row) (find : UUID → Tables → Option ρ) (ids : List UUID)
    {next : Option ρ → Statements α} :
    leaves (selectSkipLocked rowOf find ids >>= next) market =
      leaves (next (ids.findSome? (find · market.tables))) market := by
  have alone : (selectSkipLocked rowOf find ids : Statements (Option ρ)).alone market =
      .ok (ids.findSome? (find · market.tables), market) := by
    induction ids with
    | nil => rfl
    | cons id ids ih =>
      have taken : (Program.lockOne [(rowOf id).forUpdate] : Statements (Option RowLock)).alone market =
          .ok (some (rowOf id).forUpdate, market) := rfl
      have read : (Program.query fun market : Market => find id market.tables :
          Statements (Option ρ)).alone market = .ok (find id market.tables, market) := rfl
      rw [selectSkipLocked, Program.alone_bind, taken]
      change ((Program.query fun market : Market => find id market.tables) >>= _).alone market = _
      rw [Program.alone_bind, read, List.findSome?_cons]
      cases find id market.tables with
      | none => exact ih
      | some row => rfl
  rw [leaves_bind, alone]
  rfl

/-- Locked listings are the listings that were seen. -/
@[simp]
theorem leaves_lockListings (select : Tables → List StoreProduct)
    {next : List StoreProduct → Statements α} :
    leaves (Statement.lockListings select >>= next) market = leaves (next (select market.tables)) market := by
  have whole : (select market.tables).filter (fun listing =>
      listing.id ∈ (select market.tables).map (·.id)) = select market.tables :=
    List.filter_eq_self.mpr fun listing inside => decide_eq_true (List.mem_map_of_mem inside)
  unfold Statement.lockListings
  rw [Program.bind_assoc, leaves_query, Program.bind_assoc, leaves_lockRows, leaves_query, whole]

end

/-! ## Assignment and release -/

theorem require_decide_false (check : Prop) [Decidable check] (error : HTTPException) :
    (require (decide check = false) error : Handler Unit) = require (¬check) error :=
  require_congr decide_eq_false_iff_not error

/-- A flush that keeps the constraints goes through. -/
theorem flushRows_kept {db : DbSession} (kept : db.pending.Constraints) : flushRows db = .ok db.flush := by
  rw [flushRows, (require_ok db.pending.Constraints _ ()).mpr kept]
  rfl

theorem flushRows_refused {db : DbSession} (broken : ¬db.pending.Constraints) :
    flushRows db = .error ⟨500, "IntegrityError"⟩ := by
  rw [flushRows, require_error.mpr ⟨broken, rfl⟩]
  rfl

/-- The user a session holds is the user's row. -/
theorem getCurrentUser_row {user : User} (asking : getCurrentUser tables subject = .ok user) :
    tables.user? user.id = some user := by
  have stored := (Option.filter_eq_some_iff.mp ((found_ok ..).mp asking)).1
  rwa [show user.id = subject from lookup_col stored]

theorem requireCapability_row {user : User}
    (asking : requireCapability tables subject capability = .ok user) :
    tables.user? user.id = some user := by
  have stored := ((requireCapability_ok ..).mp asking).1
  rwa [show user.id = subject from lookup_col stored]

section
variable {market : Market} {subject deliveryId : UUID} {draws : Draws}

theorem claimDelivery_alone :
    leaves (Statement.claimDelivery subject deliveryId draws) market =
      (·.pending) <$> claimDelivery (Session.start market.tables) subject deliveryId draws := by
  simp only [Statement.claimDelivery, claimDelivery, Statement.lockedDelivery, Statement.lockedOrder,
    Statement.lockedUser, leaves_statement, leaves_remember, leaves_check, leaves_selectForUpdate,
    leaves_found, leaves_require, leaves_query, leaves_flushTables, leaves_pure, map_bind, map_pure,
    require_decide_false]
  refine bind_congr_ok fun user asking => ?_
  rw [getCurrentUser_row asking]
  rfl

theorem updateDeliveryStatus_alone {status : DeliveryStatus} :
    leaves (Statement.updateDeliveryStatus subject deliveryId status draws) market =
      (·.pending) <$> updateDeliveryStatus (Session.start market.tables) subject deliveryId status draws := by
  simp only [Statement.updateDeliveryStatus, updateDeliveryStatus, Statement.lockedDelivery,
    Statement.lockedOrder, leaves_statement, leaves_check, leaves_selectForUpdate, leaves_found,
    leaves_require, leaves_flushTables, leaves_pure, map_bind, map_pure]
  rfl

theorem adminAssignDelivery_alone {riderId : UUID} :
    leaves (Statement.adminAssignDelivery subject deliveryId riderId draws) market =
      (·.pending) <$> adminAssignDelivery (Session.start market.tables) subject deliveryId riderId draws := by
  simp only [Statement.adminAssignDelivery, adminAssignDelivery, Statement.lockedDelivery,
    Statement.lockedOrder, Statement.lockedUser, leaves_statement, leaves_check, leaves_selectForUpdate,
    leaves_found, leaves_require, leaves_query, leaves_flushTables, leaves_pure, map_bind, map_pure,
    require_decide_false]
  refine bind_congr_ok fun admin asking => ?_
  -- the administrator is the row of that identifier
  have same : ((market.tables.user? riderId).map fun row => if row.id = admin.id then admin else row) =
      market.tables.user? riderId := by
    cases stored : market.tables.user? riderId with
    | none => rfl
    | some row =>
      rw [Option.map_some]
      split
      · next own =>
        have here : market.tables.user? row.id = some row := by
          rwa [show row.id = riderId from lookup_col stored]
        rw [own, requireCapability_row asking] at here
        exact here
      · rfl
  rw [same]
  rfl

theorem adminUnassignDelivery_alone :
    leaves (Statement.adminUnassignDelivery subject deliveryId draws) market =
      (·.pending) <$> adminUnassignDelivery (Session.start market.tables) subject deliveryId draws := by
  simp only [Statement.adminUnassignDelivery, adminUnassignDelivery, Statement.lockedDelivery,
    Statement.lockedOrder, leaves_statement, leaves_check, leaves_selectForUpdate, leaves_found,
    leaves_require, leaves_flushTables, leaves_pure, map_bind, map_pure]
  rfl

/-- A delivery written back under its key is flushed. -/
theorem flush_delivery {tables : Tables} {delivery moved : Delivery} (constraints : tables.Constraints)
    (found : tables.delivery? deliveryId = some delivery) (sameId : moved.id = delivery.id)
    (sameOrder : moved.orderId = delivery.orderId) :
    (·.pending) <$> flushRows ((Session.start tables).write (·.putDelivery moved)) =
      .ok (tables.putDelivery moved) := by
  rw [flushRows_kept (constraints.putDelivery (lookup_mem found) sameId sameOrder)]
  rfl

theorem failDelivery_alone {payload : DeliveryFailureRequest} (constraints : market.tables.Constraints) :
    leaves (Statement.failDelivery subject deliveryId payload draws) market =
      (·.pending) <$> failDelivery (Session.start market.tables) subject deliveryId payload draws := by
  simp only [Statement.failDelivery, failDelivery, Statement.lockedDelivery, lockedDeliveryOrder,
    Statement.lockedOrder, leaves_statement, leaves_check, leaves_selectForUpdate, leaves_found,
    leaves_require, leaves_flushTables, leaves_pure, map_bind, bind_assoc, pure_bind]
  refine bind_congr_ok fun user _ => bind_congr_ok fun _ _ => bind_congr_ok fun _ _ =>
    bind_congr_ok fun delivery found => bind_congr_ok fun _ _ => bind_congr_ok fun _ _ =>
    bind_congr_ok fun _ _ => bind_congr_ok fun moved moves => ?_
  obtain ⟨-, rfl⟩ := transitionDelivery_ok.mp moves
  exact Eq.symm (flush_delivery constraints ((found_ok ..).mp found) (by rfl) (by rfl))

theorem recoverFailedDelivery_alone (constraints : market.tables.Constraints) :
    leaves (Statement.recoverFailedDelivery subject deliveryId draws) market =
      (·.pending) <$> recoverFailedDelivery (Session.start market.tables) subject deliveryId draws := by
  simp only [Statement.recoverFailedDelivery, recoverFailedDelivery, Statement.lockedDelivery,
    lockedDeliveryOrder, Statement.lockedOrder, leaves_statement, leaves_check, leaves_selectForUpdate,
    leaves_found, leaves_require, leaves_flushTables, leaves_pure, map_bind, bind_assoc, pure_bind]
  refine bind_congr_ok fun admin _ => bind_congr_ok fun delivery found => bind_congr_ok fun _ _ =>
    bind_congr_ok fun _ _ => bind_congr_ok fun _ _ => bind_congr_ok fun moved moves => ?_
  obtain ⟨-, rfl⟩ := releasedDelivery_ok.mp moves
  exact Eq.symm (flush_delivery constraints ((found_ok ..).mp found) (by rfl) (by rfl))

/-! ## Dispatch -/

/-- The row of an eligible rider meets the condition on it. -/
theorem eligibleRider_row {env : Environment} {store : Point} {maxRadiusKm : ℚ} {now : Instant}
    {presence : RiderPresence} (users : Relational.Unique User.id tables.catalogue.users)
    (eligible : eligibleRider env tables store maxRadiusKm now presence) :
    ∃ rider, ((tables.user? presence.riderId).filter fun rider =>
      decide (rider.role = .delivery ∧ rider.isActive ∧ rider.isVerified)) = some rider ∧
        rider.id = presence.riderId := by
  obtain ⟨-, -, -, ⟨rider, member, own, able⟩, -⟩ := eligible
  have stored : tables.user? presence.riderId = some rider := (lookup_eq_some_iff users).mpr ⟨member, own⟩
  exact ⟨rider, by rw [stored, Option.filter_some, decide_eq_true able]; rfl, own⟩

/-- The rider that is nearest is the first whose row can be taken. -/
theorem nearest_alone {env : Environment} {store : Point} {maxRadiusKm : ℚ} {now : Instant}
    {next : Option UUID → Statements α} (users : Relational.Unique User.id market.tables.catalogue.users) :
    leaves (Statement.nearestEligibleRider env store maxRadiusKm now >>= next) market =
      leaves (next (nearestEligibleRider env market.tables store maxRadiusKm [] now)) market := by
  unfold Statement.nearestEligibleRider
  simp only [Program.bind_assoc, leaves_query, leaves_selectSkipLocked]
  have chosen : ((eligibleRiders env market.tables store maxRadiusKm now).findSome? fun id =>
      (market.tables.user? id).filter fun rider =>
        rider.role = .delivery ∧ rider.isActive ∧ rider.isVerified).map (·.id) =
      nearestEligibleRider env market.tables store maxRadiusKm [] now := by
    have candidates : (market.tables.catalogue.riderPresences.filter fun presence =>
        eligibleRider env market.tables store maxRadiusKm now presence ∧
          presence.riderId ∉ ([] : List UUID)) =
        market.tables.catalogue.riderPresences.filter fun presence =>
          eligibleRider env market.tables store maxRadiusKm now presence := by
      simp
    unfold nearestEligibleRider
    rw [candidates]
    exact findSome?_ordered fun presence inside =>
      eligibleRider_row users (of_decide_eq_true (List.mem_filter.mp inside).2)
  rw [← chosen]
  rfl

theorem autoAssignDelivery_alone {env : Environment} {maxRadiusKm : ℚ}
    (users : Relational.Unique User.id market.tables.catalogue.users) :
    leaves (Statement.autoAssignDelivery env subject deliveryId maxRadiusKm draws) market =
      (·.pending) <$> autoAssignDelivery env (Session.start market.tables) subject deliveryId maxRadiusKm []
        draws := by
  simp only [Statement.autoAssignDelivery, autoAssignDelivery, Statement.lockedDelivery,
    Statement.lockedOrder, Statement.lockedUser, leaves_statement, leaves_selectForUpdate, leaves_check,
    leaves_found, leaves_require, leaves_query, leaves_flushTables, leaves_pure, map_bind, map_pure,
    require_decide_false, nearest_alone users]
  rfl

theorem dispatchReadyDelivery_alone {env : Environment} {radiusKm : ℚ} {seen : List UUID}
    (constraints : market.tables.Constraints) :
    leaves (Statement.dispatchReadyDelivery env radiusKm seen draws) market =
      (·.pending) <$> dispatchReadyDelivery env (Session.start market.tables) radiusKm seen [] [] draws := by
  simp only [Statement.dispatchReadyDelivery, dispatchReadyDelivery,
    Statement.lockedOrder, leaves_selectForUpdate, leaves_selectSkipLocked, leaves_check,
    leaves_found, leaves_require, leaves_query, leaves_flushTables, leaves_pure, map_bind,
    require_decide_false, nearest_alone constraints.userIds]
  have first : ((readyDeliveries market.tables seen).findSome? fun id =>
      (market.tables.delivery? id).filter fun delivery => delivery.status = .unassigned) =
      readyDelivery market.tables seen [] := by
    have waiting : (market.tables.deliveries.filter fun delivery =>
        delivery.status = .unassigned ∧ delivery.id ∉ seen ∧ delivery.id ∉ ([] : List UUID) ∧
          ((market.tables.order? delivery.orderId).any fun order => decide (order.status = .ready))) =
        market.tables.deliveries.filter fun delivery =>
          delivery.status = .unassigned ∧ delivery.id ∉ seen ∧
            ((market.tables.order? delivery.orderId).any fun order => decide (order.status = .ready)) := by
      simp
    unfold readyDelivery
    rw [waiting]
    refine Option.map_id_apply.symm.trans
      ((findSome?_ordered fun delivery inside => ⟨delivery, ?_, rfl⟩).trans Option.map_id_apply)
    obtain ⟨member, candidate⟩ := List.mem_filter.mp inside
    have stored := (lookup_eq_some_iff constraints.deliveryIds).mpr ⟨member, rfl⟩
    rw [Tables.delivery?, stored, Option.filter_some, decide_eq_true (of_decide_eq_true candidate).1]
    rfl
  rw [first]
  refine bind_congr_ok fun delivery picked => bind_congr_ok fun _ _ => bind_congr_ok fun _ _ =>
    bind_congr_ok fun _ _ => bind_congr_ok fun riderId _ => bind_congr_ok fun rider stored =>
    bind_congr_ok fun _ _ => ?_
  rw [show rider.id = riderId from lookup_col ((found_ok ..).mp stored)]
  refine bind_congr_ok fun moved moves => ?_
  obtain ⟨-, rfl⟩ := assignedDelivery_ok.mp moves
  have held := (lookup_eq_some_iff constraints.deliveryIds).mpr
    ⟨(readyDelivery_mem ((found_ok ..).mp picked)).1, rfl⟩
  exact Eq.symm (flush_delivery constraints held (by rfl) (by rfl))

/-! ## Completion -/

/-- A settlement entry is the same from a session that flushed what it reads. -/
theorem ensureSettlementEntry_flushed (db : DbSession) (order : Order) (draws : Draws)
    (entries : db.flushed.settlementEntries = db.pending.settlementEntries)
    (refunds : db.flushed.paymentRefunds = db.pending.paymentRefunds)
    (catalogue : db.flushed.catalogue = db.pending.catalogue) :
    (·.1.pending) <$> ensureSettlementEntry db order draws =
      (·.1.pending) <$> ensureSettlementEntry (Session.start db.pending) order draws := by
  have eligible : settlementIsEligible db order ↔ settlementIsEligible (Session.start db.pending) order := by
    rw [settlementIsEligible, settlementIsEligible, refunds]
  unfold ensureSettlementEntry
  rw [entries]
  simp only [Tables.store?, catalogue, eligible]
  cases lookup SettlementEntry.orderId order.id db.pending.settlementEntries with
  | some existing => rfl
  | none =>
    by_cases pays : settlementIsEligible (Session.start db.pending) order
    · simp only [if_pos pays, flushRows, map_bind, map_pure, bind_assoc, pure_bind]
      rfl
    · rw [if_neg pays, if_neg pays]
      rfl

/-- The entry is read and then written. -/
theorem recordSettlement_ok (order : Order) (draws : Draws) (db : Tables) :
    (ensureSettlementEntry (Session.start db) order draws >>= fun _ =>
      (.ok (recordSettlement order draws db) : Handler Tables)) =
      (·.1.pending) <$> ensureSettlementEntry (Session.start db) order draws := by
  unfold recordSettlement
  cases ensureSettlementEntry (Session.start db) order draws <;> rfl

/-- The end of a completion: the entry that a paid order is owed. -/
theorem settled_alone (delivery : Delivery) (order : Order) :
    leaves (if order.paymentStatus = .paid then do
        let _ ← statement fun db => ensureSettlementEntry (Session.start db) order draws
        flushTables (recordSettlement order draws)
        pure none
      else pure none : Statements (Option Order))
        (market.change fun db => (db.putDelivery delivery).putOrder order) =
      (·.pending) <$> (if order.paymentStatus = .paid then do
          let (db, _) ← ensureSettlementEntry (((Session.start market.tables).write
            (·.putDelivery delivery)).write (·.putOrder order)) order draws
          pure db
        else pure (((Session.start market.tables).write (·.putDelivery delivery)).write
          (·.putOrder order)) : Handler DbSession) := by
  split
  · simp only [leaves_statement, leaves_flushTables, leaves_pure, map_bind, map_pure]
    refine (recordSettlement_ok order draws _).trans ?_
    rw [← bind_pure_comp]
    exact (ensureSettlementEntry_flushed (((Session.start market.tables).write
      (·.putDelivery delivery)).write (·.putOrder order)) order draws rfl rfl rfl).symm
  · rfl

theorem completeDelivery_alone :
    leaves (Statement.completeDeliveryWithFinancials subject deliveryId draws) market =
      (·.pending) <$>
        completeDeliveryWithFinancials (Session.start market.tables) subject deliveryId draws := by
  simp only [Statement.completeDeliveryWithFinancials, completeDeliveryWithFinancials,
    Statement.lockedDelivery, lockedDeliveryOrder, Statement.lockedOrder, leaves_statement, leaves_check,
    leaves_selectForUpdate, leaves_found, leaves_query, leaves_require, leaves_flushTables, map_bind,
    bind_assoc, pure_bind]
  refine bind_congr_ok fun user _ => bind_congr_ok fun _ _ => bind_congr_ok fun delivery _ =>
    bind_congr_ok fun order _ => bind_congr_ok fun _ _ => bind_congr_ok fun _ _ => bind_congr_ok fun _ _ =>
    bind_congr_ok fun _ _ => bind_congr_ok fun _ _ => bind_congr_ok fun _ _ =>
    bind_congr_ok fun delivered _ => bind_congr_ok fun paid _ => ?_
  exact settled_alone { delivered with deliveredAt := some draws.now, updatedAt := draws.now }
    { paid with paymentStatus := if paid.paymentMethod = .cod then .paid else paid.paymentStatus }

end

end GaonOne
