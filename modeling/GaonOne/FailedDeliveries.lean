import GaonOne.JointInvariant
import GaonOne.ProofBudget

/-! How a failed delivery ends. Goods that never left the store go out again with another
rider, goods that did come back to it, and between them the two exits take every failed
delivery but one: once the cash of an order is on record nothing takes it off again, and a
delivery that then fails, or whose code is locked, is left where it stands for good. -/
namespace GaonOne
open Relational UnitOfWork Transitions System

variable {env : Environment} {world : World} {file next : OrderFile}

/-- The delivery failed, and its order is not back at the store. -/
def OrderFile.Unresolved (file : OrderFile) : Prop :=
  ∃ order delivery, file.order = some order ∧ file.delivery = some delivery ∧
    delivery.status = .failed ∧ order.status ≠ .returned

/-- The delivery is open to every rider again, or the order is back at the store. -/
def OrderFile.Resolved (file : OrderFile) : Prop :=
  ∃ order delivery, file.order = some order ∧ file.delivery = some delivery ∧
    (order.status = .ready ∧ delivery.status = .unassigned ∨ order.status = .returned)

/-- The rider recorded the cash of the order. -/
def OrderFile.CashHeld (file : OrderFile) : Prop :=
  ∃ order, file.order = some order ∧ order.paymentMethod = .cod ∧ file.collection.isSome

instance (file : OrderFile) : Decidable file.Unresolved :=
  decidable_of_iff (∃ order ∈ file.order, ∃ delivery ∈ file.delivery,
    delivery.status = .failed ∧ order.status ≠ .returned) (by simp [OrderFile.Unresolved])

instance (file : OrderFile) : Decidable file.CashHeld :=
  decidable_of_iff (∃ order ∈ file.order, order.paymentMethod = .cod ∧ file.collection.isSome)
    (by simp [OrderFile.CashHeld])

/-- A code that was guessed wrong too often. -/
def DeliveryProof.Locked (proof : DeliveryProof) : Prop :=
  proof.verifiedAt = none ∧ proof.verificationLockedAt.isSome

/-! ## Custody -/

/-- Cash is recorded in the rider's hands only. -/
structure OrderFile.Handed (file : OrderFile) : Prop where
  carried : ∀ delivery, file.delivery = some delivery → delivery.status = .pickedUp →
    delivery.pickedUpAt ≠ none
  collected : ∀ delivery, file.delivery = some delivery → file.collection ≠ none →
    delivery.pickedUpAt ≠ none

/-- A delivery that is not on the road keeps the time it was picked up. -/
theorem OrderFile.Handed.rests {old new : Delivery} (handed : file.Handed)
    (carried : file.delivery = some old) (taken : next.delivery = some new)
    (collection : next.collection = file.collection) (custody : new.pickedUpAt = old.pickedUpAt)
    (resting : new.status ≠ .pickedUp) : next.Handed := by
  constructor
  · intro other held moving
    cases taken.symm.trans held
    exact absurd moving resting
  · intro other held recorded
    cases taken.symm.trans held
    rw [custody]
    exact handed.collected old carried (collection ▸ recorded)

theorem FileStep.handed (step : FileStep event file next) (sound : file.Sound)
    (handed : file.Handed) : next.Handed := by
  have still : ∀ {changed : OrderFile}, changed.delivery = file.delivery →
      changed.collection = file.collection → changed.Handed := fun delivery collection =>
    ⟨by rw [delivery]; exact handed.carried, by rw [delivery, collection]; exact handed.collected⟩
  cases step with
  | unchanged | advanced | proofChanged | resumed | intended | capturedLate | paymentFailed
  | refundClaimed | refundGivenUp | refundErrored | refundFailed | refundPending | refundRepeated
  | refundCleared | paidOut => exact still rfl rfl
  | placed order delivery absent undelivered status payment total own free rider custody =>
    have blank : file.collection = none := congrArg OrderFile.collection (sound.unplaced absent)
    constructor
    · intro other carried moving
      cases carried
      rw [free] at moving
      cases moving
    · exact fun _ _ recorded => absurd blank recorded
  | cancelled _ _ _ ensured | capturedAfterCancellation _ _ _ _ _ ensured =>
    cases ensured <;> exact still rfl rfl
  | assigned _ carried => exact handed.rests carried rfl rfl rfl (by simp)
  | assignedUnclaimed carried => exact handed.rests carried rfl rfl rfl (by simp)
  | released _ carried => exact handed.rests carried rfl rfl rfl (by simp)
  | failed carried => exact handed.rests carried rfl rfl rfl (by simp)
  | pickedUp _ _ _ _ _ now =>
    constructor <;> intro other taken _ <;> cases taken <;> simp
  | returned _ _ _ _ _ _ voided ensured =>
    have kept := voided.kept_rows.2.2.2.1
    apply still (ensured.keptDelivery.trans voided.kept_rows.2.1)
    cases ensured <;> exact kept
  | collected _ carried _ custody _ user draws =>
    constructor
    · exact handed.carried
    · intro other taken _
      cases carried.symm.trans taken
      exact handed.carried _ carried custody
  | completed _ carried _ _ _ _ _ _ now ensured =>
    exact handed.rests carried ensured.kept_rows.2.1 ensured.kept_rows.2.2.2.1 rfl (by simp)
  | captured _ _ _ now ensured =>
    exact still ensured.kept_rows.2.1 ensured.kept_rows.2.2.2.1
  | settlementChecked _ _ ensured =>
    exact still ensured.kept_rows.2.1 ensured.kept_rows.2.2.2.1
  | refundSucceeded _ _ _ _ now voided =>
    exact still voided.kept_rows.2.1 voided.kept_rows.2.2.2.1

theorem reachable_handed (reached : Reachable (system env) world) (orderId : UUID) :
    (world.tables.file orderId).Handed :=
  file_invariant reached (by constructor <;> simp)
    (fun _ _ orderId _ _ earlier held _ _ step =>
      step.handed (reachable_sound earlier orderId) (held orderId)) orderId

/-! ## The dead end -/

/-- Out for delivery with the cash on record, and nobody to complete it: the delivery failed, or
its code takes no more guesses. -/
inductive OrderFile.Stranded (file : OrderFile) : Prop where
  | of {order : Order} {delivery : Delivery} {collection : CodCollection}
      (held : file.order = some order) (carried : file.delivery = some delivery)
      (out : order.status = .outForDelivery) (cash : order.paymentMethod = .cod)
      (recorded : file.collection = some collection)
      (over_ : delivery.status = .failed ∨ delivery.status = .pickedUp ∧
        ∃ proof, file.proof = some proof ∧ proof.Locked)

/-- It takes a change of the order's status, of its delivery or of its cash to get out. -/
theorem OrderFile.Stranded.of_kept (stranded : file.Stranded)
    (order : ∀ old, file.order = some old → ∃ new, next.order = some new ∧
      new.status = old.status ∧ new.paymentMethod = old.paymentMethod)
    (delivery : next.delivery = file.delivery) (collection : next.collection = file.collection)
    (locked : ∀ proof, file.proof = some proof → proof.Locked → next.proof = some proof) :
    next.Stranded := by
  obtain ⟨held, carried, out, cash, recorded, ending⟩ := stranded
  obtain ⟨later, current, status, method⟩ := order _ held
  refine .of current (delivery.trans carried) (status.trans out) (method.trans cash)
    (collection.trans recorded) ?_
  rcases ending with failed | ⟨moving, proof, proved, closed⟩
  · exact .inl failed
  · exact .inr ⟨moving, proof, locked proof proved closed, closed⟩

/-- Whatever happens to a stranded file leaves it stranded, as long as the lock on its code
stays. -/
theorem FileStep.stranded (step : FileStep event file next) (stranded : file.Stranded)
    (locked : ∀ proof, file.proof = some proof → proof.Locked → next.proof = some proof) :
    next.Stranded := by
  have still : next.order = file.order → next.delivery = file.delivery →
      next.collection = file.collection → next.Stranded := fun order delivery collection =>
    stranded.of_kept (fun old held => ⟨old, order.trans held, rfl, rfl⟩) delivery collection locked
  have repaid : ∀ {before after : Order}, file.order = some before → next.order = some after →
      after.status = before.status → after.paymentMethod = before.paymentMethod →
      next.delivery = file.delivery → next.collection = file.collection → next.Stranded := by
    intro before after held current status method delivery collection
    refine stranded.of_kept (fun old other => ?_) delivery collection locked
    cases held.symm.trans other
    exact ⟨after, current, status, method⟩
  obtain ⟨placed, moved, out, cash, recorded, ending⟩ := id stranded
  cases step with
  | unchanged | proofChanged | resumed | intended | capturedLate | refundClaimed | refundGivenUp
  | refundErrored | refundFailed | refundPending | refundRepeated | refundCleared | paidOut =>
    exact still rfl rfl rfl
  | placed _ _ absent => cases absent.symm.trans placed
  | advanced held target allowed =>
    cases held.symm.trans placed
    rw [out] at allowed
    exfalso
    simp only [canTransitionOrder, orderTransitions, List.mem_cons, List.not_mem_nil,
      or_false] at allowed
    rcases allowed with rfl | rfl <;> simp at target
  | cancelled held allowed =>
    cases held.symm.trans placed
    rw [canTransitionOrder_cancelled, out] at allowed
    simp at allowed
  | assigned _ carried free =>
    cases carried.symm.trans moved
    simp [free] at ending
  | assignedUnclaimed carried free =>
    cases carried.symm.trans moved
    simp [free] at ending
  | released held _ _ ready =>
    cases held.symm.trans placed
    cases ready.symm.trans out
  | pickedUp held _ _ ready =>
    cases held.symm.trans placed
    cases ready.symm.trans out
  | failed carried => exact .of placed rfl out cash recorded (.inl rfl)
  | returned held _ _ _ uncollected =>
    cases held.symm.trans placed
    cases (uncollected cash).symm.trans recorded
  | collected _ _ _ _ fresh => cases fresh.symm.trans recorded
  | completed _ carried custody _ _ proved verified =>
    cases carried.symm.trans moved
    rcases ending with failed | ⟨-, proof, held, unverified, -⟩
    · cases custody.symm.trans failed
    · cases proved.symm.trans held
      rw [unverified] at verified
      cases verified
  | captured held _ _ _ ensured =>
    exact repaid held (ensured.keptOrder.trans rfl) rfl rfl ensured.kept_rows.2.1
      ensured.kept_rows.2.2.2.1
  | capturedAfterCancellation held _ cancelled =>
    cases held.symm.trans placed
    cases cancelled.symm.trans out
  | settlementChecked _ _ ensured =>
    exact still ensured.keptOrder ensured.kept_rows.2.1 ensured.kept_rows.2.2.2.1
  | paymentFailed held => exact repaid held rfl rfl rfl rfl rfl
  | refundSucceeded _ held _ _ _ voided =>
    exact repaid held (voided.keptOrder.trans rfl) rfl rfl voided.kept_rows.2.1
      voided.kept_rows.2.2.2.1

/-- A locked proof stays on file as it is, whatever happens next. -/
theorem locked_proof_stays (reached : Reachable (system env) world) (action : Action)
    (proved : (world.tables.file orderId).proof = some proof) (locked : proof.Locked) :
    ((world.step env action).tables.file orderId).proof = some proof := by
  obtain ⟨event, -, step⟩ := step_file reached action orderId
  by_cases changes : event = .proofChanged
  · subst changes
    obtain ⟨delivery, carried, recorded⟩ := Option.bind_eq_some_iff.mp proved
    have after : ((world.step env action).tables.file orderId).delivery = some delivery := by
      generalize (world.step env action).tables.file orderId = next at step
      cases step
      exact carried
    have closed : ¬proof.Open := by
      rintro ⟨-, unlocked, -⟩
      exact absurd locked.2 (by simp [unlocked])
    have row := step_proof reached action delivery.id
    rw [show world.tables.proof? delivery.id = some proof from recorded] at row
    exact (Tables.file_proof after).trans (row.closed closed).2
  · rw [step.keptProof changes, proved]

/-- No run leads out of the dead end. -/
theorem stranded_run (reached : Reachable (system env) world)
    (stranded : (world.tables.file orderId).Stranded) (actions : List Action) :
    (((system env).run world actions).tables.file orderId).Stranded := by
  refine reached.persists (P := fun world => (world.tables.file orderId).Stranded) stranded ?_
    actions (reached.runWhile (fun _ _ _ => trivial) actions)
  intro state action earlier held _
  obtain ⟨event, -, step⟩ := step_file earlier action orderId
  exact step.stranded held fun proof => locked_proof_stays earlier action

/-- The merchant of a cash order is owed nothing before it is delivered. -/
def OrderFile.Unentitled (file : OrderFile) : Prop :=
  ∀ order, file.order = some order → order.paymentMethod = .cod → order.status ≠ .delivered →
    file.settlement = none

theorem SettlementEnsured.withholds (ensured : SettlementEnsured file next)
    (absent : file.settlement = none)
    (unpaid : ∀ order, file.order = some order → order.paymentStatus ≠ .paid) :
    next.settlement = none := by
  cases ensured with
  | onRecord | withheld => exact absent
  | entered held paid => exact absurd paid (unpaid _ held)

theorem SettlementVoided.withholds (voided : SettlementVoided file next)
    (absent : file.settlement = none) : next.settlement = none := by
  cases voided with
  | absent | kept | repeated | reversed => exact absent
  | voided held => cases absent.symm.trans held

theorem OrderFile.Unentitled.of_kept (unentitled : file.Unentitled)
    (order : ∀ later, next.order = some later → ∃ old, file.order = some old ∧
      old.paymentMethod = later.paymentMethod ∧
        (old.status = .delivered → later.status = .delivered))
    (settlement : file.settlement = none → next.settlement = none) : next.Unentitled := by
  intro later current cash moving
  obtain ⟨old, held, method, done⟩ := order later current
  exact settlement (unentitled old held (method.trans cash) (mt done moving))

theorem FileStep.unentitled (step : FileStep event file next) (sound : file.Sound)
    (unentitled : file.Unentitled) : next.Unentitled := by
  have still : next.order = file.order → (file.settlement = none → next.settlement = none) →
      next.Unentitled := fun order => unentitled.of_kept fun later current =>
    ⟨later, order ▸ current, rfl, id⟩
  have moved : ∀ {before : Order}, file.order = some before →
      (∀ later, next.order = some later → later.paymentMethod = before.paymentMethod) →
      before.status ≠ .delivered → (file.settlement = none → next.settlement = none) →
      next.Unentitled := by
    intro before held method moving settlement
    exact unentitled.of_kept (fun later current => ⟨before, held, (method later current).symm,
      fun done => absurd done moving⟩) settlement
  have online : ∀ {before : Order}, before.paymentMethod = .upi →
      (∀ later, next.order = some later → later.paymentMethod = before.paymentMethod) →
      next.Unentitled := by
    intro before upi method later current cash
    rw [method later current, upi] at cash
    cases cash
  cases step with
  | unchanged | assigned | assignedUnclaimed | released | failed | proofChanged | collected | resumed
  | intended | capturedLate | refundClaimed | refundGivenUp | refundErrored | refundFailed
  | refundPending | refundRepeated | refundCleared => exact still rfl id
  | placed _ _ absent =>
    have blank : file.settlement = none := congrArg OrderFile.settlement (sound.unplaced absent)
    exact fun _ _ _ _ => blank
  | advanced held target allowed =>
    refine moved held (fun later current => by cases current; rfl) (fun done => ?_) id
    simp [canTransitionOrder, orderTransitions, done] at allowed
  | cancelled held allowed _ ensured =>
    refine moved held (fun later current => (ensured.keptStatus rfl current).2) (fun done => ?_) ?_
    · simp [canTransitionOrder, orderTransitions, done] at allowed
    · cases ensured <;> exact id
  | pickedUp held _ _ ready =>
    exact moved held (fun later current => by cases current; rfl) (by simp [ready]) id
  | returned held _ _ out _ _ voided ensured =>
    refine moved held (fun later current => (ensured.keptStatus voided.keptOrder current).2)
      (by simp [out]) fun absent => ?_
    have withheld := voided.withholds absent
    cases ensured <;> exact withheld
  | completed _ _ _ _ _ _ _ _ _ ensured =>
    intro later current _ moving
    cases current.symm.trans ensured.keptOrder
    exact absurd rfl moving
  | captured held attempted _ _ ensured =>
    refine online ((sound.placed _ held).online _ attempted) fun later current => ?_
    cases current.symm.trans ensured.keptOrder
    rfl
  | capturedAfterCancellation held attempted _ _ _ ensured =>
    exact online ((sound.placed _ held).online _ attempted) fun later current =>
      (ensured.keptStatus rfl current).2
  | settlementChecked held _ ensured =>
    intro later current cash moving
    rw [ensured.keptOrder] at current
    apply ensured.withholds (unentitled later current cash moving)
    intro order held
    cases current.symm.trans held
    simp [(sound.placed later held).cash cash, moving]
  | paymentFailed held attempted =>
    exact online ((sound.placed _ held).online _ attempted) fun later current => by cases current; rfl
  | refundSucceeded owed held _ _ _ voided =>
    refine unentitled.of_kept (fun later current => ?_) voided.withholds
    cases current.symm.trans voided.keptOrder
    exact ⟨_, held, rfl, id⟩
  | paidOut entered => exact still rfl fun absent => by cases absent.symm.trans entered

theorem reachable_unentitled (reached : Reachable (system env) world) (orderId : UUID) :
    (world.tables.file orderId).Unentitled :=
  file_invariant reached (fun _ _ _ _ => rfl)
    (fun _ _ orderId _ _ earlier held _ _ step =>
      step.unentitled (reachable_sound earlier orderId) (held orderId)) orderId

/-- Once the cash of an order is on record and its delivery failed, or its code is locked, the
order stays out for delivery: it is neither delivered nor given up, the customer gets no refund
and the merchant no settlement. -/
theorem stranded_orders_stay (reached : Reachable (system env) world)
    (stranded : (world.tables.file orderId).Stranded) (actions : List Action) :
    ∃ order, (((system env).run world actions).tables.file orderId).order = some order ∧
      order.status = .outForDelivery ∧ order.paymentStatus = .pending ∧
      (((system env).run world actions).tables.file orderId).refund = none ∧
      (((system env).run world actions).tables.file orderId).settlement = none := by
  have later := reached.run actions
  obtain ⟨held, -, out, cash, -, -⟩ := stranded_run reached stranded actions
  have sound := (reachable_sound later orderId).placed _ held
  have unpaid := sound.cash cash
  rw [out] at unpaid
  refine ⟨_, held, out, unpaid, ?_, reachable_unentitled later orderId _ held cash (by simp [out])⟩
  have owed := sound.owed
  rw [unpaid] at owed
  simpa using owed

/-- The cash is recorded first, and then the rider mistypes the code five times. -/
def lockedAfterCash : List Action :=
  placement .cod ++ preparation 2 ++
    [sampleRequest 5 (.claimDelivery 4 1), sampleRequest 6 (.updateDeliveryStatus 4 1 .pickedUp),
      sampleRequest 7 (.issueProofChallenge 4 1 "123456" true),
      sampleRequest 8 (.recordCodCollection 4 1 12000)] ++
    (List.range 5).map fun attempt =>
      sampleRequest (9 + attempt) (.verifyDeliveryProof 4 1 ⟨"000000", none, none, none⟩ true)

theorem stranded_orders_stay_locked :
    ((sampleWorld lockedAfterCash).tables.file 1).Stranded ∧ ∀ actions,
      let later := ((system sampleEnvironment).run (sampleWorld lockedAfterCash) actions).tables.file 1
      ∃ order, later.order = some order ∧ order.status = .outForDelivery ∧
        order.paymentStatus = .pending ∧ later.refund = none ∧ later.settlement = none := by
  obtain ⟨order, held, delivery, carried, collection, recorded, proof, proved, out, cash, moving,
      unverified, locked⟩ :
      ∃ order ∈ ((sampleWorld lockedAfterCash).tables.file 1).order,
        ∃ delivery ∈ ((sampleWorld lockedAfterCash).tables.file 1).delivery,
          ∃ collection ∈ ((sampleWorld lockedAfterCash).tables.file 1).collection,
            ∃ proof ∈ ((sampleWorld lockedAfterCash).tables.file 1).proof,
              order.status = .outForDelivery ∧ order.paymentMethod = .cod ∧
                delivery.status = .pickedUp ∧ proof.verifiedAt = none ∧
                  proof.verificationLockedAt.isSome = true := by
    decide +kernel
  have stranded : ((sampleWorld lockedAfterCash).tables.file 1).Stranded :=
    .of held carried out cash recorded (.inr ⟨moving, proof, proved, unverified, locked⟩)
  exact ⟨stranded, stranded_orders_stay (sampleWorld_reachable lockedAfterCash) stranded⟩

/-! ## The ways out -/

/-- The store still lists everything the order took from it. -/
def Tables.Stocked (db : Tables) (order : Order) : Prop :=
  ∀ item ∈ orderedItems db order, (listingFor db order.storeId item.productId).isSome

instance (db : Tables) (order : Order) : Decidable (db.Stocked order) :=
  inferInstanceAs (Decidable (∀ _ ∈ _, _))

theorem creditItems_succeeds {storeId : UUID} {items : List OrderItem} {db : DbSession}
    (frame : Frame before orderId db.pending file)
    (stocked : ∀ item ∈ items, (listingFor db.pending storeId item.productId).isSome) :
    ∃ result, creditItems storeId items db = .ok result := by
  induction items generalizing db with
  | nil => exact ⟨db, rfl⟩
  | cons item rest ih =>
    obtain ⟨listing, found⟩ := Option.isSome_iff_exists.mp (stocked item List.mem_cons_self)
    let credited := creditListing listing item.quantity
    have next := frame.putListing credited (lookup_mem found) rfl rfl rfl
    -- crediting a listing takes none off the shelf
    have kept : ∀ other ∈ rest,
        (listingFor (db.pending.putListing credited) storeId other.productId).isSome := by
      intro other inside
      have looked : listingFor (db.pending.putListing credited) storeId other.productId =
          if (credited.storeId, credited.productId) = (storeId, other.productId) then some credited
          else listingFor db.pending storeId other.productId :=
        lookup_put _ (lookup_mem found) rfl rfl frame.coherent.listingIds frame.coherent.listingProducts
      rw [looked]
      split
      · rfl
      · exact stocked other (List.mem_cons_of_mem _ inside)
    obtain ⟨result, loop⟩ := @ih (db.write (·.putListing credited)) next kept
    refine ⟨result, ?_⟩
    simp only [creditItems, found_bind_ok]
    exact ⟨listing, found, loop⟩

theorem restoreOrderStockOnce_succeeds {db : DbSession} {order : Order} (now : Instant)
    (frame : Frame before orderId db.pending file)
    (stocked : ∀ item ∈ orderedItems db.flushed order,
      (listingFor db.pending order.storeId item.productId).isSome) :
    ∃ result, restoreOrderStockOnce db order now = .ok result := by
  unfold restoreOrderStockOnce
  split
  · exact ⟨_, rfl⟩
  · obtain ⟨credited, loop⟩ := creditItems_succeeds frame stocked
    rw [loop]
    exact ⟨_, rfl⟩

section
variable {tables : Tables} {admin : User} {delivery : Delivery} {order : Order} {draws : Draws}

/-- An administrator who may move goods and money. -/
structure Administers (tables : Tables) (subject : UUID) (admin : User) : Prop where
  asking : tables.user? subject = some admin
  active : admin.isActive = true
  role : admin.role = .admin
  super : admin.isSuperAdmin = true

theorem Administers.capable (administers : Administers tables subject admin)
    (granted : capability ∈ superAdminCapabilities) : hasCapability admin capability := by
  simpa [hasCapability, capabilitiesFor, administers.role, administers.super] using granted

/-- Goods that never left the store are free for another rider. -/
theorem reassign_succeeds (draws : Draws) (coherent : tables.Coherent)
    (administers : Administers tables subject admin)
    (carried : tables.delivery? deliveryId = some delivery) (failed : delivery.status = .failed)
    (held : tables.order? delivery.orderId = some order) (ready : order.status = .ready)
    (custody : delivery.pickedUpAt = none) :
    ∃ result, resolveFailedDelivery (Session.start tables) subject deliveryId .reassign none draws =
      .ok (result, none) ∧
      (result.pending.file delivery.orderId).Resolved := by
  obtain ⟨orderHeld, deliveryHeld, -⟩ := file_of_delivery coherent carried held
  let released : Delivery :=
    { delivery with
      deliveryPartnerId := none, status := .unassigned, assignedAt := none, updatedAt := draws.now }
  have frame := (Frame.refl coherent delivery.orderId).putDelivery released deliveryHeld rfl rfl
  refine ⟨((Session.start tables).write (·.putDelivery released)).flush, ?_, ?_⟩
  · simp only [resolveFailedDelivery, requireCapability_bind_ok, require_bind_ok,
      lockedDeliveryOrder_bind_ok, releasedDelivery_bind_ok, flushRows_bind_ok, pure_ok, Prod.mk.injEq,
      and_true]
    exact ⟨admin, ⟨administers.asking, administers.active⟩, administers.capable (by decide),
      by simp [atMost], delivery, carried, order, held, failed, custody, ready,
      by rw [failed]; decide, frame.coherent.toConstraints, rfl⟩
  · rw [Session.flush_pending, Session.write_pending, frame.here]
    exact ⟨order, released, orderHeld, rfl, .inl ⟨ready, rfl⟩⟩

/-- Goods on the road go back to the store, unless their cash is on record. -/
theorem returnToStore_succeeds (coherent : tables.Coherent) (fresh : draws.Fresh tables)
    (administers : Administers tables subject admin)
    (carried : tables.delivery? deliveryId = some delivery) (failed : delivery.status = .failed)
    (held : tables.order? delivery.orderId = some order) (out : order.status = .outForDelivery)
    (uncollected : order.paymentMethod = .cod → (tables.file delivery.orderId).collection = none)
    (stocked : tables.Stocked order) :
    ∃ result refund, resolveFailedDelivery (Session.start tables) subject deliveryId .returnToStore
      none draws = .ok (result, refund) ∧ (result.pending.file delivery.orderId).Resolved := by
  obtain ⟨orderHeld, deliveryHeld, own⟩ := file_of_delivery coherent carried held
  have frame := Frame.refl coherent delivery.orderId
  obtain ⟨⟨db, restored⟩, restoring⟩ : ∃ result,
      restoreOrderStockOnce (Session.start tables) order draws.now = .ok result :=
    restoreOrderStockOnce_succeeds draws.now frame stocked
  obtain ⟨restoredAt, rfl, stood, -, -, attempts, refunds, entries, adjustments⟩ :=
    restoreOrderStockOnce_frame frame held restoring
  let back : Order := { order with status := .returned, stockRestoredAt := restoredAt }
  have returned := stood.putOrder back rfl rfl rfl rfl rfl
  let flushed := (db.write (·.putOrder back)).flush
  obtain ⟨voidedFile, voidedFrame, voided, kept⟩ := voidSettlementForRefund_frame flushed back
    voidReasonReturned draws returned own rfl rfl (adjustments ▸ fresh.adjustment)
  have orderKept := voided.keptOrder
  have object := tracked_eq voidedFrame.coherent.orderIds
    (lookup_mem (voidedFrame.order_eq.trans orderKept))
  let voidedDb := voidSettlementForRefund flushed back voidReasonReturned draws
  obtain ⟨next, last, ensured, current⟩ := ensureRefundRequest_frame voidedDb back
    refundReasonReturned draws voidedFrame orderKept (kept.refundsFlushed rfl)
    (by rw [kept.refunds]; exact refunds ▸ fresh.refund)
  let answer := ensureRefundRequest voidedDb back refundReasonReturned draws
  refine ⟨answer.1, answer.2.2, ?_, ?_⟩
  · simp only [resolveFailedDelivery, requireCapability_bind_ok, require_bind_ok,
      lockedDeliveryOrder_bind_ok, returnToStore, ensureCapability_bind_ok]
    refine ⟨admin, ⟨administers.asking, administers.active⟩, administers.capable (by decide),
      by simp [atMost], delivery, carried, order, held, failed, administers.capable (by decide),
      administers.capable (by decide), by rw [out]; decide,
      fun cash => (Tables.file_collection deliveryHeld).symm.trans (uncollected cash), ?_⟩
    rw [bind_ok]
    refine ⟨_, restoring, ?_⟩
    simp only [transitionOrder_bind_ok, flushRows_bind_ok, pure_ok]
    refine ⟨by rw [out]; decide, returned.coherent.toConstraints, ?_⟩
    exact congrArg (fun seen => ((ensureRefundRequest voidedDb seen refundReasonReturned draws).1,
      (ensureRefundRequest voidedDb seen refundReasonReturned draws).2.2)) object
  · rw [last.here]
    exact ⟨_, delivery, current, ensured.keptDelivery.trans (voided.kept_rows.2.1.trans deliveryHeld),
      .inr (ensured.keptStatus orderKept current).1⟩

end

/-- Where the status screen names a rider with every assignment, a failed delivery stands in one
of two places. -/
theorem unresolved_stands
    (reached : ReachableWhile (system env) (fun world action => ¬world.forcesAssigned action) world)
    (held : (world.tables.file orderId).order = some order)
    (carried : (world.tables.file orderId).delivery = some delivery)
    (failed : delivery.status = .failed) (away : order.status ≠ .returned) :
    order.status = .ready ∧ delivery.pickedUpAt = none ∨
      order.status = .outForDelivery ∧ delivery.pickedUpAt ≠ none := by
  have stage := reachable_staged reached orderId order delivery held carried
  rw [failed] at stage
  generalize order.status = status at stage away
  generalize delivery.deliveryPartnerId = rider at stage
  generalize delivery.pickedUpAt = custody at stage
  cases stage with
  | refused => exact .inl ⟨rfl, rfl⟩
  | lost _ _ back =>
    simp only [List.mem_cons, List.not_mem_nil, or_false] at back
    exact .inr ⟨back.resolve_right away, by simp⟩

theorem unresolved_cash_stranded
    (reached : ReachableWhile (system env) (fun world action => ¬world.forcesAssigned action) world)
    (unresolved : (world.tables.file orderId).Unresolved)
    (cashHeld : (world.tables.file orderId).CashHeld) : (world.tables.file orderId).Stranded := by
  obtain ⟨order, delivery, held, carried, failed, away⟩ := unresolved
  obtain ⟨same, again, cash, recorded⟩ := cashHeld
  obtain ⟨collection, recorded⟩ := Option.isSome_iff_exists.mp recorded
  cases held.symm.trans again
  have handed := (reachable_handed reached.reachable orderId).collected delivery carried
    (by simp [recorded])
  rcases unresolved_stands reached held carried failed away with ⟨-, custody⟩ | ⟨out, -⟩
  · exact absurd custody handed
  · exact .of held carried out cash recorded (.inl failed)

/-- The request an administrator ends a failed delivery with takes effect. -/
theorem resolution_commits (coherent : world.tables.Coherent) (fresh : draws.Fresh world.tables)
    (ran : resolveFailedDelivery (Session.start world.tables) subject deliveryId resolution none draws =
      .ok (result, refund)) :
    (world.step env (.request settings (.resolveFailedDelivery subject deliveryId resolution none)
      draws)).tables = result.pending := by
  apply World.request_commits fresh
  · simp only [Request.handle, ran]
    rfl
  · exact resolveFailedDelivery_moves coherent fresh ran

/-- A failed delivery ends, by one request of an administrator, exactly where no cash is on
record, if its items are still listed; with cash on record no run of the system ends it. -/
theorem failed_deliveries_end
    (reached : ReachableWhile (system env) (fun world action => ¬world.forcesAssigned action) world)
    (unresolved : (world.tables.file orderId).Unresolved) :
    ((world.tables.file orderId).CashHeld → ∀ actions,
        ¬(((system env).run world actions).tables.file orderId).Resolved) ∧
      (¬(world.tables.file orderId).CashHeld → ∀ subject admin draws, Administers world.tables subject admin →
        draws.Fresh world.tables →
        (∀ order ∈ (world.tables.file orderId).order, world.tables.Stocked order) →
        ∃ deliveryId resolution, ∀ settings,
          ((world.step env (.request settings
            (.resolveFailedDelivery subject deliveryId resolution none) draws)).tables.file
              orderId).Resolved) := by
  have coherent := reachable_coherent reached.reachable
  constructor
  · rintro cashHeld actions ⟨order, delivery, held, -, open_⟩
    obtain ⟨placed, -, out, -, -, -⟩ := stranded_run reached.reachable
      (unresolved_cash_stranded reached unresolved cashHeld) actions
    cases held.symm.trans placed
    rw [out] at open_
    simp at open_
  · intro uncollected subject admin draws administers fresh stocked
    obtain ⟨order, delivery, held, carried, failed, away⟩ := unresolved
    have own : delivery.orderId = orderId := lookup_col carried
    subst own
    have row : world.tables.delivery? delivery.id = some delivery :=
      (lookup_eq_some_iff coherent.deliveryIds).mpr ⟨lookup_mem carried, rfl⟩
    rcases unresolved_stands reached held carried failed away with ⟨ready, custody⟩ | ⟨out, -⟩
    · obtain ⟨result, ran, resolved⟩ :=
        reassign_succeeds draws coherent administers row failed held ready custody
      refine ⟨delivery.id, .reassign, fun settings => ?_⟩
      rw [resolution_commits coherent fresh ran]
      exact resolved
    · have bare : order.paymentMethod = .cod →
          (world.tables.file delivery.orderId).collection = none := by
        intro cash
        by_contra recorded
        exact uncollected ⟨order, held, cash, Option.isSome_iff_ne_none.mpr recorded⟩
      obtain ⟨result, refund, ran, resolved⟩ := returnToStore_succeeds coherent fresh administers row
        failed held out bare (stocked order held)
      refine ⟨delivery.id, .returnToStore, fun settings => ?_⟩
      rw [resolution_commits coherent fresh ran]
      exact resolved

/-- A cash order that failed on the road, with its cash recorded or not. -/
def failedOnTheRoad (cash : List Action) : List Action :=
  placement .cod ++ preparation 2 ++ handover 5 ++ cash ++
    [sampleRequest 10 (.failDelivery 4 1 ⟨"vehicle_issue", none, none⟩)]

def cashRecorded : List Action := [sampleRequest 9 (.recordCodCollection 4 1 12000)]

theorem failedOnTheRoad_reached (cash : List Action) (recorded : cash = [] ∨ cash = cashRecorded) :
    ReachableWhile (system sampleEnvironment) (fun world action => ¬world.forcesAssigned action)
      (sampleWorld (failedOnTheRoad cash)) := by
  refine ReachableWhile.initial.run _ (RunWhile.of_forall ?_ _)
  intro action member world
  rcases recorded with rfl | rfl <;>
    simp only [failedOnTheRoad, cashRecorded, placement, preparation, handover, sampleRequest,
      List.cons_append, List.nil_append, List.mem_cons, List.not_mem_nil, or_false] at member <;>
    rcases member with rfl | rfl | rfl | rfl | rfl | rfl | rfl | rfl | rfl | rfl | rfl <;> exact id

theorem failed_deliveries_end_by_cash :
    (∀ actions, ¬(((system sampleEnvironment).run (sampleWorld (failedOnTheRoad cashRecorded))
        actions).tables.file 1).Resolved) ∧
      ∃ deliveryId resolution, ∀ settings,
        (((sampleWorld (failedOnTheRoad [])).step sampleEnvironment
          (.request settings (.resolveFailedDelivery 3 deliveryId resolution none)
            (sampleDraws 11))).tables.file 1).Resolved := by
  constructor
  · exact (failed_deliveries_end (failedOnTheRoad_reached cashRecorded (.inr rfl)) (by decide +kernel)).1
      (by decide +kernel)
  · refine (failed_deliveries_end (failedOnTheRoad_reached [] (.inl rfl)) (by decide +kernel)).2
      (by decide +kernel) 3 ⟨3, .admin, true, true, true⟩ (sampleDraws 11) ?_ ?_ ?_
    · exact ⟨by decide +kernel, rfl, rfl, rfl⟩
    · decide +kernel
    · decide +kernel

end GaonOne
