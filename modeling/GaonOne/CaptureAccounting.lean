import GaonOne.JointInvariant

/-! Where captured money goes. An order keeps one payment status and one refund row,
while its attempts may be captured several times, late, or for different payments; as
long as each capture falls on a live order that has seen no other payment, every
payment id on record backs the paid order or is named by its obligation. -/
namespace GaonOne
open Relational Transitions System

variable {env : Environment} {world : World} {file next : OrderFile}

/-- An order that is still on its way to its customer. -/
def Order.Live (order : Order) : Prop := order.status ≠ .cancelled ∧ order.status ≠ .returned

/-- A payment id is the only one on file and backs the paid order, or the obligation
names it. -/
inductive OrderFile.Backs (file : OrderFile) (order : Order) (paymentId : String) : Prop where
  | paid (paid : order.paymentStatus = .paid) (live : order.Live)
      (single : ∀ attempt ∈ file.attempts, ∀ other, attempt.providerPaymentId = some other →
        other = paymentId)
  | owed {refund : PaymentRefund} (recorded : file.refund = some refund)
      (names : refund.providerPaymentId = some paymentId)

/-- Every payment id on file is backed; an attempt that carries one is paid. -/
structure OrderFile.Backed (file : OrderFile) : Prop where
  sound : file.Sound
  identified : ∀ attempt ∈ file.attempts, ∀ paymentId,
    attempt.providerPaymentId = some paymentId → attempt.status = .paid
  backed : ∀ order, file.order = some order → ∀ attempt ∈ file.attempts, ∀ paymentId,
    attempt.providerPaymentId = some paymentId → file.Backs order paymentId

theorem OrderFile.Backed.of_empty : OrderFile.Backed {} := ⟨.of_empty, by simp, by simp⟩

/-- A capture that can be accounted for: the order is live and unrefunded and no other
payment is on file, or the obligation already names the payment. -/
def OrderFile.Accounts (file : OrderFile) (event : FileEvent) : Prop :=
  ∀ received paymentId order, event = .captured received → configured received = some paymentId →
    file.order = some order →
    (¬captureIsLate order ∧ ∀ attempt ∈ file.attempts, ∀ other,
      attempt.providerPaymentId = some other → other = paymentId) ∨
    ∃ refund, file.refund = some refund ∧ refund.providerPaymentId = some paymentId

/-! ## Payment ids through a step -/

theorem capturedAttempt_status (attempt : PaymentAttempt) (paymentId : Option String)
    (now : Instant) : (capturedAttempt attempt paymentId now).status = .paid := by
  obtain ⟨time, saved⟩ := capturedAttempt_eq attempt paymentId now
  rw [saved]

theorem capturedAttempt_payment (attempt : PaymentAttempt) (paymentId : Option String)
    (now : Instant) : (capturedAttempt attempt paymentId now).providerPaymentId =
      (configured paymentId).or attempt.providerPaymentId := by
  obtain ⟨time, saved⟩ := capturedAttempt_eq attempt paymentId now
  rw [saved]

theorem savedAttempt_payment (old new : PaymentAttempt) (now : Instant) :
    (savedAttempt old new now).providerPaymentId = new.providerPaymentId := by
  obtain ⟨time, saved⟩ := savedAttempt_eq old new now
  rw [saved]

/-- The payment ids after a capture are those before it and the one it names. -/
theorem captured_payments {attempts : List PaymentAttempt} (attempted : attempt ∈ attempts)
    (member : other ∈ put PaymentAttempt.id (capturedAttempt attempt received now) attempts)
    (carries : other.providerPaymentId = some paymentId) :
    configured received = some paymentId ∨
      ∃ old ∈ attempts, old.providerPaymentId = some paymentId := by
  rcases mem_put.mp member with ⟨rfl, -⟩ | ⟨inside, -⟩
  · rw [capturedAttempt_payment] at carries
    cases given : configured received with
    | none =>
      rw [given, Option.none_or] at carries
      exact Or.inr ⟨attempt, attempted, carries⟩
    | some named =>
      rw [given, Option.some_or] at carries
      exact Or.inl carries
  · exact Or.inr ⟨other, inside, carries⟩

/-- A write that keeps an attempt's payment id brings no new one. -/
theorem put_payments {attempts : List PaymentAttempt} (attempted : attempt ∈ attempts)
    (same : new.providerPaymentId = attempt.providerPaymentId)
    (member : other ∈ put PaymentAttempt.id new attempts)
    (carries : other.providerPaymentId = some paymentId) :
    ∃ old ∈ attempts, old.providerPaymentId = some paymentId := by
  rcases mem_put.mp member with ⟨rfl, -⟩ | ⟨inside, -⟩
  · exact ⟨attempt, attempted, same ▸ carries⟩
  · exact ⟨other, inside, carries⟩

theorem identified_put {attempts : List PaymentAttempt}
    (identified : ∀ attempt ∈ attempts, ∀ paymentId,
      attempt.providerPaymentId = some paymentId → attempt.status = .paid)
    (replaced : ∀ paymentId, new.providerPaymentId = some paymentId → new.status = .paid) :
    ∀ attempt ∈ put PaymentAttempt.id new attempts, ∀ paymentId,
      attempt.providerPaymentId = some paymentId → attempt.status = .paid := by
  intro attempt member paymentId carries
  rcases mem_put.mp member with ⟨rfl, -⟩ | ⟨inside, -⟩
  · exact replaced paymentId carries
  · exact identified attempt inside paymentId carries

/-- Without a captured payment no attempt carries an id. -/
theorem OrderFile.Backed.unidentified {order : Order} (backed : file.Backed)
    (held : file.order = some order)
    (unpaid : order.paymentStatus = .pending ∨ order.paymentStatus = .failed) :
    ∀ attempt ∈ file.attempts, ∀ paymentId, attempt.providerPaymentId ≠ some paymentId := by
  intro attempt member paymentId carries
  have money := (backed.sound.placed order held).captured attempt member
    (backed.identified attempt member paymentId carries)
  rcases unpaid with unpaid | unpaid <;> simp [unpaid] at money

/-- The captured payment of a file whose attempts carry one id carries that id. -/
theorem capturedPayment_single {attempts : List PaymentAttempt} (member : attempt ∈ attempts)
    (paid : attempt.status = .paid) (carries : attempt.providerPaymentId = some paymentId)
    (single : ∀ attempt ∈ attempts, ∀ other, attempt.providerPaymentId = some other →
      other = paymentId) :
    (capturedPayment attempts).bind (·.providerPaymentId) = some paymentId := by
  have candidate : attempt ∈ attempts.filter fun attempt =>
      attempt.status = .paid ∧ attempt.providerPaymentId.isSome := by
    simp [member, paid, carries]
  cases found : capturedPayment attempts with
  | none =>
    rw [capturedPayment, latest, List.argmax_eq_none] at found
    rw [found] at candidate
    cases candidate
  | some captured =>
    have inside := List.mem_filter.mp (latest_mem found)
    obtain ⟨-, set⟩ := of_decide_eq_true inside.2
    obtain ⟨other, named⟩ := Option.isSome_iff_exists.mp set
    rw [Option.bind_some, named, single captured inside.1 other named]

/-! ## One step -/

theorem FileStep.identified (step : FileStep event file next) (backed : file.Backed) :
    ∀ attempt ∈ next.attempts, ∀ paymentId,
      attempt.providerPaymentId = some paymentId → attempt.status = .paid := by
  have identified := backed.identified
  cases step with
  | unchanged | placed | advanced | assigned | assignedUnclaimed | released | pickedUp | failed
  | proofChanged | collected | refundClaimed | refundGivenUp | refundErrored | refundFailed
  | refundPending | refundRepeated | refundCleared | paidOut => exact identified
  | cancelled held allowed restoredAt ensured => rwa [ensured.keptAttempts]
  | returned held carried failed out uncollected restoredAt voided ensured =>
    rwa [ensured.keptAttempts, voided.keptAttempts]
  | completed held carried custody out gate proved verified collected now ensured =>
    rwa [ensured.keptAttempts]
  | resumed held online unpaid live attempted status now =>
    refine identified_put identified fun paymentId carries => ?_
    rw [savedAttempt_payment] at carries
    have paid := identified _ attempted paymentId carries
    rw [paid] at status
    simp at status
  | intended held online unpaid live providerOrderId draws =>
    intro attempt member paymentId carries
    rcases List.mem_append.mp member with inside | last
    · exact identified attempt inside paymentId carries
    · rw [List.mem_singleton.mp last] at carries
      cases carries
  | captured held attempted onTime now ensured =>
    rw [ensured.keptAttempts]
    exact identified_put identified fun _ _ => capturedAttempt_status ..
  | capturedLate held attempted late now =>
    exact identified_put identified fun _ _ => capturedAttempt_status ..
  | capturedAfterCancellation held attempted cancelled unrefunded now ensured =>
    rw [ensured.keptAttempts]
    exact identified_put identified fun _ _ => capturedAttempt_status ..
  | settlementChecked held onTime ensured => rwa [ensured.keptAttempts]
  | paymentFailed held attempted live unpaid now =>
    refine identified_put identified fun paymentId carries => ?_
    rw [savedAttempt_payment] at carries
    exact absurd carries (backed.unidentified held unpaid _ attempted paymentId)
  | refundSucceeded owed held first providerRefundId now voided => rwa [voided.keptAttempts]

/-- Rows that keep what backs a payment keep it backed. -/
theorem OrderFile.Backs.of_kept {order later : Order} (backs : file.Backs order paymentId)
    (payments : ∀ attempt ∈ next.attempts, ∀ paymentId, attempt.providerPaymentId = some paymentId →
      ∃ old ∈ file.attempts, old.providerPaymentId = some paymentId)
    (paid : order.paymentStatus = .paid → order.Live → later.paymentStatus = .paid ∧ later.Live)
    (refund : ∀ refund, file.refund = some refund → ∃ kept, next.refund = some kept ∧
      kept.providerPaymentId = refund.providerPaymentId) : next.Backs later paymentId := by
  cases backs with
  | paid money live single =>
    obtain ⟨stillPaid, stillLive⟩ := paid money live
    refine .paid stillPaid stillLive fun attempt member other carries => ?_
    obtain ⟨old, inside, carried⟩ := payments attempt member other carries
    exact single old inside other carried
  | owed recorded names =>
    obtain ⟨kept, current, same⟩ := refund _ recorded
    exact .owed current (same.trans names)

/-- Giving up an order turns the payment that backed it into the one that is owed. -/
theorem RefundEnsured.backs {later : Order}
    (ensured : RefundEnsured (capturedPayment attempts) file next) (order : Order)
    (held : file.order = some order) (online : order.paymentMethod = .upi)
    (unrefunded : order.paymentStatus = .paid → file.refund = none) (member : attempt ∈ attempts)
    (identified : attempt.status = .paid) (carries : attempt.providerPaymentId = some paymentId)
    (backed : (order.paymentStatus = .paid ∧ ∀ attempt ∈ attempts, ∀ other,
        attempt.providerPaymentId = some other → other = paymentId) ∨
      ∃ refund, file.refund = some refund ∧ refund.providerPaymentId = some paymentId) :
    next.Backs later paymentId := by
  cases ensured with
  | notOwed held' free =>
    cases held.symm.trans held'
    rcases backed with ⟨paid, -⟩ | ⟨refund, recorded, names⟩
    · exact absurd ⟨online, by simp [paid]⟩ free
    · exact .owed recorded names
  | onRecord held' owes recorded =>
    cases held.symm.trans held'
    rcases backed with ⟨paid, -⟩ | ⟨refund, recorded, names⟩
    · rw [unrefunded paid] at recorded
      cases recorded
    · exact .owed recorded names
  | recorded held' owes fresh reason draws =>
    rcases backed with ⟨-, single⟩ | ⟨refund, recorded, -⟩
    · exact .owed rfl (capturedPayment_single member identified carries single)
    · rw [fresh] at recorded
      cases recorded

/-- The two ways a payment is backed, for an obligation that is about to be ensured. -/
theorem OrderFile.Backs.cases {order : Order} (backs : file.Backs order paymentId) :
    (order.paymentStatus = .paid ∧ ∀ attempt ∈ file.attempts, ∀ other,
        attempt.providerPaymentId = some other → other = paymentId) ∨
      ∃ refund, file.refund = some refund ∧ refund.providerPaymentId = some paymentId := by
  cases backs with
  | paid money live single => exact Or.inl ⟨money, single⟩
  | owed recorded names => exact Or.inr ⟨_, recorded, names⟩

theorem FileStep.backed (step : FileStep event file next) (backed : file.Backed)
    (accounts : file.Accounts event) : next.Backed := by
  refine ⟨step.sound backed.sound, step.identified backed, ?_⟩
  have sole : ∀ {order later}, file.order = some order → file.order = some later → later = order :=
    fun held same => Option.some.inj (same.symm.trans held)
  -- a step that keeps what backs the payments
  have keeps : (∀ attempt ∈ next.attempts, ∀ paymentId, attempt.providerPaymentId = some paymentId →
        ∃ old ∈ file.attempts, old.providerPaymentId = some paymentId) →
      (∀ later, next.order = some later → ∃ order, file.order = some order ∧
        (order.paymentStatus = .paid → order.Live → later.paymentStatus = .paid ∧ later.Live)) →
      (∀ refund, file.refund = some refund → ∃ kept, next.refund = some kept ∧
        kept.providerPaymentId = refund.providerPaymentId) →
      ∀ later, next.order = some later → ∀ attempt ∈ next.attempts, ∀ paymentId,
        attempt.providerPaymentId = some paymentId → next.Backs later paymentId := by
    intro payments order refund later current attempt member paymentId carries
    obtain ⟨before, held, paid⟩ := order later current
    obtain ⟨old, inside, carried⟩ := payments attempt member paymentId carries
    exact (backed.backed before held old inside paymentId carried).of_kept payments paid refund
  have samePayments : next.attempts = file.attempts → ∀ attempt ∈ next.attempts, ∀ paymentId,
      attempt.providerPaymentId = some paymentId →
        ∃ old ∈ file.attempts, old.providerPaymentId = some paymentId :=
    fun same attempt member _ carries => ⟨attempt, same ▸ member, carries⟩
  have sameOrder : next.order = file.order → ∀ later, next.order = some later → ∃ order,
      file.order = some order ∧
        (order.paymentStatus = .paid → order.Live → later.paymentStatus = .paid ∧ later.Live) :=
    fun same later current => ⟨later, same ▸ current, fun paid live => ⟨paid, live⟩⟩
  have sameRefund : next.refund = file.refund → ∀ refund, file.refund = some refund →
      ∃ kept, next.refund = some kept ∧ kept.providerPaymentId = refund.providerPaymentId :=
    fun same refund recorded => ⟨refund, same.trans recorded, rfl⟩
  -- a refund row that changes keeps the payment it names
  have changedRefund : ∀ {old new : PaymentRefund}, file.refund = some old →
      next.refund = some new → new.providerPaymentId = old.providerPaymentId →
      ∀ refund, file.refund = some refund → ∃ kept, next.refund = some kept ∧
        kept.providerPaymentId = refund.providerPaymentId :=
    fun owed current same refund recorded => by
      cases owed.symm.trans recorded
      exact ⟨_, current, same⟩
  cases step with
  | unchanged | assigned | assignedUnclaimed | released | failed | proofChanged | collected | paidOut =>
    exact keeps (samePayments rfl) (sameOrder rfl) (sameRefund rfl)
  | placed order delivery absent =>
    have empty := backed.sound.unplaced absent
    subst empty
    simp
  | @advanced order status _ held target allowed gate =>
    refine keeps (samePayments rfl) (fun later current => ?_) (sameRefund rfl)
    cases current
    refine ⟨order, held, fun paid _ => ⟨paid, ?_, ?_⟩⟩
    · exact fun cancelled => by simp [show status = .cancelled from cancelled] at target
    · exact fun returned => by simp [show status = .returned from returned] at target
  | @cancelled order _ _ held allowed restoredAt ensured =>
    intro later current attempt member paymentId carries
    have base := backed.sound.placed order held
    rw [ensured.keptAttempts] at member
    exact ensured.backs { order with status := .cancelled, stockRestoredAt := restoredAt }
      rfl (base.online attempt member) (fun paid => base.unrefunded (by simp [show order.paymentStatus = .paid from paid]))
      member (backed.identified attempt member paymentId carries) carries
      (backed.backed order held attempt member paymentId carries).cases
  | @returned order _ _ _ _ held carried failed out uncollected restoredAt voided ensured =>
    intro later current attempt member paymentId carries
    have base := backed.sound.placed order held
    rw [ensured.keptAttempts, voided.keptAttempts] at member
    refine ensured.backs { order with status := .returned, stockRestoredAt := restoredAt }
      voided.keptOrder (base.online attempt member) (fun paid => ?_) member
      (backed.identified attempt member paymentId carries) carries ?_
    · rw [voided.keptRefund]
      exact base.unrefunded (by simp [show order.paymentStatus = .paid from paid])
    · rw [voided.keptRefund]
      exact (backed.backed order held attempt member paymentId carries).cases
  | pickedUp held carried assigned ready gate now =>
    refine keeps (samePayments rfl) (fun later current => ?_) (sameRefund rfl)
    cases current
    exact ⟨_, held, fun paid _ => ⟨paid, by simp, by simp⟩⟩
  | completed held carried custody out gate proved verified collected now ensured =>
    refine keeps (samePayments ensured.keptAttempts) (fun later current => ?_)
      (sameRefund ensured.keptRefund)
    cases current.symm.trans ensured.keptOrder
    exact ⟨_, held, fun _ _ => ⟨rfl, by simp, by simp⟩⟩
  | resumed held online unpaid live attempted status now =>
    exact keeps (fun _ member _ carries => put_payments attempted (by rw [savedAttempt_payment])
      member carries) (sameOrder rfl) (sameRefund rfl)
  | intended held online unpaid live providerOrderId draws =>
    refine keeps (fun attempt member paymentId carries => ?_) (sameOrder rfl) (sameRefund rfl)
    rcases List.mem_append.mp member with inside | last
    · exact ⟨attempt, inside, carries⟩
    · rw [List.mem_singleton.mp last] at carries
      cases carries
  | @captured order _ _ _ received held attempted onTime now ensured =>
    have base := backed.sound.placed order held
    have live : order.Live := by
      refine ⟨fun cancelled => onTime (Or.inl cancelled), fun returned => ?_⟩
      have owed := base.broughtBack returned (base.online _ attempted)
      simp only [captureIsLate, List.mem_cons, List.not_mem_nil, or_false] at onTime owed
      tauto
    cases given : configured received with
    | none =>
      refine keeps (fun attempt member paymentId carries => ?_) (fun later current => ?_)
        (sameRefund ensured.keptRefund)
      · rw [ensured.keptAttempts] at member
        exact (captured_payments attempted member carries).resolve_left (by simp [given])
      · cases current.symm.trans ensured.keptOrder
        exact ⟨order, held, fun _ live => ⟨rfl, live⟩⟩
    | some paymentId =>
      have single : ∀ old ∈ file.attempts, ∀ other, old.providerPaymentId = some other →
          other = paymentId := by
        rcases accounts received paymentId order rfl given held with ⟨-, single⟩ | ⟨refund, recorded, -⟩
        · exact single
        · have owed := base.toOrderBase.owing recorded
          simp only [captureIsLate, List.mem_cons, List.not_mem_nil, or_false] at onTime
          tauto
      have named : ∀ attempt ∈ next.attempts, ∀ other, attempt.providerPaymentId = some other →
          other = paymentId := by
        intro attempt member other carries
        rw [ensured.keptAttempts] at member
        rcases captured_payments attempted member carries with new | ⟨old, inside, carried⟩
        · rw [given] at new
          exact (Option.some.inj new).symm
        · exact single old inside other carried
      intro later current attempt member other carries
      cases current.symm.trans ensured.keptOrder
      rw [named attempt member other carries]
      exact .paid rfl live named
  | @capturedLate order _ received _ held attempted late now =>
    have owed : order.paymentStatus ≠ .paid := by
      rcases late with late | late <;> simp [late]
    intro later current other member paymentId carries
    cases held.symm.trans current
    rcases captured_payments attempted member carries with new | ⟨old, inside, carried⟩
    · rcases accounts received paymentId order rfl new held with ⟨onTime, -⟩ | ⟨refund, recorded, names⟩
      · exact absurd (Or.inr (by simpa using late)) onTime
      · exact .owed recorded names
    · rcases (backed.backed order held old inside paymentId carried).cases with ⟨paid, -⟩ |
        ⟨refund, recorded, names⟩
      · exact absurd paid owed
      · exact .owed recorded names
  | @capturedAfterCancellation order _ received _ _ held attempted cancelled unrefunded now ensured =>
    have base := backed.sound.placed order held
    have unpaid : order.paymentStatus = .pending ∨ order.paymentStatus = .failed := by
      have given := base.givenUp cancelled (base.online _ attempted)
      cases status : order.paymentStatus <;> simp_all
    intro later current other member paymentId carries
    rw [ensured.keptAttempts] at member
    rcases captured_payments attempted member carries with new | ⟨old, inside, carried⟩
    · rcases accounts received paymentId order rfl new held with ⟨onTime, -⟩ | ⟨refund, recorded, -⟩
      · exact absurd (Or.inl cancelled) onTime
      · have owed := base.toOrderBase.owing recorded
        exact absurd owed (by tauto)
    · exact absurd carried (backed.unidentified held unpaid old inside paymentId)
  | settlementChecked held onTime ensured =>
    exact keeps (samePayments ensured.keptAttempts) (sameOrder ensured.keptOrder)
      (sameRefund ensured.keptRefund)
  | paymentFailed held attempted live unpaid now =>
    intro later current other member paymentId carries
    obtain ⟨old, inside, carried⟩ := put_payments attempted (by rw [savedAttempt_payment])
      member carries
    exact absurd carried (backed.unidentified held unpaid old inside paymentId)
  | refundClaimed owed | refundGivenUp owed | refundErrored owed | refundFailed owed
  | refundPending owed | refundRepeated owed | refundCleared owed =>
    exact keeps (samePayments rfl) (sameOrder rfl) (changedRefund owed rfl rfl)
  | @refundSucceeded refund order _ _ owed held first providerRefundId now voided =>
    refine keeps (samePayments voided.keptAttempts) (fun later current => ?_)
      (changedRefund owed voided.keptRefund rfl)
    refine ⟨order, held, fun paid _ => ?_⟩
    have money := (backed.sound.placed order held).owed.mpr (by simp [owed])
    simp [paid] at money

/-! ## The history of captures -/

/-- A write keeps a payment id on file, unless it is the one that is replaced. -/
theorem payments_put {attempts : List PaymentAttempt}
    (ids : Relational.Unique PaymentAttempt.id attempts) (attempted : attempt ∈ attempts)
    (sameId : new.id = attempt.id) (member : holder ∈ attempts)
    (carries : holder.providerPaymentId = some paymentId)
    (kept : attempt.providerPaymentId = some paymentId → new.providerPaymentId = some paymentId) :
    ∃ kept ∈ put PaymentAttempt.id new attempts, kept.providerPaymentId = some paymentId := by
  by_cases replaced : holder.id = new.id
  · have same : holder = attempt := unique_eq ids member attempted (replaced.trans sameId)
    exact ⟨new, mem_put.mpr (Or.inl ⟨rfl, holder, member, replaced⟩), kept (same ▸ carries)⟩
  · exact ⟨holder, mem_put.mpr (Or.inr ⟨member, replaced⟩), carries⟩

theorem capturedAttempt_id (attempt : PaymentAttempt) (paymentId : Option String) (now : Instant) :
    (capturedAttempt attempt paymentId now).id = attempt.id := by
  obtain ⟨time, saved⟩ := capturedAttempt_eq attempt paymentId now
  rw [saved]

theorem savedAttempt_id (old new : PaymentAttempt) (now : Instant) :
    (savedAttempt old new now).id = new.id := by
  obtain ⟨time, saved⟩ := savedAttempt_eq old new now
  rw [saved]

/-- A capture of the payment that is on file, or of none, keeps it there. -/
theorem payments_recaptured {attempts : List PaymentAttempt}
    (ids : Relational.Unique PaymentAttempt.id attempts) (attempted : attempt ∈ attempts)
    (member : holder ∈ attempts) (carries : holder.providerPaymentId = some paymentId)
    (named : ∀ other, configured received = some other → other = paymentId) :
    ∃ kept ∈ put PaymentAttempt.id (capturedAttempt attempt received now) attempts,
      kept.providerPaymentId = some paymentId := by
  refine payments_put ids attempted (capturedAttempt_id ..) member carries fun own => ?_
  rw [capturedAttempt_payment]
  cases given : configured received with
  | none => exact own
  | some new => rw [Option.some_or, named new given]

/-- No payment id that was on file is overwritten by another. -/
theorem FileStep.recorded (step : FileStep event file next) (backed : file.Backed)
    (accounts : file.Accounts event) (ids : Relational.Unique PaymentAttempt.id file.attempts)
    (member : holder ∈ file.attempts) (carries : holder.providerPaymentId = some paymentId) :
    ∃ attempt ∈ next.attempts, attempt.providerPaymentId = some paymentId := by
  have still : next.attempts = file.attempts →
      ∃ attempt ∈ next.attempts, attempt.providerPaymentId = some paymentId :=
    fun same => ⟨holder, same ▸ member, carries⟩
  cases step with
  | unchanged | placed | advanced | assigned | assignedUnclaimed | released | pickedUp | failed
  | proofChanged | collected | refundClaimed | refundGivenUp | refundErrored | refundFailed
  | refundPending | refundRepeated | refundCleared | paidOut => exact still rfl
  | cancelled held allowed restoredAt ensured => exact still ensured.keptAttempts
  | returned held carried failed out uncollected restoredAt voided ensured =>
    exact still (ensured.keptAttempts.trans voided.keptAttempts)
  | completed held carried custody out gate proved verified collected now ensured =>
    exact still ensured.keptAttempts
  | resumed held online unpaid live attempted status now =>
    exact payments_put ids attempted (savedAttempt_id ..) member carries fun own => by
      rw [savedAttempt_payment]
      exact own
  | intended => exact ⟨holder, List.mem_append_left _ member, carries⟩
  | @captured order _ _ _ received held attempted onTime now ensured =>
    rw [ensured.keptAttempts]
    refine payments_recaptured ids attempted member carries fun named given => ?_
    rcases accounts received named order rfl given held with ⟨-, single⟩ | ⟨refund, recorded, -⟩
    · exact (single holder member paymentId carries).symm
    · have owed := (backed.sound.placed order held).toOrderBase.owing recorded
      simp only [captureIsLate, List.mem_cons, List.not_mem_nil, or_false] at onTime
      tauto
  | @capturedLate order _ received _ held attempted late now =>
    refine payments_recaptured ids attempted member carries fun named given => ?_
    rcases accounts received named order rfl given held with ⟨onTime, -⟩ | ⟨refund, recorded, names⟩
    · exact absurd (Or.inr (by simpa using late)) onTime
    · rcases (backed.backed order held holder member paymentId carries).cases with ⟨paid, -⟩ |
        ⟨other, recorded', names'⟩
      · rcases late with late | late <;> simp [late] at paid
      · cases recorded.symm.trans recorded'
        exact Option.some.inj (names.symm.trans names')
  | @capturedAfterCancellation order _ received _ _ held attempted cancelled unrefunded now ensured =>
    have base := backed.sound.placed order held
    have unpaid : order.paymentStatus = .pending ∨ order.paymentStatus = .failed := by
      have given := base.givenUp cancelled (base.online _ attempted)
      cases status : order.paymentStatus <;> simp_all
    exact absurd carries (backed.unidentified held unpaid holder member paymentId)
  | settlementChecked held onTime ensured => exact still ensured.keptAttempts
  | paymentFailed held attempted live unpaid now =>
    exact absurd carries (backed.unidentified held unpaid holder member paymentId)
  | refundSucceeded owed held first providerRefundId now voided => exact still voided.keptAttempts

/-- A step either commits nothing new or puts on record what the attempts then carry. -/
theorem World.step_captured (env : Environment) (world : World) (action : Action) :
    (world.step env action).captured = world.captured ∨
      (world.step env action).captured =
        world.captured ++ recordedPayments (world.step env action).tables := by
  have process : ∀ index pending next, (world.commitProcess index pending next).captured = world.captured ∨
      (world.commitProcess index pending next).captured =
        world.captured ++ recordedPayments (world.commitProcess index pending next).tables := by
    intro index pending next
    unfold World.commitProcess
    split
    · exact Or.inr rfl
    · exact Or.inl rfl
  cases action with
  | request settings request draws =>
    simp only [World.step, World.request]
    split
    · split
      · exact Or.inr rfl
      · exact Or.inl rfl
    · exact Or.inl rfl
  | dispatchDueRefunds => exact Or.inl rfl
  | retryRefund =>
    simp only [World.step, World.retryRefund]
    split <;> exact Or.inl rfl
  | commitRetry index =>
    simp only [World.step, World.commitRetry]
    split
    · exact process ..
    · exact Or.inl rfl
  | claimNext index now =>
    simp only [World.step, World.claimNext]
    split
    · exact process ..
    · exact Or.inl rfl
  | callProvider index accepts response =>
    simp only [World.step, World.callProvider]
    split
    · split
      · exact Or.inl rfl
      · split <;> exact Or.inl rfl
    · exact Or.inl rfl
  | recordAnswer index draws =>
    simp only [World.step, World.recordAnswer]
    split
    · split
      · exact process ..
      · exact Or.inl rfl
    · exact Or.inl rfl
  | crash index =>
    simp only [World.step]
    split <;> exact Or.inl rfl
  | payOut entryId now =>
    simp only [World.step, World.payOut]
    split
    · split
      · exact Or.inr rfl
      · exact Or.inl rfl
    · exact Or.inl rfl
  | editCatalogue => exact Or.inr rfl

theorem mem_recordedPayments : (orderId, paymentId) ∈ World.recordedPayments tables ↔
    ∃ attempt ∈ (tables.file orderId).attempts, attempt.providerPaymentId = some paymentId := by
  simp only [World.recordedPayments, List.mem_filterMap, Option.map_eq_some_iff, Prod.mk.injEq,
    Tables.file, mem_belonging]
  constructor
  · rintro ⟨attempt, member, _, carries, rfl, rfl⟩
    exact ⟨attempt, ⟨member, rfl⟩, carries⟩
  · rintro ⟨attempt, ⟨member, rfl⟩, carries⟩
    exact ⟨attempt, member, paymentId, carries, rfl, rfl⟩

/-! ## Runs -/

/-- A captured payment of an order is accounted for: it is the only one captured for an
order that is paid and live, or a refund of the order names it. -/
inductive World.Accounted (world : World) (orderId : UUID) (paymentId : String) : Prop where
  | paid (held : order ∈ world.tables.orders) (own : order.id = orderId)
      (paid : order.paymentStatus = .paid) (live : order.Live)
      (single : ∀ other, (orderId, other) ∈ world.captured → other = paymentId)
  | owed (recorded : refund ∈ world.tables.paymentRefunds) (own : refund.orderId = orderId)
      (names : refund.providerPaymentId = some paymentId)

/-- Every payment that was ever captured is accounted for. -/
def World.AllAccounted (world : World) : Prop :=
  ∀ orderId paymentId, (orderId, paymentId) ∈ world.captured → world.Accounted orderId paymentId

/-- If the action is an accepted capture, it falls on an order that is neither cancelled
nor being refunded and whose attempts record no other payment, or repeats the payment
that the order's refund names. -/
def World.accountsFor (env : Environment) (world : World) (action : Action) : Prop :=
  ∀ attempt order received paymentId, world.capturing env action = some (attempt, order, received) →
    configured received = some paymentId →
    (¬captureIsLate order ∧ ∀ other ∈ world.tables.paymentAttempts, other.orderId = order.id →
      ∀ named, other.providerPaymentId = some named → named = paymentId) ∨
    ∃ refund ∈ world.tables.paymentRefunds, refund.orderId = order.id ∧
      refund.providerPaymentId = some paymentId

theorem captureSignal_order
    (signal : captureSignal env settings tables request = some (attempt, order, received)) :
    tables.order? attempt.orderId = some order := by
  simp only [captureSignal, Option.bind_eq_some_iff] at signal
  obtain ⟨payload, -, signal⟩ := signal
  split at signal
  · obtain ⟨read, -⟩ := Option.filter_eq_some_iff.mp signal
    cases reading : readPaymentEvent env tables payload with
    | error raised => simp [reading, Except.toOption] at read
    | ok found =>
      simp only [reading, Except.toOption, Option.join_some] at read
      exact (readPaymentEvent_ok (reading.trans (congrArg Except.ok read))).2
  · cases signal

theorem verifiedCapture_order
    (verified : verifiedCapture env settings tables subject payload = some (attempt, order)) :
    tables.order? attempt.orderId = some order := by
  unfold verifiedCapture at verified
  split at verified
  · next reading =>
    split at verified
    · cases verified
    · split at verified
      · split at verified
        · cases verified
          exact (readVerification_ok reading).2
        · cases verified
      · cases verified
  · cases verified

/-- The order that a capture is applied to is the attempt's. -/
theorem World.capturing_order (capture : world.capturing env action = some (attempt, order, received)) :
    world.tables.order? attempt.orderId = some order := by
  unfold World.capturing at capture
  split at capture
  · split at capture
    · exact captureSignal_order capture
    · cases capture
  · split at capture
    · simp only [Option.map_eq_some_iff, Prod.mk.injEq] at capture
      obtain ⟨⟨_, _⟩, verified, rfl, rfl, rfl⟩ := capture
      exact verifiedCapture_order verified
    · cases capture
  · cases capture

/-- A capture that an action accounts for is one the file accounts for. -/
theorem World.accountsFor_file (coherent : world.tables.Coherent)
    (accounts : world.accountsFor env action)
    (explained : world.Explains env action orderId event) :
    (world.tables.file orderId).Accounts event := by
  rintro received paymentId order rfl given held
  obtain ⟨attempt, captured, capture, own⟩ := explained
  have placed : world.tables.order? orderId = some captured := by
    have found := World.capturing_order capture
    rwa [← lookup_col found, own] at found
  cases held.symm.trans placed
  have sameOrder : order.id = orderId := lookup_col held
  rcases accounts attempt order received paymentId capture given with ⟨onTime, single⟩ |
    ⟨refund, member, parent, names⟩
  · refine Or.inl ⟨onTime, fun other inside named carries => ?_⟩
    obtain ⟨member, parent⟩ := mem_belonging.mp inside
    exact single other member (parent.trans sameOrder.symm) named carries
  · refine Or.inr ⟨refund, ?_, names⟩
    rw [← sameOrder, ← parent]
    exact coherent.file_refund member

/-- The payments of a world: every file backs its own, and no capture was forgotten. -/
structure World.Accounts (world : World) : Prop where
  backed : ∀ orderId, (world.tables.file orderId).Backed
  recorded : ∀ orderId paymentId, (orderId, paymentId) ∈ world.captured →
    ∃ attempt ∈ (world.tables.file orderId).attempts, attempt.providerPaymentId = some paymentId

theorem reachable_accounts (reached : ReachableWhile (system env) (World.accountsFor env) world) :
    world.Accounts := by
  refine reached.invariant_given (Q := Reachable (system env)) ?_ (fun _ held => held) ?_
  · exact ⟨fun _ => OrderFile.Backed.of_empty, by simp [system, World.empty]⟩
  · intro world action earlier accounts accountable
    have coherent := reachable_coherent earlier
    have attemptIds : ∀ orderId,
        Relational.Unique PaymentAttempt.id (world.tables.file orderId).attempts := fun _ =>
      coherent.attemptIds.sublist (List.filter_sublist.map _)
    refine ⟨fun orderId => ?_, fun orderId paymentId captured => ?_⟩
    · obtain ⟨event, explained, step⟩ := step_file earlier action orderId
      exact step.backed (accounts.backed orderId)
        (World.accountsFor_file coherent accountable explained)
    · obtain ⟨event, explained, step⟩ := step_file earlier action orderId
      have before : (orderId, paymentId) ∈ world.captured → ∃ attempt ∈
          ((world.step env action).tables.file orderId).attempts,
            attempt.providerPaymentId = some paymentId := by
        intro known
        obtain ⟨holder, member, carries⟩ := accounts.recorded orderId paymentId known
        exact step.recorded (accounts.backed orderId)
          (World.accountsFor_file coherent accountable explained) (attemptIds orderId) member carries
      change (orderId, paymentId) ∈ (world.step env action).captured at captured
      rcases World.step_captured env world action with same | grown
      · exact before (same ▸ captured)
      · rw [grown] at captured
        rcases List.mem_append.mp captured with known | new
        · exact before known
        · exact mem_recordedPayments.mp new

/-- Where every capture can be accounted for, every captured payment is. -/
theorem captures_accounted (reached : ReachableWhile (system env) (World.accountsFor env) world) :
    world.AllAccounted := by
  intro orderId paymentId captured
  have accounts := reachable_accounts reached
  obtain ⟨attempt, member, carries⟩ := accounts.recorded orderId paymentId captured
  have backed := accounts.backed orderId
  obtain ⟨order, held, -⟩ := backed.sound.order_of_ne fun empty => by simp [empty] at member
  cases backed.backed order held attempt member paymentId carries with
  | paid money live single =>
    refine .paid (lookup_mem held) (lookup_col held) money live fun other known => ?_
    obtain ⟨holder, inside, carried⟩ := accounts.recorded orderId other known
    exact single holder inside other carried
  | owed recorded names => exact .owed (lookup_mem recorded) (lookup_col recorded) names

theorem captures_accounted_paid : (sampleWorld paidOrder).AllAccounted := by
  have quiet : ReachableWhile (system sampleEnvironment) (World.accountsFor sampleEnvironment)
      (sampleWorld intended) := by
    refine ReachableWhile.initial.run intended (RunWhile.of_forall ?_ _)
    intro action member world attempt order received paymentId capture
    simp only [intended, placement, sampleRequest, List.cons_append, List.nil_append, List.mem_cons,
      List.not_mem_nil, or_false] at member
    rcases member with rfl | rfl | rfl <;> cases capture
  have live : ∀ order ∈ (sampleWorld intended).tables.orders, ¬captureIsLate order := by
    decide +kernel
  have untouched : ∀ attempt ∈ (sampleWorld intended).tables.paymentAttempts,
      attempt.providerPaymentId = none := by
    decide +kernel
  have onTime : World.accountsFor sampleEnvironment (sampleWorld intended)
      (sampleWebhook 3 "evt_capture" firstCapture) := by
    intro attempt order received paymentId capture given
    refine Or.inl ⟨live order (lookup_mem (World.capturing_order capture)), ?_⟩
    intro other member own named carries
    rw [untouched other member] at carries
    cases carries
  exact captures_accounted (quiet.next onTime)

/-- The provider captures two payments for one provider order. -/
def secondPayment : List Action := paidOrder ++ [sampleWebhook 4 "evt_second" secondCapture]

/-- The first payment is gone from every row. -/
theorem second_capture_unaccounted :
    Reachable (system sampleEnvironment) (sampleWorld secondPayment) ∧
      ¬(sampleWorld secondPayment).AllAccounted := by
  refine ⟨sampleWorld_reachable _, fun accounted => ?_⟩
  have first : ((1 : UUID), "pay_1") ∈ (sampleWorld secondPayment).captured := by decide +kernel
  have second : ((1 : UUID), "pay_2") ∈ (sampleWorld secondPayment).captured := by decide +kernel
  cases accounted 1 "pay_1" first with
  | paid held own paid live single => exact absurd (single "pay_2" second) (by decide)
  | owed recorded own names =>
    have unrefunded : (sampleWorld secondPayment).tables.paymentRefunds = [] := by decide +kernel
    rw [unrefunded] at recorded
    cases recorded

end GaonOne
