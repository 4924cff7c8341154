import GaonOne.NotificationDelivery

/-! The outbox across crashes. An event is never lost; and as long as no flush is stopped
between a push that arrived and its commit, and no delivery is put off after one, no event is
pushed twice to one device. -/
namespace GaonOne
open Relational Transitions

/-- Nothing of the event has reached a device. -/
def Unpushed (pushes : List (UUID × String)) (id : UUID) : Prop := ∀ token, (id, token) ∉ pushes

instance (pushes : List (UUID × String)) (id : UUID) : Decidable (Unpushed pushes id) :=
  decidable_of_iff (id ∉ pushes.map Prod.fst) (by simp [Unpushed])

/-- The loop is over, nobody took the push, and the event is to be tried again. -/
def PushRound.PutOff (round : PushRound) : Prop :=
  round.rest = [] ∧ round.sent = 0 ∧ ¬(round.invalid ≠ [] ∧ round.lastError = "") ∧
    round.event.attemptCount + 1 < MAX_DELIVERY_ATTEMPTS

/-- The loop is over, nobody took the push, some token was stale, and of the other errors the last
has no text. -/
def PushRound.Misfolded (round : PushRound) : Prop :=
  round.rest = [] ∧ round.sent = 0 ∧ round.invalid ≠ [] ∧ round.lastError = "" ∧
    ∃ device ∈ round.tried, device.token ∉ round.invalid

instance (round : PushRound) : Decidable round.PutOff := inferInstanceAs (Decidable (_ ∧ _))

instance (round : PushRound) : Decidable round.Misfolded := inferInstanceAs (Decidable (_ ∧ _))

/-- No flush is stopped after something it has locked has reached a device, no delivery is put off
whose push has arrived, and none is misfolded. -/
def PushesRecorded (outbox : Outbox) : OutboxAction → Prop
  | .crash index => ∀ flush ∈ outbox.flush? index, ∀ push ∈ outbox.pushes, push.1 ∉ flush.claims
  | .settle index _ => ∀ flush ∈ outbox.flush? index, ∀ round ∈ flush.round,
      (round.PutOff → Unpushed outbox.pushes round.event.id) ∧ ¬round.Misfolded
  | _ => True

instance (outbox : Outbox) : (action : OutboxAction) → Decidable (PushesRecorded outbox action)
  | .crash index =>
    inferInstanceAs (Decidable (∀ flush ∈ outbox.flush? index, ∀ push ∈ outbox.pushes, push.1 ∉ flush.claims))
  | .settle index _ => inferInstanceAs (Decidable (∀ flush ∈ outbox.flush? index, ∀ round ∈ flush.round,
      (round.PutOff → Unpushed outbox.pushes round.event.id) ∧ ¬round.Misfolded))
  | .send .. | .enqueue .. | .register _ | .start .. | .next .. | .commit _ => .isTrue trivial

namespace NotificationEvent

theorem SameNotice.refl (event : NotificationEvent) : SameNotice event event :=
  ⟨rfl, rfl, rfl, rfl, rfl, rfl, rfl⟩

theorem SameNotice.trans (first : SameNotice event middle) (second : SameNotice middle now) :
    SameNotice event now where
  id := second.id.trans first.id
  userId := second.userId.trans first.userId
  eventType := second.eventType.trans first.eventType
  title := second.title.trans first.title
  body := second.body.trans first.body
  data := second.data.trans first.data
  createdAt := second.createdAt.trans first.createdAt

/-- What a status says of an event is so. -/
structure Truthful (configured : Bool) (pushes : List (UUID × String)) (event : NotificationEvent) :
    Prop where
  sent : event.status = .sent → ∃ token, (event.id, token) ∈ pushes
  dead : event.status = .dead → MAX_DELIVERY_ATTEMPTS ≤ event.attemptCount
  inAppOnly : event.status = .inAppOnly → configured = false

section
variable {configured : Bool} {event : NotificationEvent} {pushes : List (UUID × String)}

theorem sameNotice_defer (message : String) (now : Instant) : SameNotice event (event.defer message now) := by
  unfold defer
  dsimp only
  split <;> exact ⟨rfl, rfl, rfl, rfl, rfl, rfl, rfl⟩

/-- A deferred event is pending, or has been tried often enough. -/
theorem defer_status (event : NotificationEvent) (message : String) (now : Instant) :
    (event.defer message now).status = .pending ∨ (event.defer message now).status = .dead ∧
      MAX_DELIVERY_ATTEMPTS ≤ (event.defer message now).attemptCount := by
  unfold defer
  dsimp only
  split
  · next enough => exact .inr ⟨rfl, enough⟩
  · exact .inl rfl

theorem truthful_defer (message : String) (now : Instant) :
    (event.defer message now).Truthful configured pushes := by
  rcases defer_status event message now with pending | ⟨dead, enough⟩
  · constructor <;> intro other <;> rw [pending] at other <;> cases other
  · constructor
    · intro other
      rw [dead] at other
      cases other
    · exact fun _ => enough
    · intro other
      rw [dead] at other
      cases other

/-- What is put off and still pending has attempts left. -/
theorem defer_pending (pending : (event.defer message now).status = .pending) :
    event.attemptCount + 1 < MAX_DELIVERY_ATTEMPTS := by
  unfold defer at pending
  dsimp only at pending
  split at pending
  · cases pending
  · next less => exact Nat.lt_of_not_le less

theorem Truthful.mono (truthful : event.Truthful configured pushes) (push : UUID × String) :
    event.Truthful configured (pushes ++ [push]) where
  sent status := by
    obtain ⟨token, pushed⟩ := truthful.sent status
    exact ⟨token, List.mem_append_left _ pushed⟩
  dead := truthful.dead
  inAppOnly := truthful.inAppOnly

end
end NotificationEvent

theorem unpushed_append (unpushed : Unpushed pushes key) (differ : push.1 ≠ key) :
    Unpushed (pushes ++ [push]) key := by
  intro token listed
  rcases List.mem_append.mp listed with earlier | new
  · exact unpushed token earlier
  · rw [← List.mem_singleton.mp new] at differ
    exact differ rfl

/-! ## What holds of a flush -/

/-- What a settled event will become, and why. -/
structure SettledSound (configured : Bool) (events : List NotificationEvent)
    (pushes : List (UUID × String)) (event : NotificationEvent) : Prop where
  origin : ∃ old ∈ events, old.status = .pending ∧ old.SameNotice event
  waits : event.status = .pending → Unpushed pushes event.id
  truthful : event.Truthful configured pushes

structure RoundSound (events : List NotificationEvent) (pushes : List (UUID × String))
    (round : PushRound) : Prop where
  event : round.event ∈ events
  pending : round.event.status = .pending
  tokens : ((round.tried ++ round.rest).map DeviceRegistration.token).Nodup
  /-- Only a device that was tried can have been reached. -/
  reached : ∀ token, (round.event.id, token) ∈ pushes → token ∈ round.tried.map DeviceRegistration.token
  sent : round.sent ≠ 0 → ∃ token, (round.event.id, token) ∈ pushes
  asked : round.tried ++ round.rest ≠ []

structure FlushSound (configured : Bool) (events : List NotificationEvent)
    (pushes : List (UUID × String)) (flush : Flush) : Prop where
  distinct : flush.claims.Nodup
  remaining : ∀ event ∈ flush.remaining,
    event ∈ events ∧ event.status = .pending ∧ Unpushed pushes event.id
  round : ∀ round ∈ flush.round, RoundSound events pushes round
  settled : ∀ event ∈ flush.settled, SettledSound configured events pushes event

/-- What holds of the outbox between any two steps. -/
structure OutboxSound (configured : Bool) (outbox : Outbox) : Prop where
  ids : Unique NotificationEvent.id outbox.events
  tokens : Unique DeviceRegistration.token outbox.devices
  once : outbox.pushes.Nodup
  known : ∀ push ∈ outbox.pushes, ∃ event ∈ outbox.events, event.id = push.1
  flushes : ∀ index flush, outbox.flush? index = some flush →
    FlushSound configured outbox.events outbox.pushes flush
  apart : ∀ index other flush rival, index ≠ other → outbox.flush? index = some flush →
    outbox.flush? other = some rival → ∀ id ∈ flush.claims, id ∉ rival.claims
  /-- What nobody is delivering has reached nobody. -/
  waiting : ∀ event ∈ outbox.events, event.status = .pending → event.id ∉ outbox.locked →
    Unpushed outbox.pushes event.id
  truthful : ∀ event ∈ outbox.events, event.Truthful configured outbox.pushes

section
variable {configured : Bool} {outbox : Outbox} {flush : Flush}

theorem Outbox.mem_locked :
    key ∈ outbox.locked ↔ ∃ index flush, outbox.flush? index = some flush ∧ key ∈ flush.claims := by
  simp only [Outbox.locked, List.mem_flatMap, Outbox.flush?, Option.mem_toList, Option.join_eq_some_iff]
  constructor
  · rintro ⟨slot, listed, flush, rfl, claimed⟩
    obtain ⟨index, there⟩ := List.mem_iff_getElem?.mp listed
    exact ⟨index, flush, there, claimed⟩
  · rintro ⟨index, flush, there, claimed⟩
    exact ⟨some flush, List.mem_of_getElem? there, flush, rfl, claimed⟩

/-- The flush of a slot that is written, and those of the others. -/
theorem Outbox.flush?_setFlush (held : outbox.flush? index = some old) (new : Option Flush) (other : Nat) :
    (outbox.setFlush index new).flush? other = if index = other then new else outbox.flush? other := by
  have bound : index < outbox.flushes.length := by
    by_contra past
    rw [Outbox.flush?, List.getElem?_eq_none (by omega)] at held
    cases held
  unfold Outbox.flush? Outbox.setFlush
  rw [List.getElem?_set]
  by_cases same : index = other
  · rw [if_pos same, if_pos (same ▸ bound), if_pos same]
    rfl
  · rw [if_neg same, if_neg same]

theorem Outbox.flush?_start (outbox : Outbox) (limit : Nat) (now : Instant) (other : Nat) :
    (outbox.step configured (.start limit now)).flush? other =
      if outbox.flushes.length = other then some { remaining := outbox.dueEvents limit now }
      else outbox.flush? other := by
  change (outbox.flushes ++ [some _])[other]?.join = _
  rw [List.getElem?_append]
  by_cases new : outbox.flushes.length = other
  · subst new
    simp
  · rw [if_neg new]
    split
    · rfl
    · next past =>
      rw [List.getElem?_eq_none (by simp; omega), Outbox.flush?, List.getElem?_eq_none (by omega)]

theorem Flush.mem_claims : key ∈ flush.claims ↔ (∃ event ∈ flush.remaining, event.id = key) ∨
    (∃ round ∈ flush.round, round.event.id = key) ∨ ∃ event ∈ flush.settled, event.id = key := by
  simp only [Flush.claims, List.mem_map, List.mem_append, Option.mem_toList, or_and_right, exists_or,
    or_assoc, Option.mem_def]
  refine or_congr_right (or_congr_left ?_)
  constructor
  · rintro ⟨event, ⟨round, held, rfl⟩, same⟩
    exact ⟨round, held, same⟩
  · rintro ⟨round, held, same⟩
    exact ⟨round.event, ⟨round, held, rfl⟩, same⟩

section
variable {events : List NotificationEvent} {pushes : List (UUID × String)} {push : UUID × String}

/-- What a flush has locked is pending. -/
theorem FlushSound.claimed (sound : FlushSound configured events pushes flush)
    (claimed : key ∈ flush.claims) : ∃ event ∈ events, event.id = key ∧ event.status = .pending := by
  rcases Flush.mem_claims.mp claimed with ⟨event, listed, same⟩ | ⟨round, held, same⟩ | ⟨event, listed, same⟩
  · exact ⟨event, (sound.remaining event listed).1, same, (sound.remaining event listed).2.1⟩
  · exact ⟨round.event, (sound.round round held).event, same, (sound.round round held).pending⟩
  · obtain ⟨old, inside, pending, notice⟩ := (sound.settled event listed).origin
    exact ⟨old, inside, notice.id.symm.trans same, pending⟩

theorem SettledSound.append (sound : SettledSound configured events pushes event) (differ : push.1 ≠ event.id) :
    SettledSound configured events (pushes ++ [push]) event where
  origin := sound.origin
  waits pending := unpushed_append (sound.waits pending) differ
  truthful := sound.truthful.mono push

/-- A push of an event that this flush has not locked. -/
theorem FlushSound.append (sound : FlushSound configured events pushes flush)
    (elsewhere : push.1 ∉ flush.claims) : FlushSound configured events (pushes ++ [push]) flush where
  distinct := sound.distinct
  remaining event listed := by
    obtain ⟨inside, pending, unpushed⟩ := sound.remaining event listed
    refine ⟨inside, pending, unpushed_append unpushed fun same => elsewhere ?_⟩
    exact Flush.mem_claims.mpr (.inl ⟨event, listed, same.symm⟩)
  round round held := by
    have kept := sound.round round held
    have differ : push.1 ≠ round.event.id := fun same =>
      elsewhere (Flush.mem_claims.mpr (.inr (.inl ⟨round, held, same.symm⟩)))
    refine ⟨kept.event, kept.pending, kept.tokens, fun token listed => ?_, fun sent => ?_, kept.asked⟩
    · rcases List.mem_append.mp listed with earlier | new
      · exact kept.reached token earlier
      · rw [← List.mem_singleton.mp new] at differ
        exact absurd rfl differ
    · obtain ⟨token, pushed⟩ := kept.sent sent
      exact ⟨token, List.mem_append_left _ pushed⟩
  settled event listed := by
    refine (sound.settled event listed).append fun same => elsewhere ?_
    exact Flush.mem_claims.mpr (.inr (.inr ⟨event, listed, same.symm⟩))

end

/-- A flush that claims what it claimed goes on; another push may have reached a device. -/
theorem OutboxSound.proceed {after : Outbox} (sound : OutboxSound configured outbox)
    (held : outbox.flush? index = some old) (new : Flush)
    (claims : ∀ key, key ∈ new.claims ↔ key ∈ old.claims) (events : after.events = outbox.events)
    (devices : after.devices = outbox.devices)
    (slots : ∀ other, after.flush? other = if index = other then some new else outbox.flush? other)
    (pushes : after.pushes = outbox.pushes ∨ ∃ push, after.pushes = outbox.pushes ++ [push] ∧
      push.1 ∈ old.claims ∧ push ∉ outbox.pushes)
    (next : FlushSound configured outbox.events after.pushes new) : OutboxSound configured after where
  ids := events ▸ sound.ids
  tokens := devices ▸ sound.tokens
  once := by
    rcases pushes with same | ⟨push, more, -, fresh⟩
    · exact same ▸ sound.once
    · rw [more]
      exact List.nodup_append.mpr ⟨sound.once, List.nodup_singleton _, fun entry earlier other new same =>
        fresh (List.mem_singleton.mp new ▸ same ▸ earlier)⟩
  known := by
    rw [events]
    rcases pushes with same | ⟨push, more, own, -⟩
    · exact same ▸ sound.known
    · rw [more]
      intro entry listed
      rcases List.mem_append.mp listed with earlier | new
      · exact sound.known entry earlier
      · obtain ⟨event, inside, same, -⟩ := (sound.flushes index old held).claimed own
        rw [List.mem_singleton.mp new]
        exact ⟨event, inside, same⟩
  flushes := by
    intro other flush there
    rw [events]
    rw [slots] at there
    by_cases same : index = other
    · rw [if_pos same] at there
      cases there
      exact next
    · rw [if_neg same] at there
      rcases pushes with unchanged | ⟨push, more, own, -⟩
      · exact unchanged ▸ sound.flushes other flush there
      · rw [more]
        exact (sound.flushes other flush there).append (sound.apart index other old flush same held there _ own)
  apart := by
    intro left right first second differ here there key mine theirs
    rw [slots] at here there
    by_cases own : index = left
    · subst own
      rw [if_pos rfl] at here
      rw [if_neg differ] at there
      cases here
      exact sound.apart _ right old second differ held there key ((claims key).mp mine) theirs
    · rw [if_neg own] at here
      by_cases other : index = right
      · subst other
        rw [if_pos rfl] at there
        cases there
        exact sound.apart left _ first old differ here held key mine ((claims key).mp theirs)
      · rw [if_neg other] at there
        exact sound.apart left right first second differ here there key mine theirs
  waiting := by
    intro event listed pending free
    rw [events] at listed
    have locked : ∀ key, key ∈ after.locked ↔ key ∈ outbox.locked := by
      intro key
      rw [Outbox.mem_locked, Outbox.mem_locked]
      constructor
      · rintro ⟨other, flush, there, claimed⟩
        rw [slots] at there
        by_cases same : index = other
        · rw [if_pos same] at there
          cases there
          exact ⟨index, old, held, (claims key).mp claimed⟩
        · rw [if_neg same] at there
          exact ⟨other, flush, there, claimed⟩
      · rintro ⟨other, flush, there, claimed⟩
        by_cases same : index = other
        · subst same
          cases held.symm.trans there
          exact ⟨index, new, by rw [slots, if_pos rfl], (claims key).mpr claimed⟩
        · exact ⟨other, flush, by rw [slots, if_neg same]; exact there, claimed⟩
    have before : event.id ∉ outbox.locked := fun claimed => free ((locked _).mpr claimed)
    have unpushed := sound.waiting event listed pending before
    rcases pushes with same | ⟨push, more, own, -⟩
    · exact same ▸ unpushed
    · rw [more]
      refine unpushed_append unpushed fun same => before ?_
      exact Outbox.mem_locked.mpr ⟨index, old, held, same ▸ own⟩
  truthful := by
    rw [events]
    intro event listed
    rcases pushes with same | ⟨push, more, -, -⟩
    · exact same ▸ sound.truthful event listed
    · rw [more]
      exact (sound.truthful event listed).mono push

/-! ## Each step -/

/-- The next event is settled at once. -/
theorem FlushSound.settleNext {flush : Flush} (sound : FlushSound configured events pushes flush)
    (head : flush.remaining = event :: rest) (next : NotificationEvent) (notice : event.SameNotice next)
    (truthful : next.Truthful configured pushes) :
    FlushSound configured events pushes
      { flush with remaining := rest, settled := flush.settled ++ [next] } ∧
      ∀ key, key ∈ ({ flush with remaining := rest, settled := flush.settled ++ [next] } : Flush).claims ↔
        key ∈ flush.claims := by
  have own := sound.remaining event (head ▸ List.mem_cons_self)
  have perm : (({ flush with remaining := rest, settled := flush.settled ++ [next] } : Flush).claims).Perm
      flush.claims := by
    simp only [Flush.claims, head, List.map_append, List.map_cons, List.map_nil, notice.id, List.cons_append]
    rw [← List.append_assoc]
    exact List.perm_append_singleton _ _
  refine ⟨⟨perm.nodup_iff.mpr sound.distinct, fun other listed => ?_, sound.round, fun other listed => ?_⟩,
    fun key => perm.mem_iff⟩
  · exact sound.remaining other (head ▸ List.mem_cons_of_mem _ listed)
  · rcases List.mem_append.mp listed with earlier | new
    · exact sound.settled other earlier
    · rw [List.mem_singleton.mp new]
      refine ⟨⟨event, own.1, own.2.1, notice⟩, fun _ => ?_, truthful⟩
      rw [notice.id]
      exact own.2.2

theorem OutboxSound.next (sound : OutboxSound configured outbox) (index : Nat) (usable : Bool)
    (now : Instant) : OutboxSound configured (outbox.step configured (.next index usable now)) := by
  unfold Outbox.step
  dsimp only
  split
  · next event rest settled stale held =>
    have before := sound.flushes index _ held
    have own := before.remaining event List.mem_cons_self
    have settle (later : NotificationEvent) (notice : event.SameNotice later)
        (truthful : later.Truthful configured outbox.pushes) :
        OutboxSound configured (outbox.setFlush index
          (some ⟨rest, none, settled ++ [later], stale⟩)) := by
      obtain ⟨kept, claims⟩ := before.settleNext rfl later notice truthful
      exact sound.proceed held _ claims rfl rfl (Outbox.flush?_setFlush held _) (.inl rfl) kept
    unfold Outbox.begin
    dsimp only
    split
    · next off =>
      refine settle _ ⟨rfl, rfl, rfl, rfl, rfl, rfl, rfl⟩ ⟨?_, ?_, ?_⟩
      · intro other
        cases other
      · intro other
        cases other
      · exact fun _ => off
    · split
      · exact settle _ (NotificationEvent.sameNotice_defer _ _) (NotificationEvent.truthful_defer _ _)
      · split
        · refine settle _ ⟨rfl, rfl, rfl, rfl, rfl, rfl, rfl⟩ ⟨?_, ?_, ?_⟩ <;>
            intro other <;> cases other
        · next some_ =>
          have claims : (Flush.claims ⟨rest, some { event, rest := outbox.devicesOf event.userId }, settled,
              stale⟩).Perm (Flush.claims ⟨event :: rest, none, settled, stale⟩) := by
            simp only [Flush.claims, Option.toList_some, Option.toList_none, List.map_cons, List.map_nil,
              List.map_append, List.append_nil, List.append_assoc, List.cons_append, List.nil_append]
            exact List.perm_middle
          refine sound.proceed held _ (fun key => claims.mem_iff) rfl rfl (Outbox.flush?_setFlush held _)
            (.inl rfl) ⟨claims.nodup_iff.mpr before.distinct, fun other listed => ?_, ?_, before.settled⟩
          · exact before.remaining other (List.mem_cons_of_mem _ listed)
          · rintro round ⟨⟩
            refine ⟨own.1, own.2.1, ?_, fun token pushed => absurd pushed (own.2.2 token),
              fun sent => absurd rfl sent, some_⟩
            exact sound.tokens.sublist (List.filter_sublist.map _)
  · exact sound

section
variable {events : List NotificationEvent} {pushes : List (UUID × String)} {round : PushRound}
  {device : DeviceRegistration} {rest : List DeviceRegistration}

theorem RoundSound.untried (sound : RoundSound events pushes round) (head : round.rest = device :: rest) :
    (round.event.id, device.token) ∉ pushes := by
  intro pushed
  have tokens := sound.tokens
  rw [head, List.map_append, List.map_cons] at tokens
  have apart := (List.nodup_append.mp tokens).2.2
  exact apart _ (sound.reached _ pushed) _ List.mem_cons_self rfl

theorem RoundSound.tokens_turn (sound : RoundSound events pushes round)
    (head : round.rest = device :: rest) :
    (((round.tried ++ [device]) ++ rest).map DeviceRegistration.token).Nodup := by
  rw [List.append_assoc, List.singleton_append, ← head]
  exact sound.tokens

/-- The next device is reached. -/
theorem RoundSound.turn_sent (sound : RoundSound events pushes round) (head : round.rest = device :: rest) :
    RoundSound events (pushes ++ [(round.event.id, device.token)]) (round.turn device rest .sent) where
  event := sound.event
  pending := sound.pending
  tokens := sound.tokens_turn head
  reached token listed := by
    change token ∈ (round.tried ++ [device]).map DeviceRegistration.token
    rw [List.map_append, List.mem_append]
    rcases List.mem_append.mp listed with earlier | new
    · exact .inl (sound.reached token earlier)
    · cases List.mem_singleton.mp new
      exact .inr (List.mem_singleton_self _)
  sent _ := ⟨device.token, List.mem_append_right _ (List.mem_singleton_self _)⟩
  asked := by
    change (round.tried ++ [device]) ++ rest ≠ []
    simp

/-- The push to the next device raises, and may have reached it. -/
theorem RoundSound.turn_raised (sound : RoundSound events pushes round)
    (head : round.rest = device :: rest) (error : String) (arrived : Bool)
    (after : more = pushes ∨ more = pushes ++ [(round.event.id, device.token)]) :
    RoundSound events more (round.turn device rest (.raised error arrived)) := by
  have reached (token : String) (listed : (round.event.id, token) ∈ more) :
      token ∈ (round.tried ++ [device]).map DeviceRegistration.token := by
    rw [List.map_append, List.mem_append]
    rcases after with rfl | rfl
    · exact .inl (sound.reached token listed)
    · rcases List.mem_append.mp listed with earlier | new
      · exact .inl (sound.reached token earlier)
      · cases List.mem_singleton.mp new
        exact .inr (List.mem_singleton_self _)
  have sent (some_ : round.sent ≠ 0) : ∃ token, (round.event.id, token) ∈ more := by
    obtain ⟨token, pushed⟩ := sound.sent some_
    rcases after with rfl | rfl
    · exact ⟨token, pushed⟩
    · exact ⟨token, List.mem_append_left _ pushed⟩
  have asked : (round.tried ++ [device]) ++ rest ≠ [] := by simp
  unfold PushRound.turn
  dsimp only
  split <;> exact ⟨sound.event, sound.pending, sound.tokens_turn head, reached, sent, asked⟩

theorem PushRound.turn_event (round : PushRound) (device : DeviceRegistration)
    (rest : List DeviceRegistration) (reply : SendReply) :
    (round.turn device rest reply).event = round.event := by
  cases reply with
  | sent => rfl
  | raised error arrived =>
    unfold PushRound.turn
    dsimp only
    split <;> rfl

end

/-- No event is claimed twice in one flush. -/
theorem FlushSound.aside {current : PushRound} (sound : FlushSound configured events pushes flush)
    (held : flush.round = some current) : (∀ event ∈ flush.remaining, current.event.id ≠ event.id) ∧
      ∀ event ∈ flush.settled, current.event.id ≠ event.id := by
  have distinct := sound.distinct
  simp only [Flush.claims, held, Option.toList_some, List.map_append, List.map_cons, List.map_nil,
    List.append_assoc, List.singleton_append] at distinct
  obtain ⟨-, rest, first⟩ := List.nodup_append.mp distinct
  obtain ⟨last, -⟩ := List.nodup_cons.mp rest
  constructor
  · intro event listed same
    exact first _ (List.mem_map_of_mem listed) _ List.mem_cons_self same.symm
  · intro event listed same
    exact last (same ▸ List.mem_map_of_mem listed)

/-- What the loop makes of an event, and why. -/
theorem RoundSound.outcome {round : PushRound} (sound : RoundSound events pushes round) (over_ : round.rest = [])
    (waits : round.PutOff → Unpushed pushes round.event.id) (now : Instant) :
    SettledSound configured events pushes (round.outcome now) := by
  unfold PushRound.outcome
  split
  · next pushed =>
    refine ⟨⟨round.event, sound.event, sound.pending, rfl, rfl, rfl, rfl, rfl, rfl, rfl⟩, ?_, ?_⟩
    · intro other
      cases other
    · refine ⟨fun _ => sound.sent pushed, ?_, ?_⟩ <;> intro other <;> cases other
  · next silent =>
    split
    · refine ⟨⟨round.event, sound.event, sound.pending, rfl, rfl, rfl, rfl, rfl, rfl, rfl⟩, ?_, ?_⟩
      · intro other
        cases other
      · constructor <;> intro other <;> cases other
    · next others =>
      have notice (message : String) : round.event.SameNotice (round.event.defer message now) :=
        NotificationEvent.sameNotice_defer message now
      refine ⟨⟨round.event, sound.event, sound.pending, notice _⟩, fun pending => ?_,
        NotificationEvent.truthful_defer _ _⟩
      rw [(notice _).id]
      exact waits ⟨over_, not_not.mp silent, others, NotificationEvent.defer_pending pending⟩

theorem OutboxSound.send (sound : OutboxSound configured outbox) (index : Nat) (reply : SendReply) :
    OutboxSound configured (outbox.step configured (.send index reply)) := by
  unfold Outbox.step
  dsimp only
  split
  · next remaining round settled stale held =>
    split
    · exact sound
    · next device rest head =>
      have before := sound.flushes index _ held
      have kept := before.round round rfl
      have claims (key : UUID) : key ∈ Flush.claims
            ⟨remaining, some (round.turn device rest reply), settled, stale⟩ ↔
          key ∈ Flush.claims ⟨remaining, some round, settled, stale⟩ := by
        simp only [Flush.claims, Option.toList_some, List.map_cons, List.map_nil, PushRound.turn_event]
      have distinct : (Flush.claims ⟨remaining, some (round.turn device rest reply), settled, stale⟩).Nodup := by
        simp only [Flush.claims, Option.toList_some, List.map_cons, List.map_nil, PushRound.turn_event]
        exact before.distinct
      -- a push reached the device, whatever the provider answered
      have arrives (next : RoundSound outbox.events (outbox.pushes ++ [(round.event.id, device.token)])
          (round.turn device rest reply)) :
          OutboxSound configured { outbox.setFlush index
            (some ⟨remaining, some (round.turn device rest reply), settled, stale⟩) with
            pushes := outbox.pushes ++ [(round.event.id, device.token)] } := by
        obtain ⟨ahead, behind⟩ := before.aside rfl
        refine sound.proceed held _ claims rfl rfl (Outbox.flush?_setFlush held _)
          (.inr ⟨_, rfl, Flush.mem_claims.mpr (.inr (.inl ⟨round, rfl, rfl⟩)), kept.untried head⟩)
          ⟨distinct, fun event listed => ?_, ?_, fun event listed => ?_⟩
        · obtain ⟨inside, pending, unpushed⟩ := before.remaining event listed
          exact ⟨inside, pending, unpushed_append unpushed (ahead event listed)⟩
        · rintro _ ⟨⟩
          exact next
        · exact (before.settled event listed).append (behind event listed)
      cases reply with
      | sent => exact arrives (kept.turn_sent head)
      | raised error arrived =>
        cases arrived with
        | true => exact arrives (kept.turn_raised head error true (.inr rfl))
        | false =>
          refine sound.proceed held _ claims rfl rfl (Outbox.flush?_setFlush held _) (.inl rfl)
            ⟨distinct, before.remaining, ?_, before.settled⟩
          rintro _ ⟨⟩
          exact kept.turn_raised head error false (.inl rfl)
  · exact sound

theorem OutboxSound.settle (sound : OutboxSound configured outbox) (index : Nat) (now : Instant)
    (recorded : PushesRecorded outbox (.settle index now)) :
    OutboxSound configured (outbox.step configured (.settle index now)) := by
  unfold Outbox.step
  dsimp only
  split
  · next remaining round settled stale held =>
    split
    · next over_ =>
      have before := sound.flushes index _ held
      have settles : SettledSound configured outbox.events outbox.pushes (round.outcome now) :=
        (before.round round rfl).outcome over_ (recorded _ held round rfl).1 now
      have notice : (round.outcome now).id = round.event.id := by
        unfold PushRound.outcome
        split
        · rfl
        · split
          · rfl
          · exact (NotificationEvent.sameNotice_defer _ _).id
      have perm : (Flush.claims ⟨remaining, none, settled ++ [round.outcome now], stale ++ round.stale⟩).Perm
          (Flush.claims ⟨remaining, some round, settled, stale⟩) := by
        simp only [Flush.claims, Option.toList_some, Option.toList_none, List.map_cons, List.map_nil,
          List.map_append, List.append_nil, List.append_assoc, notice]
        exact (List.perm_append_comm).append_left _
      refine sound.proceed held _ (fun key => perm.mem_iff) rfl rfl (Outbox.flush?_setFlush held _) (.inl rfl)
        ⟨perm.nodup_iff.mpr before.distinct, before.remaining, ?_, fun event listed => ?_⟩
      · rintro _ ⟨⟩
      · rcases List.mem_append.mp listed with earlier | new
        · exact before.settled event earlier
        · rw [List.mem_singleton.mp new]
          exact settles
    · exact sound
  · exact sound

theorem FlushSound.mono (sound : FlushSound configured events pushes flush)
    (kept : ∀ event ∈ events, event.status = .pending → event.id ∈ flush.claims → event ∈ after) :
    FlushSound configured after pushes flush where
  distinct := sound.distinct
  remaining event listed := by
    obtain ⟨inside, pending, unpushed⟩ := sound.remaining event listed
    refine ⟨kept event inside pending ?_, pending, unpushed⟩
    exact Flush.mem_claims.mpr (.inl ⟨event, listed, rfl⟩)
  round round held := by
    have own := sound.round round held
    refine ⟨kept _ own.event own.pending ?_, own.pending, own.tokens, own.reached, own.sent, own.asked⟩
    exact Flush.mem_claims.mpr (.inr (.inl ⟨round, held, rfl⟩))
  settled event listed := by
    obtain ⟨⟨old, inside, pending, notice⟩, waits, truthful⟩ := sound.settled event listed
    refine ⟨⟨old, kept old inside pending ?_, pending, notice⟩, waits, truthful⟩
    exact Flush.mem_claims.mpr (.inr (.inr ⟨event, listed, notice.id⟩))

theorem OutboxSound.enqueue (sound : OutboxSound configured outbox) (key : UUID) (createdAt : Instant)
    (userId : UUID) (eventType title body : String) (data : List (String × String)) :
    OutboxSound configured (outbox.step configured (.enqueue key createdAt userId eventType title body data)) := by
  unfold Outbox.step
  dsimp only
  split
  · exact sound
  · next absent =>
    have fresh := lookup_eq_none_iff.mp (Option.not_isSome_iff_eq_none.mp absent)
    refine ⟨unique_append.mpr ⟨sound.ids, fresh⟩, sound.tokens, sound.once, fun push listed => ?_,
      fun index flush held => (sound.flushes index flush held).mono fun event listed _ _ =>
        List.mem_append_left _ listed, sound.apart, fun event listed pending free => ?_, fun event listed => ?_⟩
    · obtain ⟨event, inside, same⟩ := sound.known push listed
      exact ⟨event, List.mem_append_left _ inside, same⟩
    · rcases List.mem_append.mp listed with earlier | new
      · exact sound.waiting event earlier pending free
      · rw [List.mem_singleton.mp new]
        intro token pushed
        obtain ⟨event, inside, same⟩ := sound.known _ pushed
        exact fresh event inside same
    · rcases List.mem_append.mp listed with earlier | new
      · exact sound.truthful event earlier
      · rw [List.mem_singleton.mp new]
        constructor <;> intro other <;> cases other

theorem OutboxSound.register (sound : OutboxSound configured outbox) (devices : List DeviceRegistration) :
    OutboxSound configured (outbox.step configured (.register devices)) := by
  unfold Outbox.step
  dsimp only
  split
  · next distinct =>
    exact ⟨sound.ids, distinct, sound.once, sound.known, sound.flushes, sound.apart, sound.waiting,
      sound.truthful⟩
  · exact sound

theorem Outbox.mem_dueEvents (member : event ∈ outbox.dueEvents limit now) :
    event ∈ outbox.events ∧ event.Due now ∧ event.id ∉ outbox.locked := by
  have listed := List.mem_mergeSort.mp (List.mem_of_mem_take member)
  obtain ⟨inside, selected⟩ := List.mem_filter.mp listed
  exact ⟨inside, of_decide_eq_true selected⟩

/-- A new flush locks what is due and nobody's. -/
theorem OutboxSound.start (sound : OutboxSound configured outbox) (limit : Nat) (now : Instant) :
    OutboxSound configured (outbox.step configured (.start limit now)) := by
  have slots (other : Nat) : (outbox.step configured (.start limit now)).flush? other =
      if outbox.flushes.length = other then some { remaining := outbox.dueEvents limit now }
      else outbox.flush? other := outbox.flush?_start limit now other
  have fresh (event : NotificationEvent) (due : event ∈ outbox.dueEvents limit now) :
      event ∈ outbox.events ∧ event.status = .pending ∧ Unpushed outbox.pushes event.id := by
    obtain ⟨inside, ready, free⟩ := Outbox.mem_dueEvents due
    exact ⟨inside, ready.1, sound.waiting event inside ready.1 free⟩
  have claimed (key : UUID) (own : key ∈ Flush.claims { remaining := outbox.dueEvents limit now }) :
      key ∉ outbox.locked := by
    rcases Flush.mem_claims.mp own with ⟨event, due, same⟩ | ⟨round, held, -⟩ | ⟨event, listed, -⟩
    · exact same ▸ (Outbox.mem_dueEvents due).2.2
    · cases held
    · cases listed
  have taken (other : Nat) (flush : Flush) (there : outbox.flush? other = some flush) :
      outbox.flushes.length ≠ other := by
    rintro rfl
    rw [Outbox.flush?, List.getElem?_eq_none le_rfl] at there
    cases there
  refine ⟨sound.ids, sound.tokens, sound.once, sound.known, ?_, ?_, ?_, sound.truthful⟩
  · intro other flush there
    rw [slots] at there
    split at there
    · cases there
      refine ⟨?_, fresh, (fun _ held => by cases held), fun _ listed => by cases listed⟩
      simp only [Flush.claims, Option.toList_none, List.map_nil, List.append_nil]
      have sorted := (List.mergeSort_perm (outbox.events.filter fun event =>
        event.Due now ∧ event.id ∉ outbox.locked) fun left right => left.createdAt ≤ right.createdAt)
      have filtered := sound.ids.sublist ((List.filter_sublist (p := fun event : NotificationEvent =>
        decide (event.Due now ∧ event.id ∉ outbox.locked))).map NotificationEvent.id)
      exact ((sorted.map _).nodup_iff.mpr filtered).sublist ((List.take_sublist _ _).map _)
    · exact sound.flushes other flush there
  · intro left right first second differ here there key mine theirs
    rw [slots] at here there
    split at here <;> split at there
    · omega
    · cases here
      exact claimed key mine (Outbox.mem_locked.mpr ⟨right, second, there, theirs⟩)
    · cases there
      exact claimed key theirs (Outbox.mem_locked.mpr ⟨left, first, here, mine⟩)
    · exact sound.apart left right first second differ here there key mine theirs
  · intro event listed pending free
    refine sound.waiting event listed pending fun locked => free ?_
    obtain ⟨other, flush, there, own⟩ := Outbox.mem_locked.mp locked
    refine Outbox.mem_locked.mpr ⟨other, flush, ?_, own⟩
    rw [slots, if_neg (taken other flush there)]
    exact there

theorem Outbox.flush?_ended (outbox : Outbox) (index other : Nat) :
    (outbox.setFlush index none).flush? other = if index = other then none else outbox.flush? other := by
  unfold Outbox.flush? Outbox.setFlush
  rw [List.getElem?_set]
  by_cases same : index = other
  · rw [if_pos same, if_pos same]
    split <;> rfl
  · rw [if_neg same, if_neg same]

theorem OutboxSound.crash (sound : OutboxSound configured outbox) (index : Nat)
    (recorded : PushesRecorded outbox (.crash index)) :
    OutboxSound configured (outbox.step configured (.crash index)) := by
  have slots := outbox.flush?_ended index
  have kept (other : Nat) (flush : Flush) (there : (outbox.setFlush index none).flush? other = some flush) :
      outbox.flush? other = some flush := by
    rw [slots] at there
    split at there
    · cases there
    · exact there
  refine ⟨sound.ids, sound.tokens, sound.once, sound.known, ?_, ?_, ?_, sound.truthful⟩
  · exact fun other flush there => sound.flushes other flush (kept other flush there)
  · exact fun left right first second differ here there =>
      sound.apart left right first second differ (kept _ _ here) (kept _ _ there)
  · intro event listed pending free
    by_cases locked : event.id ∈ outbox.locked
    · obtain ⟨other, flush, there, own⟩ := Outbox.mem_locked.mp locked
      by_cases same : index = other
      · subst same
        exact fun token pushed => recorded flush there _ pushed own
      · refine absurd (Outbox.mem_locked.mpr ⟨other, flush, ?_, own⟩) free
        exact (slots other).trans ((if_neg same).trans there)
    · exact sound.waiting event listed pending locked

/-- The row a commit writes over another keeps its key. -/
theorem tracked_id (event : NotificationEvent) (settled : List NotificationEvent) :
    (tracked NotificationEvent.id event settled).id = event.id := by
  rw [tracked]
  cases found : lookup NotificationEvent.id event.id settled with
  | none => rfl
  | some other => exact lookup_col found

theorem OutboxSound.commit (sound : OutboxSound configured outbox) (index : Nat) :
    OutboxSound configured (outbox.step configured (.commit index)) := by
  unfold Outbox.step
  dsimp only
  split
  · next settled stale held =>
    have before := sound.flushes index _ held
    have slots := (outbox.record ⟨[], none, settled, stale⟩).flush?_ended index
    have kept (other : Nat) (flush : Flush) (there : ((outbox.record ⟨[], none, settled, stale⟩).setFlush
        index none).flush? other = some flush) : index ≠ other ∧ outbox.flush? other = some flush := by
      rw [slots] at there
      split at there
      · cases there
      · next differ => exact ⟨differ, there⟩
    have written (event : NotificationEvent) (listed : event ∈ outbox.events) :
        tracked NotificationEvent.id event settled ∈
          ((outbox.record ⟨[], none, settled, stale⟩).setFlush index none).events :=
      List.mem_map_of_mem listed
    refine ⟨?_, ?_, sound.once, fun push listed => ?_, ?_, ?_, ?_, ?_⟩
    · exact unique_map (tracked_id · settled) sound.ids
    · refine unique_map (fun device => ?_) sound.tokens
      split <;> rfl
    · obtain ⟨event, inside, same⟩ := sound.known push listed
      exact ⟨_, written event inside, (tracked_id event settled).trans same⟩
    · intro other flush there
      obtain ⟨differ, here⟩ := kept other flush there
      refine (sound.flushes other flush here).mono fun event listed _ own => ?_
      have unwritten : lookup NotificationEvent.id event.id settled = none := by
        refine lookup_eq_none_iff.mpr fun row inside same => ?_
        refine sound.apart index other _ flush differ held here event.id ?_ own
        exact Flush.mem_claims.mpr (.inr (.inr ⟨row, inside, same⟩))
      have same : tracked NotificationEvent.id event settled = event := by
        rw [tracked, unwritten]
        rfl
      exact same ▸ written event listed
    · intro left right first second differ here there
      exact sound.apart left right first second differ (kept _ _ here).2 (kept _ _ there).2
    · intro event listed pending free
      obtain ⟨row, inside, rfl⟩ := List.mem_map.mp listed
      rw [tracked] at pending free ⊢
      cases found : lookup NotificationEvent.id row.id settled with
      | none =>
        rw [found] at pending free
        refine sound.waiting row inside pending fun locked => ?_
        obtain ⟨other, flush, there, own⟩ := Outbox.mem_locked.mp locked
        by_cases same : index = other
        · subst same
          cases held.symm.trans there
          rcases Flush.mem_claims.mp own with ⟨_, none, -⟩ | ⟨_, none, -⟩ | ⟨event, settles, same⟩
          · cases none
          · cases none
          · exact lookup_eq_none_iff.mp found event settles same
        · refine free (Outbox.mem_locked.mpr ⟨other, flush, ?_, own⟩)
          exact (slots other).trans ((if_neg same).trans there)
      | some later =>
        rw [found] at pending
        exact (before.settled later (lookup_mem found)).waits pending
    · intro event listed
      obtain ⟨row, inside, rfl⟩ := List.mem_map.mp listed
      rw [tracked]
      cases found : lookup NotificationEvent.id row.id settled with
      | none => exact sound.truthful row inside
      | some later => exact (before.settled later (lookup_mem found)).truthful
  · exact sound

/-! ## Runs -/

theorem OutboxSound.step (sound : OutboxSound configured outbox) (action : OutboxAction)
    (recorded : PushesRecorded outbox action) : OutboxSound configured (outbox.step configured action) := by
  cases action with
  | enqueue key createdAt userId eventType title body data =>
    exact sound.enqueue key createdAt userId eventType title body data
  | register devices => exact sound.register devices
  | start limit now => exact sound.start limit now
  | next index usable now => exact sound.next index usable now
  | send index reply => exact sound.send index reply
  | settle index now => exact sound.settle index now recorded
  | commit index => exact sound.commit index
  | crash index => exact sound.crash index recorded

theorem outbox_sound
    (reached : System.ReachableWhile (Outbox.system configured) PushesRecorded outbox) :
    OutboxSound configured outbox := by
  refine reached.invariant ?_ fun outbox action sound recorded => sound.step action recorded
  have empty (other : Nat) : Outbox.flush? {} other = none := rfl
  refine ⟨List.nodup_nil, List.nodup_nil, List.nodup_nil, ?_, ?_, ?_, ?_, ?_⟩
  · exact fun _ listed => absurd listed List.not_mem_nil
  · exact fun index flush held => by cases (empty index).symm.trans held
  · exact fun left right first second _ held => by cases (empty left).symm.trans held
  · exact fun _ listed => absurd listed List.not_mem_nil
  · exact fun _ listed => absurd listed List.not_mem_nil

/-- A step keeps every event, and what it says. -/
theorem OutboxSound.keeps (sound : OutboxSound configured outbox) (action : OutboxAction) :
    ∀ event ∈ outbox.events, ∃ now ∈ (outbox.step configured action).events, event.SameNotice now := by
  intro event listed
  have still (same : (outbox.step configured action).events = outbox.events) :
      ∃ now ∈ (outbox.step configured action).events, event.SameNotice now :=
    ⟨event, same ▸ listed, .refl event⟩
  cases action with
  | enqueue key createdAt userId eventType title body data =>
    unfold Outbox.step
    dsimp only
    split
    · exact ⟨event, listed, .refl event⟩
    · exact ⟨event, List.mem_append_left _ listed, .refl event⟩
  | register devices =>
    apply still
    unfold Outbox.step
    dsimp only
    split <;> rfl
  | start limit now => exact still rfl
  | next index usable now =>
    apply still
    unfold Outbox.step
    dsimp only
    split <;> rfl
  | send index reply =>
    apply still
    unfold Outbox.step
    dsimp only
    split
    · split
      · rfl
      · split <;> rfl
    · rfl
  | settle index now =>
    apply still
    unfold Outbox.step
    dsimp only
    split
    · split <;> rfl
    · rfl
  | commit index =>
    unfold Outbox.step
    dsimp only
    split
    · next settled stale held =>
      refine ⟨_, List.mem_map_of_mem listed, ?_⟩
      rw [tracked]
      cases found : lookup NotificationEvent.id event.id settled with
      | none => exact .refl event
      | some later =>
        obtain ⟨old, inside, -, notice⟩ := ((sound.flushes index _ held).settled later (lookup_mem found)).origin
        have one : old = event :=
          unique_eq sound.ids inside listed (notice.id.symm.trans (lookup_col found))
        exact one ▸ notice
    · exact ⟨event, listed, .refl event⟩
  | crash index => exact still rfl

/-- What is due and nobody's is claimed by the next flush that is large enough. -/
theorem Outbox.claimed_next (listed : event ∈ outbox.events) (due : event.Due now)
    (free : event.id ∉ outbox.locked) (room : outbox.events.length ≤ limit) :
    event.id ∈ (outbox.step configured (.start limit now)).locked := by
  refine Outbox.mem_locked.mpr ⟨outbox.flushes.length, { remaining := outbox.dueEvents limit now }, ?_, ?_⟩
  · rw [Outbox.flush?_start, if_pos rfl]
  · refine Flush.mem_claims.mpr (.inl ⟨event, ?_, rfl⟩)
    unfold Outbox.dueEvents
    rw [List.take_of_length_le]
    · exact List.mem_mergeSort.mpr (List.mem_filter.mpr ⟨listed, decide_eq_true ⟨due, free⟩⟩)
    · rw [List.length_mergeSort]
      exact (List.length_filter_le _ _).trans room

/-- The step finds no device to push the event to: its user has none that is active, or the provider
called stale each of those that were when the loop began. -/
def NoDeviceLeft (outbox : Outbox) (id : UUID) : OutboxAction → Prop
  | .next index _ _ => ∃ event rest settled stale,
      outbox.flush? index = some ⟨event :: rest, none, settled, stale⟩ ∧ event.id = id ∧
        outbox.devicesOf event.userId = []
  | .settle index _ => ∃ remaining round settled stale,
      outbox.flush? index = some ⟨remaining, some round, settled, stale⟩ ∧ round.event.id = id ∧
        round.rest = [] ∧ round.tried ≠ [] ∧ ∀ device ∈ round.tried, device.token ∈ round.invalid
  | _ => False

/-- The row is stored, or settled by a flush under way. -/
def Outbox.Keeps (outbox : Outbox) (event : NotificationEvent) : Prop :=
  event ∈ outbox.events ∨ ∃ index flush, outbox.flush? index = some flush ∧ event ∈ flush.settled

/-- A flush that goes on keeps what it and the others have settled. -/
theorem Outbox.keeps_setFlush (held : outbox.flush? index = some old) (new : Flush) (more : List (UUID × String))
    (kept : Outbox.Keeps { outbox.setFlush index (some new) with pushes := more } event) :
    outbox.Keeps event ∨ event ∈ new.settled := by
  rcases kept with stored | ⟨other, flush, there, settled⟩
  · exact .inl (.inl stored)
  · have slot : (outbox.setFlush index (some new)).flush? other = some flush := there
    rw [Outbox.flush?_setFlush held] at slot
    split at slot
    · cases slot
      exact .inr settled
    · exact .inl (.inr ⟨other, flush, slot, settled⟩)

/-- No event is retired for want of devices but by a step that finds none. -/
theorem OutboxSound.retires (sound : OutboxSound configured outbox) (recorded : PushesRecorded outbox action)
    (kept : (outbox.step configured action).Keeps event) (retired : event.status = .noDevices) :
    outbox.Keeps event ∨ NoDeviceLeft outbox event.id action := by
  have unsettled {index : Nat} {old new : Flush} (held : outbox.flush? index = some old)
      (more : List (UUID × String))
      (kept : Outbox.Keeps { outbox.setFlush index (some new) with pushes := more } event)
      (same : new.settled = old.settled) : outbox.Keeps event := by
    rcases Outbox.keeps_setFlush held new more kept with before | settled
    · exact before
    · exact .inr ⟨index, old, held, same ▸ settled⟩
  -- the flush settles one more event
  have settles {index : Nat} {old : Flush} {rest : List NotificationEvent} {next : NotificationEvent}
      {stale : List UUID} (held : outbox.flush? index = some old)
      (kept : (outbox.setFlush index (some ⟨rest, none, old.settled ++ [next], stale⟩)).Keeps event) :
      outbox.Keeps event ∨ event = next := by
    rcases Outbox.keeps_setFlush held ⟨rest, none, old.settled ++ [next], stale⟩ outbox.pushes kept with
      before | settled
    · exact .inl before
    · rcases List.mem_append.mp settled with earlier | new
      · exact .inl (.inr ⟨index, old, held, earlier⟩)
      · exact .inr (List.mem_singleton.mp new)
  have putOff (old : NotificationEvent) (message : String) (now : Instant)
      (same : event = old.defer message now) : False := by
    rcases NotificationEvent.defer_status old message now with pending | ⟨dead, -⟩
    · rw [← same, retired] at pending
      cases pending
    · rw [← same, retired] at dead
      cases dead
  cases action with
  | enqueue key createdAt userId eventType title body data =>
    unfold Outbox.step at kept
    dsimp only at kept
    split at kept
    · exact .inl kept
    · rcases kept with stored | settled
      · rcases List.mem_append.mp stored with earlier | new
        · exact .inl (.inl earlier)
        · rw [List.mem_singleton.mp new] at retired
          cases retired
      · exact .inl (.inr settled)
  | register devices =>
    unfold Outbox.step at kept
    dsimp only at kept
    split at kept <;> exact .inl kept
  | start limit now =>
    left
    rcases kept with stored | ⟨other, flush, there, settled⟩
    · exact .inl stored
    · rw [Outbox.flush?_start] at there
      split at there
      · cases there
        cases settled
      · exact .inr ⟨other, flush, there, settled⟩
  | next index usable now =>
    unfold Outbox.step at kept
    dsimp only at kept
    split at kept
    · next head rest settled stale held =>
      unfold Outbox.begin at kept
      dsimp only at kept
      split at kept
      · rcases settles held kept with before | rfl
        · exact .inl before
        · cases retired
      · split at kept
        · rcases settles held kept with before | same
          · exact .inl before
          · exact (putOff _ _ _ same).elim
        · split at kept
          · next none =>
            rcases settles held kept with before | rfl
            · exact .inl before
            · exact .inr ⟨head, rest, settled, stale, held, rfl, none⟩
          · exact .inl (unsettled held outbox.pushes kept rfl)
    · exact .inl kept
  | send index reply =>
    unfold Outbox.step at kept
    dsimp only at kept
    split at kept
    · next remaining round settled stale held =>
      split at kept
      · exact .inl kept
      · left
        split at kept
        · exact unsettled held outbox.pushes kept rfl
        · exact unsettled held _ kept rfl
    · exact .inl kept
  | settle index now =>
    unfold Outbox.step at kept
    dsimp only at kept
    split at kept
    · next remaining round settled stale held =>
      split at kept
      · next over_ =>
        rcases settles held kept with before | rfl
        · exact .inl before
        · unfold PushRound.outcome at retired ⊢
          split at retired
          · cases retired
          · next silent =>
            rw [if_neg silent]
            split at retired
            · next folded =>
              rw [if_pos folded]
              obtain ⟨-, told⟩ := recorded _ held round rfl
              have asked := ((sound.flushes index _ held).round round rfl).asked
              rw [over_, List.append_nil] at asked
              refine .inr ⟨remaining, round, settled, stale, held, rfl, over_, asked, fun device tried => ?_⟩
              by_contra live
              exact told ⟨over_, not_not.mp silent, folded.1, folded.2, device, tried, live⟩
            · next others =>
              rw [if_neg others]
              rcases NotificationEvent.defer_status round.event _ now with pending | ⟨dead, -⟩
              · rw [retired] at pending
                cases pending
              · rw [retired] at dead
                cases dead
      · exact .inl kept
    · exact .inl kept
  | commit index =>
    unfold Outbox.step at kept
    dsimp only at kept
    split at kept
    · next settled stale held =>
      left
      rcases kept with stored | ⟨other, flush, there, own⟩
      · obtain ⟨row, inside, rfl⟩ := List.mem_map.mp stored
        rw [tracked]
        cases found : lookup NotificationEvent.id row.id settled with
        | none => exact .inl inside
        | some later => exact .inr ⟨index, _, held, lookup_mem found⟩
      · rw [(outbox.record ⟨[], none, settled, stale⟩).flush?_ended index other] at there
        split at there
        · cases there
        · exact .inr ⟨other, flush, there, own⟩
    · exact .inl kept
  | crash index =>
    left
    rcases kept with stored | ⟨other, flush, there, own⟩
    · exact .inl stored
    · have slot : (outbox.setFlush index none).flush? other = some flush := there
      rw [outbox.flush?_ended index other] at slot
      split at slot
      · cases slot
      · exact .inr ⟨other, flush, slot, own⟩

/-- Why an event is no longer pending in the outbox that a run leads to. -/
structure NotificationEvent.Explained (configured : Bool) (actions : List OutboxAction)
    (event : NotificationEvent) : Prop where
  sent : event.status = .sent →
    ∃ token, (event.id, token) ∈ ((Outbox.system configured).run {} actions).pushes
  dead : event.status = .dead → MAX_DELIVERY_ATTEMPTS ≤ event.attemptCount
  inAppOnly : event.status = .inAppOnly → configured = false
  noDevices : event.status = .noDevices → ∃ earlier action, earlier ++ [action] <+: actions ∧
    NoDeviceLeft ((Outbox.system configured).run {} earlier) event.id action

/-- What is retired for want of devices was retired by a step of the run. -/
theorem retired_because {actions : List OutboxAction}
    (admitted : System.RunWhile (Outbox.system configured) PushesRecorded {} actions)
    (kept : ((Outbox.system configured).run {} actions).Keeps event) (retired : event.status = .noDevices) :
    ∃ earlier action, earlier ++ [action] <+: actions ∧
      NoDeviceLeft ((Outbox.system configured).run {} earlier) event.id action := by
  induction actions using List.reverseRecOn with
  | nil =>
    rcases kept with stored | ⟨other, flush, there, -⟩
    · cases stored
    · cases there
  | append_singleton actions action ih =>
    obtain ⟨before, last, -⟩ := System.runWhile_append.mp admitted
    rw [System.run_append] at kept
    rcases (outbox_sound (System.ReachableWhile.initial.run actions before)).retires last kept retired with
      already | left
    · obtain ⟨earlier, cause, inside, found⟩ := ih before already
      exact ⟨earlier, cause, inside.trans (List.prefix_append ..), found⟩
    · exact ⟨actions, action, List.prefix_rfl, left⟩

/-- Notification delivery is restart-safe, in every run in which no flush is stopped and no delivery
put off after a push that arrived, and none is misfolded. No event reaches a device twice; every
event stays in the outbox, and leaves `pending` only for a reason: `sent` when it has reached a
device, `dead` after the last attempt, `in_app_only` where push is not configured, `no_devices` when
there was none left to push to; and whatever is due and no running flush has locked, what a crashed
one held included, the next flush claims. -/
theorem notifications_restart_safe (configured : Bool) (actions : List OutboxAction)
    (admitted : System.RunWhile (Outbox.system configured) PushesRecorded {} actions) :
    let outbox := (Outbox.system configured).run {} actions
    outbox.pushes.Nodup ∧
      (∀ event ∈ outbox.events, event.Explained configured actions) ∧
      (∀ later, System.RunWhile (Outbox.system configured) PushesRecorded outbox later →
        ∀ event ∈ outbox.events, ∃ now ∈ ((Outbox.system configured).run outbox later).events,
          event.SameNotice now) ∧
      (∀ index, (outbox.step configured (.crash index)).events = outbox.events ∧
        (outbox.step configured (.crash index)).flush? index = none) ∧
      ∀ event ∈ outbox.events, ∀ now, event.Due now →
        (∀ index flush, outbox.flush? index = some flush → event.id ∉ flush.claims) →
          ∀ limit ≥ outbox.events.length,
            event.id ∈ (outbox.step configured (.start limit now)).locked := by
  have reached := System.ReachableWhile.initial.run actions admitted
  have sound := outbox_sound reached
  change System.ReachableWhile _ _ ((Outbox.system configured).run {} actions) at reached
  change OutboxSound configured ((Outbox.system configured).run {} actions) at sound
  refine ⟨sound.once, fun event listed => ?_, ?_, fun index => ⟨rfl, ?_⟩, ?_⟩
  · obtain ⟨sent, dead, inAppOnly⟩ := sound.truthful event listed
    exact ⟨sent, dead, inAppOnly, retired_because admitted (.inl listed)⟩
  · intro later further event listed
    refine reached.persists (P := fun outbox => ∃ now ∈ outbox.events, event.SameNotice now)
      ⟨event, listed, .refl event⟩ ?_ later further
    rintro middle action between ⟨now, there, notice⟩ -
    obtain ⟨last, here, same⟩ := (outbox_sound between).keeps action now there
    exact ⟨last, here, notice.trans same⟩
  · exact (Outbox.flush?_ended _ index index).trans (if_pos rfl)
  · intro event listed now due free limit room
    refine Outbox.claimed_next listed due (fun locked => ?_) room
    obtain ⟨index, flush, there, own⟩ := Outbox.mem_locked.mp locked
    exact free index flush there own

end

/-! ### A worker killed between its push and its commit -/

/-- One event, one device. -/
def oneNotice : List OutboxAction :=
  [.register [⟨1#128, 2#128, "token", true⟩],
    .enqueue 3#128 0 2#128 "order.accepted" "Order accepted" "The store accepted your order." []]

/-- A flush up to its commit, or to where it is stopped. -/
def flushed (index : Nat) : List OutboxAction :=
  [.start 100 10, .next index true 10, .send index .sent, .settle index 10]

/-- The second worker pushes what the first one did. -/
theorem notification_pushed_twice :
    ((Outbox.system true).run {} (oneNotice ++ flushed 0 ++ [.crash 0] ++ flushed 1 ++ [.commit 1])).pushes =
      [(3#128, "token"), (3#128, "token")] := by
  decide +kernel

/-- A crash before the first push costs nothing. -/
theorem notifications_restart_safe_killed :
    ((Outbox.system true).run {}
        (oneNotice ++ [.start 100 10, .next 0 true 10, .crash 0] ++ flushed 1 ++ [.commit 1])).events.map
          NotificationEvent.status = [.sent] ∧
      ((Outbox.system true).run {}
        (oneNotice ++ [.start 100 10, .next 0 true 10, .crash 0] ++ flushed 1 ++ [.commit 1])).pushes.Nodup := by
  have admitted : System.RunWhile (Outbox.system true) PushesRecorded {}
      (oneNotice ++ [.start 100 10, .next 0 true 10, .crash 0] ++ flushed 1 ++ [.commit 1]) := by
    decide +kernel
  have sent : ((Outbox.system true).run {} (oneNotice ++ [.start 100 10, .next 0 true 10, .crash 0] ++
      flushed 1 ++ [.commit 1])).events.map NotificationEvent.status = [.sent] := by decide +kernel
  exact ⟨sent, (notifications_restart_safe true _ admitted).1⟩

end GaonOne
