import GaonOne.Checkout
import GaonOne.Library.ReadCommitted
import GaonOne.PaymentProgress

/-! A customer's saved addresses, statement by statement. A new default address clears the
flag of the addresses its UPDATE finds, and no lock or constraint keeps another one from
being inserted meanwhile. -/
namespace GaonOne
open Relational UnitOfWork ReadCommitted Transitions

/-- A row of `addresses`, with what the listing orders by. -/
structure MyAddress extends Address where
  isDefault : Bool
  createdAt : Instant
  deriving DecidableEq

structure AddressCreate where
  villageId : UUID
  recipientName : Option String := none
  phone : Option String := none
  houseDetails : Option String := none
  landmark : String
  directions : Option String := none
  latitude : Option ℚ := none
  longitude : Option ℚ := none
  isDefault : Bool := false
  landmarked : 2 ≤ landmark.length ∧ landmark.length ≤ 240
  inRange : (∀ degrees ∈ latitude, -90 ≤ degrees ∧ degrees ≤ 90) ∧
    ∀ degrees ∈ longitude, -180 ≤ degrees ∧ degrees ≤ 180
  deriving DecidableEq

inductive AddressRequest where
  | createMyAddress (subject : UUID) (payload : AddressCreate) (rowId : UUID) (now : Instant)
  | deleteMyAddress (subject addressId : UUID) (now : Instant)
  deriving DecidableEq

/-- The tables these requests read and write. -/
structure AddressBook where
  marketplace : Tables := {}
  addresses : List MyAddress := []

namespace AddressBook

/-- The addresses an owner sees. -/
def openOf (book : AddressBook) (userId : UUID) : List MyAddress :=
  book.addresses.filter fun row => decide (row.userId = userId ∧ row.archivedAt = none)

/-- `ORDER BY is_default DESC, created_at DESC`. -/
def listedBefore (left right : MyAddress) : Bool :=
  (left.isDefault && !right.isDefault) ||
    (left.isDefault == right.isDefault && decide (right.createdAt ≤ left.createdAt))

/-- `GET /addresses/me`: the default first, then the newest. -/
def listMyAddresses (book : AddressBook) (userId : UUID) : List MyAddress :=
  (book.openOf userId).mergeSort listedBefore

/-- The default addresses of a user that are not archived. -/
def defaultsOf (book : AddressBook) (userId : UUID) : List MyAddress :=
  (book.openOf userId).filter (·.isDefault)

def address? (book : AddressBook) (id : UUID) : Option MyAddress :=
  lookup (·.id) id book.addresses

def add (row : MyAddress) (book : AddressBook) : AddressBook :=
  { book with addresses := book.addresses ++ [row] }

/-- `SET is_default = false` for the rows found, where the condition still holds. -/
def clear (ids : List UUID) (book : AddressBook) : AddressBook :=
  { book with
    addresses := book.addresses.map fun row =>
      if row.id ∈ ids ∧ row.archivedAt = none then { row with isDefault := false } else row }

/-- The UPDATE of an address that is archived: `is_default` is written where it was read
as true. -/
def archive (addressId : UUID) (now : Instant) (wasDefault : Bool) (book : AddressBook) : AddressBook :=
  { book with
    addresses := book.addresses.map fun row =>
      if row.id = addressId then
        { row with archivedAt := some now, isDefault := row.isDefault && !wasDefault }
      else row }

end AddressBook

/-- The rows of addresses. -/
inductive AddressLock where
  | address (id : UUID)
  deriving DecidableEq, Repr

/-- What a creation has read. -/
inductive AddressNote where
  /-- The addresses whose flag its UPDATE clears. -/
  | cleared (userId : UUID) (ids : List UUID)
  deriving DecidableEq

abbrev AddressProgram := Program AddressBook AddressLock AddressNote HTTPException

namespace AddressProgram

def require (check : Prop) [Decidable check] (error : HTTPException) : AddressProgram Unit :=
  Program.ofExcept (UnitOfWork.require check error)

def found (value : Option α) (error : HTTPException) : AddressProgram α :=
  Program.ofExcept (UnitOfWork.found value error)

/-- The user a valid token names. -/
def currentUser (subject : UUID) : AddressProgram User := do
  let db ← Program.query AddressBook.marketplace
  Program.ofExcept (getCurrentUser db subject)

/-- `_serviceability`: the best zone covers the point when any active zone does. -/
def serviceability (env : Environment) (book : AddressBook) (place : Point) : Bool :=
  book.marketplace.catalogue.serviceAreas.any fun area =>
    pointIsInServiceArea env book.marketplace area.id place

/-- An address with a point must lie in the service area. -/
def checkServiceable (env : Environment) : Option Point → AddressProgram Unit
  | none => pure ()
  | some place => do
    let serviceable ← Program.query (serviceability env · place)
    require (serviceable = true) ⟨422, "Delivery address is outside the active GaonOne service area"⟩

/-- `UPDATE addresses SET is_default = false WHERE user_id = ... AND archived_at IS NULL`:
the rows it finds are locked one after another. -/
def clearDefaults (userId : UUID) : AddressProgram Unit := do
  let ids ← Program.query fun book => (book.openOf userId).map (·.id)
  Program.remember (.cleared userId ids)
  Program.lockRows (ids.map .address)
  Program.flush (AddressBook.clear ids)

/-- The row a creation inserts. -/
def newAddress (userId : UUID) (payload : AddressCreate) (rowId : UUID) (now : Instant) : MyAddress where
  id := rowId
  userId
  villageId := payload.villageId
  recipientName := payload.recipientName
  phone := payload.phone
  houseDetails := payload.houseDetails
  landmark := payload.landmark
  directions := payload.directions
  latitude := payload.latitude
  longitude := payload.longitude
  archivedAt := none
  isDefault := payload.isDefault
  createdAt := now

/-- `POST /addresses/me`. -/
def createMyAddress (env : Environment) (subject : UUID) (payload : AddressCreate) (rowId : UUID)
    (now : Instant) : AddressProgram Unit := do
  let user ← currentUser subject
  let village ← Program.query fun book =>
    lookup Village.id payload.villageId book.marketplace.catalogue.villages
  let _ ← found village ⟨404, "Village not found"⟩
  require (payload.latitude.isNone = payload.longitude.isNone)
    ⟨422, "Latitude and longitude must be supplied together"⟩
  checkServiceable env (point payload.latitude payload.longitude)
  if payload.isDefault then do
    clearDefaults user.id
    Program.flush (AddressBook.add (newAddress user.id payload rowId now))
  else Program.flush (AddressBook.add (newAddress user.id payload rowId now))

/-- `DELETE /addresses/me/{address_id}`: archive an address. -/
def deleteMyAddress (subject addressId : UUID) (now : Instant) : AddressProgram Unit := do
  let user ← currentUser subject
  let seen ← Program.query (AddressBook.address? · addressId)
  let address ← found (seen.filter fun row => row.userId = user.id ∧ row.archivedAt = none)
    ⟨404, "Address not found"⟩
  Program.lockRow (.address addressId)
  Program.flush (AddressBook.archive addressId now address.isDefault)

end AddressProgram

def AddressRequest.program (env : Environment) : AddressRequest → AddressProgram Unit
  | createMyAddress subject payload rowId now => AddressProgram.createMyAddress env subject payload rowId now
  | deleteMyAddress subject addressId now => AddressProgram.deleteMyAddress subject addressId now

/-- The texts fit their columns. -/
def MyAddress.TextsFit (row : MyAddress) : Prop :=
  atMost 120 row.recipientName ∧ atMost 20 row.phone ∧ atMost 200 row.houseDetails

instance (row : MyAddress) : Decidable row.TextsFit := inferInstanceAs (Decidable (_ ∧ _ ∧ _))

/-- The table's primary key and the widths of its columns; it declares nothing about defaults. -/
def AddressBook.Declared (book : AddressBook) : Prop :=
  Unique (·.id) book.addresses ∧ ∀ row ∈ book.addresses, row.TextsFit

instance (book : AddressBook) : Decidable book.Declared := inferInstanceAs (Decidable (Unique _ _ ∧ _))

def addressService (env : Environment) :
    Service AddressBook AddressLock AddressNote HTTPException Unit AddressRequest where
  program := AddressRequest.program env
  conflicts left right := left = right
  symmetric := Eq.symm
  valid := AddressBook.Declared
  decideConflicts := inferInstance
  decideValid _ := inferInstance

/-! ## Defaults -/

/-- A user has at most one default address, and it is not archived. -/
structure DefaultsSound (book : AddressBook) : Prop where
  declared : book.Declared
  archived : ∀ row ∈ book.addresses, row.isDefault = true → row.archivedAt = none
  single : ∀ first ∈ book.addresses, ∀ second ∈ book.addresses, first.userId = second.userId →
    first.isDefault = true → second.isDefault = true → first.id = second.id

/-- Between two statements addresses are added, archived, and lose the default flag; none
gains it. -/
def FlagsFall (before after : AddressBook) : Prop :=
  ∀ row ∈ before.addresses, ∃ now ∈ after.addresses, now.id = row.id ∧ now.userId = row.userId ∧
    (now.isDefault = true → row.isDefault = true)

theorem FlagsFall.refl (book : AddressBook) : FlagsFall book book :=
  fun row listed => ⟨row, listed, rfl, rfl, fun set => set⟩

theorem FlagsFall.trans (first : FlagsFall before middle) (second : FlagsFall middle after) :
    FlagsFall before after := by
  intro row listed
  obtain ⟨between, there, key, owner, fell⟩ := first row listed
  obtain ⟨now, here, same, agree, dropped⟩ := second between there
  exact ⟨now, here, same.trans key, agree.trans owner, fun set => fell (dropped set)⟩

/-- No default address of the user was added since the creation cleared the others. -/
def NoneSince (footing : Footing AddressBook AddressLock AddressNote) (book : AddressBook) : Prop :=
  ∀ note ∈ footing.notes, match note with
    | .cleared userId ids => ∀ row ∈ book.addresses, row.userId = userId → row.isDefault = true →
        row.archivedAt = none → row.id ∈ ids

instance (footing : Footing AddressBook AddressLock AddressNote) (book : AddressBook) :
    Decidable (NoneSince footing book) :=
  List.decidableBAll _ _

/-- A creation commits on the defaults its UPDATE has found, and no flag rises meanwhile. -/
def addressDiscipline : Discipline AddressBook AddressLock AddressNote where
  invariant := DefaultsSound
  guarantee := FlagsFall
  rely _ _ := FlagsFall
  refl _ _ := FlagsFall.refl
  trans := FlagsFall.trans
  weaken := id
  admits := NoneSince
  apart _ _ := True

/-- An update of rows that keeps their owners and raises no flag. -/
structure Lowers (book : AddressBook) (change : MyAddress → MyAddress) : Prop where
  key : ∀ row, (change row).id = row.id
  fits : ∀ row, row.TextsFit → (change row).TextsFit
  owner : ∀ row, (change row).userId = row.userId
  falls : ∀ row, (change row).isDefault = true → row.isDefault = true
  archived : ∀ row ∈ book.addresses, (change row).isDefault = true → (change row).archivedAt = none

section
variable {book : AddressBook} {change : MyAddress → MyAddress}

theorem Lowers.sound (lowers : Lowers book change) (sound : DefaultsSound book) :
    DefaultsSound { book with addresses := book.addresses.map change } where
  declared := by
    constructor
    · have same : (fun row : MyAddress => row.id) ∘ change = fun row => row.id := funext lowers.key
      unfold Relational.Unique
      rw [List.map_map, same]
      exact sound.declared.1
    · intro now inside
      obtain ⟨row, listed, rfl⟩ := List.mem_map.mp inside
      exact lowers.fits row (sound.declared.2 row listed)
  archived := by
    intro now inside set
    obtain ⟨row, listed, rfl⟩ := List.mem_map.mp inside
    exact lowers.archived row listed set
  single := by
    intro first here second there owner one two
    obtain ⟨left, leftListed, rfl⟩ := List.mem_map.mp here
    obtain ⟨right, rightListed, rfl⟩ := List.mem_map.mp there
    rw [lowers.owner, lowers.owner] at owner
    rw [lowers.key, lowers.key]
    exact sound.single left leftListed right rightListed owner (lowers.falls left one) (lowers.falls right two)

theorem Lowers.flagsFall (lowers : Lowers book change) :
    FlagsFall book { book with addresses := book.addresses.map change } :=
  fun row listed =>
    ⟨change row, List.mem_map_of_mem listed, lowers.key row, lowers.owner row, lowers.falls row⟩

theorem clear_lowers (sound : DefaultsSound book) (ids : List UUID) :
    Lowers book fun row => if row.id ∈ ids ∧ row.archivedAt = none then { row with isDefault := false } else row := by
  constructor
  · intro row
    split <;> rfl
  · intro row fits
    split <;> exact fits
  · intro row
    split <;> rfl
  · intro row set
    split at set
    · cases set
    · exact set
  · intro row listed set
    split at set
    · cases set
    · next kept =>
      rw [if_neg kept]
      exact sound.archived row listed set

/-- An address is archived without its flag: it was read as default and loses it, or it
was not and nothing has raised it since. -/
theorem archive_lowers (sound : DefaultsSound book) (addressId : UUID) (wasDefault : Bool)
    (read : ∀ row ∈ book.addresses, row.id = addressId → row.isDefault = true → wasDefault = true)
    (now : Instant) :
    Lowers book fun row =>
      if row.id = addressId then
        { row with archivedAt := some now, isDefault := row.isDefault && !wasDefault }
      else row := by
  constructor
  · intro row
    split <;> rfl
  · intro row fits
    split <;> exact fits
  · intro row
    split <;> rfl
  · intro row set
    split at set
    · exact (Bool.and_eq_true_iff.mp set).1
    · exact set
  · intro row listed set
    by_cases same : row.id = addressId
    · rw [if_pos same] at set
      obtain ⟨flag, kept⟩ := Bool.and_eq_true_iff.mp set
      rw [read row listed same flag] at kept
      cases kept
    · rw [if_neg same] at set ⊢
      exact sound.archived row listed set

theorem FlagsFall.add (row : MyAddress) : FlagsFall book (book.add row) :=
  fun old listed => ⟨old, List.mem_append_left _ listed, rfl, rfl, fun set => set⟩

/-- A new address may be the default of a user who has none. -/
theorem DefaultsSound.add (sound : DefaultsSound book) (valid : (book.add row).Declared)
    (fresh : row.archivedAt = none)
    (alone : row.isDefault = true → ∀ old ∈ book.addresses, old.userId = row.userId → old.isDefault = false) :
    DefaultsSound (book.add row) where
  declared := valid
  archived := by
    intro old inside set
    rcases List.mem_append.mp inside with listed | new
    · exact sound.archived old listed set
    · rw [List.mem_singleton.mp new]
      exact fresh
  single := by
    intro first here second there owner one two
    rcases List.mem_append.mp here with left | left <;> rcases List.mem_append.mp there with right | right
    · exact sound.single first left second right owner one two
    · cases List.mem_singleton.mp right
      rw [alone two first left owner] at one
      cases one
    · cases List.mem_singleton.mp left
      rw [alone one second right owner.symm] at two
      cases two
    · rw [List.mem_singleton.mp left, List.mem_singleton.mp right]

/-! ## What a request commits -/

variable {env : Environment} {footing : Footing AddressBook AddressLock AddressNote}

theorem holds_currentUser_address {next : User → AddressProgram Unit}
    {post : Unit → Footing AddressBook AddressLock AddressNote → AddressBook → Prop}
    (rest : ∀ now user, addressDiscipline.Holds (next user) post {} now) :
    addressDiscipline.Holds (AddressProgram.currentUser subject >>= next) post {} book := by
  rw [Discipline.holds_bind]
  refine Discipline.Holds.query fun now _ => ?_
  rw [Discipline.holds_ofExcept]
  exact fun user _ => rest now user

/-- An address that is not a default is simply added. -/
theorem commits_add (row : MyAddress) (fresh : row.archivedAt = none) (plain : row.isDefault = false)
    (change : footing.change = AddressBook.add row) :
    addressDiscipline.Commits (addressService env).valid () footing book := by
  intro now later _ valid
  rw [change] at valid ⊢
  have sound := later.2.add valid fresh fun set => absurd set (by rw [plain]; decide)
  exact ⟨sound, .add row, fun _ _ => .add row⟩

/-- A default address is added where the user's other addresses were cleared of the flag. -/
theorem commits_addDefault (row : MyAddress) (ids : List UUID) (fresh : row.archivedAt = none)
    (noted : .cleared row.userId ids ∈ footing.notes)
    (change : footing.change = AddressBook.add row ∘ AddressBook.clear ids) :
    addressDiscipline.Commits (addressService env).valid () footing book := by
  intro now later admitted valid
  have kept : DefaultsSound now := later.2
  have lowers := clear_lowers kept ids
  have found := admitted _ noted
  rw [change] at valid ⊢
  have cleared : ∀ old ∈ (now.clear ids).addresses, old.userId = row.userId → old.isDefault = false := by
    intro old inside owner
    obtain ⟨before, listed, rfl⟩ := List.mem_map.mp inside
    rw [lowers.owner before] at owner
    by_contra set
    have flag := lowers.falls before (Bool.not_eq_false _ ▸ set)
    have live := kept.archived before listed flag
    rw [if_pos ⟨found before listed owner flag live, live⟩] at set
    exact set rfl
  have fall : FlagsFall now ((now.clear ids).add row) := lowers.flagsFall.trans (.add row)
  exact ⟨(lowers.sound kept).add valid fresh fun _ => cleared, fall, fun _ _ => fall⟩

theorem holds_checkServiceable {next : Unit → AddressProgram Unit} (place : Option Point)
    {post : Unit → Footing AddressBook AddressLock AddressNote → AddressBook → Prop}
    (rest : ∀ now, addressDiscipline.Holds (next ()) post {} now) :
    addressDiscipline.Holds (AddressProgram.checkServiceable env place >>= next) post {} book := by
  rw [Discipline.holds_bind]
  cases place with
  | none => exact rest book
  | some place =>
    refine Discipline.Holds.query fun now _ => ?_
    exact (Discipline.holds_ofExcept _).mpr fun _ _ => rest now

theorem holds_createMyAddress (env : Environment) (subject : UUID) (payload : AddressCreate) (rowId : UUID)
    (now : Instant) (book : AddressBook) :
    addressDiscipline.Holds (AddressProgram.createMyAddress env subject payload rowId now)
      (addressDiscipline.Commits (addressService env).valid) {} book := by
  unfold AddressProgram.createMyAddress
  refine holds_currentUser_address fun _ user => ?_
  refine Discipline.Holds.query fun _ _ => ?_
  refine Discipline.Holds.check fun _ _ => ?_
  refine Discipline.Holds.check fun _ _ => ?_
  refine holds_checkServiceable _ fun start => ?_
  refine Discipline.Holds.branch (fun _ => ?_) fun plain => ?_
  · unfold AddressProgram.clearDefaults
    rw [Discipline.holds_bind]
    refine Discipline.Holds.query fun before _ => ?_
    dsimp only [id]
    generalize (before.openOf user.id).map (·.id) = ids
    refine Discipline.Holds.remember fun middle later => ?_
    rw [Discipline.holds_bind]
    refine Discipline.holds_lockRows later.2 fun after _ => ?_
    exact commits_addDefault (AddressProgram.newAddress user.id payload rowId now) ids rfl
      (List.mem_singleton_self _) rfl
  · exact commits_add (AddressProgram.newAddress user.id payload rowId now) rfl (Bool.not_eq_true _ ▸ plain) rfl

theorem holds_deleteMyAddress (env : Environment) (subject addressId : UUID) (now : Instant)
    (book : AddressBook) :
    addressDiscipline.Holds (AddressProgram.deleteMyAddress subject addressId now)
      (addressDiscipline.Commits (addressService env).valid) {} book := by
  unfold AddressProgram.deleteMyAddress
  refine holds_currentUser_address fun _ user => ?_
  refine Discipline.Holds.query fun seen _ => ?_
  refine Discipline.Holds.check fun address found => ?_
  have stored : seen.address? addressId = some address :=
    (Option.filter_eq_some_iff.mp ((found_ok ..).mp found)).1
  refine Discipline.Holds.lockRow fun middle between => ?_
  intro after later _ _
  have kept : DefaultsSound after := later.2
  -- the flag that was read may only have fallen since
  obtain ⟨row, there, key, -, fell⟩ := (between.1.trans later.1) address (lookup_mem stored)
  have own := lookup_col stored
  have read : ∀ other ∈ after.addresses, other.id = addressId → other.isDefault = true →
      address.isDefault = true := by
    intro other listed same set
    rw [unique_eq kept.declared.1 listed there (same.trans (key.trans own).symm)] at set
    exact fell set
  have lowers := archive_lowers kept addressId address.isDefault read now
  exact ⟨lowers.sound kept, lowers.flagsFall, fun _ _ => lowers.flagsFall⟩

end

/-! ## Runs -/

abbrev AddressState := State AddressBook AddressLock AddressNote HTTPException Unit

/-- The rest of the program leaves addresses alone, and no creation of a default address
commits over another one of its user that was committed since it cleared their flags. -/
def AddressesUndisturbed (state : AddressState) : ReadCommitted.Action AddressBook AddressRequest → Prop
  | .advance index =>
    ∀ session ∈ state.sessions[index]?, ∀ footing ∈ session.committing, NoneSince footing state.database
  | .other after => after.addresses = state.database.addresses
  | _ => True

instance (state : AddressState) (action : ReadCommitted.Action AddressBook AddressRequest) :
    Decidable (AddressesUndisturbed state action) :=
  match action with
  | .start _ | .abort _ => .isTrue trivial
  | .advance index =>
    inferInstanceAs (Decidable (∀ session ∈ state.sessions[index]?, ∀ footing ∈ session.committing,
      NoneSince footing state.database))
  | .other after => inferInstanceAs (Decidable (after.addresses = state.database.addresses))

theorem address_upheld (env : Environment) :
    Discipline.Upheld (addressService env) addressDiscipline AddressesUndisturbed where
  starts state request _ _ := by
    cases request with
    | createMyAddress subject payload rowId now => exact holds_createMyAddress env subject payload rowId now _
    | deleteMyAddress subject addressId now => exact holds_deleteMyAddress env subject addressId now _
  others state after same sound := by
    have left : after.addresses = state.database.addresses := same
    refine ⟨⟨?_, left ▸ sound.archived, left ▸ sound.single⟩, fun _ _ row listed => ?_⟩
    · unfold AddressBook.Declared
      rw [left]
      exact sound.declared
    · exact ⟨row, left ▸ listed, rfl, rfl, fun set => set⟩
  admitted _ _ _ footing allowed standing := allowed _ (Option.mem_def.mpr standing) footing rfl
  separated _ _ _ _ _ _ _ _ _ _ _ _ := trivial

theorem DefaultsSound.defaultsOf (sound : DefaultsSound book) (userId : UUID) :
    (book.defaultsOf userId).length ≤ 1 := by
  have distinct : ((book.defaultsOf userId).map (·.id)).Nodup := by
    refine List.Nodup.sublist (List.Sublist.map _ ?_) sound.declared.1
    exact List.filter_sublist.trans List.filter_sublist
  have owned : ∀ row ∈ book.defaultsOf userId, row ∈ book.addresses ∧ row.userId = userId ∧ row.isDefault = true := by
    intro row listed
    obtain ⟨shown, set⟩ := List.mem_filter.mp listed
    obtain ⟨inside, mine⟩ := List.mem_filter.mp shown
    exact ⟨inside, (of_decide_eq_true mine).1, set⟩
  generalize book.defaultsOf userId = rows at distinct owned
  match rows with
  | [] | [_] => simp
  | first :: second :: rest =>
    obtain ⟨here, mine, one⟩ := owned first List.mem_cons_self
    obtain ⟨there, also, two⟩ := owned second (List.mem_cons_of_mem _ List.mem_cons_self)
    have same := sound.single first here second there (mine.trans also.symm) one two
    have apart : first.id ≠ second.id := by
      intro agree
      simp [agree] at distinct
    exact absurd same apart

/-- Only the first address that an owner is shown can be a default. -/
theorem DefaultsSound.listed_first (sound : DefaultsSound book)
    (shown : book.listMyAddresses userId = first :: rest) : ∀ row ∈ rest, row.isDefault = false := by
  have order : (first :: rest).Pairwise fun left right => AddressBook.listedBefore left right = true := by
    rw [← shown]
    apply List.pairwise_mergeSort
    · intro left middle right
      simp only [AddressBook.listedBefore]
      grind
    · intro left right
      have ages : right.createdAt ≤ left.createdAt ∨ left.createdAt ≤ right.createdAt := Nat.le_total ..
      cases one : left.isDefault <;> cases two : right.isDefault <;>
        simp [AddressBook.listedBefore, one, two, ages]
  have listed : ∀ row ∈ first :: rest, row ∈ book.openOf userId := by
    intro row inside
    rw [← shown] at inside
    exact List.mem_mergeSort.mp inside
  have distinct : ((first :: rest).map (·.id)).Nodup := by
    rw [← shown]
    refine (List.Perm.nodup_iff ((List.mergeSort_perm _ _).map _)).mpr ?_
    exact List.Nodup.sublist (List.Sublist.map _ List.filter_sublist) sound.declared.1
  intro row inside
  by_contra set
  have flag : row.isDefault = true := Bool.not_eq_false _ ▸ set
  have before : first.isDefault = true := by
    have ahead := (List.pairwise_cons.mp order).1 row inside
    simp only [AddressBook.listedBefore, flag] at ahead
    grind
  obtain ⟨here, mine⟩ := List.mem_filter.mp (listed first List.mem_cons_self)
  obtain ⟨there, also⟩ := List.mem_filter.mp (listed row (List.mem_cons_of_mem _ inside))
  have same := sound.single first here row there
    ((of_decide_eq_true mine).1.trans (of_decide_eq_true also).1.symm) before flag
  rw [List.map_cons, List.nodup_cons] at distinct
  exact distinct.1 (same ▸ List.mem_map_of_mem inside)

/-- At most one default address, in every run none of whose creations of a default address
commits over one that was committed meanwhile; and no archived address is a default. -/
theorem one_default_address (env : Environment) (sound : DefaultsSound start)
    (reached : System.ReachableWhile ((addressService env).system start) AddressesUndisturbed state) :
    (∀ userId, (state.database.defaultsOf userId).length ≤ 1) ∧
      ∀ row ∈ state.database.addresses, row.archivedAt.isSome = true → row.isDefault = false := by
  have kept := ((address_upheld env).safe sound reached).invariant
  refine ⟨fun userId => kept.defaultsOf userId, fun row listed archived => ?_⟩
  by_contra set
  have live := kept.archived row listed (Bool.not_eq_false _ ▸ set)
  rw [live] at archived
  cases archived

/-! ### Two defaults at once -/

def homeOwner : User :=
  { id := 1#128, role := .customer, isSuperAdmin := false, isActive := true, isVerified := true }

/-- A customer with one address, the default. -/
def homestead : AddressBook where
  marketplace := { catalogue := { users := [homeOwner], villages := [⟨4#128, "Rampur", none, none, true⟩] } }
  addresses := [{ id := 20#128, userId := homeOwner.id, villageId := 4#128, recipientName := none
                  phone := none, houseDetails := none, landmark := "Temple", directions := none
                  latitude := none, longitude := none, archivedAt := none, isDefault := true, createdAt := 1 }]

theorem homestead_sound : DefaultsSound homestead where
  declared := by decide
  archived := by decide
  single := by decide

def newDefault : AddressCreate :=
  { villageId := 4#128, landmark := "Temple", isDefault := true, landmarked := by decide, inRange := by simp }

def homeService : Service AddressBook AddressLock AddressNote HTTPException Unit AddressRequest :=
  addressService sampleEnvironment

/-- Two new default addresses, one after the other. -/
def movedTwice : List (ReadCommitted.Action AddressBook AddressRequest) :=
  .start (.createMyAddress homeOwner.id newDefault 21#128 2) :: List.replicate 8 (.advance 0) ++
    .start (.createMyAddress homeOwner.id newDefault 22#128 3) :: List.replicate 9 (.advance 1)

theorem one_default_address_moved :
    let moved := (homeService.system homestead).run ⟨homestead, []⟩ movedTwice
    moved.database.addresses.map (fun row => (row.id, row.isDefault)) =
        [(20#128, false), (21#128, false), (22#128, true)] ∧
      (moved.database.defaultsOf homeOwner.id).length ≤ 1 := by
  have admitted : System.RunWhile (homeService.system homestead) AddressesUndisturbed ⟨homestead, []⟩
      movedTwice := by decide +kernel
  refine ⟨by decide +kernel, ?_⟩
  exact (one_default_address sampleEnvironment homestead_sound
    (System.ReachableWhile.initial.run movedTwice admitted)).1 homeOwner.id

/-- The second creation clears the flags before the first one commits. -/
def movedAtOnce : List (ReadCommitted.Action AddressBook AddressRequest) :=
  .start (.createMyAddress homeOwner.id newDefault 21#128 2) ::
    .start (.createMyAddress homeOwner.id newDefault 22#128 3) ::
    List.replicate 4 (.advance 1) ++ List.replicate 8 (.advance 0) ++ List.replicate 4 (.advance 1)

theorem two_default_addresses :
    let moved := (homeService.system homestead).run ⟨homestead, []⟩ movedAtOnce
    moved.database.addresses.map (fun row => (row.id, row.isDefault)) =
        [(20#128, false), (21#128, true), (22#128, true)] ∧
      (moved.database.defaultsOf homeOwner.id).length = 2 := by
  decide +kernel

end GaonOne
