import GaonOne.BannerRules

/-! What a store shows: a version of its own that a moderator approved, in a revision
that grows with every change, each revision accepted once. -/
namespace GaonOne
open Relational UnitOfWork ReadCommitted Transitions

section
variable {board : BannerBoard} {locks : List BannerLock} {new : StoreBannerSelection}

/-- A selection written in its next revision. -/
theorem BannerBoard.selectionOf_next (unique : Unique StoreBannerSelection.storeId board.selections)
    (old : StoreBannerSelection) (stored : board.selection? new.storeId = some old)
    (next : new.revision = old.revision + 1) (storeId : UUID) :
    (board.putSelection new).selectionOf storeId = board.selectionOf storeId ∨
      ((board.putSelection new).selectionOf storeId).revision =
        (board.selectionOf storeId).revision + 1 := by
  rw [BannerBoard.selectionOf_putSelection unique stored]
  by_cases same : new.storeId = storeId
  · right
    rw [if_pos same, next, BannerBoard.selectionOf_some (same ▸ stored)]
  · exact .inl (if_neg same)

/-- A commit leaves what a store shows, or makes it the next revision. -/
theorem BannerStep.selectionOf (step : BannerStep locks board failing change) (sound : BannerSound board)
    (storeId : UUID) :
    (change board).selectionOf storeId = board.selectionOf storeId ∨
      ((change board).selectionOf storeId).revision = (board.selectionOf storeId).revision + 1 := by
  have unique := sound.declared.selectionStores
  cases step with
  | @accepted version selection user locked held approved settled stored =>
    have own : selection.storeId = version.storeId := lookup_col stored
    have found : board.selection? (selection.chosen version.id user).storeId = some selection := own ▸ stored
    exact BannerBoard.selectionOf_next unique selection found rfl storeId
  | @acceptedFirst version user locked held approved owned missing =>
    rw [← BannerBoard.selectionOf_addSelection missing storeId]
    refine BannerBoard.selectionOf_next (BannerBoard.unique_addSelection unique missing)
      { storeId := version.storeId } ?_ rfl storeId
    exact (BannerBoard.selection?_addSelection { storeId := version.storeId } missing _).trans (if_pos rfl)
  | @cleared version action selection admin now locked held refuses settled stored shown =>
    have own : selection.storeId = version.storeId := lookup_col stored
    have found : board.selection? (selection.cleared admin).storeId = some selection := own ▸ stored
    exact BannerBoard.selectionOf_next unique selection found rfl storeId
  | _ => exact .inl rfl

end

section
variable {settings : BannerSettings} {start : BannerBoard} {state : BannerState} {action : BannerAction}

theorem BannersUndisturbed.fine (admitted : BannersUndisturbed state action) :
    BannersFine (fun _ => True) state action := by
  cases action with
  | other after => exact admitted
  | advance index => exact fun _ _ _ _ _ _ => trivial
  | start | abort => trivial

theorem banners_reached
    (reached : System.ReachableWhile ((bannerService settings).system start) BannersUndisturbed state) :
    System.ReachableWhile ((bannerService settings).system start) (BannersFine fun _ => True) state := by
  induction reached with
  | initial => exact .initial
  | next _ admitted ih => exact ih.next admitted.fine

theorem selectionOf_leaves (leaves : LeavesBanners before after) (storeId : UUID) :
    after.selectionOf storeId = before.selectionOf storeId := by
  unfold BannerBoard.selectionOf BannerBoard.selection?
  rw [leaves.selections]

end

/-! ### Two acceptances of one revision -/

def bannerMerchant : User :=
  { id := 1#128, role := .merchant, isSuperAdmin := false, isActive := true, isVerified := true }

def bannerStore : Store :=
  { id := 2#128, merchantId := 3#128, villageId := 6#128, serviceAreaId := none, name := "Kirana"
    phone := none, landmark := none, latitude := none, longitude := none, opensAt := none, closesAt := none, deliveryEnabled := true, isActive := true }

def approvedBanner (id : UUID) (version : Nat) : StoreBannerVersion :=
  { newBannerVersion bannerStore.id version ⟨id, 0#128, 0#128, 0⟩ with
    manifest := some (bannerManifest bannerStore "Rampur" none),
    generationStatus := .ready,
    moderationStatus := .approved }

def bannerPlace : Tables where
  catalogue :=
    { users := [bannerMerchant], stores := [bannerStore],
      merchants := [⟨3#128, bannerMerchant.id, .approved⟩] }

def twoBanners : BannerBoard where
  marketplace := bannerPlace
  versions := [approvedBanner 10#128 1, approvedBanner 11#128 2]

/-- Both merchants' browsers have seen revision 0; the second waits for the store's row. -/
def acceptedTwice : List BannerAction :=
  [.start (.accept bannerMerchant.id bannerStore.id 10#128 0),
    .start (.accept bannerMerchant.id bannerStore.id 11#128 0)] ++
    List.replicate 3 (.advance 0) ++ List.replicate 3 (.advance 1) ++ List.replicate 12 (.advance 0) ++
      List.replicate 12 (.advance 1)

theorem twoBanners_sound : BannerSound twoBanners where
  declared := by decide +kernel
  shows := fun _ listed => absurd listed List.not_mem_nil
  once := List.nodup_nil
  passed := fun _ _ listed => absurd listed List.not_mem_nil

/-- Where the two requests end. -/
def acceptedOnce : BannerState := ((bannerService {}).system twoBanners).run ⟨twoBanners, []⟩ acceptedTwice

end GaonOne
