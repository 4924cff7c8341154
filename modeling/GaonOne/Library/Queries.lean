import Mathlib.Data.List.MinMax
import Mathlib.Data.List.Sort

/-! `SELECT … ORDER BY … LIMIT`: rows sorted by a key, rows of one key in the order they were
in, and as many of them as the limit lets through. -/
namespace Relational

variable {ρ κ : Type*} [LinearOrder κ] (key : ρ → κ)

/-- `ORDER BY`. -/
def ordered (rows : List ρ) : List ρ := rows.insertionSort fun left right => key left ≤ key right

variable {key}

@[simp]
theorem mem_ordered : row ∈ ordered key rows ↔ row ∈ rows := List.mem_insertionSort _

theorem ordered_pairwise (key : ρ → κ) (rows : List ρ) :
    (ordered key rows).Pairwise fun left right => key left ≤ key right :=
  List.pairwise_insertionSort _ rows

private theorem orderedInsert_least {row : ρ} {rows : List ρ}
    (least : ∀ other ∈ rows, key row ≤ key other) :
    rows.orderedInsert (fun left right => key left ≤ key right) row = row :: rows := by
  cases rows with
  | nil => rfl
  | cons first rest => exact List.orderedInsert_cons_of_le _ rest (least first List.mem_cons_self)

private theorem filter_orderedInsert (keep : ρ → Bool) (row : ρ) {rows : List ρ}
    (sorted : rows.Pairwise fun left right => key left ≤ key right) :
    (rows.orderedInsert (fun left right => key left ≤ key right) row).filter keep =
      if keep row then
        (rows.filter keep).orderedInsert (fun left right => key left ≤ key right) row
      else rows.filter keep := by
  induction rows with
  | nil => by_cases kept : keep row <;> simp [kept]
  | cons first rest ih =>
    obtain ⟨below, tail⟩ := List.pairwise_cons.mp sorted
    rw [List.orderedInsert_cons]
    by_cases early : key row ≤ key first
    · -- the row comes before everything, kept or not
      rw [if_pos early]
      have least : ∀ other ∈ (first :: rest).filter keep, key row ≤ key other := by
        intro other inside
        rcases List.mem_cons.mp (List.mem_filter.mp inside).1 with rfl | later
        · exact early
        · exact early.trans (below other later)
      rw [orderedInsert_least least]
      by_cases kept : keep row <;> simp [kept]
    · rw [if_neg early, List.filter_cons, ih tail]
      by_cases kept : keep row <;> by_cases stays : keep first <;> simp [kept, stays, early]

/-- A condition may be tested before the rows are sorted or after. -/
theorem filter_ordered (keep : ρ → Bool) (rows : List ρ) :
    (ordered key rows).filter keep = ordered key (rows.filter keep) := by
  induction rows with
  | nil => rfl
  | cons row rest ih =>
    have step : ordered key (row :: rest) =
        (ordered key rest).orderedInsert (fun left right => key left ≤ key right) row := rfl
    rw [step, filter_orderedInsert keep row (ordered_pairwise key rest), ih]
    by_cases kept : keep row
    · rw [if_pos kept, List.filter_cons_of_pos kept]
      rfl
    · rw [if_neg kept, List.filter_cons_of_neg kept]

/-- A row the limit cuts off comes after as many rows as the limit lets through. -/
theorem cut_off {row : ρ} {limit : Nat} (inside : row ∈ rows)
    (cut : row ∉ (ordered key rows).take limit) :
    ((ordered key rows).take limit).length = limit ∧
      ∀ earlier ∈ (ordered key rows).take limit, key earlier ≤ key row := by
  have later : row ∈ (ordered key rows).drop limit := by
    have whole : row ∈ ordered key rows := mem_ordered.mpr inside
    rw [← List.take_append_drop limit (ordered key rows)] at whole
    exact (List.mem_append.mp whole).resolve_left cut
  have sorted := ordered_pairwise key rows
  rw [← List.take_append_drop limit (ordered key rows), List.pairwise_append] at sorted
  refine ⟨?_, fun earlier held => sorted.2.2 earlier held row later⟩
  have some_left := List.length_pos_of_mem later
  rw [List.length_drop] at some_left
  rw [List.length_take]
  omega

/-- A row before all others comes first. -/
theorem ordered_head {row : ρ} (inside : row ∈ rows)
    (first : ∀ other ∈ rows, other = row ∨ key row < key other) :
    ∃ rest, ordered key rows = row :: rest := by
  have whole : row ∈ ordered key rows := mem_ordered.mpr inside
  have sorted := ordered_pairwise key rows
  have least : ∀ other ∈ ordered key rows, other = row ∨ key row < key other :=
    fun other there => first other (mem_ordered.mp there)
  generalize ordered key rows = sorting at whole sorted least
  cases sorting with
  | nil => cases whole
  | cons head rest =>
    rcases least head List.mem_cons_self with rfl | above
    · exact ⟨rest, rfl⟩
    · rcases List.mem_cons.mp whole with rfl | later
      · exact ⟨rest, rfl⟩
      · exact absurd ((List.pairwise_cons.mp sorted).1 row later) (not_le.mpr above)

/-- The first row is the first of the least. -/
theorem head?_ordered (key : ρ → κ) (rows : List ρ) : (ordered key rows).head? = rows.argmin key := by
  induction rows with
  | nil => rfl
  | cons row rest ih =>
    have step : ordered key (row :: rest) =
        (ordered key rest).orderedInsert (fun left right => key left ≤ key right) row := rfl
    rw [step, List.argmin_cons, ← ih]
    cases ordered key rest with
    | nil => rfl
    | cons first others =>
      rw [List.orderedInsert_cons]
      by_cases early : key row ≤ key first
      · rw [if_pos early, List.head?_cons, List.head?_cons]
        exact (if_neg (not_lt.mpr early)).symm
      · rw [if_neg early, List.head?_cons, List.head?_cons]
        exact (if_pos (not_le.mp early)).symm

/-- Where every row can be taken by its identifier, the first that is taken is the least. -/
theorem findSome?_ordered {ι σ β : Type*} {id : ρ → ι} {take : ι → Option σ} {shown : σ → β} {value : ρ → β}
    (takes : ∀ row ∈ rows, ∃ taken, take (id row) = some taken ∧ shown taken = value row) :
    (((ordered key rows).map id).findSome? take).map shown = (rows.argmin key).map value := by
  rw [← head?_ordered, List.findSome?_map]
  have sorted : ∀ row ∈ ordered key rows, ∃ taken, take (id row) = some taken ∧ shown taken = value row :=
    fun row inside => takes row (mem_ordered.mp inside)
  cases rising : ordered key rows with
  | nil => rfl
  | cons first rest =>
    obtain ⟨taken, here, same⟩ := sorted first (rising ▸ List.mem_cons_self)
    rw [List.findSome?_cons, Function.comp_apply, here, List.head?_cons, Option.map_some, Option.map_some, same]

end Relational
