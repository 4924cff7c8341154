import Mathlib.Algebra.Ring.Int.Defs
import Mathlib.Data.List.Nodup
import Mathlib.Data.List.Pairwise

/-! Relational tables as lists of rows, in insertion order. A lookup, an update
and an insert are the list operations SQL's single-row statements amount to;
uniqueness is a property of a column, and every lemma says what one statement
does to what a later lookup or selection sees. -/
namespace Relational

variable {ρ κ ι α : Type*} [DecidableEq κ] [DecidableEq ι]

/-- The row a lookup on a column finds: the first whose column holds the value. -/
def lookup (col : ρ → κ) (value : κ) (rows : List ρ) : Option ρ :=
  rows.find? fun row => decide (col row = value)

/-- `UPDATE` by primary key: the row with this key is replaced. -/
def put (key : ρ → κ) (row : ρ) (rows : List ρ) : List ρ :=
  rows.map fun old => if key old = key row then row else old

/-- The object a session holds for a row that a query returned: the row as the
session's own changes left it. -/
def tracked (key : ρ → κ) (row : ρ) (rows : List ρ) : ρ := (lookup key (key row) rows).getD row

/-- The rows of one parent. -/
def belonging (col : ρ → κ) (value : κ) (rows : List ρ) : List ρ :=
  rows.filter fun row => decide (col row = value)

/-- `UNIQUE (col)`. -/
def Unique (col : ρ → κ) (rows : List ρ) : Prop := (rows.map col).Nodup

/-- `UNIQUE (col)` on a nullable column: rows without a value never clash. -/
def UniqueWhenSet (col : ρ → Option κ) (rows : List ρ) : Prop := (rows.filterMap col).Nodup

/-- `FOREIGN KEY (col)`: every row names a row of the parent table. -/
def References (col : ρ → κ) (key : α → κ) (rows : List ρ) (parents : List α) : Prop :=
  ∀ row ∈ rows, ∃ parent ∈ parents, key parent = col row

instance (col : ρ → κ) (rows : List ρ) : Decidable (Unique col rows) :=
  inferInstanceAs (Decidable (List.Nodup _))

instance (col : ρ → Option κ) (rows : List ρ) : Decidable (UniqueWhenSet col rows) :=
  inferInstanceAs (Decidable (List.Nodup _))

instance (col : ρ → κ) (key : α → κ) (rows : List ρ) (parents : List α) :
    Decidable (References col key rows parents) :=
  inferInstanceAs (Decidable (∀ _ ∈ _, ∃ _ ∈ _, _))

/-! ## Lookup -/

theorem lookup_mem {col : ρ → κ} (found : lookup col value rows = some row) : row ∈ rows :=
  List.mem_of_find?_eq_some found

theorem lookup_col {col : ρ → κ} (found : lookup col value rows = some row) : col row = value := by
  simpa using List.find?_some found

theorem lookup_eq_none_iff {col : ρ → κ} :
    lookup col value rows = none ↔ ∀ row ∈ rows, col row ≠ value := by
  simp [lookup, List.find?_eq_none]

omit [DecidableEq κ] in
/-- Two rows that agree on a unique column are one row. -/
theorem unique_eq {col : ρ → κ} (unique : Unique col rows) (left : first ∈ rows)
    (right : second ∈ rows) (same : col first = col second) : first = second :=
  List.inj_on_of_nodup_map unique left right same

omit [DecidableEq κ] in
/-- Two rows that agree on a value of a nullable unique column are one row. -/
theorem uniqueWhenSet_eq {col : ρ → Option κ} (unique : UniqueWhenSet col rows)
    (left : first ∈ rows) (right : second ∈ rows) (one : col first = some value)
    (two : col second = some value) : first = second := by
  by_contra differ
  simp only [UniqueWhenSet, List.Nodup, List.pairwise_filterMap] at unique
  have symmetric : Std.Symm fun a b : ρ =>
      ∀ left, col a = some left → ∀ right, col b = some right → left ≠ right :=
    ⟨fun _ _ apart left here right there same => apart right there left here same.symm⟩
  exact unique.forall left right differ value one value two rfl

/-- On a unique column, membership is what a lookup finds. -/
theorem lookup_eq_some_iff {col : ρ → κ} (unique : Unique col rows) :
    lookup col value rows = some row ↔ row ∈ rows ∧ col row = value := by
  constructor
  · intro found
    exact ⟨lookup_mem found, lookup_col found⟩
  · rintro ⟨member, same⟩
    cases found : lookup col value rows with
    | none => exact absurd same (lookup_eq_none_iff.mp found row member)
    | some other =>
      have agree : col other = col row := (lookup_col found).trans same.symm
      rw [unique_eq unique (lookup_mem found) member agree]

/-- A row the session has not changed is its own object. -/
theorem tracked_eq {key : ρ → κ} (unique : Unique key rows) (held : row ∈ rows) :
    tracked key row rows = row := by
  rw [tracked, (lookup_eq_some_iff unique).mpr ⟨held, rfl⟩, Option.getD_some]

/-- An `UPDATE` of the rows with one key, seen by a later lookup on it. -/
theorem lookup_update {col : ρ → κ} {set : ρ → ρ} (keeps : ∀ row, col (set row) = col row)
    (key value : κ) (rows : List ρ) :
    lookup col value (rows.map fun row => if col row = key then set row else row) =
      (lookup col value rows).map fun row => if col row = key then set row else row := by
  have same : ((fun row => decide (col row = value)) ∘ fun row =>
      if col row = key then set row else row) = fun row => decide (col row = value) := by
    funext row
    simp only [Function.comp_apply]
    split
    · rw [keeps]
    · rfl
  rw [lookup, List.find?_map, same, lookup]

theorem lookup_cons (col : ρ → κ) (value : κ) (row : ρ) (rows : List ρ) :
    lookup col value (row :: rows) = if col row = value then some row else lookup col value rows := by
  by_cases same : col row = value <;> simp [lookup, same]

theorem lookup_append (col : ρ → κ) (value : κ) (rows : List ρ) (row : ρ) :
    lookup col value (rows ++ [row]) =
      (lookup col value rows).or (if col row = value then some row else none) := by
  simp only [lookup, List.find?_append, List.find?_cons, List.find?_nil]
  by_cases same : col row = value <;> simp [same]

omit [DecidableEq ι] in
/-- On a unique column, a sum over the rows with one value is that row's. -/
theorem sum_lookup {col : ρ → κ} (unique : Unique col rows) (value : κ) (amount : ρ → Int) :
    (rows.map fun row => if col row = value then amount row else 0).sum =
      (lookup col value rows).elim 0 amount := by
  induction rows with
  | nil => rfl
  | cons first rest ih =>
    obtain ⟨fresh, distinct⟩ := List.nodup_cons.mp unique
    rw [List.map_cons, List.sum_cons, ih distinct, lookup_cons]
    split
    · next same =>
      have missing : lookup col value rest = none :=
        lookup_eq_none_iff.mpr fun other member agree =>
          fresh (same.trans agree.symm ▸ List.mem_map_of_mem member)
      rw [missing]
      exact Int.add_zero _
    · exact Int.zero_add _

/-! ## Update -/

theorem mem_put {key : ρ → κ} :
    row ∈ put key new rows ↔
      (row = new ∧ ∃ old ∈ rows, key old = key new) ∨ (row ∈ rows ∧ key row ≠ key new) := by
  simp only [put, List.mem_map]
  constructor
  · rintro ⟨old, member, rfl⟩
    split
    · next same => exact Or.inl ⟨rfl, old, member, same⟩
    · next differ => exact Or.inr ⟨member, differ⟩
  · rintro (⟨rfl, old, member, same⟩ | ⟨member, differ⟩)
    · exact ⟨old, member, if_pos same⟩
    · exact ⟨row, member, if_neg differ⟩

/-- The last of two updates of a row counts. -/
theorem put_put {key : ρ → κ} (first : ρ) (same : key first = key second) (rows : List ρ) :
    put key second (put key first rows) = put key second rows := by
  simp only [put, List.map_map]
  apply List.map_congr_left
  intro row _
  by_cases here : key row = key second <;> simp [here, same]

/-- A row that was added is replaced behind the others. -/
theorem put_append_fresh {key : ρ → κ} (fresh : lookup key (key new) rows = none) (same : key old = key new) :
    put key new (rows ++ [old]) = rows ++ [new] := by
  have others : put key new rows = rows := by
    conv_rhs => rw [← List.map_id rows]
    exact List.map_congr_left fun row member => if_neg (lookup_eq_none_iff.mp fresh row member)
  unfold put at others ⊢
  rw [List.map_append, others, List.map_singleton, if_pos same]

omit [DecidableEq κ] in
/-- What an update keeps of a row, it keeps of every row with its key. -/
theorem kept_of_key {key : ρ → κ} {col : ρ → α} (keys : Unique key rows) (held : old ∈ rows)
    (sameKey : key new = key old) (same : col new = col old) :
    ∀ row ∈ rows, key row = key new → col row = col new := by
  intro row member agree
  rw [unique_eq keys member held (agree.trans sameKey), same]

/-- An update that keeps a column keeps the whole column. -/
theorem map_put {key : ρ → κ} {col : ρ → α}
    (kept : ∀ old ∈ rows, key old = key new → col old = col new) :
    (put key new rows).map col = rows.map col := by
  simp only [put, List.map_map]
  apply List.map_congr_left
  intro old member
  simp only [Function.comp_apply]
  split
  · next same => exact (kept old member same).symm
  · rfl

omit [DecidableEq ι] in
theorem unique_put {key : ρ → κ} {col : ρ → ι}
    (kept : ∀ old ∈ rows, key old = key new → col old = col new)
    (unique : Unique col rows) : Unique col (put key new rows) := by
  unfold Unique
  rw [map_put kept]
  exact unique

omit [DecidableEq κ] in
/-- An update of any rows that keeps a column keeps it unique. -/
theorem unique_map {col : ρ → κ} {set : ρ → ρ} (keeps : ∀ row, col (set row) = col row)
    (unique : Unique col rows) : Unique col (rows.map set) := by
  have same : col ∘ set = col := funext keeps
  unfold Unique
  rw [List.map_map, same]
  exact unique

omit [DecidableEq ι] in
theorem uniqueWhenSet_put_kept {key : ρ → κ} {col : ρ → Option ι}
    (kept : ∀ old ∈ rows, key old = key new → col old = col new)
    (unique : UniqueWhenSet col rows) : UniqueWhenSet col (put key new rows) := by
  have same : (put key new rows).filterMap col = rows.filterMap col := by
    rw [put, List.filterMap_map]
    apply List.filterMap_congr
    intro old member
    simp only [Function.comp_apply]
    split
    · next agree => exact (kept old member agree).symm
    · rfl
  unfold UniqueWhenSet
  rw [same]
  exact unique

omit [DecidableEq ι] in
/-- `UNIQUE` on a nullable column survives an update whose value no other row has. -/
theorem uniqueWhenSet_put {key : ρ → κ} {col : ρ → Option ι} (keys : Unique key rows)
    (fresh : ∀ old ∈ rows, key old ≠ key new → ∀ value, col new = some value → col old ≠ some value)
    (unique : UniqueWhenSet col rows) : UniqueWhenSet col (put key new rows) := by
  simp only [UniqueWhenSet, Unique, List.Nodup, put, List.pairwise_filterMap,
    List.pairwise_map] at keys unique ⊢
  refine (keys.and unique).imp_of_mem fun {first second} left right apart => ?_
  obtain ⟨differ, clash⟩ := apart
  intro value here other there same
  subst same
  split at here <;> split at there
  · next one two => exact differ (one.trans two.symm)
  · next one two => exact fresh second right two value here there
  · next one two => exact fresh first left one value there here
  · exact clash value here value there rfl

/-- The rows of one parent after an update that keeps every row's parent. -/
theorem belonging_put {key : ρ → κ} {col : ρ → ι} (value : ι)
    (kept : ∀ old ∈ rows, key old = key new → col old = col new) :
    belonging col value (put key new rows) =
      if col new = value then put key new (belonging col value rows)
      else belonging col value rows := by
  induction rows with
  | nil => simp [belonging, put]
  | cons first rest ih =>
    have tail := ih fun old member => kept old (List.mem_cons_of_mem _ member)
    have head := kept first List.mem_cons_self
    simp only [belonging, put, List.map_cons, List.filter_cons] at tail ⊢
    by_cases same : key first = key new
    · have agree := head same
      by_cases here : col new = value <;> simp_all
    · by_cases here : col new = value <;> by_cases there : col first = value <;> simp_all

theorem belonging_append (col : ρ → κ) (value : κ) (rows : List ρ) (row : ρ) :
    belonging col value (rows ++ [row]) =
      if col row = value then belonging col value rows ++ [row]
      else belonging col value rows := by
  by_cases same : col row = value <;> simp [belonging, same]

theorem mem_belonging {col : ρ → κ} :
    row ∈ belonging col value rows ↔ row ∈ rows ∧ col row = value := by
  simp [belonging]

/-- On a unique column, a row is the only one of its parent. -/
theorem belonging_of_unique {col : ρ → κ} (unique : Unique col rows) (held : row ∈ rows) :
    belonging col (col row) rows = [row] := by
  have apart : (belonging col (col row) rows).Nodup :=
    (List.Nodup.of_map col unique).filter _
  have sole : ∀ other ∈ belonging col (col row) rows, other = row := fun other member =>
    unique_eq unique (mem_belonging.mp member).1 held (mem_belonging.mp member).2
  have member : row ∈ belonging col (col row) rows := mem_belonging.mpr ⟨held, rfl⟩
  rcases rowsOf : belonging col (col row) rows with _ | ⟨first, rest⟩
  · simp [rowsOf] at member
  · rw [rowsOf] at apart sole
    rw [sole first List.mem_cons_self] at apart ⊢
    rcases rest with _ | ⟨second, rest⟩
    · rfl
    · have again := sole second (by simp)
      simp [again] at apart

theorem belonging_of_missing {col : ρ → κ} (missing : lookup col value rows = none) :
    belonging col value rows = [] :=
  List.filter_eq_nil_iff.mpr fun row member same =>
    lookup_eq_none_iff.mp missing row member (of_decide_eq_true same)

/-- On a unique column, the rows of a parent are what the lookup finds. -/
theorem belonging_eq_toList {col : ρ → κ} (unique : Unique col rows) (value : κ) :
    belonging col value rows = (lookup col value rows).toList := by
  cases found : lookup col value rows with
  | none => exact belonging_of_missing found
  | some row =>
    rw [← lookup_col found]
    exact belonging_of_unique unique (lookup_mem found)

/-- What a lookup on a unique column finds after the row it names was updated. -/
theorem lookup_put {key : ρ → κ} {col : ρ → ι} (value : ι) (held : old ∈ rows)
    (same : key old = key new)
    (kept : col old = col new) (keys : Unique key rows) (unique : Unique col rows) :
    lookup col value (put key new rows) =
      if col new = value then some new else lookup col value rows := by
  have stays : ∀ other ∈ rows, key other = key new → col other = col new := by
    intro other member agree
    rw [unique_eq keys member held (agree.trans same.symm), kept]
  have uniqueAfter : Unique col (put key new rows) := unique_put stays unique
  split
  · next here =>
    exact (lookup_eq_some_iff uniqueAfter).mpr ⟨mem_put.mpr (Or.inl ⟨rfl, old, held, same⟩), here⟩
  · next elsewhere =>
    ext row
    rw [lookup_eq_some_iff uniqueAfter, lookup_eq_some_iff unique, mem_put]
    constructor
    · rintro ⟨⟨rfl, _⟩ | ⟨member, _⟩, here⟩
      · exact absurd here elsewhere
      · exact ⟨member, here⟩
    · rintro ⟨member, here⟩
      refine ⟨Or.inr ⟨member, fun agree => elsewhere ?_⟩, here⟩
      rw [← stays row member agree, here]

omit [DecidableEq ι] in
/-- An update of one row, seen by a lookup of another. -/
theorem lookup_put_ne {key : ρ → κ} (differ : key new ≠ value) (rows : List ρ) :
    lookup key value (put key new rows) = lookup key value rows := by
  induction rows with
  | nil => rfl
  | cons row rest ih =>
    have tail : put key new (row :: rest) =
        (if key row = key new then new else row) :: put key new rest := rfl
    rw [tail, lookup_cons, lookup_cons, ih]
    by_cases same : key row = key new
    · rw [if_pos same, if_neg differ, if_neg (same ▸ differ)]
    · rw [if_neg same]

/-- The object of a row after one row was changed. -/
theorem tracked_put {key : ρ → κ} (unique : Unique key rows) (held : row ∈ rows) :
    tracked key row (put key new rows) = if key row = key new then new else row := by
  have found : lookup key (key row) rows = some row := (lookup_eq_some_iff unique).mpr ⟨held, rfl⟩
  have still : Unique key (put key new rows) := unique_put (fun _ _ same => same) unique
  rw [tracked]
  split
  · next same =>
    rw [(lookup_eq_some_iff still).mpr ⟨mem_put.mpr (Or.inl ⟨rfl, row, held, same⟩), same.symm⟩]
    rfl
  · next differ =>
    rw [(lookup_eq_some_iff still).mpr ⟨mem_put.mpr (Or.inr ⟨held, differ⟩), rfl⟩]
    rfl

/-- Updates of distinct rows, one after another: each row is its own new version. -/
theorem foldl_put {key : ρ → κ} (unique : Unique key news) (rows : List ρ) :
    news.foldl (fun rows row => put key row rows) rows = rows.map fun row => tracked key row news := by
  induction news generalizing rows with
  | nil => simp [tracked, lookup]
  | cons new news ih =>
    obtain ⟨fresh, rest⟩ := List.nodup_cons.mp unique
    rw [List.foldl_cons, ih rest, put, List.map_map]
    apply List.map_congr_left
    intro row _
    by_cases same : key row = key new
    · have missing : lookup key (key new) news = none :=
        lookup_eq_none_iff.mpr fun other member agree => fresh (agree ▸ List.mem_map_of_mem member)
      simp [tracked, same, missing, lookup_cons]
    · have differ : ¬key new = key row := fun agree => same agree.symm
      simp [tracked, same, differ, lookup_cons]

/-- Rows written back as they are. -/
theorem foldl_put_self {key : ρ → κ} {rows news : List ρ} (unique : Unique key rows)
    (distinct : Unique key news) (held : ∀ row ∈ news, row ∈ rows) :
    news.foldl (fun rows row => put key row rows) rows = rows := by
  rw [foldl_put distinct]
  refine (List.map_congr_left fun row inside => ?_).trans (List.map_id rows)
  rw [tracked]
  cases found : lookup key (key row) news with
  | none => rfl
  | some other => exact unique_eq unique (held other (lookup_mem found)) inside (lookup_col found)

/-- A later version among the updates, or after them. -/
theorem foldl_put_put {key : ρ → κ} {news : List ρ} {old new : ρ}
    (distinct : Unique key news) (held : old ∈ news) (same : key old = key new) (rows : List ρ) :
    (put key new news).foldl (fun rows row => put key row rows) rows =
      put key new (news.foldl (fun rows row => put key row rows) rows) := by
  have still : Unique key (put key new news) := unique_put (fun _ _ agree => agree) distinct
  rw [foldl_put still, foldl_put distinct]
  refine Eq.trans (List.map_congr_left fun row _ => ?_) (List.map_map ..).symm
  have own : key (tracked key row news) = key row := by
    rw [tracked]
    cases found : lookup key (key row) news with
    | none => rfl
    | some other => exact lookup_col found
  rw [Function.comp_apply, own, tracked]
  split
  · next here =>
    rw [(lookup_eq_some_iff still).mpr ⟨mem_put.mpr (.inl ⟨rfl, old, held, same⟩), here.symm⟩]
    rfl
  · next differ =>
    rw [lookup_put_ne fun agree => differ agree.symm]
    rfl

omit [DecidableEq ι] in
/-- A nullable unique column, read back from an update that kept it unique. -/
theorem unused_of_uniqueWhenSet_put {key : ρ → κ} {col : ρ → Option ι} (held : old ∈ rows)
    (same : key old = key new) (unique : UniqueWhenSet col (put key new rows))
    (set : col new = some value) (other : ρ) (member : other ∈ rows)
    (clash : col other = some value) : key other = key new := by
  by_contra differ
  have first : new ∈ put key new rows := mem_put.mpr (Or.inl ⟨rfl, old, held, same⟩)
  have second : other ∈ put key new rows := mem_put.mpr (Or.inr ⟨member, differ⟩)
  exact differ (congrArg key (uniqueWhenSet_eq unique second first clash set))

/-! ## Insert -/

omit [DecidableEq κ] in
theorem unique_append {col : ρ → κ} :
    Unique col (rows ++ [row]) ↔ Unique col rows ∧ ∀ old ∈ rows, col old ≠ col row := by
  simp [Unique, List.nodup_append]

omit [DecidableEq κ] in
theorem uniqueWhenSet_append {col : ρ → Option κ} :
    UniqueWhenSet col (rows ++ [row]) ↔
      UniqueWhenSet col rows ∧ ∀ value, col row = some value → ∀ old ∈ rows, col old ≠ some value := by
  cases set : col row with
  | none => simp [UniqueWhenSet, set]
  | some value =>
    simp only [UniqueWhenSet, List.filterMap_append, List.filterMap_cons, List.filterMap_nil, set,
      List.nodup_append, List.nodup_singleton, List.mem_filterMap, List.mem_singleton, true_and,
      Option.some.injEq, forall_eq', ne_eq, and_congr_right_iff, forall_eq]
    exact fun _ => ⟨fun apart old member same => apart _ ⟨old, member, same⟩ rfl,
      fun apart _ ⟨old, member, same⟩ agree => apart old member (agree ▸ same)⟩

/-- A new row becomes what its own key finds; every other lookup is unchanged. -/
theorem lookup_append_fresh {col : ρ → κ} (fresh : ∀ old ∈ rows, col old ≠ col row) :
    lookup col value (rows ++ [row]) = if col row = value then some row else lookup col value rows := by
  rw [lookup_append]
  split
  · next same =>
    subst same
    rw [lookup_eq_none_iff.mpr fresh]
    rfl
  · simp

/-! ## References -/

omit [DecidableEq κ] in
theorem references_put_child {key : ρ → ι} {col : ρ → κ} {parentKey : α → κ}
    (parent : ∃ old ∈ rows, col old = col new) (held : References col parentKey rows parents) :
    References col parentKey (put key new rows) parents := by
  intro row member
  rcases mem_put.mp member with ⟨rfl, _⟩ | ⟨inside, _⟩
  · obtain ⟨old, inside, same⟩ := parent
    exact same ▸ held old inside
  · exact held row inside

theorem references_put_parent {col : ρ → κ} {parentKey : α → κ} (new : α)
    (held : References col parentKey rows parents) :
    References col parentKey rows (put parentKey new parents) := by
  intro row member
  obtain ⟨parent, inside, same⟩ := held row member
  by_cases replaced : parentKey parent = parentKey new
  · exact ⟨new, mem_put.mpr (Or.inl ⟨rfl, parent, inside, replaced⟩), replaced ▸ same⟩
  · exact ⟨parent, mem_put.mpr (Or.inr ⟨inside, replaced⟩), same⟩

omit [DecidableEq κ] in
theorem references_append {col : ρ → κ} {parentKey : α → κ}
    (parent : ∃ held ∈ parents, parentKey held = col row)
    (held : References col parentKey rows parents) :
    References col parentKey (rows ++ [row]) parents := by
  intro other member
  rcases List.mem_append.mp member with inside | last
  · exact held other inside
  · rw [List.mem_singleton.mp last]
    exact parent

end Relational
