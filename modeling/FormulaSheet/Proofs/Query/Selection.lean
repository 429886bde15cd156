import FormulaSheet.Proofs.Query.NaturalOrder
import FormulaSheet.Query.Selection

/-!
What a query selects, said without the way it is computed. A row is selected when it meets every
filter (`IsSelected`), and the selected rows stand in the order of the sort keys and then of their
places (`Before`). That order is strict and total on rows of different places, so the two together
determine the selection, and the order of the filters does not matter.
-/

namespace FormulaSheet.Query

open Std

/-- The text of a column in a row, as formulas read it; empty where its formula fails. -/
def resolvedText (c : Context) (r : Row) (column : String) : String :=
  match Formula.property (c.withRow r.index r.fields) column with
  | .ok v => v.display
  | .error _ => ""

/-- Whether a row meets a filter; a filter on a column that there is not asks nothing. -/
def Filter.IsMet (c : Context) (r : Row) (f : Filter) : Prop :=
  ∀ column, c.findColumn? f.column = some column →
    (f.criterion.isMet (resolvedText c r column) = true ↔ f.negated = false)

/-- Whether a row is one of the rows, in its place, and meets every filter. -/
def IsSelected (q : Query) (rows : List Fields) (c : Context) (r : Row) : Prop :=
  rows[r.index]? = some r.fields ∧ ∀ f ∈ q.filters, f.IsMet c r

/-- Whether one row stands before another. The first sort key that tells them apart decides, and
their places where none does; a sort key on a column that there is not tells no rows apart. -/
def Before (c : Context) : List SortKey → Row → Row → Prop
  | [], a, b => a.index < b.index
  | k :: ks, a, b =>
    match c.findColumn? k.column with
    | none => Before c ks a b
    | some column =>
      match NaturalOrder.compare (resolvedText c a column) (resolvedText c b column) with
      | .lt => k.direction = .ascending
      | .gt => k.direction = .descending
      | .eq => Before c ks a b

/-! ## Filters -/

theorem textOf_fst (c : Context) (r : Row) (column : String) :
    (textOf (c.withRow r.index r.fields) column).1 = resolvedText c r column := by
  unfold textOf resolvedText Formula.property
  rcases Formula.propertyWith Formula.evaluate (c.withRow r.index r.fields) column
    with ⟨value, asked⟩
  cases value <;> rfl

theorem keeps_eq_true_iff (c : Context) (fs : List (String × Filter)) :
    (keeps c fs).1 = true ↔ ∀ p ∈ fs, p.2.keeps (textOf c p.1).1 = true := by
  induction fs with
  | nil => simp [keeps]
  | cons p fs ih =>
    simp only [keeps, List.forall_mem_cons]
    split
    · rename_i hkept
      simp [hkept, ih]
    · rename_i hkept
      simp [hkept]

theorem Filter.keeps_eq_true_iff (f : Filter) (text : String) :
    f.keeps text = true ↔ (f.criterion.isMet text = true ↔ f.negated = false) := by
  unfold Filter.keeps
  cases f.criterion.isMet text <;> cases f.negated <;> simp

theorem keeps_knownFilters_iff (q : Query) (c : Context) (r : Row) :
    (keeps (c.withRow r.index r.fields) (q.knownFilters (c.withRow r.index r.fields))).1 = true ↔
      ∀ f ∈ q.filters, f.IsMet c r := by
  have hfind : ∀ name, (c.withRow r.index r.fields).findColumn? name = c.findColumn? name :=
    fun _ => rfl
  simp only [Query.keeps_eq_true_iff, knownFilters, List.mem_filterMap, Option.map_eq_some_iff,
    Filter.IsMet, Filter.keeps_eq_true_iff]
  constructor
  · intro h f hf column hcolumn
    rw [← textOf_fst]
    exact h (column, f) ⟨f, hf, column, hcolumn, rfl⟩
  · rintro h p ⟨f, hf, column, hcolumn, rfl⟩
    rw [textOf_fst]
    exact h f hf column hcolumn

/-! ## The order of rows -/

/-- Compares two rows by their texts in one column. -/
def compareColumn (c : Context) (column : String) (a b : Row) : Ordering :=
  NaturalOrder.compare (resolvedText c a column) (resolvedText c b column)

/-- Compares two rows by some sort keys and then by their places. -/
def compareRows (c : Context) : List (String × Direction) → Row → Row → Ordering
  | [], a, b => compare a.index b.index
  | (column, d) :: sorts, a, b =>
    (d.apply (compareColumn c column a b)).then (compareRows c sorts a b)

theorem compareTexts_then_eq (c : Context) (sorts : List (String × Direction)) (a b : Row) :
    (compareTexts (sorts.map Prod.snd)
      ((sortTexts (c.withRow a.index a.fields) sorts).map Prod.fst)
      ((sortTexts (c.withRow b.index b.fields) sorts).map Prod.fst)).then
      (compare a.index b.index) = compareRows c sorts a b := by
  induction sorts with
  | nil => rfl
  | cons s sorts ih =>
    rw [compareRows, compareColumn, ← ih, ← textOf_fst, ← textOf_fst]
    simp only [sortTexts, List.map_cons, compareTexts, Ordering.then_assoc]

instance (c : Context) (column : String) : TransCmp (compareColumn c column) where
  eq_swap {a b} := by
    change NaturalOrder.compare _ _ = (NaturalOrder.compare _ _).swap
    exact OrientedCmp.eq_swap
  isLE_trans {a b e} hab hbe := by
    change (NaturalOrder.compare _ _).isLE at hab
    change (NaturalOrder.compare _ _).isLE at hbe
    change (NaturalOrder.compare _ _).isLE
    exact TransCmp.isLE_trans hab hbe

theorem Direction.transCmp_apply (d : Direction) (cmp : Row → Row → Ordering) [TransCmp cmp] :
    TransCmp fun a b => d.apply (cmp a b) := by
  cases d with
  | ascending => exact inferInstanceAs (TransCmp cmp)
  | descending =>
    have hswap : (fun a b => Direction.descending.apply (cmp a b)) = fun a b => cmp b a := by
      funext a b
      exact OrientedCmp.eq_swap.symm
    rw [hswap]
    exact TransCmp.opposite

instance (c : Context) (sorts : List (String × Direction)) : TransCmp (compareRows c sorts) := by
  induction sorts with
  | nil => exact inferInstanceAs (TransCmp (compareOn Row.index))
  | cons s sorts ih =>
    have hcolumn := s.2.transCmp_apply (compareColumn c s.1)
    exact inferInstanceAs
      (TransCmp (compareLex (fun a b => s.2.apply (compareColumn c s.1 a b)) (compareRows c sorts)))

theorem before_iff (c : Context) (ks : List SortKey) (a b : Row) :
    Before c ks a b ↔
      compareRows c (ks.filterMap fun k =>
        (c.findColumn? k.column).map fun column => (column, k.direction)) a b = .lt := by
  induction ks with
  | nil => simp [Before, compareRows, Nat.compare_eq_lt]
  | cons k ks ih =>
    cases hk : c.findColumn? k.column with
    | none => simpa [Before, hk] using ih
    | some column =>
      cases hcompare :
          NaturalOrder.compare (resolvedText c a column) (resolvedText c b column) <;>
        cases hd : k.direction <;>
        simp [Before, hk, compareRows, compareColumn, hcompare, hd, Direction.apply, ih]

/-- The rows of a list in their places. -/
def placed (rows : List Fields) : List Row := rows.zipIdx.map fun p => ⟨p.2, p.1⟩

theorem mem_placed {rows : List Fields} {r : Row} :
    r ∈ placed rows ↔ rows[r.index]? = some r.fields := by
  rw [placed, List.mem_map]
  constructor
  · rintro ⟨p, hp, rfl⟩
    exact List.mem_zipIdx_iff_getElem?.mp hp
  · intro h
    exact ⟨(r.fields, r.index), List.mem_zipIdx_iff_getElem?.mpr h, rfl⟩

/-- Whether a row is kept when all filters are looked at. -/
def isKept (q : Query) (c : Context) (r : Row) : Bool :=
  (keeps (c.withRow r.index r.fields) (q.knownFilters c)).1

theorem isKept_eq_true_iff {q : Query} {c : Context} {r : Row} :
    q.isKept c r = true ↔ ∀ f ∈ q.filters, f.IsMet c r := keeps_knownFilters_iff q c r

/-- A row with the texts that it is sorted by. -/
def keyed (q : Query) (c : Context) (r : Row) : Row × List String :=
  (r, (sortTexts (c.withRow r.index r.fields) (q.knownSorts c)).map Prod.fst)

theorem examine_fst (q : Query) (c : Context) (r : Row) :
    (q.examine c r.index r.fields).1 = if q.isKept c r then some (q.keyed c r) else none := by
  obtain ⟨kept, asked, hkeeps⟩ : ∃ kept asked,
      keeps (c.withRow r.index r.fields) (q.knownFilters c) = (kept, asked) := ⟨_, _, rfl⟩
  cases kept <;> simp only [examine, isKept, hkeeps] <;> rfl

theorem kept_eq (q : Query) (rows : List Fields) (c : Context) :
    (rows.zipIdx.map fun p => q.examine c p.2 p.1).filterMap Prod.fst =
      ((placed rows).filter (q.isKept c)).map (q.keyed c) := by
  have hrow : (Prod.fst ∘ fun p : Fields × Nat => q.examine c p.2 p.1) =
      (fun r => if q.isKept c r then some (q.keyed c r) else none) ∘ fun p => ⟨p.2, p.1⟩ :=
    funext fun p => examine_fst q c ⟨p.2, p.1⟩
  rw [List.filterMap_map, hrow, ← List.filterMap_map, ← placed]
  induction placed rows with
  | nil => rfl
  | cons r rs ih => cases hr : q.isKept c r <;> simp [hr, ih]

/-- Sorting the kept rows by what was read of them is sorting them by what they read. -/
theorem rows_selectFrom (q : Query) (rows : List Fields) (c : Context) :
    (q.selectFrom rows c).rows =
      ((placed rows).filter (q.isKept c)).mergeSort fun a b =>
        (compareRows c (q.knownSorts c) a b).isLE := by
  change (((rows.zipIdx.map fun p => q.examine c p.2 p.1).filterMap Prod.fst).mergeSort
    (precedes ((q.knownSorts c).map Prod.snd))).map Prod.fst = _
  rw [kept_eq, List.map_mergeSort (s := fun a b => (compareRows c (q.knownSorts c) a b).isLE)]
  · simp [keyed, Function.comp_def]
  · intro a ha b hb
    obtain ⟨a, -, rfl⟩ := List.mem_map.mp ha
    obtain ⟨b, -, rfl⟩ := List.mem_map.mp hb
    exact congrArg Ordering.isLE (compareTexts_then_eq c (q.knownSorts c) a b)

theorem mem_rows_selectFrom {q : Query} {rows : List Fields} {c : Context} {r : Row} :
    r ∈ (q.selectFrom rows c).rows ↔ q.IsSelected rows c r := by
  rw [rows_selectFrom, List.mem_mergeSort, List.mem_filter, mem_placed, isKept_eq_true_iff]
  rfl

end FormulaSheet.Query
