import FormulaSheet.Proofs.Query.Reading

/-!
Writing a query that was read, and reading it again, gives the same query (`ofSpec_toSpec`),
whatever stands in its columns, texts and patterns. Which patterns are accepted makes no
difference, so long as the same ones are accepted both times.
-/

namespace FormulaSheet.Query

/-! ## Queries as clauses -/

def Criterion.directive : Criterion → Directive
  | .text wanted => .text wanted
  | .pattern source flags _ => .pattern source flags

def Filter.clause (f : Filter) : Clause := ⟨f.column, f.criterion.directive, f.negated⟩

def SortKey.clause (k : SortKey) : Clause := ⟨k.column, .sort k.direction, false⟩

/-- The clauses of a query in the order in which they are written. -/
def clauseList (q : Query) : List Clause :=
  q.filters.map Filter.clause ++ q.sorts.map SortKey.clause

theorem Filter.chars_eq (f : Filter) : f.chars = f.clause.chars := by
  obtain ⟨column, criterion, negated⟩ := f
  cases criterion <;> rfl

theorem toSpec_eq (q : Query) : q.toSpec = String.ofList (line q.clauseList) := by
  have hfilters : q.filters.map Filter.chars = (q.filters.map Filter.clause).map Clause.chars := by
    rw [List.map_map]
    exact List.map_congr_left fun f _ => f.chars_eq
  have hsorts : q.sorts.map SortKey.chars = (q.sorts.map SortKey.clause).map Clause.chars := by
    rw [List.map_map]
    exact List.map_congr_left fun k _ => rfl
  rw [toSpec, line, clauseList, List.map_append, hfilters, hsorts]

/-! ## What is read -/

section Reading

variable (compile : String → String → Option Pattern)

/-- A filter as reading leaves it: it can be written, and its pattern is what `compile` makes of
its source. -/
def Filter.IsRead (f : Filter) : Prop :=
  f.clause.directive.IsWritable ∧
    match f.criterion with
    | .text _ => True
    | .pattern source flags matcher => compile source flags = some matcher

variable {compile}

theorem Filter.IsRead.addWith {f : Filter} (h : f.IsRead compile) (q : Query) :
    q.addWith compile f.clause = { q with filters := q.filters ++ [f] } := by
  obtain ⟨column, criterion, negated⟩ := f
  cases criterion with
  | text wanted => rfl
  | pattern source flags matcher =>
    have hc : compile source flags = some matcher := h.2
    simp [Query.addWith, Filter.clause, Criterion.directive, hc]

theorem isRead_addWith {q : Query} {c : Clause} (hc : c.directive.IsWritable)
    (hq : ∀ f ∈ q.filters, f.IsRead compile) :
    ∀ f ∈ (q.addWith compile c).filters, f.IsRead compile := by
  intro f hf
  obtain ⟨column, directive, negated⟩ := c
  cases directive with
  | sort direction => exact hq f hf
  | text wanted =>
    rcases List.mem_append.mp hf with hf | hf
    · exact hq f hf
    · rw [List.mem_singleton.mp hf]
      exact ⟨trivial, trivial⟩
  | pattern source flags =>
    cases hm : compile source flags with
    | none =>
      simp only [addWith, hm] at hf
      exact hq f hf
    | some matcher =>
      simp only [addWith, hm, List.mem_append, List.mem_singleton] at hf
      rcases hf with hf | rfl
      · exact hq f hf
      · exact ⟨hc, hm⟩

theorem isRead_foldl_addWith (cs : List Clause) (hcs : ∀ c ∈ cs, c.directive.IsWritable)
    (q : Query) (hq : ∀ f ∈ q.filters, f.IsRead compile) :
    ∀ f ∈ (cs.foldl (addWith compile) q).filters, f.IsRead compile := by
  induction cs generalizing q with
  | nil => exact hq
  | cons c cs ih =>
    exact ih (fun d hd => hcs d (by simp [hd])) _ (isRead_addWith (hcs c (by simp)) hq)

theorem ofSpecWith_isRead (spec : String) :
    ∀ f ∈ (ofSpecWith compile spec).filters, f.IsRead compile :=
  isRead_foldl_addWith _ (clausesWithin_isWritable _ _) {} (by simp)

/-! ## Reading what was written -/

theorem foldl_addWith_filters (fs : List Filter) (hfs : ∀ f ∈ fs, f.IsRead compile) (q : Query) :
    (fs.map Filter.clause).foldl (addWith compile) q = { q with filters := q.filters ++ fs } := by
  induction fs generalizing q with
  | nil => simp
  | cons f fs ih =>
    rw [List.map_cons, List.foldl_cons, (hfs f (by simp)).addWith,
      ih (fun g hg => hfs g (by simp [hg]))]
    simp

theorem foldl_addWith_sorts (ks : List SortKey) (q : Query) :
    (ks.map SortKey.clause).foldl (addWith compile) q = { q with sorts := q.sorts ++ ks } := by
  induction ks generalizing q with
  | nil => simp
  | cons k ks ih =>
    rw [List.map_cons, List.foldl_cons, ih]
    simp [addWith, SortKey.clause]

theorem clauseList_isWritable {q : Query} (hq : ∀ f ∈ q.filters, f.IsRead compile) :
    ∀ c ∈ q.clauseList, c.directive.IsWritable := by
  intro c hc
  rcases List.mem_append.mp hc with hc | hc
  · obtain ⟨f, hf, rfl⟩ := List.mem_map.mp hc
    exact (hq f hf).1
  · obtain ⟨k, _, rfl⟩ := List.mem_map.mp hc
    trivial

/-- A query whose filters were read is read again from its written form. -/
theorem ofSpecWith_toSpec_of_isRead (q : Query) (hq : ∀ f ∈ q.filters, f.IsRead compile) :
    ofSpecWith compile q.toSpec = q := by
  rw [ofSpecWith, toSpec_eq, clauses_line _ (clauseList_isWritable hq), clauseList,
    List.foldl_append, foldl_addWith_filters _ hq, foldl_addWith_sorts]
  simp

end Reading

/-- The written form of a query that was read means the same query: the same filters and the same
sort keys in the same order. So writing it again gives the same text. This holds whatever patterns
are accepted, and with those that are. -/
theorem ofSpec_toSpec :
    (∀ compile spec, ofSpecWith compile (ofSpecWith compile spec).toSpec =
        ofSpecWith compile spec) ∧
      ∀ spec, ofSpec (ofSpec spec).toSpec = ofSpec spec ∧
        (ofSpec (ofSpec spec).toSpec).toSpec = (ofSpec spec).toSpec := by
  have h : ∀ compile spec, ofSpecWith compile (ofSpecWith compile spec).toSpec =
      ofSpecWith compile spec :=
    fun compile spec => ofSpecWith_toSpec_of_isRead _ (ofSpecWith_isRead spec)
  refine ⟨h, fun spec => ?_⟩
  have hspec : ofSpec (ofSpec spec).toSpec = ofSpec spec := h compile? spec
  exact ⟨hspec, by rw [hspec]⟩

end FormulaSheet.Query
