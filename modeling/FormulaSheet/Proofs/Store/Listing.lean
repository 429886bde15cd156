import FormulaSheet.Proofs.Store.Shelf
import Mathlib.Data.List.Nodup
import Mathlib.Data.Prod.Lex
import Mathlib.Data.String.Basic

/-!
Lists of tables. The order in which they are told leaves nothing open, since tables of one time are
told by their identifiers; so what an owner has under which identifier decides the whole list.
-/

namespace FormulaSheet

/-- What moments are compared by. -/
def Instant.rank (t : Instant) : ℤ ×ₗ ℕ ×ₗ ℕ ×ₗ ℕ ×ₗ ℕ :=
  toLex (t.day.year, toLex (t.day.month, toLex (t.day.day, toLex (t.second, t.nano))))

theorem Instant.rank_inj {a b : Instant} : a.rank = b.rank ↔ a = b := by
  constructor
  · intro h
    obtain ⟨⟨ay, am, ad, _⟩, as, an, _, _⟩ := a
    obtain ⟨⟨ey, em, ed, _⟩, es, en, _, _⟩ := b
    simpa [rank, and_assoc] using h
  · rintro rfl
    rfl

theorem Instant.before_iff {a b : Instant} : a.before b = true ↔ a.rank < b.rank := by
  obtain ⟨⟨ay, am, ad, _⟩, as, an, _, _⟩ := a
  obtain ⟨⟨ey, em, ed, _⟩, es, en, _, _⟩ := b
  simp only [before, Date.before, rank, Prod.Lex.toLex_lt_toLex, Bool.or_eq_true,
    Bool.and_eq_true, decide_eq_true_eq, beq_iff_eq, Date.mk.injEq]
  omega

theorem Instant.before_eq_false_iff {a b : Instant} : a.before b = false ↔ b.rank ≤ a.rank := by
  rw [← Bool.not_eq_true, before_iff, not_lt]

namespace Summary

/-- What summaries are ordered by. -/
def rank (x : Summary) : (ℤ ×ₗ ℕ ×ₗ ℕ ×ₗ ℕ ×ₗ ℕ)ᵒᵈ ×ₗ String :=
  toLex (OrderDual.toDual x.updatedAt.rank, x.id)

theorem precedes_iff {a b : Summary} : precedes a b = true ↔ a.rank ≤ b.rank := by
  simp [precedes, rank, Prod.Lex.toLex_le_toLex, Instant.before_iff, Instant.rank_inj]

theorem rank_inj {a b : Summary} (h : a.rank = b.rank) : a.id = b.id := by
  have hpair : (OrderDual.toDual a.updatedAt.rank, a.id) =
      (OrderDual.toDual b.updatedAt.rank, b.id) := toLex.injective h
  exact (Prod.mk.inj hpair).2

theorem sorted_pairwise (xs : List Summary) :
    (sorted xs).Pairwise fun a b => precedes a b = true := by
  refine List.pairwise_mergeSort (fun a b c hab hbc => ?_) (fun a b => ?_) xs
  · rw [precedes_iff] at *
    exact hab.trans hbc
  · rw [Bool.or_eq_true, precedes_iff, precedes_iff]
    exact le_total a.rank b.rank

/-- What precedes is not older. -/
theorem before_of_precedes {a b : Summary} (h : precedes a b = true) :
    a.updatedAt.before b.updatedAt = false := by
  rw [Instant.before_eq_false_iff]
  simp only [precedes, Bool.or_eq_true, Bool.and_eq_true, Instant.before_iff, beq_iff_eq] at h
  rcases h with hnewer | ⟨hsame, -⟩
  · exact hnewer.le
  · rw [hsame]

theorem mem_sorted {xs : List Summary} {x : Summary} : x ∈ sorted xs ↔ x ∈ xs :=
  (List.mergeSort_perm xs precedes).mem_iff

/-- Sorting forgets the order that there was, when each identifier is told once. -/
theorem sorted_eq_of_perm {xs ys : List Summary} (hxs : (xs.map Summary.id).Nodup)
    (h : xs.Perm ys) : sorted xs = sorted ys := by
  have hperm : (sorted xs).Perm (sorted ys) :=
    (List.mergeSort_perm xs precedes).trans (h.trans (List.mergeSort_perm ys precedes).symm)
  refine hperm.eq_of_pairwise (fun a b ha hb hab hba => ?_) (sorted_pairwise xs)
    (sorted_pairwise ys)
  rw [precedes_iff] at hab hba
  have hid : a.id = b.id := rank_inj (hab.antisymm hba)
  exact List.inj_on_of_nodup_map hxs (mem_sorted.mp ha) (h.mem_iff.mpr (mem_sorted.mp hb)) hid

end Summary

namespace Shelf

variable {f g : Shelf} {owner : String} {told told' : List Summary}

/-- A list of all that an owner has, each once. -/
def IsListing (f : Shelf) (owner : String) (told : List Summary) : Prop :=
  ∃ rs : List Record, (rs.map Record.id).Nodup ∧ (∀ r, r ∈ rs ↔ f.of owner r.id = some r) ∧
    told = Summary.sorted (rs.map Record.summary)

theorem IsListing.mem_iff (h : IsListing f owner told) {x : Summary} :
    x ∈ told ↔ ∃ r, f x.id = some r ∧ r.owner = owner ∧ r.summary = x := by
  obtain ⟨rs, -, hrs, rfl⟩ := h
  rw [Summary.mem_sorted, List.mem_map]
  constructor
  · rintro ⟨r, hr, rfl⟩
    obtain ⟨hfound, howner⟩ := of_eq_some_iff.mp ((hrs r).mp hr)
    exact ⟨r, hfound, howner, rfl⟩
  · rintro ⟨r, hfound, howner, rfl⟩
    exact ⟨r, (hrs r).mpr (of_eq_some_iff.mpr ⟨hfound, howner⟩), rfl⟩

theorem IsListing.nodup (h : IsListing f owner told) : (told.map Summary.id).Nodup := by
  obtain ⟨rs, hrs, -, rfl⟩ := h
  have hperm := (List.mergeSort_perm (rs.map Record.summary) Summary.precedes).map Summary.id
  refine hperm.nodup_iff.mpr ?_
  rw [List.map_map]
  exact hrs

theorem IsListing.newest_first (h : IsListing f owner told) :
    told.Pairwise fun a b => a.updatedAt.before b.updatedAt = false := by
  obtain ⟨rs, -, -, rfl⟩ := h
  exact (Summary.sorted_pairwise _).imp Summary.before_of_precedes

/-- There is one list of what an owner has, whatever others have. -/
theorem IsListing.unique (h : IsListing f owner told) (h' : IsListing g owner told')
    (hfg : g.of owner = f.of owner) : told' = told := by
  obtain ⟨rs, hrs, hmem, rfl⟩ := h
  obtain ⟨rs', hrs', hmem', rfl⟩ := h'
  have hperm : rs'.Perm rs := by
    refine (List.perm_ext_iff_of_nodup (List.Nodup.of_map _ hrs')
      (List.Nodup.of_map _ hrs)).mpr fun r => ?_
    rw [hmem, hmem', hfg]
  refine Summary.sorted_eq_of_perm ?_ (hperm.map Record.summary)
  rw [List.map_map]
  exact hrs'

end Shelf

end FormulaSheet
