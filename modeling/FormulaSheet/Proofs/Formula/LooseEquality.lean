import FormulaSheet.Formula.Namespaces
import FormulaSheet.Proofs.Formula.Handing

/-!
Loose equality and the lists without repetitions that it gives. Values other than not-a-number are
loosely equal when both are unit or neither is, they are shown alike, and they are not the two
infinities (`looselyEqual_iff`). The infinities are shown as nothing, like an empty text, which
equals both of them. Apart from that loose equality is an equivalence, and unless the three come
together `distinct` keeps one item of each class, whatever the order (`looselyEqual_laws`).
-/

namespace FormulaSheet

namespace CellValue

variable {x y : Float}

theorem not_beq_infinity : ¬ (Number.infinity == -Number.infinity) = true := by decide +kernel

theorem not_infinity_beq : ¬ (-Number.infinity == Number.infinity) = true := by decide +kernel

theorem display_number_of_not_isFinite (h : ¬ x.isFinite = true) : (number x).display = "" := by
  rw [display, if_neg h]

theorem display_number_of_isFinite (h : x.isFinite = true) :
    (number x).display = Number.display x := by
  rw [display, if_pos h]

/-- Numbers are equal when they are shown alike, except for the infinities. -/
theorem beq_iff_display (hx : x.isNaN = false) (hy : y.isNaN = false) : (x == y) = true ↔
    (number x).display = (number y).display ∧
      ¬ (x = Number.infinity ∧ y = -Number.infinity ∨
        x = -Number.infinity ∧ y = Number.infinity) := by
  constructor
  · intro h
    refine ⟨display_number_congr h, ?_⟩
    rintro (⟨rfl, rfl⟩ | ⟨rfl, rfl⟩)
    · exact not_beq_infinity h
    · exact not_infinity_beq h
  · rintro ⟨h, hopposite⟩
    by_cases hfinite : x.isFinite = true <;> by_cases hfinite' : y.isFinite = true
    · rw [display_number_of_isFinite hfinite, display_number_of_isFinite hfinite'] at h
      exact Number.beq_of_display hfinite hfinite' h
    · rw [display_number_of_isFinite hfinite, display_number_of_not_isFinite hfinite'] at h
      exact absurd h (Number.display_ne_empty hfinite)
    · rw [display_number_of_not_isFinite hfinite, display_number_of_isFinite hfinite'] at h
      exact absurd h.symm (Number.display_ne_empty hfinite')
    · refine Number.beq_iff.mpr ⟨hx, .inl ?_⟩
      rcases Number.eq_infinity_of_not_isFinite hx hfinite with rfl | rfl <;>
        rcases Number.eq_infinity_of_not_isFinite hy hfinite' with rfl | rfl
      · rfl
      · exact absurd (.inl ⟨rfl, rfl⟩) hopposite
      · exact absurd (.inr ⟨rfl, rfl⟩) hopposite
      · rfl

end CellValue

namespace Script.Value

/-- The double that a value is, if it is a number. -/
def double? (v : Value) : Option Float :=
  match CellValue.ofScript #[] v with
  | .number x => some x
  | _ => none

def isNaN (v : Value) : Bool := v.double?.any Float.isNaN

/-- Whether a value is unit, which a cell holds as null. -/
def isNull (v : Value) : Bool := (CellValue.ofScript #[] v).isNull

/-- Whether a value is shown as nothing without being unit. -/
def isHollow (v : Value) : Bool := !v.isNull && v.shown == ""

/-- The two infinities, in either order. -/
def Opposite (a b : Value) : Prop :=
  a.double? = some Number.infinity ∧ b.double? = some (-Number.infinity) ∨
    a.double? = some (-Number.infinity) ∧ b.double? = some Number.infinity

/-- Shown as nothing without being unit or a number, like an empty text. -/
def IsBlank (v : Value) : Prop := v.isHollow = true ∧ v.double? = none

instance (a b : Value) : Decidable (a.Opposite b) := inferInstanceAs (Decidable (_ ∨ _))

instance (v : Value) : Decidable v.IsBlank := inferInstanceAs (Decidable (_ ∧ _))

/-! ## What loosely equal values share -/

variable {a b c v : Value} {x : Float}

theorem looselyEqual_iff (ha : a.isNaN = false) (hb : b.isNaN = false) :
    a.looselyEqual b = true ↔ a.isNull = b.isNull ∧ a.shown = b.shown ∧ ¬ a.Opposite b := by
  unfold looselyEqual isNull shown Opposite double?
  unfold isNaN double? at ha hb
  generalize CellValue.ofScript #[] a = u at ha hb ⊢
  generalize CellValue.ofScript #[] b = w at ha hb ⊢
  cases u with
  | number x => cases w with
    | number y =>
      rw [CellValue.beq_iff_display (by simpa using ha) (by simpa using hb)]
      simp [CellValue.isNull]
    | _ => simp [CellValue.isNull]
  | _ => cases w <;> simp [CellValue.isNull]

/-! ## Up to blanks between the infinities -/

theorem not_opposite (v : Value) : ¬ v.Opposite v := by
  rintro (⟨h, h'⟩ | ⟨h, h'⟩)
  · exact absurd (Option.some.inj (h.symm.trans h')) (by decide +kernel)
  · exact absurd (Option.some.inj (h.symm.trans h')) (by decide +kernel)

theorem looselyEqual_self (h : v.isNaN = false) : v.looselyEqual v = true :=
  (looselyEqual_iff h h).mpr ⟨rfl, rfl, v.not_opposite⟩

theorem looselyEqual_comm (a b : Value) : a.looselyEqual b = b.looselyEqual a := by
  unfold looselyEqual
  generalize CellValue.ofScript #[] a = u
  generalize CellValue.ofScript #[] b = w
  cases u with
  | number x => cases w with
    | number y => exact Bool.eq_iff_iff.mpr ⟨Number.beq_symm, Number.beq_symm⟩
    | _ => first | rfl | exact BEq.comm
  | _ => cases w <;> first | rfl | exact BEq.comm

theorem ofScript_of_double? (h : v.double? = some x) : CellValue.ofScript #[] v = .number x := by
  unfold double? at h
  split at h
  · rename_i hv
    rw [hv, Option.some.inj h]
  · cases h

theorem isHollow_congr (ha : a.isNaN = false) (hb : b.isNaN = false)
    (h : a.looselyEqual b = true) : a.isHollow = b.isHollow := by
  obtain ⟨hnull, hshown, -⟩ := (looselyEqual_iff ha hb).mp h
  rw [isHollow, isHollow, hnull, hshown]

/-- Numbers that are shown as nothing are those that are not finite. -/
theorem isHollow_of_double? (h : v.double? = some x) : v.isHollow = !x.isFinite := by
  rw [isHollow, isNull, shown, ofScript_of_double? h]
  cases hx : x.isFinite with
  | true =>
    rw [CellValue.display_number_of_isFinite hx,
      beq_eq_false_iff_ne.mpr (Number.display_ne_empty hx)]
    rfl
  | false =>
    rw [CellValue.display_number_of_not_isFinite (Bool.not_eq_true _ ▸ hx)]
    rfl

theorem eq_infinity_of_isHollow (hnan : v.isNaN = false) (h : v.double? = some x)
    (hhollow : v.isHollow = true) : x = Number.infinity ∨ x = -Number.infinity := by
  rw [isNaN, h] at hnan
  refine Number.eq_infinity_of_not_isFinite hnan fun hfinite => ?_
  rw [isHollow_of_double? h, hfinite] at hhollow
  cases hhollow

theorem Opposite.isHollow (h : a.Opposite c) : a.isHollow = true ∧ c.isHollow = true := by
  have hinfinity : (!Number.infinity.isFinite) = true := by decide +kernel
  have hnegInfinity : (!(-Number.infinity).isFinite) = true := by decide +kernel
  rcases h with ⟨h, h'⟩ | ⟨h, h'⟩
  · rw [isHollow_of_double? h, isHollow_of_double? h']
    exact ⟨hinfinity, hnegInfinity⟩
  · rw [isHollow_of_double? h, isHollow_of_double? h']
    exact ⟨hnegInfinity, hinfinity⟩

/-- Something blank loosely equals all that is shown as nothing, both infinities among it. -/
theorem IsBlank.looselyEqual (hb : b.IsBlank) (hnan : v.isNaN = false)
    (hv : v.isHollow = true) : b.looselyEqual v = true := by
  obtain ⟨hhollow, hdouble⟩ := hb
  rw [isHollow, Bool.and_eq_true, Bool.not_eq_true', beq_iff_eq] at hhollow hv
  refine (looselyEqual_iff (by rw [isNaN, hdouble]; rfl) hnan).mpr
    ⟨hhollow.1.trans hv.1.symm, hhollow.2.trans hv.2.symm, ?_⟩
  rintro (⟨h, -⟩ | ⟨h, -⟩)
  · cases hdouble.symm.trans h
  · cases hdouble.symm.trans h

/-- Transitivity, and how it fails: only between the infinities, over something blank. -/
theorem looselyEqual_of_looselyEqual (ha : a.isNaN = false) (hb : b.isNaN = false)
    (hc : c.isNaN = false) (hab : a.looselyEqual b = true) (hbc : b.looselyEqual c = true) :
    a.looselyEqual c = false ↔ a.Opposite c ∧ b.IsBlank := by
  obtain ⟨hnull, hshown, hnot⟩ := (looselyEqual_iff ha hb).mp hab
  obtain ⟨hnull', hshown', hnot'⟩ := (looselyEqual_iff hb hc).mp hbc
  rw [← Bool.not_eq_true, looselyEqual_iff ha hc]
  constructor
  · intro h
    have hopposite : a.Opposite c :=
      not_not.mp fun hnone => h ⟨hnull.trans hnull', hshown.trans hshown', hnone⟩
    have hhollow : b.isHollow = true := isHollow_congr ha hb hab ▸ hopposite.isHollow.1
    refine ⟨hopposite, hhollow, ?_⟩
    -- Another infinity would be opposite to one of the two.
    by_contra hsome
    obtain ⟨z, hz⟩ := Option.ne_none_iff_exists'.mp hsome
    obtain rfl | rfl := eq_infinity_of_isHollow hb hz hhollow <;>
      rcases hopposite with ⟨h, h'⟩ | ⟨h, h'⟩
    · exact hnot' (.inl ⟨hz, h'⟩)
    · exact hnot (.inr ⟨h, hz⟩)
    · exact hnot (.inl ⟨h, hz⟩)
    · exact hnot' (.inr ⟨hz, h'⟩)
  · rintro ⟨hopposite, -⟩ ⟨-, -, h⟩
    exact h hopposite

end Script.Value

/-! ## Lists without repetitions -/

namespace Formula

open Script

/-- What a list without repetitions keeps: some of the items, no two of which are loosely equal,
and for each of the items one that it loosely equals. -/
structure Represents (kept items : List Value) : Prop where
  sublist : kept.Sublist items
  apart : kept.Pairwise fun v w => v.looselyEqual w = false
  covers : ∀ v ∈ items, ∃ w ∈ kept, w.looselyEqual v = true

/-- Whether both infinities are among the items together with something blank, which loosely equals
both. -/
def Torn (items : List Value) : Prop :=
  (∃ a ∈ items, ∃ c ∈ items, a.Opposite c) ∧ ∃ b ∈ items, b.IsBlank

instance (items : List Value) : Decidable (Torn items) := inferInstanceAs (Decidable (_ ∧ _))

variable {kept kept' items items' : List Value} {a b c v : Value}

/-- Another item is kept when it does not loosely equal one that is. -/
theorem distinct_concat (items : List Value) (v : Value) : distinct (items ++ [v]) =
    if (distinct items).any (·.looselyEqual v) then distinct items else distinct items ++ [v] := by
  unfold distinct
  rw [List.foldl_append, List.foldl_cons, List.foldl_nil, List.any_reverse]
  split
  · rfl
  · exact List.reverse_cons

theorem Represents.skip (h : Represents kept items)
    (hv : kept.any (·.looselyEqual v) = true) : Represents kept (items ++ [v]) where
  sublist := h.sublist.trans (List.sublist_append_left items [v])
  apart := h.apart
  covers w hw := by
    rcases List.mem_append.mp hw with hw | hw
    · exact h.covers w hw
    · rw [List.mem_singleton.mp hw]
      exact List.any_eq_true.mp hv

theorem Represents.keep (h : Represents kept items) (hnan : v.isNaN = false)
    (hv : ¬ kept.any (·.looselyEqual v) = true) :
    Represents (kept ++ [v]) (items ++ [v]) where
  sublist := h.sublist.append (List.Sublist.refl [v])
  apart := by
    refine List.pairwise_append.mpr ⟨h.apart, List.pairwise_singleton _ v, ?_⟩
    intro w hw u hu
    rw [List.mem_singleton.mp hu]
    exact Bool.eq_false_iff.mpr fun heq => hv (List.any_eq_true.mpr ⟨w, hw, heq⟩)
  covers w hw := by
    rcases List.mem_append.mp hw with hw | hw
    · obtain ⟨u, hu, heq⟩ := h.covers w hw
      exact ⟨u, List.mem_append_left _ hu, heq⟩
    · rw [List.mem_singleton.mp hw]
      exact ⟨v, List.mem_append_right _ List.mem_cons_self, Value.looselyEqual_self hnan⟩

theorem represents_distinct (hnan : ∀ v ∈ items, v.isNaN = false) :
    Represents (distinct items) items := by
  induction items using List.reverseRecOn with
  | nil => exact ⟨List.Sublist.refl [], List.Pairwise.nil, fun v hv => absurd hv List.not_mem_nil⟩
  | append_singleton items v ih =>
    have hkept := ih fun w hw => hnan w (List.mem_append_left _ hw)
    rw [distinct_concat]
    split
    · rename_i hv
      exact hkept.skip hv
    · rename_i hv
      exact hkept.keep (hnan v (List.mem_append_right _ List.mem_cons_self)) hv

/-- Whether loose equality is transitive among some items. -/
def Classed (items : List Value) : Prop :=
  ∀ a ∈ items, ∀ b ∈ items, ∀ c ∈ items,
    a.looselyEqual b = true → b.looselyEqual c = true → a.looselyEqual c = true

theorem classed_of_not_torn (hnan : ∀ v ∈ items, v.isNaN = false) (h : ¬ Torn items) :
    Classed items := by
  intro a ha b hb c hc hab hbc
  by_contra hnot
  obtain ⟨hopposite, hblank⟩ := (Value.looselyEqual_of_looselyEqual (hnan a ha) (hnan b hb)
    (hnan c hc) hab hbc).mp (Bool.eq_false_iff.mpr hnot)
  exact h ⟨⟨a, ha, c, hc, hopposite⟩, b, hb, hblank⟩

/-- Each item has one that it is represented by. -/
theorem Represents.countP (h : Represents kept items) (hclassed : Classed items)
    (hv : v ∈ items) : kept.countP (·.looselyEqual v) = 1 := by
  obtain ⟨w, hw, heq⟩ := h.covers v hv
  have hmem : w ∈ kept.filter (·.looselyEqual v) := List.mem_filter.mpr ⟨hw, heq⟩
  have hapart := h.apart.filter (·.looselyEqual v)
  have hrelated : ∀ u ∈ kept.filter (·.looselyEqual v), u ∈ items ∧ u.looselyEqual v = true :=
    fun u hu => ⟨h.sublist.subset (List.mem_filter.mp hu).1, (List.mem_filter.mp hu).2⟩
  rw [List.countP_eq_length_filter]
  match hkept : kept.filter (·.looselyEqual v) with
  | [] =>
    rw [hkept] at hmem
    cases hmem
  | [_] => rw [hkept, List.length_singleton]
  | a :: b :: rest =>
    rw [hkept] at hapart hrelated
    obtain ⟨ha, hav⟩ := hrelated a List.mem_cons_self
    obtain ⟨hb, hbv⟩ := hrelated b (List.mem_cons_of_mem _ List.mem_cons_self)
    have hab := hclassed a ha v hv b hb hav (Value.looselyEqual_comm b v ▸ hbv)
    rw [List.rel_of_pairwise_cons hapart List.mem_cons_self] at hab
    cases hab

/-- What represents some items is no longer than what represents them in another order: each that
is kept here has its own representative there. -/
theorem Represents.length_le (h : Represents kept items) (hclassed : Classed items)
    (h' : Represents kept' items') (hperm : items.Perm items') : kept.length ≤ kept'.length := by
  choose! f hf using h'.covers
  have hitem : ∀ v ∈ kept, v ∈ items' := fun v hv => hperm.mem_iff.mp (h.sublist.subset hv)
  have hnodup : (kept.map f).Nodup := by
    refine List.pairwise_map.mpr (h.apart.imp_of_mem fun {a b} ha hb hab heq => ?_)
    obtain ⟨hfa, hfaa⟩ := hf a (hitem a ha)
    obtain ⟨-, hfbb⟩ := hf b (hitem b hb)
    have hsame := hclassed a (h.sublist.subset ha) (f a)
      (hperm.mem_iff.mpr (h'.sublist.subset hfa)) b (h.sublist.subset hb)
      (Value.looselyEqual_comm (f a) a ▸ hfaa) (heq ▸ hfbb)
    rw [hab] at hsame
    cases hsame
  have hsubset : kept.map f ⊆ kept' := by
    intro w hw
    obtain ⟨v, hv, rfl⟩ := List.mem_map.mp hw
    exact (hf v (hitem v hv)).1
  calc kept.length = (kept.map f).length := (List.length_map f).symm
    _ ≤ kept'.length := (hnodup.subperm hsubset).length_le

theorem Classed.perm (h : Classed items) (hperm : items.Perm items') : Classed items' :=
  fun a ha b hb c hc => h a (hperm.mem_iff.mpr ha) b (hperm.mem_iff.mpr hb) c (hperm.mem_iff.mpr hc)

theorem Represents.length_eq (h : Represents kept items) (hclassed : Classed items)
    (h' : Represents kept' items') (hperm : items.Perm items') : kept.length = kept'.length :=
  (h.length_le hclassed h' hperm).antisymm (h'.length_le (hclassed.perm hperm) h hperm.symm)

/-! ## Torn items in two orders -/

/-- What is kept of the first items stays. -/
theorem distinct_grows (items items' : List Value) :
    distinct items <+: distinct (items ++ items') := by
  induction items' using List.reverseRecOn with
  | nil => rw [List.append_nil]
  | append_singleton items' v ih =>
    rw [← List.append_assoc, distinct_concat]
    split
    · exact ih
    · exact ih.trans (List.prefix_append _ _)

theorem Represents.solid (h : Represents kept items) (hnan : ∀ v ∈ items, v.isNaN = false) :
    Represents (kept.filter (!·.isHollow)) (items.filter (!·.isHollow)) where
  sublist := h.sublist.filter _
  apart := h.apart.filter _
  covers v hv := by
    obtain ⟨hv, hsolid⟩ := List.mem_filter.mp hv
    obtain ⟨w, hw, heq⟩ := h.covers v hv
    refine ⟨w, List.mem_filter.mpr ⟨hw, ?_⟩, heq⟩
    rw [Value.isHollow_congr (hnan w (h.sublist.subset hw)) (hnan v hv) heq]
    exact hsolid

theorem not_torn_solid (items : List Value) : ¬ Torn (items.filter (!·.isHollow)) := by
  rintro ⟨⟨a, ha, c, -, hopposite⟩, -⟩
  have hsolid := (List.mem_filter.mp ha).2
  rw [hopposite.isHollow.1] at hsolid
  cases hsolid

/-- What is shown is kept alike in any order. -/
theorem Represents.length_solid (h : Represents kept items) (h' : Represents kept' items')
    (hnan : ∀ v ∈ items, v.isNaN = false) (hperm : items.Perm items') :
    (kept.filter (!·.isHollow)).length = (kept'.filter (!·.isHollow)).length := by
  have hclassed : Classed (items.filter (!·.isHollow)) :=
    classed_of_not_torn (fun v hv => hnan v (List.mem_filter.mp hv).1) (not_torn_solid items)
  exact (h.solid hnan).length_eq hclassed
    (h'.solid fun v hv => hnan v (hperm.mem_iff.mpr hv)) (hperm.filter _)

/-- Something blank that comes first stands for all that is shown as nothing. -/
theorem length_hollow_of_isBlank (hb : b.IsBlank) (hnan : ∀ v ∈ b :: items, v.isNaN = false) :
    ((distinct (b :: items)).filter (·.isHollow)).length = 1 := by
  have hkept := represents_distinct hnan
  obtain ⟨rest, hrest⟩ : [b] <+: distinct (b :: items) := distinct_grows [b] items
  rw [← hrest] at hkept ⊢
  have hnone : rest.filter (·.isHollow) = [] := by
    refine List.filter_eq_nil_iff.mpr fun w hw hhollow => ?_
    have hequal := hb.looselyEqual
      (hnan w (hkept.sublist.subset (List.mem_append_right [b] hw))) hhollow
    rw [List.rel_of_pairwise_cons hkept.apart hw] at hequal
    cases hequal
  rw [List.filter_append, hnone, List.append_nil, List.filter_cons_of_pos hb.1]
  rfl

/-- Infinities that come first are kept, both of them. -/
theorem length_hollow_of_opposite (h : a.Opposite c) (ha : a.isNaN = false) (hc : c.isNaN = false)
    (items : List Value) : 2 ≤ ((distinct (a :: c :: items)).filter (·.isHollow)).length := by
  have hapart : ¬ a.looselyEqual c = true :=
    fun heq => ((Value.looselyEqual_iff ha hc).mp heq).2.2 h
  have hpair : distinct [a, c] = [a, c] := by
    refine (distinct_concat [a] c).trans (if_neg fun hany => hapart ?_)
    obtain ⟨w, hw, heq⟩ := List.any_eq_true.mp hany
    rwa [List.mem_singleton.mp hw] at heq
  have hfilter : [a, c].filter (·.isHollow) = [a, c] := by simp [h.isHollow]
  have hsublist := (distinct_grows [a, c] items).sublist.filter (·.isHollow)
  rw [hpair, hfilter] at hsublist
  exact hsublist.length_le

theorem exists_perm_cons (h : v ∈ items) : ∃ rest, items.Perm (v :: rest) := by
  obtain ⟨s, t, rfl⟩ := List.append_of_mem h
  exact ⟨s ++ t, List.perm_middle⟩

/-- Torn items are kept in different numbers with something blank first and with the infinities
first. -/
theorem exists_perm_of_torn (hnan : ∀ v ∈ items, v.isNaN = false) (h : Torn items) :
    ∃ first second, items.Perm first ∧ items.Perm second ∧
      (distinct first).length < (distinct second).length := by
  obtain ⟨⟨a, ha, c, hc, hopposite⟩, b, hb, hblank⟩ := h
  obtain ⟨r, hfirst⟩ := exists_perm_cons hb
  obtain ⟨s, hs⟩ := exists_perm_cons ha
  obtain ⟨t, ht⟩ : ∃ t, s.Perm (c :: t) := by
    refine exists_perm_cons ((List.mem_cons.mp (hs.mem_iff.mp hc)).resolve_left ?_)
    rintro rfl
    exact Value.not_opposite _ hopposite
  have hsecond : items.Perm (a :: c :: t) := hs.trans (ht.cons a)
  refine ⟨b :: r, a :: c :: t, hfirst, hsecond, ?_⟩
  have hnan' : ∀ v ∈ b :: r, v.isNaN = false := fun v hv => hnan v (hfirst.mem_iff.mpr hv)
  have hkept' := represents_distinct fun v hv => hnan v (hsecond.mem_iff.mpr hv)
  have hsolid := (represents_distinct hnan').length_solid hkept' hnan' (hfirst.symm.trans hsecond)
  have hone := length_hollow_of_isBlank hblank hnan'
  have htwo := length_hollow_of_opposite hopposite (hnan a ha) (hnan c hc) t
  rw [List.length_eq_length_filter_add (·.isHollow), hone, hsolid,
    List.length_eq_length_filter_add (l := distinct (a :: c :: t)) (·.isHollow)]
  omega

/-- Loose equality is reflexive and symmetric, and the only thing between it and transitivity is
that something blank loosely equals both infinities, which are not equal. A list without
repetitions keeps pairwise different items that represent all of them. Where the infinities and
something blank do not come together, it keeps just one for each class; and only there does it keep
as many whatever the order. -/
theorem looselyEqual_laws :
    (∀ a : Value, a.isNaN = false → a.looselyEqual a = true) ∧
    (∀ a b : Value, a.looselyEqual b = b.looselyEqual a) ∧
    (∀ a b c : Value, a.isNaN = false → b.isNaN = false → c.isNaN = false →
      a.looselyEqual b = true → b.looselyEqual c = true →
      (a.looselyEqual c = false ↔ a.Opposite c ∧ b.IsBlank)) ∧
    ∀ items : Array Value, (∀ v ∈ items, v.isNaN = false) →
      ∃ kept : Array Value, aggregate? "uniq" [.array items] = some (.array kept) ∧
        Represents kept.toList items.toList ∧
        (¬ Torn items.toList → ∀ v ∈ items, kept.countP (·.looselyEqual v) = 1) ∧
        (¬ Torn items.toList ↔ ∀ items' : Array Value, items.Perm items' →
          ∃ kept' : Array Value, aggregate? "uniq" [.array items'] = some (.array kept') ∧
            kept'.size = kept.size) := by
  refine ⟨fun a => Value.looselyEqual_self, Value.looselyEqual_comm,
    fun a b c => Value.looselyEqual_of_looselyEqual, fun items hnan => ?_⟩
  have hnan : ∀ v ∈ items.toList, v.isNaN = false := fun v hv => hnan v (Array.mem_toList_iff.mp hv)
  have hkept := represents_distinct hnan
  refine ⟨_, rfl, hkept, fun htorn v hv => ?_, fun htorn items' hperm => ?_, fun hsame htorn => ?_⟩
  · rw [List.countP_toArray]
    exact hkept.countP (classed_of_not_torn hnan htorn) (Array.mem_toList_iff.mpr hv)
  · have hperm : items.toList.Perm items'.toList := hperm.toList
    have hkept' := represents_distinct fun v hv => hnan v (hperm.mem_iff.mpr hv)
    exact ⟨_, rfl, (hkept.length_eq (classed_of_not_torn hnan htorn) hkept' hperm).symm⟩
  · have hsize : ∀ items' : List Value, items.toList.Perm items' →
        (distinct items').length = (distinct items.toList).length := by
      intro items' hperm
      obtain ⟨kept', hkept', hsize⟩ := hsame items'.toArray (Array.perm_iff_toList_perm.mpr hperm)
      cases hkept'
      exact hsize
    obtain ⟨first, second, hfirst, hsecond, hlt⟩ := exists_perm_of_torn hnan htorn
    rw [hsize first hfirst, hsize second hsecond] at hlt
    exact hlt.false

/-- Numbers and what is shown like them are one class, and so are an empty text and infinity. -/
theorem looselyEqual_laws_of_numbers :
    let items : Array Value := #[.int 1, .text "", .text "1", .float Number.infinity,
      .array #[.float 1.0], .float (-0.0), .int 0, .unit]
    (∀ v ∈ items, v.isNaN = false) ∧ ¬ Torn items.toList ∧ items.Perm items.reverse ∧
      (Value.int 1).looselyEqual (.int 1) = true ∧
      (Value.int 1).looselyEqual (.array #[.float 1.0]) = true ∧
      ∃ kept : Array Value, aggregate? "uniq" [.array items] = some (.array kept) ∧
        (∀ v ∈ items, kept.countP (·.looselyEqual v) = 1) ∧
        ∃ kept' : Array Value, aggregate? "uniq" [.array items.reverse] = some (.array kept') ∧
          kept'.size = kept.size := by
  intro items
  have hnan : ∀ v ∈ items, v.isNaN = false := by decide +kernel
  have htorn : ¬ Torn items.toList := by decide +kernel
  have hperm : items.Perm items.reverse := by
    rw [Array.perm_iff_toList_perm, Array.toList_reverse]
    exact items.toList.reverse_perm.symm
  obtain ⟨hself, -, htrans, hdistinct⟩ := looselyEqual_laws
  refine ⟨hnan, htorn, hperm, hself _ (by decide +kernel), ?_, ?_⟩
  · rw [← Bool.not_eq_false, htrans _ (.text "1") _ (by decide +kernel) (by decide +kernel)
      (by decide +kernel) (by decide +kernel) (by decide +kernel)]
    decide +kernel
  · obtain ⟨kept, hkept, -, hcount, hsize⟩ := hdistinct items hnan
    exact ⟨kept, hkept, hcount htorn, hsize.mp htorn _ hperm⟩

/-- An empty text loosely equals both infinities, and what is kept of the three depends on which
comes first. -/
theorem torn_infinities :
    let a : Value := .float Number.infinity
    let b : Value := .text ""
    let c : Value := .float (-Number.infinity)
    (∀ v ∈ #[a, b, c], v.isNaN = false) ∧
      a.looselyEqual b = true ∧ b.looselyEqual c = true ∧ a.looselyEqual c = false ∧
      #[a, b, c].Perm #[b, a, c] ∧ ∃ kept kept' : Array Value,
        aggregate? "uniq" [.array #[a, b, c]] = some (.array kept) ∧
        aggregate? "uniq" [.array #[b, a, c]] = some (.array kept') ∧
        kept.size = 2 ∧ kept'.size = 1 := by
  intro a b c
  refine ⟨by decide +kernel, by decide +kernel, by decide +kernel, by decide +kernel,
    Array.perm_iff_toList_perm.mpr (List.Perm.swap b a [c]), _, _, rfl, rfl, ?_, ?_⟩
  · decide +kernel
  · decide +kernel

end Formula

end FormulaSheet
