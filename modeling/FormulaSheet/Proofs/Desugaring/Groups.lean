import FormulaSheet.Proofs.Desugaring.Conditional
import FormulaSheet.Proofs.Desugaring.Negation

/-!
Groups from the inside out. Desugaring every outermost group of an expression leaves the operators
outside them (`leaves_write`), and desugaring these part by part gives the whole expression
(`desugarConditionals_write`); the items of calls and lists are parts of their group.
-/

namespace FormulaSheet.Desugaring

/-! ## Functions inside groups -/

section

variable {f : List Char → List Char}

theorem looksAhead_mapGroups (f : List Char → List Char) : LooksAhead fun _ cs =>
    (group? cs).map fun (inside, closer, _) =>
      (cs.take 1 ++ f inside ++ [closer], inside.length + 2) := fun _ _ _ => rfl

theorem mapGroups_plain {c : Char} (h : closer? c = none) (cs : List Char) :
    mapGroups f (c :: cs) = c :: mapGroups f cs :=
  (looksAhead_mapGroups f).replaceAll_of_none (by rw [group?_plain h]; rfl)

theorem mapGroups_group {o d : Char} {inside : List Char} (hod : closer? o = some d)
    (h : Balanced inside) (cs : List Char) :
    mapGroups f (o :: (inside ++ d :: cs)) = o :: (f inside ++ d :: mapGroups f cs) := by
  have hdrop : (inside ++ d :: cs).drop (inside.length + 1) = cs := by
    rw [List.append_cons, List.drop_left' (by simp)]
  rw [mapGroups, (looksAhead_mapGroups f).replaceAll_of_some (n := inside.length + 1)
    (by rw [group?_append hod h]; rfl), hdrop]
  simp

theorem mapGroups_enclosed {o d : Char} {inside : List Char} (hod : closer? o = some d)
    (h : Balanced inside) : mapGroups f (o :: (inside ++ [d])) = o :: (f inside ++ [d]) :=
  mapGroups_group hod h []

theorem mapGroups_append {p : Char → Bool} {a : List Char} (h : Grouped p a) (b : List Char) :
    mapGroups f (a ++ b) = mapGroups f a ++ mapGroups f b := by
  induction h with
  | nil => rfl
  | plain ho _ _ _ ih => rw [List.cons_append, mapGroups_plain ho, mapGroups_plain ho, ih]; rfl
  | group hod hin _ _ ih =>
    rw [List.cons_append, List.append_assoc, List.cons_append, mapGroups_group hod hin,
      mapGroups_group hod hin, ih]
    simp

theorem mapGroups_eq_self {cs : List Char} (h : ∀ c ∈ cs, closer? c = none) :
    mapGroups f cs = cs := by
  induction cs with
  | nil => rfl
  | cons c cs ih =>
    rw [mapGroups_plain (h c (by simp)), ih fun c' hc' => h c' (by simp [hc'])]

theorem mapGroups_joined {a m : List Char} (ha : Balanced a)
    (hm : m.all (fun c => !isBracket c) = true) (b : List Char) :
    mapGroups f (a ++ (m ++ b)) = mapGroups f a ++ (m ++ mapGroups f b) := by
  rw [mapGroups_append ha, mapGroups_append (balanced_plain hm),
    mapGroups_eq_self fun c hc => (plain_of_not_isBracket (List.all_eq_true.mp hm c hc)).1]

end

/-! ## Parts -/

theorem mapParts_grouped {f : List Char → List Char} {cs : List Char}
    (h : Grouped (isPartChar 0) cs) : mapParts f cs = f cs := by
  have hsplit := h.splitSequence (fun _ hc => ⟨ne_of_isPartChar hc (by decide),
    ne_of_isPartChar hc (by decide)⟩) []
  rw [List.append_nil] at hsplit
  rw [mapParts, hsplit]
  simp [splitSequence]

/-- A part without blanks around it. -/
theorem IsKey.desugarPart_whole {key : List Char} (hkey : IsKey key) (e : Expression) :
    desugarPart ((key ++ e.outer).length + 1) (key ++ e.outer) = e.writeKeyed tightStyle key := by
  have hpart := hkey.desugarPart_outer e 0 0 (Nat.lt_succ_self _)
  simpa only [spaces, List.replicate_zero, List.nil_append, List.append_nil, ite_self] using hpart

theorem desugarPart_whole (e : Expression) :
    desugarPart (e.outer.length + 1) e.outer = e.write tightStyle := by
  have hpart := isKey_nil.desugarPart_whole e
  rwa [Expression.writeKeyed_nil, List.nil_append] at hpart

theorem IsKey.mapParts_outer {key : List Char} (hkey : IsKey key) (e : Expression) :
    mapParts (fun part => desugarPart (part.length + 1) part) (key ++ e.outer) =
      e.writeKeyed tightStyle key := by
  rw [mapParts_grouped (hkey.grouped_keyed (by decide) (Nat.zero_le _)), hkey.desugarPart_whole]

/-- A part without logic and conditionals outside its groups stays as it is. -/
theorem mapParts_single {cs : List Char} (h : Grouped (isPartChar 3) cs) (hlayout : IsLaidOut cs) :
    mapParts (fun part => desugarPart (part.length + 1) part) cs = cs := by
  rw [mapParts_grouped (h.mono (isPartChar_mono (Nat.zero_le 3))), desugarPart_single h hlayout]

/-- The items that are not the first, with their groups desugared. -/
def outerRest (es : List Expression) : List Char := es.flatMap fun e => ',' :: ' ' :: e.outer

theorem splitSequence_outer (e : Expression) (m : Nat) (rest : List Char) :
    splitSequence 0 (spaces m ++ e.outer ++ rest) =
      (spaces m ++ e.outer ++ (splitSequence 0 rest).1, (splitSequence 0 rest).2) :=
  ((grouped_spaces rfl m).append (grouped_outer_of_le (Nat.zero_le _))).splitSequence
    (fun _ hc => ⟨ne_of_isOuterChar hc (by decide), ne_of_isOuterChar hc (by decide)⟩) rest

theorem splitSequence_outerRest (es : List Expression) :
    splitSequence 0 (outerRest es) = ([], es.map fun e => (',', ' ' :: e.outer)) := by
  induction es with
  | nil => rfl
  | cons e es ih =>
    have hitem := splitSequence_outer e 1 (outerRest es)
    rw [ih, List.append_nil] at hitem
    have hcomma : splitSequence 0 (',' :: (spaces 1 ++ e.outer ++ outerRest es)) =
        ([], (',', (splitSequence 0 (spaces 1 ++ e.outer ++ outerRest es)).1) ::
          (splitSequence 0 (spaces 1 ++ e.outer ++ outerRest es)).2) := rfl
    rw [hitem] at hcomma
    exact hcomma

theorem comma_append_item (e : Expression) :
    ',' :: desugarPart ((' ' :: e.outer).length + 1) (' ' :: e.outer) =
      tightStyle.comma e ++ e.write tightStyle := by
  have hpart := desugarPart_outer e 1 0 (Nat.lt_succ_self _)
  simp only [spaces, List.replicate_zero, List.replicate_one, List.singleton_append,
    List.append_nil] at hpart
  rw [hpart]
  change _ = (if e.level < 3 then [','] else [',', ' ']) ++ e.write tightStyle
  split
  · rfl
  · rfl

theorem writeRest_eq (s : Style) (es : List Expression) :
    writeRest s es = es.flatMap fun e => s.comma e ++ e.write s := by
  induction es with
  | nil => rfl
  | cons e es ih => rw [writeRest, ih, List.flatMap_cons, List.append_assoc]

theorem mapParts_items (e : Expression) (es : List Expression) :
    mapParts (fun part => desugarPart (part.length + 1) part) (e.outer ++ outerRest es) =
      writeItems tightStyle (e :: es) := by
  have hsplit := splitSequence_outer e 0 (outerRest es)
  simp only [spaces, List.replicate_zero, List.nil_append] at hsplit
  rw [splitSequence_outerRest, List.append_nil] at hsplit
  rw [mapParts, hsplit, writeItems, writeRest_eq]
  simp only [desugarPart_whole, List.flatMap_map, comma_append_item]

/-! ## Groups -/

/-- Desugaring the groups of a text leaves another one. -/
def Leaves (text outer : List Char) : Prop := ∀ fuel, text.length ≤ fuel →
  mapGroups (desugarGroups fuel) text = outer

variable {e : Expression} {es : List Expression} {fuel : Nat}

theorem balanced_negated (e : Expression) : Balanced (e.write negatedStyle) :=
  (isLaidOut_write isSound_negatedStyle e).balanced

theorem balanced_negated_within (e : Expression) (level : Nat) :
    Balanced (e.within level (e.write negatedStyle)) :=
  ((isLaidOut_write isSound_negatedStyle e).within level).balanced

theorem Leaves.joined {a b m outer outer' : List Char} (ha : Leaves a outer) (hbalanced : Balanced a)
    (hm : m.all (fun c => !isBracket c) = true) (hb : Leaves b outer') :
    Leaves (a ++ (m ++ b)) (outer ++ (m ++ outer')) := by
  intro fuel hfuel
  simp only [List.length_append] at hfuel
  rw [mapGroups_joined hbalanced hm, ha fuel (by omega), hb fuel (by omega)]

/-- A part whose groups are desugared becomes the block of its expression. -/
theorem IsKey.desugarGroups_operand {key text : List Char} (hkey : IsKey key) (level : Nat)
    (h : Leaves (key ++ text) (key ++ e.operand level e.outer))
    (hfuel : (key ++ text).length < fuel) :
    desugarGroups fuel (key ++ text) =
      e.withinKeyed level key (e.write tightStyle) (e.writeKeyed tightStyle key) := by
  obtain ⟨fuel, rfl⟩ : ∃ k, fuel = k + 1 := ⟨fuel - 1, by omega⟩
  rw [desugarGroups, h fuel (Nat.le_of_lt_succ hfuel)]
  rcases exists_operand_keyed e level key with ⟨-, he, hw⟩ | ⟨-, he, hw⟩
  · obtain ⟨hgrouped, hlayout⟩ := hkey.grouped_bracketed e
    rw [he, hw, mapParts_single hgrouped hlayout]
  · rw [he, hw, hkey.mapParts_outer]

theorem desugarGroups_write_of_leaves (h : Leaves (e.write negatedStyle) e.outer)
    (hfuel : (e.write negatedStyle).length < fuel) :
    desugarGroups fuel (e.write negatedStyle) = e.write tightStyle := by
  have hgroups := isKey_nil.desugarGroups_operand 0 h hfuel
  rwa [Expression.writeKeyed_nil] at hgroups

theorem leaves_enclosed {o d : Char} {text value : List Char} (hod : closer? o = some d)
    (h : Balanced text)
    (hdesugars : ∀ fuel, text.length < fuel → desugarGroups fuel text = value) :
    Leaves (o :: (text ++ [d])) (o :: (value ++ [d])) := by
  intro fuel hfuel
  simp only [List.length_cons, List.length_append] at hfuel
  rw [mapGroups_enclosed hod h, hdesugars fuel (by omega)]

theorem Leaves.operand (h : Leaves (e.write negatedStyle) e.outer) (level : Nat) :
    Leaves (e.within level (e.write negatedStyle)) (e.operand level e.outer) := by
  unfold Expression.within Expression.operand
  split
  · exact leaves_enclosed rfl (balanced_negated e) fun _ hfuel =>
      desugarGroups_write_of_leaves h hfuel
  · exact h

theorem desugarGroups_within (h : Leaves (e.write negatedStyle) e.outer) (level : Nat)
    (hfuel : (e.within level (e.write negatedStyle)).length < fuel) :
    desugarGroups fuel (e.within level (e.write negatedStyle)) =
      e.within level (e.write tightStyle) := by
  have hgroups := isKey_nil.desugarGroups_operand level (h.operand level) hfuel
  rwa [Expression.writeKeyed_nil, Expression.withinKeyed_nil] at hgroups

theorem leaves_writeRest (hes : ∀ e ∈ es, Leaves (e.write negatedStyle) e.outer) :
    Leaves (writeRest negatedStyle es) (outerRest es) := by
  induction es with
  | nil => exact fun _ _ => rfl
  | cons e es ih =>
    obtain ⟨he, hes⟩ := List.forall_mem_cons.mp hes
    have hnothing : Leaves [] [] := fun _ _ => rfl
    have hitem := he.joined (m := []) (balanced_negated e) (by simp) (ih hes)
    exact hnothing.joined (m := ", ".toList) (.nil _) (by decide) hitem

theorem desugarGroups_items (hes : ∀ e ∈ es, Leaves (e.write negatedStyle) e.outer)
    (hfuel : (writeItems negatedStyle es).length < fuel) :
    desugarGroups fuel (writeItems negatedStyle es) = writeItems tightStyle es := by
  obtain ⟨fuel, rfl⟩ : ∃ k, fuel = k + 1 := ⟨fuel - 1, by omega⟩
  cases es with
  | nil => rfl
  | cons e es =>
    obtain ⟨he, hes⟩ := List.forall_mem_cons.mp hes
    have hitems := he.joined (m := []) (balanced_negated e) (by simp) (leaves_writeRest hes)
    rw [desugarGroups]
    exact (congrArg _ (hitems fuel (Nat.le_of_lt_succ hfuel))).trans (mapParts_items e es)

theorem leaves_write (e : Expression) : Leaves (e.write negatedStyle) e.outer := by
  induction e using Expression.induct with
  | atom a =>
    intro fuel _
    exact mapGroups_eq_self fun c hc => closer?_of_isIdentifierChar (a.isFreeWord.2.1 c hc)
  | not e ih =>
    have hnothing : Leaves [] [] := fun _ _ => rfl
    exact hnothing.joined (m := "!truthy".toList) (.nil _) (by decide)
      (leaves_enclosed rfl (balanced_negated_within e 3) fun _ hfuel =>
        desugarGroups_within ih 3 hfuel)
  | and a b iha ihb =>
    exact (iha.operand 2).joined (m := " && ".toList) (balanced_negated_within a 2) (by decide)
      (ihb.operand 3)
  | or a b iha ihb =>
    exact (iha.operand 1).joined (m := " || ".toList) (balanced_negated_within a 1) (by decide)
      (ihb.operand 2)
  | cond c a b ihc iha ihb =>
    exact (ihc.operand 1).joined (m := " ? ".toList) (balanced_negated_within c 1) (by decide)
      (iha.joined (m := " : ".toList) (balanced_negated a) (by decide) ihb)
  | call f args ihf ihargs =>
    have hargs := leaves_enclosed (o := '(') rfl (balanced_items isSound_negatedStyle args)
      fun _ hfuel => desugarGroups_items ihargs hfuel
    have hcall := (ihf.operand 4).joined (m := []) (balanced_negated_within f 4) (by simp) hargs
    rw [Expression.operand_eq (Nat.le_succ 3)] at hcall
    exact hcall
  | array items ih =>
    exact leaves_enclosed rfl (balanced_items isSound_negatedStyle items) fun _ hfuel =>
      desugarGroups_items ih hfuel

/-- Logic and conditionals become blocks, whatever the tree. -/
theorem desugarConditionals_within (e : Expression) (level : Nat) :
    desugarConditionals (e.within level (e.write negatedStyle)) =
      e.within level (e.write tightStyle) :=
  desugarGroups_within (leaves_write e) level (Nat.lt_succ_self _)

end FormulaSheet.Desugaring
