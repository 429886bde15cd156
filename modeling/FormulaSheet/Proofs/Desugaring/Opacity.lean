import FormulaSheet.Desugaring.Formula
import FormulaSheet.Proofs.Desugaring.Assembly

/-!
String literals are opaque to desugaring: they are read from the script as they were read from the
formula, apart from the quotes they stand between, and the code around them becomes the same
whatever they hold.
-/

namespace FormulaSheet.Desugaring

/-! ## Literals in scripts -/

section

variable {p : Piece} {ps : List Piece}

theorem IsBody.requoted {body : List Char} (h : IsBody '\'' body) :
    IsBody '"' (Piece.requoted body) := by
  induction h with
  | nil => exact .nil
  | @escape d cs _ _ ih =>
    rw [Piece.requoted_escape]
    split
    · exact .plain (by decide) (by decide) ih
    · exact .escape d (by decide) ih
  | @plain c cs hne hback _ ih =>
    have hslash : c ≠ '\\' := fun h => hback ⟨h, by decide⟩
    rw [Piece.requoted_plain hslash]
    split
    · exact .escape '"' (by decide) ih
    · rename_i hdouble
      exact .plain hdouble (fun h => hslash h.1) ih

theorem Piece.IsSound.script (h : p.IsSound) : p.script.IsSound := by
  cases p with
  | code c => exact h
  | literal q body =>
    by_cases hq : q = '\''
    · subst hq
      exact ⟨by decide, h.2.requoted⟩
    · simpa [Piece.script, hq] using h

@[simp] theorem Piece.char?_script (p : Piece) : p.script.char? = p.char? := by
  cases p with
  | code c => rfl
  | literal q body => by_cases hq : q = '\'' <;> simp [Piece.script, Piece.char?, hq]

/-- Literals of scripts stay what they are. -/
@[simp] theorem Piece.script_script (p : Piece) : p.script.script = p.script := by
  cases p with
  | code c => rfl
  | literal q body => by_cases hq : q = '\'' <;> simp [Piece.script, hq]

theorem isCode_outline (hsound : ∀ p ∈ ps, p.IsSound) (hat : some '@' ∉ outline ps) :
    IsCode (outline ps) := by
  intro c hc
  refine ⟨fun h => hat (h ▸ hc), ?_⟩
  obtain ⟨p, hp, hchar⟩ := List.mem_map.mp hc
  cases p with
  | code d =>
    cases hchar
    exact hsound (.code c) hp
  | literal => cases hchar

theorem count_none_outline (ps : List Piece) : (outline ps).count none = (literals ps).length := by
  induction ps with
  | nil => rfl
  | cons p ps ih =>
    cases p with
    | code c => simpa [outline, literals, Piece.char?] using ih
    | literal q body => simpa [outline, literals, Piece.char?] using ih

/-- What scripts have for the literals of a formula are literals that can be read back. -/
theorem script_of_mem_literals (hsound : ∀ p ∈ ps, p.IsSound) :
    ∀ l ∈ (literals ps).map Piece.script, l.char? = none ∧ l.IsSound := by
  intro l hl
  obtain ⟨p, hp, rfl⟩ := List.mem_map.mp hl
  obtain ⟨hmem, hblank⟩ := List.mem_filter.mp hp
  exact ⟨by simpa using hblank, (hsound p hmem).script⟩

end

/-! ## Pieces put into an outline -/

section

variable {o : List (Option Char)} {ls : List Piece}

theorem outline_placed (hls : ∀ l ∈ ls, l.char? = none) (hcount : o.count none = ls.length) :
    outline (placed o ls) = o ∧ literals (placed o ls) = ls := by
  induction o generalizing ls with
  | nil =>
    obtain rfl : ls = [] := List.eq_nil_of_length_eq_zero hcount.symm
    exact ⟨rfl, rfl⟩
  | cons x o ih =>
    cases x with
    | some c =>
      obtain ⟨houtline, hliterals⟩ := ih hls (by simpa using hcount)
      exact ⟨congrArg (some c :: ·) houtline, hliterals⟩
    | none =>
      cases ls with
      | nil => simp at hcount
      | cons l ls =>
        obtain ⟨hl, hls⟩ := List.forall_mem_cons.mp hls
        obtain ⟨houtline, hliterals⟩ := ih hls (by simpa using hcount)
        constructor
        · change l.char? :: outline (placed o ls) = _
          rw [hl, houtline]
        · have hl : literals (l :: placed o ls) = l :: literals (placed o ls) := by
            simp [literals, hl]
          rw [placed, hl, hliterals]

theorem isSound_placed (ho : IsCode o) (hls : ∀ l ∈ ls, l.IsSound) :
    ∀ p ∈ placed o ls, p.IsSound := by
  induction o generalizing ls with
  | nil => simp [placed]
  | cons x o ih =>
    have hrest : IsCode o := fun c hc => ho c (List.mem_cons_of_mem x hc)
    cases x with
    | some c => exact List.forall_mem_cons.mpr ⟨(ho c List.mem_cons_self).2, ih hrest hls⟩
    | none =>
      cases ls with
      | nil => exact ih hrest hls
      | cons l ls =>
        obtain ⟨hl, hls⟩ := List.forall_mem_cons.mp hls
        exact List.forall_mem_cons.mpr ⟨hl, ih hrest hls⟩

end

/-! ## Scripts -/

/-- What desugaring makes of code with placeholders. -/
def desugared (code : List Char) : List Char :=
  let code := desugarWords code
  desugarConditionals (desugarNegations (code.length + 1) code)

theorem preserves_desugared : Preserves desugared := fun _ _ _ h =>
  preserves_desugarGroups _ (preserves_desugarNegations _ (preserves_desugarWords h))

/-- Code with placeholders becomes such code, with as many of them. -/
theorem exists_desugared (o : List (Option Char)) (ho : IsCode o) :
    ∃ o', desugared (coded 0 o) = coded 0 o' ∧ o'.count none = o.count none ∧ IsCode o' := by
  have hcode := preserves_desugared (holding_coded ho 0)
  obtain ⟨o', hcoded, hcount, ho'⟩ := hcode.exists_outline
  exact ⟨o', hcoded, by omega, ho'⟩

theorem toList_toScript (e : String) :
    (toScript e).toList = unmask (mask e.toList).2 (desugared (mask e.toList).1) := by
  simp [toScript, desugared]

/-- A script is what its formula's outline becomes, with the literals in the blanks. -/
theorem toScript_eq_texts {e : String} {ps : List Piece} {o : List (Option Char)}
    (hps : pieces? e.toList = some ps) (hcoded : desugared (coded 0 (outline ps)) = coded 0 o)
    (hcount : o.count none = (outline ps).count none) (ho : IsCode o) :
    (toScript e).toList = texts (placed o ((literals ps).map Piece.script)) := by
  obtain ⟨htexts, hsound⟩ := pieces?_eq_some_iff.mp hps
  have hmap : (literals ps).map (fun p => p.script.text) =
      ((literals ps).map Piece.script).map Piece.text := by simp
  rw [toList_toScript, ← htexts, mask_texts hsound, hcoded, hmap]
  refine unmask_coded (fun h => (ho '@' h).1 rfl) ?_
  rw [hcount, count_none_outline, List.length_map]

/-- String literals are opaque. A script holds the literals of its formula, each once and in their
order, and a reader finds them again; what becomes of the code around them depends on nothing in
them. -/
theorem literals_opaque : ∃ rewrite : List (Option Char) → List (Option Char),
    ∀ (e : String) (ps : List Piece), pieces? e.toList = some ps → some '@' ∉ outline ps →
      ∃ qs, pieces? (toScript e).toList = some qs ∧ outline qs = rewrite (outline ps) ∧
        literals qs = (literals ps).map Piece.script ∧
        (mask (toScript e).toList).2 = (mask e.toList).2 := by
  choose! rewrite hrewrite using exists_desugared
  refine ⟨rewrite, fun e ps hps hat => ?_⟩
  obtain ⟨htexts, hsound⟩ := pieces?_eq_some_iff.mp hps
  obtain ⟨hcoded, hcount, hcode⟩ := hrewrite (outline ps) (isCode_outline hsound hat)
  have hscript := toScript_eq_texts hps hcoded hcount hcode
  have hliterals := script_of_mem_literals hsound
  have hlength : (rewrite (outline ps)).count none = ((literals ps).map Piece.script).length := by
    rw [hcount, count_none_outline, List.length_map]
  have hplaced := isSound_placed hcode fun l hl => (hliterals l hl).2
  obtain ⟨houtline, hfound⟩ := outline_placed (fun l hl => (hliterals l hl).1) hlength
  refine ⟨_, pieces?_eq_some_iff.mpr ⟨hscript.symm, hplaced⟩, houtline, hfound, ?_⟩
  rw [hscript, ← htexts, mask_texts hplaced, mask_texts hsound, hfound]
  simp

/-- A formula with a literal of each kind, all of which look like code. -/
def quoted : String := "x ? 'it\\'s \"?\" null' : `a || b` + \"@@@0@@@\\\"\""

def quotedPieces : List Piece :=
  "x ? ".toList.map .code ++ .literal '\'' "it\\'s \"?\" null".toList ::
    (" : ".toList.map .code ++ .literal '`' "a || b".toList ::
      (" + ".toList.map .code ++ [.literal '"' "@@@0@@@\\\"".toList]))

theorem literals_opaque_quoted : ∃ rewrite : List (Option Char) → List (Option Char),
    pieces? quoted.toList = some quotedPieces ∧ some '@' ∉ outline quotedPieces ∧
      ∃ qs, pieces? (toScript quoted).toList = some qs ∧
        outline qs = rewrite (outline quotedPieces) ∧
        literals qs = [.literal '"' "it's \\\"?\\\" null".toList, .literal '`' "a || b".toList,
          .literal '"' "@@@0@@@\\\"".toList] := by
  have hpieces : pieces? quoted.toList = some quotedPieces := by decide +kernel
  have hat : some '@' ∉ outline quotedPieces := by decide +kernel
  obtain ⟨rewrite, hrewrite⟩ := literals_opaque
  obtain ⟨qs, hqs, houtline, hliterals, -⟩ := hrewrite quoted quotedPieces hpieces hat
  refine ⟨rewrite, hpieces, hat, qs, hqs, houtline, hliterals.trans ?_⟩
  decide +kernel

end FormulaSheet.Desugaring
