import FormulaSheet.Desugaring.Formula
import FormulaSheet.Proofs.Desugaring.Inert
import FormulaSheet.Proofs.Desugaring.Paths
import Mathlib.Data.List.Basic

/-!
The scripts of paths. The members of a path are taken for the words that they look like: `null` and
`undefined` become `()`, `var` becomes `let`, and `Math` becomes a namespace when another member
follows (`path_script`). Only the rule for `_` looks for a point before it.
-/

namespace FormulaSheet.Desugaring

section

variable {w : List Char} {ws : List (List Char)}

/-! ## Namespaces -/

/-- The members of a path behind `w`, with the marks before them once `Math` is a namespace. -/
def links (w : List Char) : List (List Char) → List Char
  | [] => []
  | w' :: ws => (if w = "Math".toList then [':', ':'] else ['.']) ++ (w' ++ links w' ws)

theorem isAnchored_mathRule : IsAnchored mathRule := by
  intro before cs hsome
  obtain ⟨new, hnew⟩ := Option.isSome_iff_exists.mp hsome
  simp only [mathRule, Option.ite_none_right_eq_some, Option.bind_eq_bind,
    Option.bind_eq_some_iff] at hnew
  obtain ⟨hstarts, rest, hrest, -⟩ := hnew
  rw [after?_eq_some_iff.mp hrest]
  exact ⟨hstarts, 'M', rfl, by decide⟩

theorem mathRule_eq_none (hw : IsPart w) (h : w ≠ "Math".toList ∨ ws = []) :
    mathRule before (w ++ points ws) = none := by
  unfold mathRule
  split
  · exact namespace_eq_none hw (isWord_of_all (by decide) (by decide))
      (fun c hc => not_isIdentifierChar_head_points hc) (h.imp_right fun hws => by rw [hws]; rfl) _
  · rfl

theorem replaceFrom_mathRule (hbefore : startsWord before = true) (hw : IsPart w)
    (hws : ∀ w' ∈ ws, IsPart w') :
    replaceFrom mathRule before 0 (w ++ points ws) = w ++ links w ws := by
  induction ws generalizing w before with
  | nil =>
    obtain ⟨b, hb⟩ := isAnchored_mathRule.replaceFrom_part hw
      (mathRule_eq_none hw (.inr rfl))
    exact hb
  | cons w' ws ih =>
    obtain ⟨hw', hws⟩ := List.forall_mem_cons.mp hws
    have hrest : replaceFrom mathRule (some '.') 0 (w' ++ points ws) = w' ++ links w' ws :=
      ih (by decide) hw' hws
    by_cases hmath : w = "Math".toList
    · have hsome : mathRule before ('M' :: 'a' :: 't' :: 'h' :: points (w' :: ws)) =
          some ("Math::".toList, 5) := by
        have hafter : after? "Math".toList ('M' :: 'a' :: 't' :: 'h' :: points (w' :: ws)) =
            some (points (w' :: ws)) := rfl
        rw [mathRule, if_pos hbefore, hafter]
        simp only [Option.bind_eq_bind, Option.bind_some, afterPoint?_points hw']
        simp only [points_cons, List.length_cons]
        exact congrArg (fun n => some ("Math::".toList, n)) (by omega)
      have hskip : replaceFrom mathRule before 0 ('M' :: 'a' :: 't' :: 'h' :: points (w' :: ws)) =
          "Math::".toList ++ replaceFrom mathRule (some '.') 0 (w' ++ points ws) := by
        rw [replaceFrom, hsome]
        rfl
      rw [links, if_pos hmath, hmath, ← hrest]
      exact hskip
    · have hnone : mathRule before (w ++ points (w' :: ws)) = none :=
        mathRule_eq_none hw (.inl hmath)
      obtain ⟨b, hb⟩ := isAnchored_mathRule.replaceFrom_part hw hnone
      rw [hb, points_cons, isAnchored_mathRule.replaceFrom_mark (by decide), hrest, links,
        if_neg hmath]
      rfl

theorem replaceAll_mathRule (hw : IsPart w) (hws : ∀ w' ∈ ws, IsPart w') :
    replaceAll mathRule (w ++ points ws) = w ++ links w ws := replaceFrom_mathRule rfl hw hws

theorem head_links {c : Char} (hc : c ∈ (links w ws).head?) : c = ':' ∨ c = '.' := by
  cases ws with
  | nil => cases hc
  | cons w' ws =>
    unfold links at hc
    split at hc
    · exact .inl (Option.some.inj hc).symm
    · exact .inr (Option.some.inj hc).symm

theorem not_isIdentifierChar_head_links {c : Char} (hc : c ∈ (links w ws).head?) :
    isIdentifierChar c = false := by
  rcases head_links hc with rfl | rfl <;> decide

/-- What is read as `_` with a point behind it; `kept` stands before it. -/
def aggregateName (kept cs : List Char) : Option (List Char × Nat) :=
  (after? ['_'] cs).bind fun rest => (afterPoint? rest).bind fun rest =>
    some (kept ++ "agg::".toList, rest.length)

theorem aggregateRule_cons (before : Option Char) (c : Char) (cs : List Char) :
    aggregateRule before (c :: cs) =
      ((if before.isNone then aggregateName [] (c :: cs) else none) <|>
        if Text.isWord c || c == '.' then none else aggregateName [c] cs).map
          fun (new, left) => (new, (c :: cs).length - left) := rfl

theorem aggregateName_eq_none {kept cs : List Char} (h : cs.head? ≠ some '_') :
    aggregateName kept cs = none := by
  cases cs with
  | nil => rfl
  | cons c cs =>
    have hc : ¬ '_' = c := fun heq => h (by rw [← heq]; rfl)
    rw [aggregateName, after?, if_neg hc, Option.bind_none]

theorem aggregateName_links (kept : List Char) (hw : IsPart w) (h : w ≠ ['_'] ∨ ws = []) :
    aggregateName kept (w ++ links w ws) = none :=
  namespace_eq_none hw (isWord_of_all (by decide) (by decide))
    (fun c hc => not_isIdentifierChar_head_links hc) (h.imp_right fun hws => by rw [hws]; rfl) _

theorem aggregateName_namespace (kept : List Char) {w' : List Char} (hw' : IsPart w')
    (ws : List (List Char)) :
    aggregateName kept (['_'] ++ links ['_'] (w' :: ws)) =
      some (kept ++ "agg::".toList, (w' ++ links w' ws).length) := by
  have hpoint : afterPoint? ('.' :: (w' ++ links w' ws)) = some (w' ++ links w' ws) :=
    congrArg some (hw'.trimStart _)
  have hafter : after? ['_'] (['_'] ++ links ['_'] (w' :: ws)) =
      some ('.' :: (w' ++ links w' ws)) := rfl
  rw [aggregateName, hafter, Option.bind_some, hpoint, Option.bind_some]

/-- The rule for `_` does not look behind a character of a word or a point, and there has to be a
`_` behind any other. -/
theorem behind_eq_none {c : Char} {cs : List Char}
    (h : isIdentifierChar c = true ∨ c = '.' ∨ cs.head? ≠ some '_') :
    (if Text.isWord c || c == '.' then none else aggregateName [c] cs) = none := by
  rcases h with hchar | rfl | hhead
  · rw [isWord_of_isIdentifierChar hchar]
    rfl
  · rfl
  · rw [aggregateName_eq_none hhead, ite_self]

theorem aggregateRule_eq_none {b c : Char} {cs : List Char}
    (h : isIdentifierChar c = true ∨ c = '.' ∨ cs.head? ≠ some '_') :
    aggregateRule (some b) (c :: cs) = none := by
  rw [aggregateRule_cons, behind_eq_none h]
  rfl

theorem replaceFrom_aggregateRule_word (b : Char) (hw : ∀ c ∈ w, isIdentifierChar c = true)
    (rest : List Char) : ∃ b', replaceFrom aggregateRule (some b) 0 (w ++ rest) =
      w ++ replaceFrom aggregateRule (some b') 0 rest := by
  induction w generalizing b with
  | nil => exact ⟨b, rfl⟩
  | cons c w ih =>
    obtain ⟨hc, hw⟩ := List.forall_mem_cons.mp hw
    obtain ⟨b', hb'⟩ := ih c hw
    refine ⟨b', ?_⟩
    rw [List.cons_append, replaceFrom, aggregateRule_eq_none (.inl hc)]
    simp only [hb', List.cons_append]

theorem replaceFrom_aggregateRule_part (b : Char) (hw : IsPart w)
    (hrest : ∀ c ∈ rest.head?, isIdentifierChar c = false) :
    ∃ b', replaceFrom aggregateRule (some b) 0 (w ++ rest) =
      w ++ replaceFrom aggregateRule (some b') 0 rest := by
  rcases hw with hw | rfl
  · exact replaceFrom_aggregateRule_word b hw.2 rest
  · have hhead : rest.head? ≠ some '_' := fun h => absurd (hrest '_' h) (by decide)
    refine ⟨')', ?_⟩
    change replaceFrom aggregateRule (some b) 0 ('(' :: ')' :: rest) = _
    have hcloser : (')' :: rest).head? ≠ some '_' := by simp
    rw [replaceFrom, aggregateRule_eq_none (.inr (.inr hcloser)), replaceFrom,
      aggregateRule_eq_none (.inr (.inr hhead))]
    rfl

theorem scriptPath_free (free : Bool) (h : w ≠ ['_'] ∨ ws = []) :
    scriptPath free w ws = scriptPath false w ws := by
  rcases h with hne | rfl
  · cases ws with
    | nil => rfl
    | cons w' ws => simp only [scriptPath, hne, false_and, if_false]
  · rfl

/-- Behind the colons of a namespace no point stands before the next member. -/
theorem replaceFrom_namespace (hw : IsPart w) (hws : ∀ w' ∈ ws, IsPart w')
    (hself : ∀ b, replaceFrom aggregateRule (some b) 0 (w ++ links w ws) = scriptPath false w ws)
    (hnext : ∀ w' ws', ws = w' :: ws' → ∀ b,
      replaceFrom aggregateRule (some b) 0 (w' ++ links w' ws') = scriptPath false w' ws')
    (b : Char) :
    replaceFrom aggregateRule (some b) 0 (':' :: ':' :: (w ++ links w ws)) =
      ':' :: ':' :: scriptPath true w ws := by
  have hcolon : (':' :: (w ++ links w ws)).head? ≠ some '_' := by simp
  rw [replaceFrom, aggregateRule_eq_none (.inr (.inr hcolon))]
  refine congrArg (':' :: ·) ?_
  by_cases h : w ≠ ['_'] ∨ ws = []
  · have hnone : aggregateRule (some ':') (':' :: (w ++ links w ws)) = none := by
      rw [aggregateRule_cons, aggregateName_links [':'] hw h]
      rfl
    rw [replaceFrom, hnone, scriptPath_free true h, ← hself ':']
  · obtain ⟨hname, hmore⟩ := not_or.mp h
    obtain rfl : w = ['_'] := not_not.mp hname
    obtain ⟨w', ws, rfl⟩ := List.exists_cons_of_ne_nil hmore
    have hsome : aggregateRule (some ':') (':' :: (['_'] ++ links ['_'] (w' :: ws))) =
        some (":agg::".toList, 3) := by
      rw [aggregateRule_cons, aggregateName_namespace [':'] (hws w' List.mem_cons_self)]
      refine congrArg (fun n => some (":agg::".toList, n)) ?_
      change (w' ++ links w' ws).length + 1 + 1 + 1 - (w' ++ links w' ws).length = 3
      omega
    rw [replaceFrom, hsome]
    change ":agg::".toList ++ replaceFrom aggregateRule (some '.') 0 (w' ++ links w' ws) = _
    rw [hnext w' ws rfl]
    rfl

/-- Behind the colons of a namespace the member after the next one counts too, so the induction is
on the number of members. -/
theorem replaceFrom_links (hw : IsPart w) (hws : ∀ w' ∈ ws, IsPart w') (b : Char) :
    replaceFrom aggregateRule (some b) 0 (w ++ links w ws) = scriptPath false w ws := by
  induction hn : ws.length using Nat.strongRecOn generalizing w ws b with
  | ind n ih =>
    have hrest : ∀ c ∈ (links w ws).head?, isIdentifierChar c = false :=
      fun c hc => not_isIdentifierChar_head_links hc
    obtain ⟨b', hb'⟩ := replaceFrom_aggregateRule_part b hw hrest
    rw [hb']
    cases ws with
    | nil => exact List.append_nil w
    | cons w' ws =>
      obtain ⟨hw', hws⟩ := List.forall_mem_cons.mp hws
      have hself : ∀ b, replaceFrom aggregateRule (some b) 0 (w' ++ links w' ws) =
          scriptPath false w' ws :=
        fun b => ih ws.length (by rw [← hn]; exact Nat.lt_succ_self _) hw' hws b rfl
      have hnext : ∀ w'' ws', ws = w'' :: ws' → ∀ b,
          replaceFrom aggregateRule (some b) 0 (w'' ++ links w'' ws') =
            scriptPath false w'' ws' := by
        rintro w'' ws' rfl b
        obtain ⟨hw'', hws'⟩ := List.forall_mem_cons.mp hws
        exact ih ws'.length (by simp only [← hn, List.length_cons]; omega) hw'' hws' b rfl
      unfold links scriptPath
      by_cases hmath : w = "Math".toList
      · have hnamespace := replaceFrom_namespace hw' hws hself hnext b'
        rw [if_pos hmath, if_pos hmath, hmath]
        exact congrArg ("Math".toList ++ ·) hnamespace
      · have hpoint : aggregateRule (some b') ('.' :: (w' ++ links w' ws)) = none :=
          aggregateRule_eq_none (.inr (.inl rfl))
        rw [if_neg hmath, if_neg hmath, if_neg (by simp), List.singleton_append, replaceFrom,
          hpoint, ← hself '.']

/-- Where the rule for `_` does not apply it does not matter whether anything stands before. -/
theorem aggregateRule_part (before : Option Char) (hw : IsPart w) (h : w ≠ ['_'] ∨ ws = []) :
    aggregateRule before (w ++ links w ws) = none := by
  have hstart := aggregateName_links [] hw h
  obtain ⟨c, cs, hcs, hbehind⟩ : ∃ c cs, w ++ links w ws = c :: cs ∧
      (isIdentifierChar c = true ∨ c = '.' ∨ cs.head? ≠ some '_') := by
    rcases hw with ⟨hne, hchars⟩ | rfl
    · obtain ⟨c, cs, rfl⟩ := List.exists_cons_of_ne_nil hne
      exact ⟨c, _, rfl, .inl (hchars c List.mem_cons_self)⟩
    · exact ⟨'(', _, rfl, .inr (.inr (by simp))⟩
  rw [hcs] at hstart ⊢
  rw [aggregateRule_cons, behind_eq_none hbehind, hstart, ite_self]
  rfl

/-- No point stands before the first member. -/
theorem replaceAll_aggregateRule (hw : IsPart w) (hws : ∀ w' ∈ ws, IsPart w') :
    replaceAll aggregateRule (w ++ links w ws) = scriptPath true w ws := by
  by_cases h : w ≠ ['_'] ∨ ws = []
  · have hhere := fun before => aggregateRule_part before hw h
    rw [scriptPath_free true h, ← replaceFrom_links hw hws ' ']
    obtain ⟨c, cs, hcs⟩ := List.exists_cons_of_ne_nil (l := w ++ links w ws)
      fun hnil => hw.ne_nil (List.append_eq_nil_iff.mp hnil).1
    rw [hcs] at hhere ⊢
    rw [replaceAll, replaceFrom, replaceFrom, hhere, hhere]
  · obtain ⟨hname, hmore⟩ := not_or.mp h
    obtain rfl : w = ['_'] := not_not.mp hname
    obtain ⟨w', ws, rfl⟩ := List.exists_cons_of_ne_nil hmore
    obtain ⟨hw', hws⟩ := List.forall_mem_cons.mp hws
    have hsome : aggregateRule none ('_' :: links ['_'] (w' :: ws)) =
        some ("agg::".toList, 2) := by
      have hname := aggregateName_namespace [] hw' ws
      rw [List.singleton_append] at hname
      rw [aggregateRule_cons, hname]
      refine congrArg (fun n => some ("agg::".toList, n)) ?_
      change (w' ++ links w' ws).length + 1 + 1 - (w' ++ links w' ws).length = 2
      omega
    rw [List.singleton_append, replaceAll, replaceFrom, hsome]
    change "agg::".toList ++ replaceFrom aggregateRule (some '.') 0 (w' ++ links w' ws) = _
    rw [replaceFrom_links hw' hws]
    rfl

/-! ## Characters of paths -/

/-- The characters of words, points, colons and round brackets. -/
def isPathChar (c : Char) : Bool := isIdentifierChar c || ".:()".toList.contains c

def IsPathText (cs : List Char) : Prop := ∀ c ∈ cs, isPathChar c = true

theorem IsPathText.of_all {cs : List Char} (h : cs.all isPathChar = true) : IsPathText cs :=
  List.all_eq_true.mp h

theorem IsPathText.not_mem {cs : List Char} (h : IsPathText cs) {x : Char}
    (hx : isPathChar x = false) : x ∉ cs := by
  intro hmem
  rw [h x hmem] at hx
  cases hx

theorem IsPathText.append {a b : List Char} (ha : IsPathText a) (hb : IsPathText b) :
    IsPathText (a ++ b) := fun c hc => (List.mem_append.mp hc).elim (ha c) (hb c)

theorem IsPart.isPathText (h : IsPart w) : IsPathText w := by
  rcases h with hw | rfl
  · exact fun c hc => by simp [isPathChar, hw.2 c hc]
  · exact .of_all (by decide)

theorem isPathText_point : IsPathText ['.'] := .of_all (by decide)

theorem isPathText_points (hws : ∀ w ∈ ws, IsPart w) : IsPathText (points ws) := by
  induction ws with
  | nil => exact fun c hc => nomatch hc
  | cons w ws ih =>
    obtain ⟨hw, hws⟩ := List.forall_mem_cons.mp hws
    exact isPathText_point.append (hw.isPathText.append (ih hws))

theorem isPathText_scriptPath (free : Bool) (hw : IsPart w) (hws : ∀ w ∈ ws, IsPart w) :
    IsPathText (scriptPath free w ws) := by
  induction ws generalizing free w with
  | nil => exact hw.isPathText
  | cons w' ws ih =>
    obtain ⟨hw', hws⟩ := List.forall_mem_cons.mp hws
    have hmath : IsPathText "Math::".toList := .of_all (by decide)
    have haggregate : IsPathText "agg::".toList := .of_all (by decide)
    unfold scriptPath
    split
    · exact hmath.append (ih true hw' hws)
    · split
      · exact haggregate.append (ih false hw' hws)
      · exact hw.isPathText.append (isPathText_point.append (ih false hw' hws))

/-! ## Scripts -/

theorem desugarWords_path (hw : IsPart w) (hws : ∀ w ∈ ws, IsPart w) :
    desugarWords (w ++ points ws) = scriptPath true (scriptWord w) (ws.map scriptWord) := by
  have hanchored := ((forReservedWords_wordRule "null".toList ['(', ')'] (by decide)).orElse
    (forReservedWords_wordRule "undefined".toList ['(', ')'] (by decide))).isAnchored
  have hvar := (forReservedWords_wordRule "var".toList "let".toList (by decide)).isAnchored
  have hnullWords : ∀ w' ∈ ws.map nullWord, IsPart w' :=
    List.forall_mem_map.mpr fun w' hw' => (hws w' hw').nullWord
  have hscriptWords : ∀ w' ∈ ws.map scriptWord, IsPart w' :=
    List.forall_mem_map.mpr fun w' hw' => (hws w' hw').nullWord.varWord
  have hscriptWord : IsPart (scriptWord w) := hw.nullWord.varWord
  have hequals : '=' ∉ w ++ points ws :=
    (hw.isPathText.append (isPathText_points hws)).not_mem (by decide)
  have hequals' : '=' ∉ scriptPath true (scriptWord w) (ws.map scriptWord) :=
    (isPathText_scriptPath true hscriptWord hscriptWords).not_mem (by decide)
  have hne : replaceText ['!', '=', '='] ['!', '='] (w ++ points ws) = w ++ points ws :=
    replaceText_eq_self fun hin => hequals (hin.subset (by simp))
  have heq : replaceText ['=', '=', '='] ['=', '='] (w ++ points ws) = w ++ points ws :=
    replaceText_eq_self fun hin => hequals (hin.subset (by simp))
  have hwords := hanchored.replaceAll_points takesFor_nullRule hw hws
  have hdeclared : replaceAll (wordRule "var".toList "let".toList)
      (nullWord w ++ points (ws.map nullWord)) = scriptWord w ++ points (ws.map scriptWord) := by
    rw [hvar.replaceAll_points takesFor_varRule hw.nullWord hnullWords, List.map_map]
    rfl
  have hlog : replaceAll logRule (scriptWord w ++ points (ws.map scriptWord)) =
      scriptWord w ++ points (ws.map scriptWord) := by
    rw [isAnchored_logRule.replaceAll_points takesFor_logRule hscriptWord hscriptWords, List.map_id]
    rfl
  simp only [desugarWords, hne, heq, hwords, hdeclared, hlog,
    replaceAll_mathRule hscriptWord hscriptWords, replaceAll_aggregateRule hscriptWord hscriptWords,
    needs_arrowListRule.replaceAll_eq_self hequals', needs_arrowRule.replaceAll_eq_self hequals']

theorem IsPathText.mask {cs : List Char} (h : IsPathText cs) : mask cs = (cs, []) := by
  have hquote : ∀ c ∈ cs, isQuote c = false := by
    intro c hc
    have hdouble : c ≠ '"' := fun heq => h.not_mem (by decide) (heq ▸ hc)
    have hsingle : c ≠ '\'' := fun heq => h.not_mem (by decide) (heq ▸ hc)
    have hback : c ≠ '`' := fun heq => h.not_mem (by decide) (heq ▸ hc)
    simp [isQuote, hdouble, hsingle, hback]
  exact mask_eq_self hquote

theorem IsPathText.isInert {cs : List Char} (h : IsPathText cs) : IsInert cs where
  question := fun a b hcs => absurd (hcs ▸ by simp : '?' ∈ cs) (h.not_mem (by decide))
  and := fun hand => h.not_mem (x := '&') (by decide) (hand.subset (by simp))
  or := fun hor => h.not_mem (x := '|') (by decide) (hor.subset (by simp))

theorem IsPathText.desugarNegations {cs : List Char} (h : IsPathText cs) (fuel : Nat) :
    desugarNegations (fuel + 1) cs = cs := desugarNegations_eq_self (h.not_mem (by decide))

theorem toScript_path (first : Identifier) (members : List Identifier) :
    toScript (String.ofList (path first members)) = String.ofList (scriptPath true
      (scriptWord first.chars) ((members.map Identifier.chars).map scriptWord)) := by
  have hfirst : IsPart first.chars := .inl first.isWord
  have hmembers : ∀ w ∈ members.map Identifier.chars, IsPart w :=
    List.forall_mem_map.mpr fun m _ => .inl m.isWord
  have hscripts : ∀ w ∈ (members.map Identifier.chars).map scriptWord, IsPart w :=
    List.forall_mem_map.mpr fun w hw => (hmembers w hw).nullWord.varWord
  have hpath : IsPathText (path first members) :=
    hfirst.isPathText.append (isPathText_points hmembers)
  have hscript : IsPathText (scriptPath true (scriptWord first.chars)
      ((members.map Identifier.chars).map scriptWord)) :=
    isPathText_scriptPath true hfirst.nullWord.varWord hscripts
  have hwords : desugarWords (path first members) = _ := desugarWords_path hfirst hmembers
  rw [toScript, String.toList_ofList, hpath.mask]
  simp only [hwords]
  rw [hscript.desugarNegations, hscript.isInert.desugarConditionals_eq_self]
  rfl

/-! ## Paths that stay -/

/-- The words that are written differently in scripts. -/
def replacedWords : List (List Char) := ["null", "undefined", "var"].map String.toList

theorem scriptWord_eq_self (h : w ∉ replacedWords) : scriptWord w = w := by
  have hnull : w ≠ "null".toList := fun heq => h (by rw [heq]; decide)
  have hundefined : w ≠ "undefined".toList := fun heq => h (by rw [heq]; decide)
  have hvar : w ≠ "var".toList := fun heq => h (by rw [heq]; decide)
  rw [scriptWord, nullWord, if_neg (not_or.mpr ⟨hnull, hundefined⟩), varWord, if_neg hvar]

/-- A word that scripts write differently begins differently there, and it is no namespace. -/
theorem scriptWord_of_replaced (h : w ∈ replacedWords) : (scriptWord w).head? ≠ w.head? ∧
    scriptWord w ≠ "Math".toList ∧ scriptWord w ≠ ['_'] ∧ scriptWord w ≠ [] := by
  have hall : ∀ v ∈ replacedWords, (scriptWord v).head? ≠ v.head? ∧
      scriptWord v ≠ "Math".toList ∧ scriptWord v ≠ ['_'] ∧ scriptWord v ≠ [] := by decide
  exact hall w h

theorem scriptPath_ne_of_replaced (free : Bool) (h : w ∈ replacedWords) (ws : List (List Char))
    (rest : List Char) : scriptPath free (scriptWord w) ws ≠ w ++ rest := by
  obtain ⟨hhead, hmath, hname, hne⟩ := scriptWord_of_replaced h
  have hw : w ≠ [] := fun hnil => absurd h (by rw [hnil]; decide)
  have hscript : (scriptPath free (scriptWord w) ws).head? = (scriptWord w).head? := by
    cases ws with
    | nil => rfl
    | cons w' ws =>
      rw [scriptPath, if_neg hmath, if_neg fun hfree => hname hfree.1,
        List.head?_append_of_ne_nil _ hne]
  intro heq
  rw [heq, List.head?_append_of_ne_nil _ hw] at hscript
  exact hhead hscript.symm

/-- A path stays as it is unless one of its words is another one in scripts, or one of its names
that another one follows is that of a namespace. -/
theorem scriptPath_eq_self_iff (free : Bool) (w : List Char) (ws : List (List Char)) :
    scriptPath free (scriptWord w) (ws.map scriptWord) = w ++ points ws ↔
      (∀ v ∈ w :: ws, v ∉ replacedWords) ∧ (∀ v ∈ (w :: ws).dropLast, v ≠ "Math".toList) ∧
        (ws ≠ [] → free = true → w ≠ ['_']) := by
  induction ws generalizing w free with
  | nil =>
    by_cases hw : w ∈ replacedWords
    · exact iff_of_false (scriptPath_ne_of_replaced free hw _ _)
        fun h => h.1 w List.mem_cons_self hw
    · simp [scriptWord_eq_self hw, scriptPath, points, hw]
  | cons w' ws ih =>
    by_cases hw : w ∈ replacedWords
    · exact iff_of_false (scriptPath_ne_of_replaced free hw _ _)
        fun h => h.1 w List.mem_cons_self hw
    rw [scriptWord_eq_self hw, List.map_cons, scriptPath, points_cons]
    by_cases hmath : w = "Math".toList
    · rw [if_pos hmath, hmath]
      refine iff_of_false (fun h => ?_) fun h => h.2.1 _ List.mem_cons_self rfl
      replace h : "Math".toList ++ ':' :: ':' :: scriptPath true (scriptWord w') (ws.map scriptWord) =
          "Math".toList ++ '.' :: (w' ++ points ws) := h
      cases List.append_cancel_left h
    rw [if_neg hmath]
    by_cases hname : w = ['_'] ∧ free = true
    · rw [if_pos hname, hname.1]
      exact iff_of_false (fun h => nomatch h)
        fun h => h.2.2 (List.cons_ne_nil _ _) hname.2 rfl
    · rw [if_neg hname, List.append_cancel_left_eq, List.cons_inj_right, ih false]
      have hfree : free = true → w ≠ ['_'] := fun h heq => hname ⟨heq, h⟩
      rw [List.forall_mem_cons (a := w), List.dropLast_cons_cons, List.forall_mem_cons (a := w)]
      exact ⟨fun ⟨hwords, hnames, _⟩ => ⟨⟨hw, hwords⟩, ⟨hmath, hnames⟩, fun _ => hfree⟩,
        fun ⟨hwords, hnames, _⟩ => ⟨hwords.2, hnames.2, fun _ h => nomatch h⟩⟩

/-! ## The law of paths -/

/-- A path is kept exactly if no member is a word that scripts write differently, no member but the
last is called like the namespace `Math`, and `_` does not lead to another member. The rest of the
statement is what a path becomes in each case. -/
theorem path_script (first : Identifier) (members : List Identifier) :
    toScript (String.ofList (path first members)) = String.ofList (scriptPath true
        (scriptWord first.chars) ((members.map Identifier.chars).map scriptWord)) ∧
      (toScript (String.ofList (path first members)) = String.ofList (path first members) ↔
        (∀ m ∈ first :: members, m.chars ∉ replacedWords) ∧
          (∀ m ∈ (first :: members).dropLast, m.chars ≠ "Math".toList) ∧
          (members ≠ [] → first.chars ≠ ['_'])) := by
  have hscript := toScript_path first members
  have hkept := scriptPath_eq_self_iff true first.chars (members.map Identifier.chars)
  refine ⟨hscript, ?_⟩
  rw [hscript, String.ofList_inj, path, hkept, ← List.map_cons, ← List.map_dropLast,
    List.forall_mem_map, List.forall_mem_map]
  simp only [ne_eq, List.map_eq_nil_iff, forall_const]

/-- A column called like a namespace is taken for the namespace. -/
theorem member_named_as_namespace : toScript "row.Math.length" = "row.Math::length" ∧
    toScript "row.Math.length" ≠ "row.Math.length" := by
  have hscript : toScript "row.Math.length" = "row.Math::length" := by decide +kernel
  exact ⟨hscript, by rw [hscript]; decide⟩

end

end FormulaSheet.Desugaring
