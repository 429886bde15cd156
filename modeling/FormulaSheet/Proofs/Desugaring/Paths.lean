import FormulaSheet.Proofs.Desugaring.Words

/-!
Paths of names with points between them. The rules for words look at what stands before a word only
to see whether it may begin there, and after a point it may. So a rule that takes a name for a word
takes every member of a path for it, and the points stay (`IsAnchored.replaceFrom_points`).
-/

namespace FormulaSheet.Desugaring

/-! ## Paths -/

/-- A name of letters, digits and underscores. -/
structure Identifier where
  chars : List Char
  isIdentifier : chars.all isIdentifierChar = true ∧
    chars.head?.any (fun c => Text.isAsciiLetter c || c == '_') = true

/-- The members of a path, each behind a point. -/
def points (ws : List (List Char)) : List Char := ws.flatMap ('.' :: ·)

/-- The text of a path. -/
def path (first : Identifier) (members : List Identifier) : List Char :=
  first.chars ++ points (members.map Identifier.chars)

/-- The words for no value are written `()` in scripts. -/
def nullWord (w : List Char) : List Char :=
  if w = "null".toList ∨ w = "undefined".toList then ['(', ')'] else w

/-- The word that declares a variable is `let` in scripts. -/
def varWord (w : List Char) : List Char := if w = "var".toList then "let".toList else w

/-- What a name is in scripts. -/
def scriptWord (w : List Char) : List Char := varWord (nullWord w)

/-- The script of a path that begins with `w`; `free` tells whether no point stands before it. -/
def scriptPath (free : Bool) (w : List Char) : List (List Char) → List Char
  | [] => w
  | w' :: ws =>
    if w = "Math".toList then "Math::".toList ++ scriptPath true w' ws
    else if w = ['_'] ∧ free = true then "agg::".toList ++ scriptPath false w' ws
    else w ++ '.' :: scriptPath false w' ws

/-! ## Words and what stands for them -/

def IsWord (w : List Char) : Prop := w ≠ [] ∧ ∀ c ∈ w, isIdentifierChar c = true

/-- A member of a path, before or after its word is replaced. -/
def IsPart (w : List Char) : Prop := IsWord w ∨ w = ['(', ')']

section

variable {w p rest rest' : List Char} {ws : List (List Char)} {c : Char}

theorem isWord_of_all (hne : w ≠ []) (h : w.all isIdentifierChar = true) : IsWord w :=
  ⟨hne, List.all_eq_true.mp h⟩

theorem Identifier.isWord (n : Identifier) : IsWord n.chars := by
  refine ⟨fun hnil => ?_, List.all_eq_true.mp n.isIdentifier.1⟩
  have hhead := n.isIdentifier.2
  simp [hnil] at hhead

theorem IsPart.nullWord (h : IsPart w) : IsPart (nullWord w) := by
  unfold Desugaring.nullWord
  split
  · exact .inr rfl
  · exact h

theorem IsPart.varWord (h : IsPart w) : IsPart (varWord w) := by
  unfold Desugaring.varWord
  split
  · exact .inl (isWord_of_all (by decide) (by decide))
  · exact h

theorem takeWhile_word (hw : ∀ c ∈ w, isIdentifierChar c = true)
    (hrest : ∀ c ∈ rest.head?, isIdentifierChar c = false) :
    (w ++ rest).takeWhile isIdentifierChar = w := by
  rw [List.takeWhile_append_of_pos hw]
  cases rest with
  | nil => simp
  | cons c rest => simp [hrest c rfl]

/-- A path begins with one whole member only. -/
theorem whole_part (hw : IsPart w) (hp : IsWord p)
    (hrest : ∀ c ∈ rest.head?, isIdentifierChar c = false)
    (hrest' : ∀ c ∈ rest'.head?, isIdentifierChar c = false)
    (h : after? p (w ++ rest) = some rest') : w = p ∧ rest = rest' := by
  have heq := after?_eq_some_iff.mp h
  rcases hw with hw | rfl
  · have hwords := congrArg (List.takeWhile isIdentifierChar) heq
    rw [takeWhile_word hw.2 hrest, takeWhile_word hp.2 hrest'] at hwords
    subst hwords
    exact ⟨rfl, List.append_cancel_left heq⟩
  · obtain ⟨c, p, rfl⟩ := List.exists_cons_of_ne_nil hp.1
    obtain ⟨rfl, -⟩ := List.cons.inj heq
    exact absurd (hp.2 '(' List.mem_cons_self) (by decide)

theorem trimStart_of_isIdentifierChar (h : ∃ c ∈ rest.head?, isIdentifierChar c = true) :
    trimStart rest = rest := by
  obtain ⟨c, hc, hchar⟩ := h
  refine Scanning.dropWhile_eq_self fun d hd => ?_
  rw [Option.mem_def.mp hc] at hd
  cases hd
  exact not_isBlank_of_isIdentifierChar hchar

/-- A point follows only a whole member. -/
theorem whole_of_afterPoint? (hw : IsPart w) (hp : IsWord p)
    (hrest : ∀ c ∈ rest.head?, isIdentifierChar c = false)
    (h : after? p (w ++ rest) = some rest') (hpoint : (afterPoint? rest').isSome) :
    w = p ∧ rest = rest' := by
  refine whole_part hw hp hrest (fun c hc => ?_) h
  cases hchar : isIdentifierChar c with
  | false => rfl
  | true =>
    unfold afterPoint? at hpoint
    rw [trimStart_of_isIdentifierChar ⟨c, hc, hchar⟩] at hpoint
    split at hpoint
    · cases hc
      exact absurd hchar (by decide)
    · cases hpoint

/-- A name with a point behind it is not found where another member stands, or the last one. -/
theorem namespace_eq_none {α : Type} (hw : IsPart w) (hp : IsWord p)
    (hrest : ∀ c ∈ rest.head?, isIdentifierChar c = false) (h : w ≠ p ∨ rest = [])
    (next : List Char → Option α) :
    ((after? p (w ++ rest)).bind fun rest => (afterPoint? rest).bind next) = none := by
  cases hafter : after? p (w ++ rest) with
  | none => rfl
  | some rest' =>
    cases hpoint : afterPoint? rest' with
    | none => simp [hpoint]
    | some point =>
      obtain ⟨hwhole, rfl⟩ := whole_of_afterPoint? hw hp hrest hafter (by simp [hpoint])
      rcases h with hne | rfl
      · exact absurd hwhole hne
      · cases hpoint

theorem points_cons (w : List Char) (ws : List (List Char)) :
    points (w :: ws) = '.' :: (w ++ points ws) := rfl

theorem head_points (hc : c ∈ (points ws).head?) : c = '.' := by
  cases ws with
  | nil => cases hc
  | cons w ws => exact (Option.some.inj hc).symm

theorem not_isIdentifierChar_head_points (hc : c ∈ (points ws).head?) :
    isIdentifierChar c = false := by
  rw [head_points hc]
  decide

theorem IsPart.head (h : IsPart w) (rest : List Char) :
    ∃ c, (w ++ rest).head? = some c ∧ Text.isBlank c = false ∧ c ≠ '.' ∧
      (isIdentifierChar c = true ∨ c = '(') := by
  rcases h with ⟨hne, hchars⟩ | rfl
  · obtain ⟨c, w, rfl⟩ := List.exists_cons_of_ne_nil hne
    have hc := hchars c (by simp)
    exact ⟨c, rfl, not_isBlank_of_isIdentifierChar hc, ne_of_isIdentifierChar hc (by decide),
      .inl hc⟩
  · exact ⟨'(', rfl, by decide, by decide, .inr rfl⟩

theorem IsPart.trimStart (h : IsPart w) (rest : List Char) :
    trimStart (w ++ rest) = w ++ rest := by
  obtain ⟨c, hc, hblank, -⟩ := h.head rest
  refine Scanning.dropWhile_eq_self fun d hd => ?_
  rw [hc] at hd
  cases hd
  exact hblank

theorem afterPoint?_points (h : IsPart w) (ws : List (List Char)) :
    afterPoint? (points (w :: ws)) = some (w ++ points ws) := by
  have hpoint : trimStart (points (w :: ws)) = '.' :: (w ++ points ws) := rfl
  rw [afterPoint?, hpoint]
  simp only [h.trimStart]

theorem trimStart_points (ws : List (List Char)) : trimStart (points ws) = points ws := by
  cases ws with
  | nil => rfl
  | cons w ws => rfl

end

/-! ## Rules along a path -/

section

variable {rule : Rule} {w p rest : List Char} {ws : List (List Char)} {before : Option Char}

theorem IsAnchored.replaceFrom_mark (h : IsAnchored rule) {c : Char}
    (hc : isIdentifierChar c = false) (cs : List Char) :
    replaceFrom rule before 0 (c :: cs) = c :: replaceFrom rule (some c) 0 cs := by
  rw [replaceFrom, h.eq_none hc]

theorem IsAnchored.replaceFrom_part (h : IsAnchored rule) (hw : IsPart w)
    (hnone : rule before (w ++ rest) = none) :
    ∃ b, replaceFrom rule before 0 (w ++ rest) = w ++ replaceFrom rule b 0 rest := by
  rcases hw with ⟨hne, hchars⟩ | rfl
  · obtain ⟨c, w, rfl⟩ := List.exists_cons_of_ne_nil hne
    obtain ⟨hc, hw⟩ := List.forall_mem_cons.mp hchars
    obtain ⟨b, hb⟩ := h.replaceFrom_word hc hw rest
    refine ⟨some b, ?_⟩
    rw [List.cons_append] at hnone ⊢
    rw [replaceFrom, hnone]
    simp only [hb, List.cons_append]
  · refine ⟨some ')', ?_⟩
    change replaceFrom rule before 0 ('(' :: ')' :: rest) = _
    rw [h.replaceFrom_mark (by decide), h.replaceFrom_mark (by decide)]
    rfl

theorem replaceFrom_skip (rule : Rule) (before : Option Char) (taken rest : List Char) :
    ∃ b, replaceFrom rule before taken.length (taken ++ rest) = replaceFrom rule b 0 rest := by
  induction taken generalizing before with
  | nil => exact ⟨before, rfl⟩
  | cons c taken ih => exact ih (some c)

theorem replaceFrom_replaced {new : List Char} (hw : w ≠ [])
    (hsome : rule before (w ++ rest) = some (new, w.length)) :
    ∃ b, replaceFrom rule before 0 (w ++ rest) = new ++ replaceFrom rule b 0 rest := by
  obtain ⟨c, w, rfl⟩ := List.exists_cons_of_ne_nil hw
  obtain ⟨b, hb⟩ := replaceFrom_skip rule (some c) w rest
  refine ⟨b, ?_⟩
  rw [List.cons_append] at hsome ⊢
  rw [replaceFrom, hsome]
  exact congrArg (new ++ ·) hb

theorem IsPart.ne_nil (h : IsPart w) : w ≠ [] := by
  rcases h with ⟨hne, -⟩ | rfl
  · exact hne
  · exact List.cons_ne_nil _ _

/-- A rule takes a member of a path for the word `f w`, wherever it stands in a path. -/
def TakesFor (rule : Rule) (f : List Char → List Char) : Prop := ∀ before w ws,
  startsWord before = true → IsPart w → (∀ w' ∈ ws, IsPart w') →
    (f w = w ∧ rule before (w ++ points ws) = none) ∨
      rule before (w ++ points ws) = some (f w, w.length)

theorem IsAnchored.replaceFrom_taken (h : IsAnchored rule) {f : List Char → List Char}
    (hf : TakesFor rule f) (hbefore : startsWord before = true) (hw : IsPart w)
    (hws : ∀ w' ∈ ws, IsPart w') :
    ∃ b, replaceFrom rule before 0 (w ++ points ws) = f w ++ replaceFrom rule b 0 (points ws) := by
  rcases hf before w ws hbefore hw hws with ⟨hsame, hnone⟩ | hsome
  · rw [hsame]
    exact h.replaceFrom_part hw hnone
  · exact replaceFrom_replaced hw.ne_nil hsome

theorem IsAnchored.replaceFrom_points (h : IsAnchored rule) {f : List Char → List Char}
    (hf : TakesFor rule f) (hbefore : startsWord before = true) (hw : IsPart w)
    (hws : ∀ w' ∈ ws, IsPart w') :
    replaceFrom rule before 0 (w ++ points ws) = f w ++ points (ws.map f) := by
  induction ws generalizing w before with
  | nil =>
    obtain ⟨b, hb⟩ := h.replaceFrom_taken hf hbefore hw hws
    exact hb
  | cons w' ws ih =>
    obtain ⟨b, hb⟩ := h.replaceFrom_taken hf hbefore hw hws
    obtain ⟨hw', hws⟩ := List.forall_mem_cons.mp hws
    rw [hb, points_cons, h.replaceFrom_mark (by decide), ih (by decide) hw' hws]
    rfl

theorem IsAnchored.replaceAll_points (h : IsAnchored rule) {f : List Char → List Char}
    (hf : TakesFor rule f) (hw : IsPart w) (hws : ∀ w' ∈ ws, IsPart w') :
    replaceAll rule (w ++ points ws) = f w ++ points (ws.map f) :=
  h.replaceFrom_points hf rfl hw hws

/-! ## Words -/

theorem wordRule_part (hp : IsWord p) (new : List Char) (hbefore : startsWord before = true)
    (hw : IsPart w) (ws : List (List Char)) :
    wordRule p new before (w ++ points ws) = if w = p then some (new, p.length) else none := by
  have hends : ∀ {rest : List Char}, endsWord rest = true →
      ∀ c ∈ rest.head?, isIdentifierChar c = false := by
    intro rest hends c hc
    cases hchar : isIdentifierChar c with
    | false => rfl
    | true => simp [endsWord, Option.mem_def.mp hc, isWord_of_isIdentifierChar hchar] at hends
  have hpoints : endsWord (points ws) = true := by
    cases ws with
    | nil => rfl
    | cons w ws => rfl
  rw [wordRule, if_pos hbefore]
  split
  · rename_i heq
    rw [heq, after?_eq_some_iff.mpr rfl, Option.bind_some, if_pos hpoints]
  · rename_i hne
    refine Option.bind_eq_none_iff.mpr fun rest hafter => if_neg fun hrest => hne ?_
    exact (whole_part hw hp (fun c hc => not_isIdentifierChar_head_points hc) (hends hrest)
      hafter).1

theorem takesFor_nullRule : TakesFor (fun before cs =>
    wordRule "null".toList ['(', ')'] before cs <|>
      wordRule "undefined".toList ['(', ')'] before cs) nullWord := by
  intro before w ws hbefore hw _
  have hnull : IsWord "null".toList := isWord_of_all (by decide) (by decide)
  have hundefined : IsWord "undefined".toList := isWord_of_all (by decide) (by decide)
  simp only [wordRule_part hnull _ hbefore hw, wordRule_part hundefined _ hbefore hw, nullWord]
  by_cases h : w = "null".toList
  · exact .inr (by simp [h])
  · by_cases h' : w = "undefined".toList
    · exact .inr (by simp [h'])
    · rw [if_neg h, if_neg h', if_neg (not_or.mpr ⟨h, h'⟩)]
      exact .inl ⟨rfl, rfl⟩

theorem takesFor_varRule : TakesFor (wordRule "var".toList "let".toList) varWord := by
  intro before w ws hbefore hw _
  have hvar : IsWord "var".toList := isWord_of_all (by decide) (by decide)
  rw [wordRule_part hvar _ hbefore hw, varWord]
  by_cases h : w = "var".toList
  · rw [if_pos h, if_pos h, h]
    exact .inr rfl
  · exact .inl ⟨if_neg h, if_neg h⟩

theorem isAnchored_logRule : IsAnchored logRule := by
  intro before cs hsome
  obtain ⟨new, hnew⟩ := Option.isSome_iff_exists.mp hsome
  simp only [logRule, Option.ite_none_right_eq_some, Option.bind_eq_bind,
    Option.bind_eq_some_iff] at hnew
  obtain ⟨hstarts, rest, hrest, -⟩ := hnew
  rw [after?_eq_some_iff.mp hrest]
  exact ⟨hstarts, 'c', rfl, by decide⟩

/-- No bracket stands behind a member of a path. -/
theorem takesFor_logRule : TakesFor logRule id := by
  intro before w ws _ hw hws
  refine .inl ⟨rfl, Option.not_isSome_iff_eq_none.mp fun hsome => ?_⟩
  obtain ⟨new, hnew⟩ := Option.isSome_iff_exists.mp hsome
  simp only [logRule, Option.ite_none_right_eq_some, Option.bind_eq_bind,
    Option.bind_eq_some_iff] at hnew
  obtain ⟨-, rest, hrest, point, hpoint, behind, hlog, bracket, hbracket, -⟩ := hnew
  obtain ⟨-, rfl⟩ := whole_of_afterPoint? hw (isWord_of_all (by decide) (by decide))
    (fun c hc => not_isIdentifierChar_head_points hc) hrest (by simp [hpoint])
  cases ws with
  | nil => cases hpoint
  | cons w' ws =>
    obtain ⟨hw', hws⟩ := List.forall_mem_cons.mp hws
    rw [afterPoint?_points hw'] at hpoint
    cases hpoint
    have hopens := after?_eq_some_iff.mp hbracket
    by_cases hchar : ∃ c ∈ behind.head?, isIdentifierChar c = true
    · rw [trimStart_of_isIdentifierChar hchar] at hopens
      obtain ⟨c, hc, hchar⟩ := hchar
      rw [hopens] at hc
      cases hc
      exact absurd hchar (by decide)
    · have hbehind : ∀ c ∈ behind.head?, isIdentifierChar c = false := by
        intro c hc
        simpa using fun h => hchar ⟨c, hc, h⟩
      obtain ⟨-, rfl⟩ := whole_part hw' (isWord_of_all (by decide) (by decide))
        (fun c hc => not_isIdentifierChar_head_points hc) hbehind hlog
      rw [trimStart_points] at hopens
      cases ws with
      | nil => cases hopens
      | cons w' ws => cases hopens

end

end FormulaSheet.Desugaring
