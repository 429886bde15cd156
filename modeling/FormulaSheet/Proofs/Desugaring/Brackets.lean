import FormulaSheet.Desugaring.Conditional

/-!
Scans and bracket groups. Every scan that keeps count of the open brackets takes a text whose
brackets match (`Grouped`) character by character, provided that the characters outside its groups
mean nothing to the scan (`Grouped.pass`). What stands inside the groups never matters.
-/

namespace FormulaSheet.Desugaring

/-- Text in which brackets match, with characters of some kind outside its groups. -/
inductive Grouped : (Char → Bool) → List Char → Prop
  | nil (p : Char → Bool) : Grouped p []
  | plain {p : Char → Bool} {c : Char} {cs : List Char} : closer? c = none → isCloser c = false →
    p c = true → Grouped p cs → Grouped p (c :: cs)
  | group {p : Char → Bool} {o d : Char} {inside cs : List Char} : closer? o = some d →
    Grouped (fun _ => true) inside → Grouped p cs → Grouped p (o :: (inside ++ d :: cs))

/-- Text in which brackets match, whatever it is made of. -/
abbrev Balanced (cs : List Char) : Prop := Grouped (fun _ => true) cs

variable {p q : Char → Bool} {o d : Char} {cs inside : List Char}

/-! ## Replacements -/

/-- A rule for which it does not matter what stands before. -/
def LooksAhead (rule : Rule) : Prop := ∀ before before' cs, rule before cs = rule before' cs

theorem LooksAhead.replaceFrom {rule : Rule} (hrule : LooksAhead rule) (before : Option Char)
    (skip : Nat) (cs : List Char) : replaceFrom rule before skip cs = replaceAll rule (cs.drop skip) := by
  induction cs generalizing before skip with
  | nil => cases skip <;> rfl
  | cons c cs ih =>
    cases skip with
    | zero => rw [List.drop_zero, replaceAll, Desugaring.replaceFrom, Desugaring.replaceFrom,
        hrule before none]
    | succ skip => rw [Desugaring.replaceFrom, ih, List.drop_succ_cons]

theorem LooksAhead.replaceAll_of_none {rule : Rule} (hrule : LooksAhead rule) {c : Char}
    (h : rule none (c :: cs) = none) : replaceAll rule (c :: cs) = c :: replaceAll rule cs := by
  rw [replaceAll, Desugaring.replaceFrom, h]
  exact congrArg _ (hrule.replaceFrom _ 0 cs)

theorem LooksAhead.replaceAll_of_some {rule : Rule} (hrule : LooksAhead rule) {c : Char}
    {new : List Char} {n : Nat} (h : rule none (c :: cs) = some (new, n + 1)) :
    replaceAll rule (c :: cs) = new ++ replaceAll rule (cs.drop n) := by
  rw [replaceAll, Desugaring.replaceFrom, h]
  exact congrArg _ (hrule.replaceFrom _ n cs)

/-! ## Brackets -/

theorem closer?_eq_some_iff :
    closer? o = some d ↔ (o = '(' ∧ d = ')') ∨ (o = '[' ∧ d = ']') ∨ (o = '\x7b' ∧ d = '\x7d') := by
  unfold closer?
  split <;> simp_all [eq_comm]

theorem isOpener_of_closer? (h : closer? o = some d) : isOpener o = true := by
  rcases closer?_eq_some_iff.mp h with ⟨rfl, -⟩ | ⟨rfl, -⟩ | ⟨rfl, -⟩ <;> rfl

/-- A character that opens or closes a group. -/
def isBracket (c : Char) : Bool := isOpener c || isCloser c

theorem plain_of_not_isBracket {c : Char} (h : (!isBracket c) = true) :
    closer? c = none ∧ isCloser c = false := by
  simp only [isBracket, Bool.not_or, Bool.and_eq_true, Bool.not_eq_true'] at h
  refine ⟨Option.eq_none_iff_forall_ne_some.mpr fun d hd => ?_, h.2⟩
  rw [isOpener_of_closer? hd] at h
  exact absurd h.1 (by decide)

theorem isCloser_of_closer? (h : closer? o = some d) : isCloser d = true := by
  rcases closer?_eq_some_iff.mp h with ⟨-, rfl⟩ | ⟨-, rfl⟩ | ⟨-, rfl⟩ <;> rfl

theorem closer?_of_closer? (h : closer? o = some d) : closer? d = none := by
  rcases closer?_eq_some_iff.mp h with ⟨-, rfl⟩ | ⟨-, rfl⟩ | ⟨-, rfl⟩ <;> rfl

theorem depthAfter_opener (h : closer? o = some d) (depth : Nat) :
    depthAfter o depth = depth + 1 := by
  simp [depthAfter, isOpener_of_closer? h]

theorem depthAfter_closer (h : closer? o = some d) (depth : Nat) :
    depthAfter d (depth + 1) = depth := by
  rcases closer?_eq_some_iff.mp h with ⟨-, rfl⟩ | ⟨-, rfl⟩ | ⟨-, rfl⟩ <;>
    simp [depthAfter, isOpener, isCloser]

theorem depthAfter_plain {c : Char} (ho : closer? c = none) (hc : isCloser c = false)
    (depth : Nat) : depthAfter c depth = depth := by
  have hopener : isOpener c = false := by
    cases h : isOpener c with
    | false => rfl
    | true =>
      simp only [isOpener, Bool.or_eq_true, beq_iff_eq, or_assoc] at h
      rcases h with rfl | rfl | rfl <;> simp [closer?] at ho
  simp [depthAfter, hopener, hc]

/-! ## Texts in which brackets match -/

theorem Grouped.append {ds : List Char} (h : Grouped p cs) (hds : Grouped p ds) :
    Grouped p (cs ++ ds) := by
  induction h with
  | nil => exact hds
  | plain ho hc hp _ ih => exact .plain ho hc hp (ih hds)
  | group hod hin _ _ ih =>
    rw [List.cons_append, List.append_assoc, List.cons_append]
    exact .group hod hin (ih hds)

theorem Grouped.mono (hpq : ∀ c, p c = true → q c = true) (h : Grouped p cs) : Grouped q cs := by
  induction h with
  | nil => exact .nil q
  | plain ho hc hp _ ih => exact .plain ho hc (hpq _ hp) (ih hpq)
  | group hod hin _ _ ih => exact .group hod hin (ih hpq)

theorem Grouped.balanced (h : Grouped p cs) : Balanced cs := h.mono fun _ _ => rfl

theorem Grouped.bracketed (h : Balanced inside) (hod : closer? o = some d) :
    Grouped p (o :: (inside ++ [d])) := .group hod h (.nil p)

/-- Text without brackets. -/
theorem Grouped.of_forall
    (h : ∀ c ∈ cs, closer? c = none ∧ isCloser c = false ∧ p c = true) : Grouped p cs := by
  induction cs with
  | nil => exact .nil p
  | cons c cs ih =>
    obtain ⟨ho, hc, hp⟩ := h c (by simp)
    exact .plain ho hc hp (ih fun c' hc' => h c' (by simp [hc']))

theorem Grouped.of_all (h : cs.all (fun c => !isBracket c && p c) = true) : Grouped p cs := by
  refine .of_forall fun c hc => ?_
  obtain ⟨hbracket, hp⟩ := Bool.and_eq_true_iff.mp (List.all_eq_true.mp h c hc)
  exact ⟨(plain_of_not_isBracket hbracket).1, (plain_of_not_isBracket hbracket).2, hp⟩

/-! ## The group at the front -/

theorem Grouped.splitClosed? (h : Grouped p cs) (d : Char) (ds rest : List Char) :
    splitClosed? (d :: ds) (cs ++ rest) =
      (splitClosed? (d :: ds) rest).map fun (a, x, b) => (cs ++ a, x, b) := by
  induction h generalizing d ds rest with
  | nil => simp
  | plain ho hc _ _ ih =>
    rw [List.cons_append, Desugaring.splitClosed?.eq_def]
    simp [ho, hc, ih, Function.comp_def]
  | group hod _ _ ihin ih =>
    rw [List.cons_append, List.append_assoc, List.cons_append, Desugaring.splitClosed?.eq_def]
    simp only [hod, ihin]
    rw [Desugaring.splitClosed?.eq_def]
    simp [closer?_of_closer? hod, isCloser_of_closer? hod, ih, Function.comp_def]

theorem group?_append (hod : closer? o = some d) (h : Grouped p inside) (rest : List Char) :
    group? (o :: (inside ++ d :: rest)) = some (inside, d, rest) := by
  rw [group?, hod, Option.bind_some, h.splitClosed?, splitClosed?]
  simp [closer?_of_closer? hod, isCloser_of_closer? hod]

theorem group?_plain {c : Char} (ho : closer? c = none) (rest : List Char) :
    group? (c :: rest) = none := by
  rw [group?, ho, Option.bind_none]

/-! ## Scans that count brackets -/

section

variable {σ β : Type} {scan : Nat → σ → List Char → β} {next : Char → σ → σ}

/-- A scan takes matching brackets character by character when it does so wherever brackets are
open, and outside them with brackets and with the characters of the text. -/
theorem Grouped.pass (next : Char → σ → σ) (post : Char → β → β)
    (hstep : ∀ depth s c cs, depth ≠ 0 ∨ isOpener c = true ∨ p c = true →
      scan depth s (c :: cs) = post c (scan (depthAfter c depth) (next c s) cs))
    (h : Grouped p cs) (s : σ) (rest : List Char) :
    scan 0 s (cs ++ rest) = cs.foldr post (scan 0 (cs.foldl (fun s c => next c s) s) rest) := by
  -- inside a group the depth is positive and the kind of the characters does not matter
  have hall : ∀ {q : Char → Bool} {cs : List Char}, Grouped q cs → ∀ depth s rest,
      depth ≠ 0 ∨ (∀ c, q c = true → p c = true) →
      scan depth s (cs ++ rest) =
        cs.foldr post (scan depth (cs.foldl (fun s c => next c s) s) rest) := by
    intro q cs h
    induction h with
    | nil => intro depth s rest _; rfl
    | plain ho hc hq _ ih =>
      intro depth s rest hdepth
      rw [List.cons_append, hstep _ _ _ _ (hdepth.imp_right fun hqp => .inr (hqp _ hq)),
        depthAfter_plain ho hc, ih depth _ rest hdepth]
      rfl
    | @group q o d inside cs hod _ _ ihin ih =>
      intro depth s rest hdepth
      rw [List.cons_append, List.append_assoc, List.cons_append,
        hstep _ _ _ _ (.inr (.inl (isOpener_of_closer? hod))), depthAfter_opener hod,
        ihin _ _ _ (.inl (Nat.succ_ne_zero depth)), hstep _ _ _ _ (.inl (Nat.succ_ne_zero depth)),
        depthAfter_closer hod, ih _ _ _ hdepth]
      simp
  exact hall h 0 s rest (.inr fun _ hp => hp)

/-- A scan that puts nothing together goes on behind the text. -/
theorem Grouped.skip
    (hstep : ∀ depth s c cs, depth ≠ 0 ∨ isOpener c = true ∨ p c = true →
      scan depth s (c :: cs) = scan (depthAfter c depth) (next c s) cs)
    (h : Grouped p cs) (s : σ) (rest : List Char) :
    scan 0 s (cs ++ rest) = scan 0 (cs.foldl (fun s c => next c s) s) rest := by
  have hpost : ∀ (cs : List Char) (r : β), cs.foldr (fun _ r => r) r = r := by
    intro cs r
    induction cs with
    | nil => rfl
    | cons c cs ih => exact ih
  rw [h.pass next (fun _ r => r) hstep, hpost]

/-- A scan that splits a text in two adds the text to the first part. -/
theorem Grouped.pass_split {split : Nat → σ → List Char → Option (List Char × List Char)}
    (hstep : ∀ depth s c cs, depth ≠ 0 ∨ isOpener c = true ∨ p c = true →
      split depth s (c :: cs) =
        (split (depthAfter c depth) (next c s) cs).map fun (a, b) => (c :: a, b))
    (h : Grouped p cs) (s : σ) (rest : List Char) :
    ∃ s', split 0 s (cs ++ rest) = (split 0 s' rest).map fun (a, b) => (cs ++ a, b) := by
  let post := fun (c : Char) (r : Option (List Char × List Char)) =>
    r.map fun (a, b) => (c :: a, b)
  have hpost : ∀ (cs : List Char) (r : Option (List Char × List Char)),
      cs.foldr post r = r.map fun (a, b) => (cs ++ a, b) := by
    intro cs r
    induction cs with
    | nil => simp
    | cons c cs ih => simp [post, ih, Function.comp_def]
  have hpass := h.pass next post hstep s rest
  exact ⟨_, hpass.trans (hpost cs _)⟩

end

theorem Grouped.splitSequence (h : Grouped p cs) (hp : ∀ c, p c = true → c ≠ ',' ∧ c ≠ ';')
    (rest : List Char) :
    splitSequence 0 (cs ++ rest) =
      (cs ++ (splitSequence 0 rest).1, (splitSequence 0 rest).2) := by
  have hstep : ∀ depth (s : Unit) c cs, depth ≠ 0 ∨ isOpener c = true ∨ p c = true →
      Desugaring.splitSequence depth (c :: cs) =
        (c :: (Desugaring.splitSequence (depthAfter c depth) cs).1,
          (Desugaring.splitSequence (depthAfter c depth) cs).2) := by
    intro depth _ c cs hc
    have hmark : ¬ (depth = 0 ∧ (c = ',' ∨ c = ';')) := by
      rintro ⟨rfl, rfl | rfl⟩ <;> simp [isOpener] at hc <;> simpa using hp _ hc
    rw [Desugaring.splitSequence, if_neg hmark]
  have hpass := h.pass (fun _ s => s) (fun c r => (c :: r.1, r.2)) hstep () rest
  rw [hpass]
  clear hpass h
  induction cs with
  | nil => rfl
  | cons c cs ih => rw [List.foldr_cons, ih]; rfl

theorem Grouped.splitPairs {mark : Char} (h : Grouped p cs) (hp : ∀ c, p c = true → c ≠ mark)
    (hmark : isOpener mark = false) (part rest : List Char) :
    splitPairs mark 0 part (cs ++ rest) = splitPairs mark 0 (cs.reverse ++ part) rest := by
  have hstep : ∀ depth part c cs, depth ≠ 0 ∨ isOpener c = true ∨ p c = true →
      Desugaring.splitPairs mark depth part (c :: cs) =
        Desugaring.splitPairs mark (depthAfter c depth) (c :: part) cs := by
    intro depth part c cs hc
    cases cs with
    | nil => rfl
    | cons d cs =>
      have hno : ¬ (depth = 0 ∧ c = mark ∧ d = mark ∧ (!part.all Text.isBlank) = true) := by
        rintro ⟨rfl, rfl, -, -⟩
        rcases hc with hc | hc | hc
        · exact hc rfl
        · simp [hmark] at hc
        · exact hp _ hc rfl
      rw [Desugaring.splitPairs, if_neg hno]
  have hskip := h.skip hstep part rest
  rw [hskip]
  simp

theorem Grouped.splitQuestion? (h : Grouped p cs) (hp : ∀ c, p c = true → c ≠ '?')
    (before : Option Char) (rest : List Char) :
    ∃ before', splitQuestion? 0 before (cs ++ rest) =
      (splitQuestion? 0 before' rest).map fun (a, b) => (cs ++ a, b) := by
  have hstep : ∀ depth before c cs, depth ≠ 0 ∨ isOpener c = true ∨ p c = true →
      Desugaring.splitQuestion? depth before (c :: cs) =
        (Desugaring.splitQuestion? (depthAfter c depth) (some c) cs).map
          fun (a, b) => (c :: a, b) := by
    intro depth before c cs hc
    have hno : ¬ (c = '?' ∧ depth = 0 ∧ isQuestion before cs.head? = true) := by
      rintro ⟨rfl, rfl, -⟩
      simp [isOpener] at hc
      exact hp _ hc rfl
    rw [Desugaring.splitQuestion?, if_neg hno]
  exact h.pass_split hstep before rest

theorem Grouped.splitColon? (h : Grouped p cs) (hp : ∀ c, p c = true → c ≠ '?' ∧ c ≠ ':')
    (nested : Nat) (before : Option Char) (rest : List Char) :
    ∃ before', splitColon? 0 nested before (cs ++ rest) =
      (splitColon? 0 nested before' rest).map fun (a, b) => (cs ++ a, b) := by
  have hstep : ∀ depth before c cs, depth ≠ 0 ∨ isOpener c = true ∨ p c = true →
      Desugaring.splitColon? depth nested before (c :: cs) =
        (Desugaring.splitColon? (depthAfter c depth) nested (some c) cs).map
          fun (a, b) => (c :: a, b) := by
    intro depth before c cs hc
    have hno : ¬ (c = '?' ∧ depth = 0 ∧ isQuestion before cs.head? = true) := by
      rintro ⟨rfl, rfl, -⟩
      simp [isOpener] at hc
      exact (hp _ hc).1 rfl
    have hno' : ¬ (c = ':' ∧ depth = 0 ∧ isColon before cs.head? = true) := by
      rintro ⟨rfl, rfl, -⟩
      simp [isOpener] at hc
      exact (hp _ hc).2 rfl
    rw [Desugaring.splitColon?.eq_def]
    simp only [if_neg hno, if_neg hno']
  exact h.pass_split hstep before rest

theorem Grouped.lastBarFrom (h : Grouped p cs) (hp : ∀ c, p c = true → c ≠ '|' ∧ c ≠ '&')
    (here : Nat) (last : Option Nat) (rest : List Char) :
    lastBarFrom 0 here last (cs ++ rest) = lastBarFrom 0 (here + cs.length) last rest := by
  have hstep : ∀ depth here c cs, depth ≠ 0 ∨ isOpener c = true ∨ p c = true →
      Desugaring.lastBarFrom depth here last (c :: cs) =
        Desugaring.lastBarFrom (depthAfter c depth) (here + 1) last cs := by
    intro depth here c cs hc
    have hne : depth = 0 → c ≠ '|' ∧ c ≠ '&' := by
      rintro rfl
      constructor <;> rintro rfl <;> simp [isOpener] at hc <;> simpa using hp _ hc
    have hno : ¬ (depth = 0 ∧ (c = '|' ∨ c = '&') ∧ cs.head? = some c) := by
      rintro ⟨hdepth, rfl | rfl, -⟩
      · exact (hne hdepth).1 rfl
      · exact (hne hdepth).2 rfl
    have hno' : ¬ (depth = 0 ∧ c = '|') := fun ⟨hdepth, hbar⟩ => (hne hdepth).1 hbar
    rw [Desugaring.lastBarFrom, if_neg hno]
    simp only [if_neg hno']
  have hskip := h.skip hstep here rest
  rw [hskip]
  simp

theorem Grouped.assignmentFrom? (h : Grouped p cs) (hp : ∀ c, p c = true → c ≠ '=')
    (before : List Char) : assignmentFrom? 0 before cs = none := by
  have hstep : ∀ depth before c cs, depth ≠ 0 ∨ isOpener c = true ∨ p c = true →
      Desugaring.assignmentFrom? depth before (c :: cs) =
        Desugaring.assignmentFrom? (depthAfter c depth) (c :: before) cs := by
    intro depth before c cs hc
    have hno : ¬ (c = '=' ∧ depth = 0) := by
      rintro ⟨rfl, rfl⟩
      simp [isOpener] at hc
      exact hp _ hc rfl
    rw [Desugaring.assignmentFrom?.eq_def]
    simp only [if_neg hno]
  have hskip := h.skip hstep before []
  rw [List.append_nil] at hskip
  rw [hskip]
  rfl

end FormulaSheet.Desugaring
