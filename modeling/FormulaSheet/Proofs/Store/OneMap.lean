import FormulaSheet.Proofs.Store.Accesses
import Mathlib.Data.List.Forall2

/-!
Both stores are one map. As long as identifiers can name files, the two tell the same in every run
of requests (`answers_ofMemory`), for the files are those of the records in memory. It stays so when
the requests are carried out file by file and tokens of saves are cancelled in between: there is a
run in memory with each of these tokens either cancelled from the start or not at all that tells
the same (`answersBy_ofMemory`). Other identifiers are refused before any file is looked at.
-/

namespace FormulaSheet.TableStore

open FileStore (Directory Job isFileId fileOf draftOf ofMemory CanHold isTableFile)

/-! ## Requests about files -/

/-- The identifier that a request is about. -/
def Request.id? (q : Request) : Option String :=
  match q.call with
  | .create _ => some q.occasion.tableId
  | .load id | .save id _ _ | .delete id => some id
  | .list => none

def Request.NamesFile (q : Request) : Prop := ∀ id ∈ q.id?, isFileId id = true

instance (q : Request) : Decidable q.NamesFile :=
  inferInstanceAs (Decidable (∀ id ∈ q.id?, isFileId id = true))

theorem Request.NamesFile.cancel {q : Request} (h : q.NamesFile) : q.cancel.NamesFile := by
  have hsame : q.cancel.id? = q.id? := by
    unfold Request.cancel Request.id?
    cases hcall : q.call <;> simp [hcall]
  unfold NamesFile
  rw [hsame]
  exact h

section

variable {m : MemoryStore} {q : Request}

/-- A request about a file does to the files what it does to the records in memory. -/
theorem Request.attempt_ofMemory (hold : CanHold m) (h : q.NamesFile) :
    q.attempt (ofMemory m) = (q.attempt m).map fun p => (p.1, ofMemory p.2) := by
  unfold NamesFile id? at h
  unfold attempt
  cases hcall : q.call with
  | create name =>
    have hid : isFileId q.occasion.tableId = true := h _ (by simp [hcall])
    show Except.map _ (FileStore.create _ _ _ _) = _
    rw [FileStore.create_ofMemory, if_pos hid]
    rfl
  | load id =>
    show Except.map _ (FileStore.load _ _ _) = Except.map _ (Except.map _ (m.load q.owner id))
    rw [FileStore.load_ofMemory hold]
    cases m.load q.owner id with
    | error e => rfl
    | ok r => rfl
  | save id u cancelled =>
    have hid : isFileId id = true := h _ (by simp [hcall])
    show Except.map _ (FileStore.save _ _ _ _ _ _) =
      Except.map _ (Except.map _ (MemoryStore.save q.occasion q.owner id u cancelled m))
    rw [FileStore.save_ofMemory, if_pos hid]
    cases cancelled with
    | true => rfl
    | false =>
      rw [if_neg Bool.false_ne_true]
      cases MemoryStore.save q.occasion q.owner id u false m with
      | error e => rfl
      | ok m' => rfl
  | delete id =>
    show Except.map _ (FileStore.delete _ _ _) =
      Except.map _ (Except.map _ (MemoryStore.delete q.owner id m))
    rw [FileStore.delete_ofMemory hold]
    cases MemoryStore.delete q.owner id m with
    | error e => rfl
    | ok m' => rfl
  | list =>
    show Except.ok (Answer.tables (FileStore.list _ _), _) = Except.map _ (.ok _)
    rw [FileStore.list_ofMemory hold]
    rfl

theorem Request.canHold_attempt (hold : CanHold m) (h : q.NamesFile) {answer : Answer}
    {m' : MemoryStore} (hq : q.attempt m = .ok (answer, m')) : CanHold m' := by
  unfold NamesFile id? at h
  unfold attempt at hq
  cases hcall : q.call with
  | create name =>
    rw [hcall] at hq
    obtain ⟨⟨r, m''⟩, ⟨⟩, ⟨⟩⟩ := exists_of_map_eq_ok hq
    have hid : isFileId q.occasion.tableId = true := h _ (by simp [hcall])
    exact hold.put hid
  | load id =>
    rw [hcall] at hq
    obtain ⟨r, -, ⟨⟩⟩ := exists_of_map_eq_ok hq
    exact hold
  | save id u cancelled =>
    rw [hcall] at hq
    obtain ⟨m'', hsave, ⟨⟩⟩ := exists_of_map_eq_ok hq
    exact hold.save (h _ (by simp [hcall])) hsave
  | delete id =>
    rw [hcall] at hq
    obtain ⟨m'', hdelete, ⟨⟩⟩ := exists_of_map_eq_ok hq
    obtain rfl := MemoryStore.delete_eq_ok hdelete
    exact hold.remove id
  | list =>
    rw [hcall] at hq
    cases hq
    exact hold

theorem Request.perform_ofMemory (hold : CanHold m) (h : q.NamesFile) :
    q.perform (ofMemory m) = ((q.perform m).1, ofMemory (q.perform m).2) := by
  unfold perform
  rw [attempt_ofMemory hold h]
  cases q.attempt m with
  | error e => rfl
  | ok p => rfl

theorem Request.canHold_perform (hold : CanHold m) (h : q.NamesFile) :
    CanHold (q.perform m).2 := by
  unfold perform
  cases hq : q.attempt m with
  | error e => exact hold
  | ok p => exact canHold_attempt hold h hq

end

/-! ## Runs -/

section

variable {σ : Type} [TableStore σ]

/-- What is told in a run of requests, to each owner. -/
def answers : List Request → σ → List Answer
  | [], _ => []
  | q :: qs, s => (q.perform s).1 :: answers qs (q.perform s).2

end

/-- What is told in a run that is carried out file by file; with each request comes whether its
token is cancelled midway. -/
def answersBy : List (Request × Bool) → Directory → List Answer
  | [], _ => []
  | (q, midway) :: qs, d =>
    answerOf ((q.carryOut midway).on d).1 :: answersBy qs ((q.carryOut midway).on d).2

/-- A token that is cancelled midway is cancelled from the start, or not at all. -/
def Settles (p : Request × Bool) (q : Request) : Prop := q = p.1 ∨ p.2 = true ∧ q = p.1.cancel

theorem answers_ofMemory {m : MemoryStore} (hold : CanHold m) {qs : List Request}
    (h : ∀ q ∈ qs, q.NamesFile) : answers qs (ofMemory m) = answers qs m := by
  induction qs generalizing m with
  | nil => rfl
  | cons q qs ih =>
    have hq : q.NamesFile := h q (.head qs)
    have hrest := ih (Request.canHold_perform hold hq) fun other hother => h other (.tail q hother)
    rw [answers, answers, Request.perform_ofMemory hold hq, hrest]

/-- One request, carried out file by file. -/
theorem Request.told_ofMemory {m : MemoryStore} (hold : CanHold m) {d : Directory}
    (hd : d.files = ofMemory m) {q : Request} (h : q.NamesFile) (midway : Bool) :
    ∃ settled, Settles (q, midway) settled ∧ settled.NamesFile ∧
      told (q.carryOut midway) d = ((settled.perform m).1, ofMemory (settled.perform m).2) := by
  cases midway with
  | false =>
    refine ⟨q, .inl rfl, h, ?_⟩
    rw [q.perform_steady, hd, perform_ofMemory hold h]
  | true =>
    rcases q.perform_midway hd with hsame | hcancelled
    · refine ⟨q, .inl rfl, h, ?_⟩
      rw [hsame, hd, perform_ofMemory hold h]
    · refine ⟨q.cancel, .inr ⟨rfl, rfl⟩, h.cancel, ?_⟩
      rw [hcancelled, hd, perform_ofMemory hold h.cancel]

theorem answersBy_ofMemory {m : MemoryStore} (hold : CanHold m) {d : Directory}
    (hd : d.files = ofMemory m) {qs : List (Request × Bool)} (h : ∀ p ∈ qs, p.1.NamesFile) :
    ∃ settled, List.Forall₂ Settles qs settled ∧ answersBy qs d = answers settled m := by
  induction qs generalizing m d with
  | nil => exact ⟨[], .nil, rfl⟩
  | cons p qs ih =>
    obtain ⟨q, midway⟩ := p
    obtain ⟨q', hsettles, hnames, htold⟩ :=
      Request.told_ofMemory hold hd (h (q, midway) (.head qs)) midway
    obtain ⟨hanswer, hfiles⟩ := Prod.mk.inj htold
    obtain ⟨settled, hall, hrest⟩ := ih (Request.canHold_perform hold hnames) hfiles
      fun other hother => h other (.tail _ hother)
    refine ⟨q' :: settled, .cons hsettles hall, ?_⟩
    rw [answersBy, answers, hanswer, hrest]

/-! ## Lists -/

/-- The list of an owner tells of what loading finds, of each table once, the newest first. -/
structure ListsLoadable {σ : Type} [TableStore σ] (s : σ) (owner : String) : Prop where
  mem_iff (x : Summary) : x ∈ list owner s ↔ ∃ r, load owner x.id s = .ok r ∧ r.summary = x
  nodup : ((list owner s).map Summary.id).Nodup
  newest_first : (list owner s).Pairwise fun a b => a.updatedAt.before b.updatedAt = false

theorem listsLoadable_of_isTidy {σ : Type} [TableStore σ] [LawfulStore σ] [ShelvedStore σ] {s : σ}
    (h : ShelvedStore.IsTidy s) (owner : String) : ListsLoadable s owner := by
  have hlist := ShelvedStore.list_isListing owner h
  constructor
  · intro x
    rw [hlist.mem_iff]
    constructor
    · rintro ⟨r, hr, howner, hx⟩
      exact ⟨r, LawfulStore.load_eq_ok_iff.mpr ⟨hr, howner⟩, hx⟩
    · rintro ⟨r, hload, hx⟩
      obtain ⟨hr, howner⟩ := LawfulStore.load_eq_ok_iff.mp hload
      exact ⟨r, hr, howner, hx⟩
  · exact hlist.nodup
  · exact hlist.newest_first

/-! ## The map -/

/-- Both stores are one map from identifiers to records, which starts empty. -/
structure OneMap : Prop where
  /-- What the store in files does is done file by file. -/
  performed (q : Request) (d : Directory) : told (q.carryOut false) d = q.perform d.files
  /-- What is told of requests about files does not depend on the store. -/
  told_alike {qs : List Request} : (∀ q ∈ qs, q.NamesFile) →
    answers qs ({} : FileStore) = answers qs ({} : MemoryStore)
  /-- Tokens that are cancelled while a file is written make no other difference than tokens that
  were cancelled before. -/
  told_alike_midway {qs : List (Request × Bool)} : (∀ p ∈ qs, p.1.NamesFile) →
    ∃ settled, List.Forall₂ Settles qs settled ∧
      answersBy qs {} = answers settled ({} : MemoryStore)
  listed_in_memory (qs : List Request) (owner : String) :
    ListsLoadable (after qs ({} : MemoryStore)) owner
  listed_in_files (qs : List Request) (owner : String) :
    ListsLoadable (after qs ({} : FileStore)) owner
  /-- Other identifiers are not found, and nothing is done to a file for them. -/
  refused {q : Request} {id : String} : isFileId id = false →
    q.call = .load id ∨ q.call = .delete id → ∀ (midway : Bool) (d : Directory),
      (q.carryOut midway).on d = (.error (.notFound id), d)
  refused_save {q : Request} {id : String} {u : Update} {cancelled : Bool} : isFileId id = false →
    q.call = .save id u cancelled → ∀ (midway : Bool) (d : Directory),
      (q.carryOut midway).on d = (.error (if cancelled then .cancelled else .notFound id), d)
  /-- A file that is not complete is not taken for that of a table. -/
  draft_apart (id other : String) : draftOf id ≠ fileOf other ∧ isTableFile (draftOf id) = false

theorem stores_are_one_map : OneMap where
  performed q d := q.perform_steady d
  told_alike h := answers_ofMemory (m := {}) (fun r hr => by cases hr) h
  told_alike_midway h := answersBy_ofMemory (m := {}) (fun r hr => by cases hr) rfl h
  listed_in_memory qs owner := listsLoadable_of_isTidy (after_isTidy List.nodup_nil qs) owner
  listed_in_files qs owner := by
    refine listsLoadable_of_isTidy (after_isTidy ?_ qs) owner
    exact ⟨{}, rfl, List.nodup_nil, fun r hr => by cases hr⟩
  refused h hcall midway d := Request.on_carryOut_of_not h hcall midway d
  refused_save h hcall midway d := Request.on_carryOut_save_of_not h hcall midway d
  draft_apart id other := by
    constructor
    · exact (FileStore.fileOf_ne_draftOf other id).symm
    · exact FileStore.isTableFile_draftOf id

/-- One identifier in two hands: saved under for the first time, by somebody else, and by the owner
with a token that is cancelled midway; then the table is deleted and made anew by the other one. -/
def contested : List (Request × Bool) :=
  [(⟨{ now := .epoch }, "ada", .save "t" { csv := some "a" } false⟩, false),
    (⟨{ now := .epoch }, "bob", .save "t" { csv := some "b" } false⟩, true),
    (⟨{ now := .epoch }, "ada", .save "t" { csv := some "c" } false⟩, true),
    (⟨{ now := .epoch }, "ada", .delete "t"⟩, false),
    (⟨{ now := .epoch }, "bob", .save "t" { csv := some "d" } true⟩, false),
    (⟨{ now := .epoch, tableId := "t" }, "bob", .create none⟩, false),
    (⟨{ now := .epoch }, "ada", .load "t"⟩, false),
    (⟨{ now := .epoch }, "bob", .list⟩, false)]

theorem stores_are_one_map_contested :
    (∀ p ∈ contested, p.1.NamesFile) ∧
      (∃ settled, List.Forall₂ Settles contested settled ∧
        answersBy contested {} = answers settled ({} : MemoryStore)) ∧
      answersBy (contested.take 4) {} =
        [.done, .failed (.notFound "t"), .failed .cancelled, .done] := by
  have hnames : ∀ p ∈ contested, p.1.NamesFile := by decide +kernel
  refine ⟨hnames, stores_are_one_map.told_alike_midway hnames, ?_⟩
  decide +kernel

end FormulaSheet.TableStore
