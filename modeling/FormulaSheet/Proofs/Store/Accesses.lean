import FormulaSheet.Proofs.Store.Owners

/-!
What the store in files does to its directory, one file after the other. The token of a save is
looked at twice: before anything else, and once more when the file is written but has not its name
yet. A token that stays as it was leaves nothing to the second look, and then this is what the store
does (`perform_steady`). A save that is cancelled in between is the save with or without its token
cancelled from the start, since it takes away the file that it wrote (`perform_midway`).
-/

namespace FormulaSheet

namespace FileStore

/-- A file that has not got its name yet is none of a table. -/
theorem isTableFile_draftOf (id : String) : isTableFile (draftOf id) = false := by
  have hnot : ¬ ".json".toList <:+ (draftOf id).toList := by
    rintro ⟨front, hfront⟩
    have hlast := congrArg List.getLast? hfront
    simp [draftOf] at hlast
  simp only [isTableFile, Bool.and_eq_false_iff]
  right
  rw [← Bool.not_eq_true, List.isSuffixOf_iff_suffix]
  exact hnot

/-! ## Directories -/

/-- What is done to a file, or to all of them. -/
inductive Access where
  | read (name : String)
  | write (name text : String)
  | rename (name other : String)
  | remove (name : String)
  | scan
  deriving DecidableEq, Repr

/-- The files that an access leaves. -/
def Access.apply (a : Access) (s : FileStore) : FileStore :=
  match a with
  | .write name text => s.setFile name text
  | .rename name other => s.moveFile name other
  | .remove name => s.dropFile name
  | .read _ | .scan => s

/-- Files, and what has been done to them, the latest first. -/
structure Directory where
  files : FileStore := {}
  accesses : List Access := []
  deriving DecidableEq, Repr

def Directory.access (d : Directory) (a : Access) : Directory :=
  ⟨a.apply d.files, a :: d.accesses⟩

/-- What is done until it is finished or something is wrong; what was done before that stays. -/
abbrev Job := ExceptT Error (StateM Directory)

namespace Job

section

variable {α β : Type}

def on (t : Job α) (d : Directory) : Except Error α × Directory := (ExceptT.run t).run d

/-- Does the one thing to a file. -/
def access (a : Access) : Job Unit := modify fun d => d.access a

def files : Job FileStore := return (← get).files

@[simp] theorem on_access (a : Access) (d : Directory) : on (access a) d = (.ok (), d.access a) :=
  rfl

@[simp] theorem on_files (d : Directory) : on files d = (.ok d.files, d) := rfl

/-- What only looks at what it is given does nothing to the files. -/
@[simp] theorem on_lift (x : Except Error α) (d : Directory) : on (liftM x) d = (x, d) := rfl

@[simp] theorem on_bind (t : Job α) (f : α → Job β) (d : Directory) :
    on (t >>= f) d =
      match on t d with
      | (.ok a, d') => on (f a) d'
      | (.error e, d') => (.error e, d') := by
  show (ExceptT.run t >>= ExceptT.bindCont f).run d = _
  rw [StateT.run_bind]
  show (ExceptT.bindCont f (on t d).1).run (on t d).2 = _
  obtain ⟨outcome, d'⟩ := on t d
  cases outcome with
  | ok a => rfl
  | error e => rfl

end

/-! ## What the store does -/

/-- The record in the file of an identifier, if there is the file. -/
def find? (id : String) : Job (Option Record) := do
  checkId id
  access (.read (fileOf id))
  match (← files).fileText? (fileOf id) with
  | some text => return some (← recordOf text)
  | none => return none

/-- Writes the file of a record under another name, and gives it its own one unless the token is
cancelled by then. -/
def put (r : Record) (cancelled : Bool) : Job Unit := do
  checkId r.id
  access (.write (draftOf r.id) r.toText)
  if cancelled then
    access (.remove (draftOf r.id))
    throw .cancelled
  else access (.rename (draftOf r.id) (fileOf r.id))

def create (o : Occasion) (owner : String) (name : Option String) : Job Record := do
  let r := Record.new o.tableId owner name (o.firstRowId o.tableId) o.now
  put r false
  return r

def load (owner id : String) : Job Record := do
  match ← find? id with
  | some r => if r.owner = owner then return r else throw (.notFound id)
  | none => throw (.notFound id)

/-- The token is cancelled from the start, or midway, after it was looked at for the first time. -/
def save (o : Occasion) (owner id : String) (u : Update) (cancelled midway : Bool) : Job Unit := do
  if cancelled then throw .cancelled
  else
    let r := (← find? id).getD (Record.new id owner none (o.firstRowId id) o.now)
    if r.owner = owner then put (r.apply u o.now) midway else throw (.notFound id)

def delete (owner id : String) : Job Unit := do
  let _ ← load owner id
  access (.remove (fileOf id))

def list (owner : String) : Job (List Summary) := do
  access .scan
  return (← files).list owner

variable {id : String} {d : Directory}

/-- A directory after a look at the file of an identifier, if it can name one. -/
def looked (id : String) (d : Directory) : Directory :=
  if isFileId id then d.access (.read (fileOf id)) else d

@[simp] theorem files_looked (id : String) (d : Directory) : (looked id d).files = d.files := by
  unfold looked
  split
  · rfl
  · rfl

theorem on_find? (id : String) (d : Directory) :
    (find? id).on d = (d.files.find? id, looked id d) := by
  unfold Job.find? FileStore.find? checkId looked
  split
  · simp only [on_bind, on_lift, on_access, on_files]
    show on (match d.files.fileText? (fileOf id) with | some text => _ | none => _) _ = _
    cases d.files.fileText? (fileOf id) with
    | none => rfl
    | some text =>
      simp only [on_bind, on_lift]
      cases recordOf text <;> rfl
  · rfl

theorem on_load (owner id : String) (d : Directory) :
    (load owner id).on d = (d.files.load owner id, looked id d) := by
  unfold Job.load FileStore.load
  rw [on_bind, on_find?]
  cases d.files.find? id with
  | error e => rfl
  | ok found =>
    cases found with
    | none => rfl
    | some r =>
      show on (if r.owner = owner then _ else _) _ = (if r.owner = owner then _ else _, _)
      split
      · rfl
      · rfl

/-- The identifier is looked at before there is anything written, and the token after that. -/
theorem on_put (r : Record) (cancelled : Bool) (d : Directory) :
    (put r cancelled).on d =
      if isFileId r.id then
        if cancelled then
          (.error .cancelled,
            (d.access (.write (draftOf r.id) r.toText)).access (.remove (draftOf r.id)))
        else
          (.ok (), (d.access (.write (draftOf r.id) r.toText)).access
            (.rename (draftOf r.id) (fileOf r.id)))
      else (.error (.notFound r.id), d) := by
  unfold put checkId
  split
  · cases cancelled with
    | true => rfl
    | false => rfl
  · rfl

theorem on_save_of_error {o : Occasion} {owner : String} {e : Error}
    (h : d.files.find? id = .error e) (u : Update) (midway : Bool) :
    (save o owner id u false midway).on d = (.error e, looked id d) := by
  unfold save
  rw [if_neg Bool.false_ne_true, on_bind, on_find?, h]

/-- A save, with what it finds in the file. -/
theorem on_save_of_ok {o : Occasion} {owner : String} {found : Option Record}
    (h : d.files.find? id = .ok found) (u : Update) (midway : Bool) :
    (save o owner id u false midway).on d =
      if (found.getD (.fresh o owner id)).owner = owner then
        (put ((found.getD (.fresh o owner id)).apply u o.now) midway).on (looked id d)
      else (.error (.notFound id), looked id d) := by
  unfold save
  rw [if_neg Bool.false_ne_true, on_bind, on_find?, h]
  show on (if (found.getD (.fresh o owner id)).owner = owner then _ else _) _ = _
  split
  · rfl
  · rfl

end Job

/-! ## The same as the store does -/

section

variable {α β : Type}

/-- What an operation comes to, and the files that are left: the old ones if it fails. -/
def kept (s : FileStore) (x : Except Error (α × FileStore)) : Except Error α × FileStore :=
  match x with
  | .ok (a, s') => (.ok a, s')
  | .error e => (.error e, s)

/-- What a job comes to, and the files that it leaves. -/
def Job.outcome (t : Job α) (d : Directory) : Except Error α × FileStore :=
  ((t.on d).1, (t.on d).2.files)

theorem kept_map (s : FileStore) (x : Except Error (α × FileStore)) (g : α → β) :
    s.kept (x.map fun p => (g p.1, p.2)) = ((s.kept x).1.map g, (s.kept x).2) := by
  cases x with
  | error e => rfl
  | ok p => rfl

theorem Job.outcome_map (t : Job α) (g : α → β) (d : Directory) :
    Job.outcome (do return g (← t)) d = ((t.outcome d).1.map g, (t.outcome d).2) := by
  unfold Job.outcome
  rw [Job.on_bind]
  obtain ⟨x, d'⟩ := t.on d
  cases x with
  | error e => rfl
  | ok a => rfl

end

namespace Job

variable {id : String} {d : Directory}

theorem outcome_put (r : Record) (d : Directory) :
    (put r false).outcome d = d.files.kept ((d.files.put r).map fun s => ((), s)) := by
  unfold outcome FileStore.put checkId
  rw [on_put]
  by_cases hid : isFileId r.id
  · rw [if_pos hid, if_pos hid]
    rfl
  · rw [if_neg hid, if_neg hid]
    rfl

theorem outcome_create (o : Occasion) (owner : String) (name : Option String) (d : Directory) :
    (create o owner name).outcome d = d.files.kept (d.files.create o owner name) := by
  unfold create FileStore.create
  rw [outcome_map, outcome_put, ← kept_map]
  simp only
  cases d.files.put (.new o.tableId owner name (o.firstRowId o.tableId) o.now) with
  | error e => rfl
  | ok s => rfl

theorem outcome_load (owner id : String) (d : Directory) :
    (load owner id).outcome d = (d.files.load owner id, d.files) := by
  rw [outcome, on_load, files_looked]

theorem outcome_save (o : Occasion) (owner id : String) (u : Update) (cancelled : Bool)
    (d : Directory) :
    (save o owner id u cancelled false).outcome d =
      d.files.kept ((d.files.save o owner id u cancelled).map fun s => ((), s)) := by
  cases cancelled with
  | true => rfl
  | false =>
    unfold FileStore.save
    rw [if_neg Bool.false_ne_true]
    cases hfound : d.files.find? id with
    | error e =>
      rw [outcome, on_save_of_error hfound, files_looked]
      rfl
    | ok found =>
      rw [outcome, on_save_of_ok hfound]
      show _ = d.files.kept
        (Except.map _ (if (found.getD (.fresh o owner id)).owner = owner then _ else _))
      by_cases howner : (found.getD (.fresh o owner id)).owner = owner
      · rw [if_pos howner, if_pos howner]
        have hput := outcome_put ((found.getD (.fresh o owner id)).apply u o.now) (looked id d)
        rw [files_looked] at hput
        exact hput
      · rw [if_neg howner, if_neg howner, files_looked]
        rfl

theorem outcome_delete (owner id : String) (d : Directory) :
    (delete owner id).outcome d =
      d.files.kept ((d.files.delete owner id).map fun s => ((), s)) := by
  unfold outcome delete FileStore.delete
  rw [on_bind, on_load]
  cases d.files.load owner id with
  | error e =>
    show (_, (looked id d).files) = _
    rw [files_looked]
    rfl
  | ok r =>
    show (_, (looked id d).files.dropFile (fileOf id)) = _
    rw [files_looked]
    rfl

/-- The token is cancelled once the save has begun: either the save fails before it writes, as it
does without that, or the file that it wrote is taken away again. -/
theorem outcome_save_midway {m : MemoryStore} (hd : d.files = ofMemory m) (o : Occasion)
    (owner id : String) (u : Update) (cancelled : Bool) :
    (save o owner id u cancelled true).outcome d = (save o owner id u cancelled false).outcome d ∨
      (save o owner id u cancelled true).outcome d = (.error .cancelled, d.files) := by
  cases cancelled with
  | true => exact .inr rfl
  | false =>
    cases hfound : d.files.find? id with
    | error e =>
      left
      rw [outcome, outcome, on_save_of_error hfound, on_save_of_error hfound]
    | ok found =>
      rw [outcome, outcome, on_save_of_ok hfound, on_save_of_ok hfound]
      by_cases howner : (found.getD (.fresh o owner id)).owner = owner
      · rw [if_pos howner, if_pos howner, on_put, on_put]
        by_cases hid : isFileId ((found.getD (.fresh o owner id)).apply u o.now).id
        · right
          rw [if_pos hid, if_pos rfl]
          show (_, ((looked id d).files.setFile _ _).dropFile _) = _
          rw [files_looked, hd, dropFile_setFile_draftOf]
        · left
          rw [if_neg hid, if_neg hid]
      · left
        rw [if_neg howner, if_neg howner]

/-! ## Identifiers that name no file -/

section

variable (h : isFileId id = false)

include h

theorem on_find?_of_not (d : Directory) : (find? id).on d = (.error (.notFound id), d) := by
  rw [on_find?, looked, FileStore.find?, checkId]
  simp only [h]
  rfl

theorem on_load_of_not (owner : String) (d : Directory) :
    (load owner id).on d = (.error (.notFound id), d) := by
  unfold load
  rw [on_bind, on_find?_of_not h]

theorem on_delete_of_not (owner : String) (d : Directory) :
    (delete owner id).on d = (.error (.notFound id), d) := by
  unfold delete
  rw [on_bind, on_load_of_not h]

theorem on_save_of_not (o : Occasion) (owner : String) (u : Update) (cancelled midway : Bool)
    (d : Directory) :
    (save o owner id u cancelled midway).on d =
      (.error (if cancelled then .cancelled else .notFound id), d) := by
  cases cancelled with
  | true => rfl
  | false =>
    unfold save
    rw [if_neg Bool.false_ne_true, if_neg Bool.false_ne_true, on_bind, on_find?_of_not h]

end

end Job

end FileStore

/-! ## Requests -/

namespace TableStore

open FileStore (Directory Job isFileId)

/-- What a request does to the files; `midway` is for the token of a save that is cancelled while
the request is carried out. -/
def Request.carryOut (q : Request) (midway : Bool) : Job Answer :=
  match q.call with
  | .create name => do return .table (← Job.create q.occasion q.owner name)
  | .load id => do return .table (← Job.load q.owner id)
  | .save id u cancelled => do
    Job.save q.occasion q.owner id u cancelled midway
    return .done
  | .delete id => do
    Job.delete q.owner id
    return .done
  | .list => do return .tables (← Job.list q.owner)

theorem Request.outcome_carryOut (q : Request) (d : Directory) :
    (q.carryOut false).outcome d = d.files.kept (q.attempt d.files) := by
  unfold carryOut attempt
  cases q.call with
  | create name =>
    rw [Job.outcome_map, Job.outcome_create, ← FileStore.kept_map]
    rfl
  | load id =>
    rw [Job.outcome_map, Job.outcome_load]
    show _ = d.files.kept (Except.map _ (d.files.load q.owner id))
    cases d.files.load q.owner id with
    | error e => rfl
    | ok r => rfl
  | save id u cancelled =>
    rw [Job.outcome_map, Job.outcome_save, ← FileStore.kept_map]
    show _ = d.files.kept (Except.map _ (d.files.save q.occasion q.owner id u cancelled))
    cases d.files.save q.occasion q.owner id u cancelled with
    | error e => rfl
    | ok s => rfl
  | delete id =>
    rw [Job.outcome_map, Job.outcome_delete, ← FileStore.kept_map]
    show _ = d.files.kept (Except.map _ (d.files.delete q.owner id))
    cases d.files.delete q.owner id with
    | error e => rfl
    | ok s => rfl
  | list => rfl

/-- What somebody is told of what a job came to. -/
def answerOf (x : Except Error Answer) : Answer :=
  match x with
  | .ok answer => answer
  | .error e => .failed e

/-- What is told of a job, and the files that it leaves. -/
def told (t : Job Answer) (d : Directory) : Answer × FileStore :=
  (answerOf (t.on d).1, (t.on d).2.files)

theorem told_eq (t : Job Answer) (d : Directory) :
    told t d = (answerOf (t.outcome d).1, (t.outcome d).2) := rfl

/-- The same request, with the token of a save cancelled from the start. -/
def Request.cancel (q : Request) : Request :=
  match q.call with
  | .save id u _ => { q with call := .save id u true }
  | _ => q

/-- As long as the token of a save stays as it is, carrying a request out is performing it. -/
theorem Request.perform_steady (q : Request) (d : Directory) :
    told (q.carryOut false) d = q.perform d.files := by
  rw [told_eq, outcome_carryOut, perform]
  cases q.attempt d.files with
  | error e => rfl
  | ok p => rfl

/-- The token of a save that is cancelled midway is one that was cancelled from the start, or one
that is cancelled too late to matter. -/
theorem Request.perform_midway {m : MemoryStore} {d : Directory}
    (hd : d.files = FileStore.ofMemory m) (q : Request) :
    told (q.carryOut true) d = q.perform d.files ∨
      told (q.carryOut true) d = q.cancel.perform d.files := by
  cases hcall : q.call with
  | save id u cancelled =>
    have hsteady := q.perform_steady d
    have hcancel : q.cancel.perform d.files = (.failed .cancelled, d.files) := by
      simp only [cancel, hcall, perform]
      rfl
    rw [told_eq] at hsteady ⊢
    rw [hcancel]
    simp only [carryOut, hcall, Job.outcome_map] at hsteady ⊢
    rcases Job.outcome_save_midway hd q.occasion q.owner id u cancelled with hsame | hcancelled
    · left
      rw [hsame]
      exact hsteady
    · right
      rw [hcancelled]
      rfl
  | create _ | load _ | delete _ | list =>
    -- there is no token
    have hsame : q.carryOut true = q.carryOut false := by
      simp only [carryOut, hcall]
    left
    rw [hsame, perform_steady]

/-! Identifiers that name no file are refused before anything is done to a file. -/

theorem Request.on_carryOut_of_not {q : Request} {id : String} (h : isFileId id = false)
    (hcall : q.call = .load id ∨ q.call = .delete id) (midway : Bool) (d : Directory) :
    (q.carryOut midway).on d = (.error (.notFound id), d) := by
  rcases hcall with hload | hdelete
  · simp only [carryOut, hload, Job.on_bind, Job.on_load_of_not h]
  · simp only [carryOut, hdelete, Job.on_bind, Job.on_delete_of_not h]

theorem Request.on_carryOut_save_of_not {q : Request} {id : String} {u : Update} {cancelled : Bool}
    (h : isFileId id = false) (hcall : q.call = .save id u cancelled) (midway : Bool)
    (d : Directory) :
    (q.carryOut midway).on d = (.error (if cancelled then .cancelled else .notFound id), d) := by
  simp only [carryOut, hcall, Job.on_bind, Job.on_save_of_not h]

end TableStore

end FormulaSheet
