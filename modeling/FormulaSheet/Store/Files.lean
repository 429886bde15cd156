import FormulaSheet.Store.Basic
import FormulaSheet.Store.RecordText

/-!
A store in files of one directory, a file for each table, named for its identifier. A file is
written under another name first and renamed once it is complete.
-/

namespace FormulaSheet

/-- The files of the directory with their texts. -/
structure FileStore where
  files : List (String × String) := []
  deriving DecidableEq, Repr

namespace FileStore

def fileText? (s : FileStore) (name : String) : Option String :=
  (s.files.find? fun f => f.1 == name).map Prod.snd

def dropFile (s : FileStore) (name : String) : FileStore :=
  ⟨s.files.filter fun f => f.1 != name⟩

def setFile (s : FileStore) (name text : String) : FileStore :=
  ⟨(name, text) :: (s.dropFile name).files⟩

/-- Gives a file another name, in the place of a file that has it. -/
def moveFile (s : FileStore) (name other : String) : FileStore :=
  match s.fileText? name with
  | some text => (s.dropFile name).setFile other text
  | none => s

/-! ## Tables -/

/-- Whether an identifier can name a file. -/
def isFileId (id : String) : Bool :=
  !id.isEmpty && id.toList.all fun c => Text.isAsciiAlphanumeric c || c == '-' || c == '_'

def checkId (id : String) : Except Error Unit :=
  if isFileId id then .ok () else .error (.notFound id)

def fileOf (id : String) : String := id ++ ".json"

/-- The name under which a file is written at first. -/
def draftOf (id : String) : String := fileOf id ++ ".tmp"

def recordOf (text : String) : Except Error Record :=
  match Record.ofText text with
  | .ok r => .ok r
  | .error reason => .error (.json reason)

/-- The record in the file of an identifier, if there is the file. -/
def find? (s : FileStore) (id : String) : Except Error (Option Record) := do
  checkId id
  match s.fileText? (fileOf id) with
  | some text => return some (← recordOf text)
  | none => return none

/-- Writes the file of a record. -/
def put (s : FileStore) (r : Record) : Except Error FileStore := do
  checkId r.id
  return (s.setFile (draftOf r.id) r.toText).moveFile (draftOf r.id) (fileOf r.id)

def create (o : Occasion) (owner : String) (name : Option String) (s : FileStore) :
    Except Error (Record × FileStore) := do
  let r := Record.new o.tableId owner name (o.firstRowId o.tableId) o.now
  return (r, ← s.put r)

def load (owner id : String) (s : FileStore) : Except Error Record := do
  match ← s.find? id with
  | some r => if r.owner = owner then .ok r else .error (.notFound id)
  | none => .error (.notFound id)

def save (o : Occasion) (owner id : String) (u : Update) (cancelled : Bool) (s : FileStore) :
    Except Error FileStore := do
  if cancelled then .error .cancelled
  else
    let r := (← s.find? id).getD (Record.new id owner none (o.firstRowId id) o.now)
    if r.owner = owner then s.put (r.apply u o.now) else .error (.notFound id)

def delete (owner id : String) (s : FileStore) : Except Error FileStore := do
  let _ ← s.load owner id
  return s.dropFile (fileOf id)

/-- Whether the name of a file ends as those of tables do, with something in front. -/
def isTableFile (name : String) : Bool :=
  name.toList.length > 5 && ".json".toList.isSuffixOf name.toList

/-- Files that hold no record are passed over. -/
def list (owner : String) (s : FileStore) : List Summary :=
  let records := s.files.filterMap fun (name, text) =>
    if isTableFile name then (Record.ofText text).toOption else none
  Summary.sorted ((records.filter fun r => r.owner == owner).map Record.summary)

instance : TableStore FileStore := ⟨create, load, save, delete, list⟩

end FileStore

end FormulaSheet
