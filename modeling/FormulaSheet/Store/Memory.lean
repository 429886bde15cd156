import FormulaSheet.Store.Basic

/-!
A store in memory: a list of records, one for each identifier.
-/

namespace FormulaSheet

structure MemoryStore where
  records : List Record := []
  deriving DecidableEq

namespace MemoryStore

def find? (s : MemoryStore) (id : String) : Option Record := s.records.find? fun r => r.id == id

/-- Puts a record in the place of the one with its identifier. -/
def put (s : MemoryStore) (r : Record) : MemoryStore :=
  ⟨r :: s.records.filter fun other => other.id != r.id⟩

def remove (s : MemoryStore) (id : String) : MemoryStore :=
  ⟨s.records.filter fun r => r.id != id⟩

def create (o : Occasion) (owner : String) (name : Option String) (s : MemoryStore) :
    Except Error (Record × MemoryStore) :=
  let r := Record.new o.tableId owner name (o.firstRowId o.tableId) o.now
  .ok (r, s.put r)

def load (owner id : String) (s : MemoryStore) : Except Error Record :=
  match s.find? id with
  | some r => if r.owner = owner then .ok r else .error (.notFound id)
  | none => .error (.notFound id)

def save (o : Occasion) (owner id : String) (u : Update) (cancelled : Bool) (s : MemoryStore) :
    Except Error MemoryStore :=
  if cancelled then .error .cancelled
  else
    let r := (s.find? id).getD (Record.new id owner none (o.firstRowId id) o.now)
    if r.owner = owner then .ok (s.put (r.apply u o.now)) else .error (.notFound id)

def delete (owner id : String) (s : MemoryStore) : Except Error MemoryStore := do
  let _ ← s.load owner id
  return s.remove id

def list (owner : String) (s : MemoryStore) : List Summary :=
  Summary.sorted ((s.records.filter fun r => r.owner == owner).map Record.summary)

instance : TableStore MemoryStore := ⟨create, load, save, delete, list⟩

end MemoryStore

end FormulaSheet
