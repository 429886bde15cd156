import FormulaSheet.Text.CaseMap

/-!
A row as named fields. Fields stand in the order of the columns; of two columns with one name the
first gives the field.
-/

namespace FormulaSheet

/-- Whether two names are equal when case is ignored. -/
def sameName (a b : String) : Bool := Text.toLower a == Text.toLower b

/-- A row keyed by column name. -/
structure Fields where
  entries : List (String × String) := []
  deriving DecidableEq, Repr, Inhabited

namespace Fields

def size (f : Fields) : Nat := f.entries.length

def isEmpty (f : Fields) : Bool := f.entries.isEmpty

def contains (f : Fields) (name : String) : Bool := f.entries.any fun e => e.1 == name

def get? (f : Fields) (name : String) : Option String :=
  (f.entries.find? fun e => e.1 == name).map Prod.snd

/-- The first field whose name is `name` when case is ignored, with the name it has. -/
def getIgnoringCase? (f : Fields) (name : String) : Option (String × String) :=
  f.entries.find? fun e => sameName e.1 name

/-- Adds a field unless its name is taken. -/
def insertIfNew (f : Fields) (name value : String) : Fields :=
  if f.contains name then f else ⟨f.entries ++ [(name, value)]⟩

/-- The fields of a list of pairs; the first of a name counts. -/
def ofList (pairs : List (String × String)) : Fields :=
  pairs.foldl (fun f p => f.insertIfNew p.1 p.2) {}

/-- The fields of a row under its columns; cells that are missing are empty. -/
def ofRow (columns row : List String) : Fields :=
  ofList (columns.zipIdx.map fun (name, i) => (name, row.getD i ""))

/-- Replaces the value of the first field of a name in a list. -/
def replace (name value : String) : List (String × String) → List (String × String)
  | [] => []
  | e :: es => if e.1 == name then (e.1, value) :: es else e :: replace name value es

/-- Gives a field a value and adds it at the end if there is none of that name. -/
def set (f : Fields) (name value : String) : Fields :=
  if f.contains name then ⟨replace name value f.entries⟩ else ⟨f.entries ++ [(name, value)]⟩

/-- Lays the fields out under columns. A column whose name stood earlier, or has no field, keeps
the cell of `former`. -/
def toRow (f : Fields) (columns former : List String) : List String :=
  columns.zipIdx.map fun (name, i) =>
    if (columns.take i).contains name then former.getD i ""
    else (f.get? name).getD (former.getD i "")

end Fields

end FormulaSheet
