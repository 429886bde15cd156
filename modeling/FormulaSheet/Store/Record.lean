import FormulaSheet.Calendar.Instant
import FormulaSheet.Table.View

/-!
Stored tables and changes of them. An update leaves the fields alone that it does not give; of two
updates one after the other, the later one decides field by field.
-/

namespace FormulaSheet

/-- A table as it is stored. -/
structure Record where
  id : String
  owner : String
  name : String
  csv : String
  querySpec : String := ""
  createdAt : Instant
  updatedAt : Instant
  deriving DecidableEq

/-- What a list of tables tells of each. -/
structure Summary where
  id : String
  name : String
  updatedAt : Instant
  deriving DecidableEq

/-- New values for some of the fields of a record. -/
structure Update where
  csv : Option String := none
  name : Option String := none
  querySpec : Option String := none
  deriving DecidableEq, Repr

namespace Update

def isEmpty (u : Update) : Bool := u.csv.isNone && u.name.isNone && u.querySpec.isNone

/-- Both updates in one, the second one later. -/
def merge (u later : Update) : Update where
  csv := later.csv <|> u.csv
  name := later.name <|> u.name
  querySpec := later.querySpec <|> u.querySpec

end Update

namespace Record

/-- The name of tables that have none. -/
def defaultName : String := "Untitled"

/-- A name without blanks around it. -/
def trimmedName (name : String) : String :=
  let cs := Number.trimmed name.toList
  if cs.isEmpty then defaultName else String.ofList cs

/-- A new table. -/
def new (id owner : String) (name : Option String) (rowId : String) (now : Instant) : Record where
  id := id
  owner := owner
  name := trimmedName (name.getD "")
  csv := Csv.write (Grid.sample rowId)
  createdAt := now
  updatedAt := now

/-- The record after an update. -/
def apply (r : Record) (u : Update) (now : Instant) : Record :=
  { r with
    csv := u.csv.getD r.csv
    name := (u.name.map trimmedName).getD r.name
    querySpec := u.querySpec.getD r.querySpec
    updatedAt := now }

def summary (r : Record) : Summary := ⟨r.id, r.name, r.updatedAt⟩

end Record

namespace Summary

/-- The newest first; tables of one time by their identifiers. -/
def precedes (a b : Summary) : Bool :=
  b.updatedAt.before a.updatedAt || (a.updatedAt == b.updatedAt && decide (a.id ≤ b.id))

def sorted (summaries : List Summary) : List Summary := summaries.mergeSort precedes

end Summary

end FormulaSheet
