import FormulaSheet.Autosave
import FormulaSheet.History
import FormulaSheet.Query.Clause

/-!
An open table. Its text is the only copy of the data, and grid and view are read from it; every
change of the text goes through the history.
-/

namespace FormulaSheet

/-- Where the changes of a document are saved. -/
structure SaveTarget where
  owner : String
  id : String
  deriving DecidableEq, Repr

structure Document where
  history : History
  name : String := ""
  querySpec : String := ""
  query : Query := {}
  /-- Whether the text was changed since it was opened or flushed. -/
  modified : Bool := false
  target : Option SaveTarget := none
  /-- What is to be saved and was not handed to a saver yet. -/
  outbox : List SaveRequest := []
  deriving DecidableEq, Repr

namespace Document

/-- A document over a text, with so many steps to undo. -/
def new (limit : Nat) (csv : String) : Document := { history := .new limit csv }

/-- How many steps can be undone unless something else is said. -/
def defaultLimit : Nat := ({} : History).limit

/-- A new table. -/
def blank (rowId : String) : Document := new defaultLimit (Csv.write (Grid.sample rowId))

/-- The document of a stored table. -/
def ofRecord (limit : Nat) (r : Record) : Document :=
  { new limit r.csv with
    name := r.name, querySpec := r.querySpec, query := Query.ofSpec r.querySpec }

/-- The document of a file, which bears the name of the file. -/
def ofFile (limit : Nat) (name csv : String) : Document :=
  { new limit (Csv.write (Csv.read csv)) with name := name }

/-- The text of the file of a document, with the formulas. -/
def toFile (d : Document) : String := Csv.write (Csv.read d.history.present)

/-- Saves every later change. -/
def withTarget (d : Document) (owner id : String) : Document :=
  { d with target := some ⟨owner, id⟩ }

def text (d : Document) : String := d.history.present

def grid (d : Document) : Grid := Csv.read d.text

def view (d : Document) : View := .ofGrid d.grid

/-- Asks for an update to be saved, if the document has a target. -/
def schedule (d : Document) (u : Update) : Document :=
  match d.target with
  | some t => { d with outbox := d.outbox ++ [⟨t.owner, t.id, u⟩] }
  | none => d

/-- The document after its pending changes have been flushed. -/
def flushed (d : Document) : Document :=
  if d.target.isSome then { d with modified := false } else d

/-- Opens a stored table. -/
def load? [TableStore σ] (limit : Nat) (owner id : String) (store : σ) : Except Error Document :=
  (TableStore.load owner id store).map (ofRecord limit)

end Document

end FormulaSheet
