import FormulaSheet.Document.Operation
import FormulaSheet.Lookup

/-!
A document together with the saver that it hands its changes to, the store behind that, and the
tables that formulas have looked up.
-/

namespace FormulaSheet

structure Workspace (σ : Type) where
  saver : Autosaver σ
  document : Option Document := none
  /-- Whose tables the formulas of the document see, if any. -/
  viewer : Option String := none
  lookups : List Lookup := []

namespace Workspace

/-- What an owner has looked up. -/
def lookupOf (w : Workspace σ) (owner : String) : Lookup :=
  (w.lookups.find? fun l => l.owner == owner).getD { owner := owner }

def setLookup (w : Workspace σ) (l : Lookup) : Workspace σ :=
  { w with lookups := l :: w.lookups.filter fun other => other.owner != l.owner }

/-- Puts a document in the place of the open one, and hands its requests to the saver. -/
def put (w : Workspace σ) (d : Document) : Workspace σ :=
  { w with
    saver := d.outbox.foldl Autosaver.schedule w.saver
    document := some { d with outbox := [] } }

variable [TableStore σ]

/-- Looks a reference up. -/
def table? (w : Workspace σ) (owner reference : String) : Option LinkedTable × Workspace σ :=
  let l := w.lookupOf owner
  (l.table? w.saver.store reference, w.setLookup (l.remember w.saver.store reference))

/-- What the formulas of the document see. -/
def outlook (today : Date) (w : Workspace σ) : Outlook where
  today := today
  lookup reference := w.viewer.bind fun owner => (w.lookupOf owner).table? w.saver.store reference

/-- Keeps the tables that formulas of the document have asked for. -/
def remember (w : Workspace σ) (asked : List String) : Workspace σ :=
  match w.viewer with
  | some owner => w.setLookup ((w.lookupOf owner).rememberAll w.saver.store asked)
  | none => w

/-- Does something to the document. -/
def perform (o : Occasion) (w : Workspace σ) (op : Document.Operation) :
    Except Error Unit × Workspace σ :=
  match w.document with
  | none => (.ok (), w)
  | some d =>
    match d.perform (w.outlook o.now.day) o.rowId op with
    | (.ok d, asked) => (.ok (), (w.remember asked).put d)
    | (.error e, asked) => (.error e, w.remember asked)

/-- Presses a button of a document; gives the number of rows that it changes. -/
def press (o : Occasion) (w : Workspace σ) (d : Document) (row column : Nat) :
    Except Error Nat × Workspace σ :=
  match d.pressButton (w.outlook o.now.day) row column with
  | (.ok (count, d), asked) => (.ok count, (w.remember asked).put d)
  | (.error e, asked) => (.error e, w.remember asked)

/-- Flushes the changes of the open document. -/
def flush (o : Occasion) (w : Workspace σ) : Workspace σ :=
  match w.document with
  | none => w
  | some d =>
    if d.target.isSome then
      { w with saver := w.saver.flush o, document := some d.flushed }
    else w

/-- Flushes the open document and drops it. -/
def close (o : Occasion) (w : Workspace σ) : Workspace σ :=
  { w.flush o with document := none, viewer := none }

/-- Opens a stored table, with autosave or without, and drops the document before. -/
def openTable (o : Occasion) (limit : Nat) (owner id : String) (autosave : Bool)
    (w : Workspace σ) : Except Error (Workspace σ) := do
  let d ← Document.load? limit owner id w.saver.store
  let d := if autosave then d.withTarget owner id else d
  return { w.close o with document := some d, viewer := some owner }

end Workspace

end FormulaSheet
