import FormulaSheet.Formula.Context
import FormulaSheet.Store.Basic

/-!
Other tables for formulas, out of a store. A table that was found is kept as it was then, until it
is given up; one that was not found is looked for again.
-/

namespace FormulaSheet

/-- A stored table as formulas see it. -/
def LinkedTable.ofRecord (r : Record) : LinkedTable :=
  let v := View.ofGrid (Csv.read r.csv)
  { id := r.id, name := r.name, columns := v.columns, rows := v.allFields, footer := v.footer }

/-- The tables that an owner has looked up, by identifier. -/
structure Lookup where
  owner : String
  known : List (String × LinkedTable) := []

namespace Lookup

def known? (l : Lookup) (id : String) : Option LinkedTable :=
  (l.known.find? fun k => k.1 == id).map Prod.snd

variable [TableStore σ]

/-- The table in the store. -/
def stored? (store : σ) (l : Lookup) (id : String) : Option LinkedTable :=
  match TableStore.load l.owner id store with
  | .ok r => some (.ofRecord r)
  | .error _ => none

/-- The table that a reference means. -/
def table? (store : σ) (l : Lookup) (reference : String) : Option LinkedTable :=
  (LinkedTable.idOf? reference).bind fun id => (l.known? id).or (stored? store l id)

/-- Keeps the table that a reference means. -/
def remember (store : σ) (l : Lookup) (reference : String) : Lookup :=
  match LinkedTable.idOf? reference with
  | none => l
  | some id =>
    if (l.known? id).isSome then l
    else
      match stored? store l id with
      | some t => { l with known := (id, t) :: l.known }
      | none => l

def rememberAll (store : σ) (l : Lookup) (references : List String) : Lookup :=
  references.foldl (remember store) l

/-- Gives up the table that a reference means. -/
def invalidate (l : Lookup) (reference : String) : Lookup :=
  match LinkedTable.idOf? reference with
  | none => l
  | some id => { l with known := l.known.filter fun k => k.1 != id }

def clear (l : Lookup) : Lookup := { l with known := [] }

end Lookup

end FormulaSheet
