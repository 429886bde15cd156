import FormulaSheet.Error
import FormulaSheet.Store.Record

/-!
What a store of tables does. Every table has an owner, and for everybody else there is no such
table. The clock and new identifiers come from the caller.
-/

namespace FormulaSheet

/-- What comes from outside when something is done: the time, and identifiers for what is new. -/
structure Occasion where
  now : Instant
  tableId : String := ""
  rowId : String := ""
  /-- The identifier of the one row of a new table. -/
  firstRowId : String → String := fun _ => rowId

/-- A store whose states are values of `σ`. An operation that fails leaves the state as it was. -/
class TableStore (σ : Type) where
  /-- Stores a new table. -/
  create : Occasion → (owner : String) → (name : Option String) → σ → Except Error (Record × σ)
  load : (owner id : String) → σ → Except Error Record
  /-- Changes a table, which is new if there is none of that identifier. A cancelled save does
  nothing. -/
  save : Occasion → (owner id : String) → Update → (cancelled : Bool) → σ → Except Error σ
  delete : (owner id : String) → σ → Except Error σ
  /-- The tables of an owner, the newest first. -/
  list : (owner : String) → σ → List Summary

end FormulaSheet
