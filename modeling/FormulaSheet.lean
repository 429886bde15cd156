import FormulaSheet.Main
import FormulaSheet.Proofs.Autosave.Delivery
import FormulaSheet.Proofs.Autosave.Holding
import FormulaSheet.Proofs.Autosave.Ledger
import FormulaSheet.Proofs.Autosave.Merging
import FormulaSheet.Proofs.Autosave.Saves
import FormulaSheet.Proofs.Autosave.Settling
import FormulaSheet.Proofs.Autosave.Steps
import FormulaSheet.Proofs.Calendar.Anniversaries
import FormulaSheet.Proofs.Calendar.Digits
import FormulaSheet.Proofs.Calendar.Recognition
import FormulaSheet.Proofs.Calendar.Stamp
import FormulaSheet.Proofs.Csv.RoundTrip
import FormulaSheet.Proofs.Csv.Separators
import FormulaSheet.Proofs.Desugaring.Assembly
import FormulaSheet.Proofs.Desugaring.Brackets
import FormulaSheet.Proofs.Desugaring.Conditional
import FormulaSheet.Proofs.Desugaring.Entries
import FormulaSheet.Proofs.Desugaring.Expression
import FormulaSheet.Proofs.Desugaring.Groups
import FormulaSheet.Proofs.Desugaring.Inert
import FormulaSheet.Proofs.Desugaring.Layout
import FormulaSheet.Proofs.Desugaring.Literals
import FormulaSheet.Proofs.Desugaring.Logic
import FormulaSheet.Proofs.Desugaring.Negation
import FormulaSheet.Proofs.Desugaring.Opacity
import FormulaSheet.Proofs.Desugaring.Outer
import FormulaSheet.Proofs.Desugaring.PathScripts
import FormulaSheet.Proofs.Desugaring.Paths
import FormulaSheet.Proofs.Desugaring.Placeholders
import FormulaSheet.Proofs.Desugaring.PlainScripts
import FormulaSheet.Proofs.Desugaring.Preservation
import FormulaSheet.Proofs.Desugaring.Translation
import FormulaSheet.Proofs.Desugaring.Words
import FormulaSheet.Proofs.Document.Edits
import FormulaSheet.Proofs.Document.Frames
import FormulaSheet.Proofs.Document.Pressing
import FormulaSheet.Proofs.Document.Properties
import FormulaSheet.Proofs.Document.Saving
import FormulaSheet.Proofs.Document.Showing
import FormulaSheet.Proofs.Document.Undoing
import FormulaSheet.Proofs.Document.Viewing
import FormulaSheet.Proofs.Formula.ColumnReads
import FormulaSheet.Proofs.Formula.FieldLens
import FormulaSheet.Proofs.Formula.Handing
import FormulaSheet.Proofs.Formula.Levels
import FormulaSheet.Proofs.Formula.LooseEquality
import FormulaSheet.Proofs.Formula.References
import FormulaSheet.Proofs.History.Drafting
import FormulaSheet.Proofs.History.Forgetting
import FormulaSheet.Proofs.History.Places
import FormulaSheet.Proofs.History.Reversal
import FormulaSheet.Proofs.Json.RoundTrip
import FormulaSheet.Proofs.Lookup.Coherence
import FormulaSheet.Proofs.Lookup.Identifiers
import FormulaSheet.Proofs.Number.Bases
import FormulaSheet.Proofs.Number.Coercion
import FormulaSheet.Proofs.Number.Display
import FormulaSheet.Proofs.Number.Doubles
import FormulaSheet.Proofs.Number.Grammar
import FormulaSheet.Proofs.Number.Parts
import FormulaSheet.Proofs.Number.Prefixes
import FormulaSheet.Proofs.Number.Shortest
import FormulaSheet.Proofs.Number.Whole
import FormulaSheet.Proofs.Printout.Rectangle
import FormulaSheet.Proofs.Query.NaturalOrder
import FormulaSheet.Proofs.Query.Reading
import FormulaSheet.Proofs.Query.RoundTrip
import FormulaSheet.Proofs.Query.Scattered
import FormulaSheet.Proofs.Query.Selection
import FormulaSheet.Proofs.Store.Accesses
import FormulaSheet.Proofs.Store.Files
import FormulaSheet.Proofs.Store.Laws
import FormulaSheet.Proofs.Store.Listing
import FormulaSheet.Proofs.Store.Memory
import FormulaSheet.Proofs.Store.OneMap
import FormulaSheet.Proofs.Store.Owners
import FormulaSheet.Proofs.Store.RecordText
import FormulaSheet.Proofs.Store.Shelf
import FormulaSheet.Proofs.Store.Shelves
import FormulaSheet.Proofs.Table.Alignment
import FormulaSheet.Proofs.Table.ColumnFormulas
import FormulaSheet.Proofs.Table.Columns
import FormulaSheet.Proofs.Table.Fields
import FormulaSheet.Proofs.Table.Frame
import FormulaSheet.Proofs.Table.Gestures
import FormulaSheet.Proofs.Table.Names
import FormulaSheet.Proofs.Table.NewRows
import FormulaSheet.Proofs.Table.Writes
import FormulaSheet.Proofs.Text.Scanning
import FormulaSheet.Proofs.Text.Trimming
import FormulaSheet.Proofs.Workspace.Reopening
import FormulaSheet.Proofs.Workspace.Traces
