import FormulaSheet.Proofs.Calendar.Stamp
import FormulaSheet.Proofs.Json.RoundTrip
import FormulaSheet.Store.RecordText

/-!
Records are read back from their texts, whatever their fields hold.
-/

namespace FormulaSheet.Record

open Scanning

/-- The fields of a record, as they are written. -/
def fields (r : Record) : List (String × String) :=
  [("id", r.id), ("owner", r.owner), ("name", r.name), ("csv", r.csv),
    ("query_spec", r.querySpec), ("created_at", r.createdAt.stamp),
    ("updated_at", r.updatedAt.stamp)]

theorem fieldsOf_toText (r : Record) :
    Json.Reader.fieldsOf schema r.toText.toList = .ok (r.fields, []) := by
  have hkeys : (r.fields.map Prod.fst).Nodup := by
    show ["id", "owner", "name", "csv", "query_spec", "created_at", "updated_at"].Nodup
    decide
  have hknown : ∀ f ∈ r.fields, schema.fields.contains f.1 = true := by
    simp [fields, schema, timeFields]
  have hfine : ∀ f ∈ r.fields, schema.complaint? f.1 f.2 = none := by
    simp [fields, schema, timeFields, Instant.ofText_stamp]
  have h := Json.Reader.fieldsOf_object [] hkeys hknown hfine
  have hobject : r.toText.toList = Json.object r.fields ++ [] := by simp [toText, fields]
  rw [hobject]
  exact h

theorem ofFields_fields (r : Record) (cs : List Char) :
    ofFields r.fields cs = .ok (r, cs) := by
  simp [ofFields, fields, Instant.ofText_stamp, bind, StateT.bind, pure_ok, Except.bind]

theorem ofText_toText (r : Record) : ofText r.toText = .ok r := by
  have hread : reader r.toText.toList = .ok (r, []) := by
    have hfinish : Json.Reader.finish [] = .ok ((), []) := rfl
    unfold reader
    rw [bind_ok (fieldsOf_toText r), bind_ok (ofFields_fields r []), bind_ok hfinish]
    rfl
  rw [ofText, hread]

end FormulaSheet.Record
