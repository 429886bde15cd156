import FormulaSheet.Json.Reader
import FormulaSheet.Json.Text
import FormulaSheet.Store.Record

/-!
Records as texts: objects in JSON notation with a text for each field. Reading wants all fields but
the query, each once, and passes over fields that it does not know.
-/

namespace FormulaSheet.Record

/-- The text of a record. -/
def toText (r : Record) : String :=
  String.ofList (Json.object
    [("id", r.id), ("owner", r.owner), ("name", r.name), ("csv", r.csv),
      ("query_spec", r.querySpec), ("created_at", r.createdAt.stamp),
      ("updated_at", r.updatedAt.stamp)])

def timeFields : List String := ["created_at", "updated_at"]

def schema : Json.Reader.Schema where
  name := "struct TableRecord"
  fields := ["id", "owner", "name", "csv", "query_spec"] ++ timeFields
  kindOf field :=
    if timeFields.contains field then "an RFC 3339 formatted date and time string" else "a string"
  complaint? field text :=
    if timeFields.contains field then
      match Instant.ofText text with
      | .ok _ => none
      | .error fault => some fault.message
    else none

/-- The record that some fields make up. -/
def ofFields (fields : List (String × String)) : Json.Reader Record := do
  let text := fun (name : String) =>
    match fields.find? fun f => f.1 == name with
    | some f => pure f.2
    | none => Json.Reader.failHere (.missing name)
  let time := fun (name : String) => do
    match Instant.ofText (← text name) with
    | .ok t => pure t
    | .error fault => Json.Reader.failHere (.refused fault.message)
  let id ← text "id"
  let owner ← text "owner"
  let name ← text "name"
  let csv ← text "csv"
  let querySpec := (fields.find? fun f => f.1 == "query_spec").elim "" Prod.snd
  let createdAt ← time "created_at"
  let updatedAt ← time "updated_at"
  return { id, owner, name, csv, querySpec, createdAt, updatedAt }

def reader : Json.Reader Record := do
  let record ← ofFields (← Json.Reader.fieldsOf schema)
  Json.Reader.finish
  return record

/-- Reads a record, or tells what is wrong with the text. -/
def ofText (text : String) : Except String Record :=
  match reader text.toList with
  | .ok (record, _) => .ok record
  | .error fault => .error (fault.message text.toList)

end FormulaSheet.Record
