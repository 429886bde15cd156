import FormulaSheet.Autosave

/-!
Merging updates. Updates under merging are a monoid that acts on records: applying updates one
after the other is applying all of them merged (`Record.timeless_applyAll`), the times of the record
aside. What comes out of it is field by field the last value that was given for the field, or what
the record had (`Record.field_applyAll`).
-/

namespace FormulaSheet

namespace Update

theorem isEmpty_iff {u : Update} : u.isEmpty = true ↔ u = {} := by
  obtain ⟨csv, name, querySpec⟩ := u
  cases csv <;> cases name <;> cases querySpec <;> simp [isEmpty]

@[simp] theorem empty_merge (u : Update) : Update.merge {} u = u := by
  obtain ⟨csv, name, querySpec⟩ := u
  cases csv <;> cases name <;> cases querySpec <;> rfl

@[simp] theorem merge_empty (u : Update) : u.merge {} = u := rfl

theorem merge_assoc (u v w : Update) : (u.merge v).merge w = u.merge (v.merge w) := by
  simp [merge, Option.or_assoc]

theorem isEmpty_merge (u v : Update) : (u.merge v).isEmpty = (u.isEmpty && v.isEmpty) := by
  obtain ⟨csv, name, querySpec⟩ := u
  obtain ⟨csv', name', querySpec'⟩ := v
  cases csv <;> cases csv' <;> cases name <;> cases name' <;> cases querySpec <;>
    cases querySpec' <;> rfl

/-- All updates of a list in one, the later ones deciding. -/
def merged (us : List Update) : Update := us.foldl merge {}

theorem foldl_merge (us : List Update) (u : Update) : us.foldl merge u = u.merge (merged us) := by
  induction us generalizing u with
  | nil => rfl
  | cons v us ih =>
    have hcons : merged (v :: us) = v.merge (merged us) := by
      rw [merged, List.foldl_cons, empty_merge, ih]
    rw [List.foldl_cons, ih, hcons, merge_assoc]

@[simp] theorem merged_nil : merged [] = {} := rfl

@[simp] theorem merged_cons (u : Update) (us : List Update) :
    merged (u :: us) = u.merge (merged us) := by
  rw [merged, List.foldl_cons, empty_merge, foldl_merge]

@[simp] theorem merged_append (us vs : List Update) :
    merged (us ++ vs) = (merged us).merge (merged vs) := by
  rw [merged, List.foldl_append, foldl_merge]
  rfl

theorem merged_flatten (uss : List (List Update)) :
    merged uss.flatten = merged (uss.map merged) := by
  induction uss with
  | nil => rfl
  | cons us uss ih => rw [List.flatten_cons, merged_append, ih, List.map_cons, merged_cons]

theorem isEmpty_merged (us : List Update) : (merged us).isEmpty = us.all isEmpty := by
  induction us with
  | nil => rfl
  | cons u us ih => rw [merged_cons, isEmpty_merge, ih, List.all_cons]

end Update

namespace Record

/-- A record with its times left out. -/
def timeless (r : Record) : Record := { r with createdAt := .epoch, updatedAt := .epoch }

/-- A record after several updates, one after the other. -/
def applyAll (r : Record) (us : List Update) (now : Instant) : Record :=
  us.foldl (fun r u => r.apply u now) r

theorem timeless_apply_congr {r r' : Record} (h : r.timeless = r'.timeless) (u : Update)
    (now now' : Instant) : (r.apply u now).timeless = (r'.apply u now').timeless := by
  simp only [timeless, mk.injEq] at h
  simp [apply, timeless, h]

theorem fields_of_timeless {r r' : Record} (h : r.timeless = r'.timeless) :
    r.csv = r'.csv ∧ r.name = r'.name ∧ r.querySpec = r'.querySpec := by
  simp only [timeless, mk.injEq] at h
  simp [h]

/-- An update after another is the two of them merged. -/
theorem timeless_apply_apply (r : Record) (u v : Update) (now now' : Instant) :
    ((r.apply u now).apply v now').timeless = (r.apply (u.merge v) now').timeless := by
  obtain ⟨csv, name, querySpec⟩ := v
  cases csv <;> cases name <;> cases querySpec <;> rfl

theorem timeless_applyAll (r : Record) (us : List Update) (now : Instant) :
    (r.applyAll us now).timeless = (r.apply (Update.merged us) now).timeless := by
  induction us generalizing r with
  | nil => rfl
  | cons u us ih =>
    calc (r.applyAll (u :: us) now).timeless
        = ((r.apply u now).applyAll us now).timeless := rfl
      _ = ((r.apply u now).apply (Update.merged us) now).timeless := ih _
      _ = (r.apply (u.merge (Update.merged us)) now).timeless := timeless_apply_apply ..
      _ = (r.apply (Update.merged (u :: us)) now).timeless := by rw [Update.merged_cons]

/-- A field that an update sets where it gives a value for it is the last value given, or what it
was. -/
theorem field_applyAll {α β : Type} (field : Record → α) (given : Update → Option β) (kept : β → α)
    (hfield : ∀ r u now, field (apply r u now) = ((given u).map kept).getD (field r)) (r : Record)
    (us : List Update) (now : Instant) :
    field (r.applyAll us now) = ((us.filterMap given).getLast?.map kept).getD (field r) := by
  induction us generalizing r with
  | nil => rfl
  | cons u us ih =>
    have hcons : field (r.applyAll (u :: us) now) = field ((r.apply u now).applyAll us now) := rfl
    rw [hcons, ih, hfield]
    cases hu : given u with
    | none => simp [hu]
    | some x => cases hlast : (us.filterMap given).getLast? <;> simp [hu, hlast, List.getLast?_cons]

theorem csv_applyAll (r : Record) (us : List Update) (now : Instant) :
    (r.applyAll us now).csv = (us.filterMap Update.csv).getLast?.getD r.csv := by
  simpa using field_applyAll csv Update.csv (fun x => x) (by simp [apply]) r us now

theorem name_applyAll (r : Record) (us : List Update) (now : Instant) :
    (r.applyAll us now).name =
      ((us.filterMap Update.name).getLast?.map trimmedName).getD r.name :=
  field_applyAll name Update.name trimmedName (fun _ _ _ => rfl) r us now

theorem querySpec_applyAll (r : Record) (us : List Update) (now : Instant) :
    (r.applyAll us now).querySpec = (us.filterMap Update.querySpec).getLast?.getD r.querySpec := by
  simpa using field_applyAll querySpec Update.querySpec (fun x => x) (by simp [apply]) r us now

end Record

/-! ## Requests for one table -/

/-- The updates that requests ask for a table, in their order. -/
def updatesFor (id : String) (rs : List SaveRequest) : List Update :=
  (rs.filter fun r => r.id = id).map SaveRequest.update

section Requests

variable {id : String}

@[simp] theorem updatesFor_nil : updatesFor id [] = [] := rfl

@[simp] theorem updatesFor_append (rs rs' : List SaveRequest) :
    updatesFor id (rs ++ rs') = updatesFor id rs ++ updatesFor id rs' := by
  simp [updatesFor]

theorem updatesFor_cons_self {r : SaveRequest} (h : r.id = id) (rs : List SaveRequest) :
    updatesFor id (r :: rs) = r.update :: updatesFor id rs := by
  simp [updatesFor, h]

theorem updatesFor_cons_other {r : SaveRequest} (h : r.id ≠ id) (rs : List SaveRequest) :
    updatesFor id (r :: rs) = updatesFor id rs := by
  simp [updatesFor, h]

theorem updatesFor_eq_nil_iff {rs : List SaveRequest} :
    updatesFor id rs = [] ↔ ∀ r ∈ rs, r.id ≠ id := by
  simp [updatesFor]

@[simp] theorem updatesFor_map_mk (owner : String) (us : List Update) :
    updatesFor id (us.map (SaveRequest.mk owner id)) = us := by
  induction us with
  | nil => rfl
  | cons u us ih => simpa [updatesFor] using ih

/-- Every request that waits bears the table and the owner of one that waited or joined. -/
theorem mem_enqueue {r q : SaveRequest} {ps : List SaveRequest}
    (h : q ∈ Autosaver.enqueue r ps) : ∃ p ∈ r :: ps, q.id = p.id ∧ q.owner = p.owner := by
  induction ps with
  | nil =>
    rw [Autosaver.enqueue, List.mem_singleton] at h
    exact ⟨r, by simp, by simp [h], by simp [h]⟩
  | cons p ps ih =>
    unfold Autosaver.enqueue at h
    split at h
    · rcases List.mem_cons.mp h with rfl | h
      · exact ⟨p, by simp, rfl, rfl⟩
      · exact ⟨q, by simp [h], rfl, rfl⟩
    · rcases List.mem_cons.mp h with rfl | h
      · exact ⟨q, by simp, rfl, rfl⟩
      · obtain ⟨p', hp', hq⟩ := ih h
        refine ⟨p', ?_, hq⟩
        rcases List.mem_cons.mp hp' with rfl | hp' <;> simp [*]

end Requests

end FormulaSheet
