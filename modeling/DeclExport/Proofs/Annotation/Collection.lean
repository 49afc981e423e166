/-
  DeclExport.Proofs.Annotation.Collection
  ────────────────────────────────
  **WHAT A TABLE OF ANNOTATIONS HOLDS.**

  A table is looked at through `lookup` alone.  Recording under one identity adds
  at the end of what is looked up there, and leaves every other identity as it is
  (`lookup_record`).  So collecting a unit adds, under each identity, the
  annotations of the declarations with that identity, in source order
  (`lookup_collectInto`); where identities are distinct, a declaration is looked up
  with what its own comment says, and with nothing else (`lookup_context`).
-/
import DeclExport.Export.Run
import Mathlib.Data.List.Nodup

namespace DeclExport

namespace AnnotationTable

/-! ## §1. One row. -/

/-- A row is looked up by its own identity, and passed over by every other. -/
theorem lookup_row (id other : DeclId) (as : List Annotation)
    (rows : List (DeclId × List Annotation)) :
    ((id, as) :: rows).lookup other = if other = id then some as else rows.lookup other := by
  by_cases h : other = id
  · simp [h]
  · have hne : (other == id) = false := beq_false_of_ne h
    simp [List.lookup_cons, hne, h]

theorem lookup_put (id other : DeclId) (as : List Annotation)
    (rows : List (DeclId × List Annotation)) :
    (put id as rows).lookup other = if other = id then some as else rows.lookup other := by
  induction rows with
  | nil => exact lookup_row id other as []
  | cons row rows ih =>
      obtain ⟨key, bs⟩ := row
      by_cases hkey : key = id
      · subst hkey
        rw [put, if_pos rfl, lookup_row, lookup_row]
        by_cases h : other = key <;> simp [h]
      · rw [put, if_neg hkey, lookup_row, lookup_row, ih]
        by_cases h : other = key
        · simp [h, hkey]
        · simp [h]

theorem lookup_replace (t : AnnotationTable) (id other : DeclId) (as : List Annotation) :
    (t.replace id as).lookup other = if other = id then as else t.lookup other := by
  by_cases h : other = id <;> simp [lookup, replace, lookup_put, h]

/-- Recording adds at the end under one identity, and nothing under another. -/
theorem lookup_record (t : AnnotationTable) (id other : DeclId) (as : List Annotation) :
    (t.record id as).lookup other = t.lookup other ++ if other = id then as else [] := by
  by_cases h : other = id <;> simp [record, lookup_replace, h]

@[simp] theorem lookup_empty (id : DeclId) : empty.lookup id = [] := rfl

theorem has_iff {t : AnnotationTable} {id : DeclId} {key : String} :
    t.has id key = true ↔ ∃ a ∈ t.lookup id, a.key = key := by
  simp [has]

/-! ## §2. Many rows. -/

/-- Rows recorded one after the other are looked up one behind the other. -/
theorem lookup_foldl_record (rows : List (DeclId × List Annotation)) (id : DeclId) :
    ∀ t : AnnotationTable, (rows.foldl (fun t row => t.record row.1 row.2) t).lookup id
      = t.lookup id ++ (rows.filter fun row => row.1 = id).flatMap (·.2) := by
  induction rows with
  | nil => intro t; simp
  | cons row rows ih =>
      intro t
      rw [List.foldl_cons, ih, lookup_record]
      by_cases h : row.1 = id
      · simp [h]
      · have hne : id ≠ row.1 := fun heq => h heq.symm
        simp [h, hne]

end AnnotationTable

namespace SourceUnit

/-- Declarations without annotations add nothing. -/
theorem flatMap_announcements (ds : List Decl) (id : DeclId) :
    ((((ds.map fun d => (d.id, d.annotations)).filter fun row => !row.2.isEmpty).filter
        fun row => row.1 = id).flatMap (·.2))
      = (ds.filter fun d => d.id = id).flatMap Decl.annotations := by
  rw [List.filter_filter]
  induction ds with
  | nil => rfl
  | cons d ds ih =>
      cases has : d.annotations with
      | nil => by_cases hid : d.id = id <;> simp [has, hid, ih]
      | cons a as => by_cases hid : d.id = id <;> simp [has, hid, ih]

/-- **Collecting a unit** adds under each identity what its declarations announce. -/
theorem lookup_collectInto (u : SourceUnit) (t : AnnotationTable) (id : DeclId) :
    (u.collectInto t).lookup id
      = t.lookup id ++ (u.decls.filter fun d => d.id = id).flatMap Decl.annotations := by
  rw [collectInto, AnnotationTable.lookup_foldl_record, announcements, flatMap_announcements]

/-- Where identities are distinct, a declaration is the only one with its own. -/
theorem filter_id_eq_singleton {ds : List Decl} (hnodup : (ds.map (·.id)).Nodup) {d : Decl}
    (hd : d ∈ ds) : (ds.filter fun x => x.id = d.id) = [d] := by
  obtain ⟨xs, ys, rfl⟩ := List.append_of_mem hd
  rw [List.map_append, List.map_cons, List.nodup_append, List.nodup_cons] at hnodup
  obtain ⟨_, ⟨hys, _⟩, hdisjoint⟩ := hnodup
  have hbefore : ∀ x ∈ xs, ¬ x.id = d.id := fun x hx =>
    hdisjoint _ (List.mem_map_of_mem hx) _ (List.mem_cons_self ..)
  have hbehind : ∀ x ∈ ys, ¬ x.id = d.id := fun x hx heq =>
    hys (heq ▸ List.mem_map_of_mem hx)
  rw [List.filter_append, List.filter_cons_of_pos (by simp),
    List.filter_eq_nil_iff.mpr (by simpa using hbefore),
    List.filter_eq_nil_iff.mpr (by simpa using hbehind), List.nil_append]

/-- **Nothing leaks**: where identities are distinct, what is looked up for a
declaration is what its own comment says. -/
theorem lookup_context {u : SourceUnit} (hnodup : (u.decls.map (·.id)).Nodup) {d : Decl}
    (hd : d ∈ u.decls) : u.context.annotations.lookup d.id = d.annotations := by
  show (u.collectInto .empty).lookup d.id = _
  rw [lookup_collectInto, filter_id_eq_singleton hnodup hd]
  simp

end SourceUnit

end DeclExport
