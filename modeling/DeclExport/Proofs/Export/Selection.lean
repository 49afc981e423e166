/-
  DeclExport.Proofs.Export.Selection
  ────────────────────────────────
  **WHICH DECLARATIONS AN EXPORT WRITES.**

  The gates of an export let a declaration through in full or not at all: one asks
  for a place outside of all system regions, the other one for the export key in
  the comment.  So no verdict of theirs is to declare, and neither is what they
  are reduced to:

      reduction   no key     with a key
      min         outside    outside and annotated
      max         outside    outside or annotated

  What is written is what passes, in source order, in full (`exportDocument_selection`).
-/
import DeclExport.Proofs.Annotation.Collection
import DeclExport.Proofs.Export.Tokens
import DeclExport.Proofs.Selection.Reduction
import DeclExport.Proofs.Source.Regions

namespace DeclExport

/-! ## §1. What the options select. -/

/-- An annotation with the key is in the declaration's own comment. -/
def Decl.IsAnnotated (d : Decl) (key : String) : Prop := ∃ a ∈ d.annotations, a.key = key

/-- Whether a key is there is decided by reading the comment. -/
instance (d : Decl) (key : String) : Decidable (d.IsAnnotated key) :=
  inferInstanceAs (Decidable (∃ a ∈ d.annotations, a.key = key))

namespace ExportOptions

/-- The declarations that the options select. -/
def Selects (o : ExportOptions) (u : SourceUnit) (d : Decl) : Prop :=
  match o.exportKey, o.reduction with
  | none, _ => u.IsOutside o.systemRoots d
  | some key, .min => u.IsOutside o.systemRoots d ∧ d.IsAnnotated key
  | some key, .max => u.IsOutside o.systemRoots d ∨ d.IsAnnotated key

/-- What the options select is decided gate by gate. -/
instance : (o : ExportOptions) → (u : SourceUnit) → (d : Decl) → Decidable (o.Selects u d)
  | ⟨_, _, none, roots⟩, u, d => inferInstanceAs (Decidable (u.IsOutside roots d))
  | ⟨_, .min, some key, roots⟩, u, d =>
      inferInstanceAs (Decidable (u.IsOutside roots d ∧ d.IsAnnotated key))
  | ⟨_, .max, some key, roots⟩, u, d =>
      inferInstanceAs (Decidable (u.IsOutside roots d ∨ d.IsAnnotated key))

end ExportOptions

/-! ## §2. Gates are open or closed. -/

namespace Filter

variable {u : SourceUnit} {d : Decl} {v : Verdict}

/-- A verdict that a gate gives: whoever is let through is let through in full. -/
theorem le_noSystemHeaders_iff (hv : .declaration ≤ v) (roots : List String) :
    v ≤ (noSystemHeaders roots).verdict u.context d ↔ u.IsOutside roots d := by
  have hclosed : ¬ v ≤ .exclude ∧ ¬ v ≤ .unspecified := by
    cases v <;> revert hv <;> decide
  rw [SourceUnit.isOutside_iff, verdict]
  cases d.location with
  | none => simpa using hclosed.2
  | some l =>
      show v ≤ (if u.isSystemLocation l roots then _ else _) ↔ _
      cases hl : u.isSystemLocation l roots with
      | true => simpa [hl] using hclosed.1
      | false => simpa [hl] using v.le_definition

theorem le_annotatedWith_iff (hv : .declaration ≤ v) (hvalid : u.fault? = none)
    (hd : d ∈ u.decls) (key : String) :
    v ≤ (annotatedWith key).verdict u.context d ↔ d.IsAnnotated key := by
  have hclosed : ¬ v ≤ .exclude := by
    cases v <;> revert hv <;> decide
  have hhas : u.context.annotations.has d.id key = true ↔ d.IsAnnotated key := by
    rw [AnnotationTable.has_iff,
      SourceUnit.lookup_context (SourceUnit.nodup_decl_ids_of_valid hvalid) hd]
    rfl
  rw [verdict, ← hhas]
  cases u.context.annotations.has d.id key with
  | true => simpa using v.le_definition
  | false => simpa using hclosed

end Filter

namespace ExportOptions

/-- **The gates together**: from `declaration` on, a verdict is reached exactly by the
declarations that are selected. -/
theorem le_verdict_filter_iff {o : ExportOptions} {u : SourceUnit} {d : Decl} {v : Verdict}
    (hv : .declaration ≤ v) (hvalid : u.fault? = none) (hd : d ∈ u.decls) :
    v ≤ o.filter.verdict u.context d ↔ o.Selects u d := by
  have hne : v ≠ .exclude := by
    rintro rfl
    exact absurd hv (by decide)
  obtain ⟨shape, reduction, exportKey, roots⟩ := o
  rw [filter, Filter.le_verdict_combine_iff _ _ _ _ hne]
  have hregion := Filter.le_noSystemHeaders_iff (u := u) (d := d) hv roots
  cases exportKey with
  | none => cases reduction <;> simpa [gates, Reduction.Holds, Selects] using hregion
  | some key =>
      have hkey := Filter.le_annotatedWith_iff hv hvalid hd key
      cases reduction <;> simp [gates, Reduction.Holds, Selects, hregion, hkey]

/-- What is included is what is selected. -/
theorem included_eq_filter {o : ExportOptions} {u : SourceUnit} (hvalid : u.fault? = none) :
    Module.included o.filter u.context = u.decls.filter fun d => o.Selects u d := by
  refine List.filter_congr fun d hd => ?_
  have hthreshold : Verdict.declaration ≤ .declaration := by decide
  rw [Bool.eq_iff_iff, decide_eq_true_iff, ← le_verdict_filter_iff hthreshold hvalid hd,
    Verdict.isIncluded, decide_eq_true_iff]

/-- What is selected is exported in full. -/
theorem verdict_eq_definition {o : ExportOptions} {u : SourceUnit} {d : Decl}
    (hvalid : u.fault? = none) (hd : d ∈ u.decls) (h : o.Selects u d) :
    o.filter.verdict u.context d = .definition := by
  have hfull : Verdict.definition ≤ o.filter.verdict u.context d :=
    (le_verdict_filter_iff (by decide) hvalid hd).mpr h
  cases hverdict : o.filter.verdict u.context d with
  | definition => rfl
  | _ => exact absurd (hverdict ▸ hfull) (by decide)

end ExportOptions

/-! ## §3. THE SELECTION THEOREM. -/

/-- The entry of a declaration that is exported in full. -/
def Entry.IsFullTermOf (e : Entry) (u : SourceUnit) (d : Decl) : Prop :=
  e.origin = d.id ∧ renderTerm d .definition u.context.annotations = .ok ⟨e.name, e.term⟩

/-- Entries in full stand for their declarations, in order. -/
theorem Entry.origins_eq {u : SourceUnit} {ds : List Decl} {es : List Entry}
    (h : List.Forall₂ (fun d e => e.IsFullTermOf u d) ds es) :
    es.map (·.origin) = ds.map (·.id) := by
  induction h with
  | nil => rfl
  | cons hentry _ ih => rw [List.map_cons, List.map_cons, hentry.1, ih]

namespace Module

/-- An unstopped build has an entry for each declaration, in order. -/
theorem forall₂_filterMap_entryOf {rendering : Decl → Except Failure Rendered} {ds : List Decl}
    (h : ∀ d ∈ ds, ∃ r, rendering d = .ok r) :
    List.Forall₂ (fun d e => e.origin = d.id ∧ rendering d = .ok ⟨e.name, e.term⟩) ds
      (ds.filterMap (entryOf rendering)) := by
  induction ds with
  | nil => exact .nil
  | cons d ds ih =>
      obtain ⟨⟨r, hr⟩, hds⟩ := List.forall_mem_cons.mp h
      have hentry : entryOf rendering d = some ⟨r.name, r.term, d.id⟩ := by
        simp [entryOf, hr]
      rw [List.filterMap_cons_some hentry]
      exact .cons ⟨rfl, hr⟩ (ih hds)

end Module

/-- **What an export writes** is the declarations that the options select, in source
order, each in full. -/
theorem SourceUnit.exportDocument_selection {u : SourceUnit} {o : ExportOptions} {s : Sink}
    (hvalid : u.fault? = none) (h : (u.exportDocument o renderTerm s).failure = none) :
    ∃ m, (u.exportedModule o renderTerm).2 = .ok m
      ∧ (u.exportDocument o renderTerm s).sink = (m.assemble o.shape s).1
      ∧ List.Forall₂ (fun d e => e.IsFullTermOf u d)
          (u.decls.filter fun d => o.Selects u d) m.entries := by
  obtain ⟨m, hm, _, hsink⟩ := exportDocument_of_success h
  refine ⟨m, hm, hsink, ?_⟩
  rw [exportedModule, Module.build_result, ExportOptions.included_eq_filter hvalid] at hm
  obtain ⟨hfree, rfl⟩ := (Module.insertAll_eq_ok_iff _ m).mp hm
  -- no entry replaces another, since identities are distinct
  have hnodup : ((u.decls.filter fun d => o.Selects u d).map (·.id)).Nodup :=
    (nodup_decl_ids_of_valid hvalid).sublist (List.filter_sublist.map _)
  rw [Module.entries_ofDecls_of_nodup hnodup hfree]
  -- the verdict on what is selected is to define
  have hfull : ∀ d ∈ u.decls.filter fun d => o.Selects u d,
      Module.rendering o.filter u.context renderTerm d
        = renderTerm d .definition u.context.annotations := by
    intro d hd
    obtain ⟨hmem, hselects⟩ := List.mem_filter.mp hd
    rw [Module.rendering,
      ExportOptions.verdict_eq_definition hvalid hmem (decide_eq_true_iff.mp hselects)]
  have hentries := Module.forall₂_filterMap_entryOf ((Module.unobstructed_iff _).mp hfree).1
  refine ((List.forall₂_and_left _ _).mpr ⟨fun d hd => hd, hentries⟩).imp ?_
  rintro d e ⟨hd, horigin, hrendered⟩
  exact ⟨horigin, hfull d hd ▸ hrendered⟩

/-- A type alias in the given file, with the given comment. -/
def Decl.ofTypedef (id : UInt32) (name : String) (file : Option UInt32)
    (comment : Option String) : Decl :=
  ⟨⟨id⟩, name, [], file.map fun f => ⟨⟨f⟩, 1, 1⟩, comment, .typedef .bool⟩

/-- Five aliases: two of `main.cpp`, of which the first has the key, one without a
place that has the key, one that has the key but is included through a system
header, and one of a header under the root `vendor`. -/
def SourceUnit.ofRegions : SourceUnit where
  files := [⟨⟨0⟩, "main.cpp", .main, none⟩, ⟨⟨1⟩, "sys.h", .system, some ⟨0⟩⟩,
    ⟨⟨2⟩, "impl.h", .user, some ⟨1⟩⟩, ⟨⟨3⟩, "vendor/v.h", .user, some ⟨0⟩⟩]
  decls := [.ofTypedef 1 "a" (some 0) (some "// @export"), .ofTypedef 2 "b" (some 0) none,
    .ofTypedef 3 "c" none (some "/* @export */"), .ofTypedef 4 "d" (some 2) (some "// @export"),
    .ofTypedef 5 "e" (some 3) none]

/-- With both gates asked the first alias is written; with either gate enough, all but
the one in the header under the root. -/
theorem SourceUnit.exportDocument_selection_of_regions :
    (∃ m, (ofRegions.exportedModule ⟨.namedPairs, .min, some "export", ["vendor"]⟩
          renderTerm).2 = .ok m ∧ m.entries.map (·.origin) = [⟨1⟩])
      ∧ ∃ m, (ofRegions.exportedModule ⟨.namedPairs, .max, some "export", ["vendor"]⟩
          renderTerm).2 = .ok m ∧ m.entries.map (·.origin) = [⟨1⟩, ⟨2⟩, ⟨3⟩, ⟨4⟩] := by
  have hwritten : ∀ reduction, ∃ m,
      (ofRegions.exportedModule ⟨.namedPairs, reduction, some "export", ["vendor"]⟩
        renderTerm).2 = .ok m ∧ m.entries.map (·.origin)
          = (ofRegions.decls.filter fun d =>
              ExportOptions.Selects ⟨.namedPairs, reduction, some "export", ["vendor"]⟩
                ofRegions d).map (·.id) := by
    intro reduction
    obtain ⟨m, hm, -, hentries⟩ := exportDocument_selection (u := ofRegions)
      (o := ⟨.namedPairs, reduction, some "export", ["vendor"]⟩) (s := .unbounded)
      (by decide +kernel) (by cases reduction <;> decide +kernel)
    exact ⟨m, hm, Entry.origins_eq hentries⟩
  obtain ⟨m, hm, hmin⟩ := hwritten .min
  obtain ⟨n, hn, hmax⟩ := hwritten .max
  exact ⟨⟨m, hm, hmin.trans (by decide +kernel)⟩, ⟨n, hn, hmax.trans (by decide +kernel)⟩⟩

end DeclExport
