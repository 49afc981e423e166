/-
  DeclExport.Proofs.Export.Tightening
  ────────────────────────────────
  **MORE SYSTEM ROOTS EXPORT NO MORE.**

  System roots that are added tighten a gate, so fewer declarations are included, and
  those in the same order.  What one of them is rendered to does not depend on the
  others, and names that do not collide among many do not among few:

      included      a sublist
      unobstructed  still
      entries       a sublist
      document      a sublist of its characters, since entries are paragraphs

  So an export that succeeds goes on to succeed, and what it writes has room wherever
  there was room before (`tightened_exports`).
-/
import Mathlib.Data.List.Flatten
import DeclExport.Proofs.Export.Locality
import DeclExport.Proofs.Export.Paragraphs
import DeclExport.Proofs.Export.Selection
import DeclExport.Proofs.Selection.Tightening

namespace DeclExport

/-! ## §1. Documents of fewer entries. -/

namespace Module

variable {m m' : Module} {shape : DocumentShape}

/-- A document of fewer entries is the same document with characters left out. -/
theorem sublist_document (h : m'.entries.Sublist m.entries) :
    (m'.document shape).toList.Sublist (m.document shape).toList := by
  have hparagraphs : ∀ m : Module, (m.document shape).toList = shape.preamble.toList
      ++ (m.entries.flatMap fun e => (shape.paragraph e.name e.term).toList)
      ++ "\n  nil.\n\n".toList := by
    intro m
    simp [document, List.flatMap_map]
  rw [hparagraphs, hparagraphs]
  exact ((List.Sublist.refl _).append (h.flatMap _)).append (.refl _)

/-- A document is delivered exactly if there is room for it and the sink flushes. -/
theorem assemble_eq_none_iff (m : Module) (shape : DocumentShape) (room : Option Nat)
    (flushFails : Bool) :
    (m.assemble shape (.ofRoom room flushFails)).2 = none
      ↔ (∀ n ∈ room, (utf8 (m.document shape).toList).length ≤ n) ∧ flushFails = false := by
  cases room with
  | none =>
      rw [assemble_of_unlimited m shape rfl]
      cases flushFails <;> simp [Sink.ofRoom]
  | some n =>
      -- what a bounded sink does is told by what an unbounded one holds
      have hwhole : (m.assemble shape .unbounded).1.bytes = utf8 (m.document shape).toList := by
        rw [assemble_of_unlimited m shape rfl]
        simp [Sink.unbounded, Sink.bytes, utf8]
      rw [(m.cutTo_assemble shape n flushFails).failure_eq, hwhole]
      by_cases hfits : (utf8 (m.document shape).toList).length ≤ n
      · cases flushFails <;> simp [hfits]
      · simp [hfits]

/-- Where there is room for a document, there is room for one of fewer entries. -/
theorem assemble_of_sublist {room : Option Nat} {flushFails : Bool}
    (h : m'.entries.Sublist m.entries)
    (hm : (m.assemble shape (.ofRoom room flushFails)).2 = none) :
    (m'.assemble shape (.ofRoom room flushFails)).2 = none := by
  rw [assemble_eq_none_iff] at hm ⊢
  exact ⟨fun n hn => Nat.le_trans ((sublist_document h).flatMap _).length_le (hm.1 n hn), hm.2⟩

/-! ## §2. Modules of fewer declarations. -/

section Building

variable {rendering : Decl → Except Failure Rendered} {ds ds' : List Decl}

/-- What stops no declaration among many stops none among few. -/
theorem unobstructed_of_sublist (h : ds'.Sublist ds) (hds : Unobstructed rendering [] ds) :
    Unobstructed rendering [] ds' := by
  obtain ⟨hall, hids⟩ := (unobstructed_iff ds).mp hds
  exact (unobstructed_iff ds').mpr ⟨fun d hd => hall d (h.subset hd),
    fun d hd d' hd' => hids d (h.subset hd) d' (h.subset hd')⟩

/-- **Fewer declarations are inserted as they were among more.** -/
theorem insertAll_of_sublist (h : ds'.Sublist ds) (hnodup : (ds.map (·.id)).Nodup)
    (hm : empty.insertAll rendering ds = .ok m) :
    ∃ m', empty.insertAll rendering ds' = .ok m' ∧ m'.entries.Sublist m.entries := by
  obtain ⟨hfree, rfl⟩ := (insertAll_eq_ok_iff ds m).mp hm
  have hfree' := unobstructed_of_sublist h hfree
  refine ⟨ofDecls rendering ds', (insertAll_eq_ok_iff ds' _).mpr ⟨hfree', rfl⟩, ?_⟩
  rw [entries_ofDecls_of_nodup hnodup hfree,
    entries_ofDecls_of_nodup (hnodup.sublist (h.map _)) hfree']
  exact h.filterMap _

end Building

end Module

namespace SourceUnit

variable {u : SourceUnit} {o : ExportOptions} {roots : List String}

/-- With more system roots, the gates include fewer declarations. -/
theorem included_sublist (h : o.systemRoots ⊆ roots) :
    (Module.included { o with systemRoots := roots }.filter u.context).Sublist
      (Module.included o.filter u.context) := by
  -- the gate for system headers is a leaf of the export filter, in front of the others
  have hadded : Filter.RootsAdded o.filter { o with systemRoots := roots }.filter :=
    .inside [] (o.exportKey.map Filter.annotatedWith).toList (.leaf h)
  exact List.monotone_filter_right _ fun d hd =>
    Verdict.isIncluded_of_le (Filter.verdict_le_of_rootsAdded hadded u.context d) hd

/-- With more system roots, a module that is built is still built, of fewer entries. -/
theorem exportedModule_of_more_roots (hvalid : u.fault? = none) (h : o.systemRoots ⊆ roots)
    {m : Module} (hm : (u.exportedModule o renderTerm).2 = .ok m) :
    ∃ m', (u.exportedModule { o with systemRoots := roots } renderTerm).2 = .ok m'
      ∧ m'.entries.Sublist m.entries := by
  rw [exportedModule_result hvalid] at hm ⊢
  have hnodup : ((Module.included o.filter u.context).map (·.id)).Nodup :=
    (nodup_decl_ids_of_valid hvalid).sublist (List.filter_sublist.map _)
  exact Module.insertAll_of_sublist (included_sublist h) hnodup hm

end SourceUnit

/-! ## §3. THE TIGHTENING THEOREM. -/

/-- **Tightened gates export no more.**  A tree without custom judges does not raise its
verdict on any declaration when leaves of it are given more system roots and the table
has fewer annotations.  So a valid unit that is exported is exported with more system
roots as well, whatever the options and the sink: as the entries that are left, each
with the term that it had, in the order that they had. -/
theorem tightened_exports :
    (∀ (u : SourceUnit) (d : Decl) (f g : Filter) (t t' : AnnotationTable), f.IsBuiltIn →
      Relation.ReflTransGen Filter.RootsAdded f g →
      (∀ id key, t'.has id key = true → t.has id key = true) →
        g.verdict ⟨u, t'⟩ d ≤ f.verdict ⟨u, t⟩ d)
    ∧ ∀ (u : SourceUnit) (o : ExportOptions) (roots : List String) (room : Option Nat)
        (flushFails : Bool), u.fault? = none → o.systemRoots ⊆ roots →
      (u.exportDocument o renderTerm (.ofRoom room flushFails)).failure = none →
        (u.exportDocument { o with systemRoots := roots } renderTerm
            (.ofRoom room flushFails)).failure = none
        ∧ ∃ m m' : Module, m'.entries.Sublist m.entries
          ∧ (u.exportedModule o renderTerm).2 = .ok m
          ∧ (u.exportDocument o renderTerm (.ofRoom room flushFails)).outcome
            = m.assemble o.shape (.ofRoom room flushFails)
          ∧ (u.exportedModule { o with systemRoots := roots } renderTerm).2 = .ok m'
          ∧ (u.exportDocument { o with systemRoots := roots } renderTerm
              (.ofRoom room flushFails)).outcome
            = m'.assemble o.shape (.ofRoom room flushFails) := by
  refine ⟨fun u d f g t t' hf hroots htable =>
    Filter.verdict_le_of_tightened hf hroots htable u d, ?_⟩
  intro u o roots room flushFails hvalid hroots hexported
  obtain ⟨m, hm, -, -⟩ := SourceUnit.exportDocument_of_success hexported
  obtain ⟨m', hm', hentries⟩ := SourceUnit.exportedModule_of_more_roots hvalid hroots hm
  -- an export is its module, assembled, so it succeeds if there is room for that
  have hbefore := SourceUnit.outcome_exportDocument u o renderTerm (.ofRoom room flushFails)
  have hafter := SourceUnit.outcome_exportDocument u { o with systemRoots := roots } renderTerm
    (.ofRoom room flushFails)
  rw [hm] at hbefore
  rw [hm'] at hafter
  refine ⟨?_, m, m', hentries, hm, hbefore, hm', hafter⟩
  have hassembled : (m.assemble o.shape (.ofRoom room flushFails)).2 = none :=
    (congrArg Prod.snd hbefore).symm.trans hexported
  exact (congrArg Prod.snd hafter).trans (Module.assemble_of_sublist hentries hassembled)

/-- With either gate enough and a sink that five aliases just fill, the root `vendor`
leaves out the alias of the header under it and changes nothing of the other four. -/
theorem tightened_exports_of_regions :
    (Filter.combine .max [.noSystemHeaders ["vendor"], .annotatedWith "export"]).verdict
        ⟨.ofRegions, .empty⟩ (.ofTypedef 5 "e" (some 3) none)
      ≤ (Filter.combine .max [.noSystemHeaders [], .annotatedWith "export"]).verdict
        SourceUnit.ofRegions.context (.ofTypedef 5 "e" (some 3) none)
    ∧ ∃ m m' : Module,
      (SourceUnit.ofRegions.exportedModule ⟨.namedPairs, .max, some "export", []⟩
          renderTerm).2 = .ok m
        ∧ (SourceUnit.ofRegions.exportedModule ⟨.namedPairs, .max, some "export", ["vendor"]⟩
          renderTerm).2 = .ok m'
        ∧ m'.entries.Sublist m.entries ∧ m.size = 5 ∧ m'.size = 4 := by
  have hvalid : SourceUnit.ofRegions.fault? = none := by decide +kernel
  have hexported : (SourceUnit.ofRegions.exportDocument ⟨.namedPairs, .max, some "export", []⟩
      renderTerm (.ofRoom (some 304) false)).failure = none := by
    decide +kernel
  obtain ⟨-, m, m', hentries, hm, -, hm', -⟩ :=
    tightened_exports.2 .ofRegions ⟨.namedPairs, .max, some "export", []⟩ ["vendor"] (some 304)
      false hvalid (List.nil_subset _) hexported
  have hsize : ∀ {o : ExportOptions} {n : Nat} {k : Module},
      (SourceUnit.ofRegions.exportedModule o renderTerm).2.map Module.size = .ok n →
      (SourceUnit.ofRegions.exportedModule o renderTerm).2 = .ok k → k.size = n := by
    intro o n k hn hk
    rw [hk] at hn
    exact Except.ok.inj hn
  refine ⟨?_, m, m', hm, hm', hentries, hsize (by decide +kernel) hm,
    hsize (by decide +kernel) hm'⟩
  refine tightened_exports.1 .ofRegions _ _ _ SourceUnit.ofRegions.context.annotations .empty
    (.combine ?_) (.single (.inside [] _ (.leaf (List.nil_subset _)))) ?_
  · simpa using ⟨Filter.IsBuiltIn.noSystemHeaders [], Filter.IsBuiltIn.annotatedWith "export"⟩
  · intro id key hhas
    cases hhas

end DeclExport
