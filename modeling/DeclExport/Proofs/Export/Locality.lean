/-
  DeclExport.Proofs.Export.Locality
  ────────────────────────────────
  **WHAT AN EXPORTED TERM DEPENDS ON.**

  A declaration that is selected is rendered in full, with what a table of the whole
  unit holds for it.  A declaration that is exported alone is rendered in full, with a
  table of its own comment.  In a valid unit the two tables agree where they are looked
  at, so both are one rendering, which knows of no unit and of no other declaration:

      module  =  insertions of  d.alone,  d included, in source order

  (`exportedModule_result`).  So an entry is what its declaration is exported as alone
  (`exportTerm_eq_entry`), and declarations that are not included have no influence on
  those that are (`exportDocument_eq_of_included_eq`).
-/
import DeclExport.Proofs.Export.Capacity
import DeclExport.Proofs.Export.Selection

namespace DeclExport

open Term Glyph

/-! ## §1. Declarations alone. -/

/-- A renderer of terms looks at what is recorded under the identity of the
declaration, and at nothing else of a table. -/
theorem renderTerm_eq_of_lookup_eq {d : Decl} {t t' : AnnotationTable}
    (h : t.lookup d.id = t'.lookup d.id) (v : Verdict) :
    renderTerm d v t = renderTerm d v t' := by
  simp only [renderTerm, AnnotationTable.get?, h]

/-- What a declaration is rendered to alone: in full, with the annotations in its own
comment. -/
def Decl.alone (d : Decl) : Except Failure Rendered :=
  renderTerm d .definition (AnnotationTable.empty.record d.id d.annotations)

/-- A declaration alone is exported as it is rendered. -/
theorem Decl.outcome_exportTerm (d : Decl) (u : SourceUnit) (s : Sink) :
    (d.exportTerm u renderTerm s).outcome
      = match d.alone with
        | .error e => (s, some e)
        | .ok r => writeTerm r.term s := by
  cases halone : d.alone with
  | error e => exact outcome_exportTerm_of_error (u := u) halone s
  | ok r => exact outcome_exportTerm_of_ok (u := u) halone s

/-- Without bounds on the sink, a term is written as it is, and a line feed. -/
theorem writeTerm_of_unlimited {s : Sink} (h : s.room = none) (term : String) :
    writeTerm term s = ({ s with text := s.text ++ (term ++ "\n") },
      if s.flushFails then some (.io .flush) else none) := by
  have htrace : Step.traceAll 0 [.text term, .line]
      = ⟨row 0 term.toList ++ row 0 ['\n'], 0, none⟩ := rfl
  have hwritten : String.ofList (written false (row 0 term.toList ++ row 0 ['\n']))
      = term ++ "\n" := by
    rw [← row_append, written_row_zero, String.ofList_append, String.ofList_toList]
  rw [writeTerm_eq_deliver, Formatter.runAll_eq_trace _ _ h]
  show (Formatter.outcome _ (Step.traceAll 0 [.text term, .line])).deliver = _
  rw [htrace]
  simp only [Formatter.outcome, Formatter.wrote, Formatter.append, Formatter.start, hwritten,
    Outcome.deliver, Formatter.finish]
  simp

/-! ## §2. Declarations in a unit. -/

namespace Module

/-- Only the renderings of what is inserted count. -/
theorem insertAll_congr {rendering rendering' : Decl → Except Failure Rendered} {ds : List Decl}
    (h : ∀ d ∈ ds, rendering d = rendering' d) :
    ∀ m : Module, m.insertAll rendering ds = m.insertAll rendering' ds := by
  induction ds with
  | nil => intro m; rfl
  | cons d ds ih =>
      intro m
      obtain ⟨hd, hds⟩ := List.forall_mem_cons.mp h
      rw [insertAll, insertAll, hd]
      cases rendering' d with
      | error e => rfl
      | ok r =>
          dsimp only
          cases m.insert ⟨r.name, r.term, d.id⟩ with
          | error e => rfl
          | ok m => exact ih hds m

end Module

namespace SourceUnit

variable {u : SourceUnit} {o : ExportOptions}

/-- In a valid unit, an included declaration is rendered as it is alone: no gate asks
for its signature only, and no annotation of another declaration reaches it. -/
theorem rendering_eq_alone (hvalid : u.fault? = none) {d : Decl}
    (hd : d ∈ Module.included o.filter u.context) :
    Module.rendering o.filter u.context renderTerm d = d.alone := by
  rw [ExportOptions.included_eq_filter hvalid] at hd
  obtain ⟨hmem, hselects⟩ := List.mem_filter.mp hd
  rw [Module.rendering,
    ExportOptions.verdict_eq_definition hvalid hmem (decide_eq_true_iff.mp hselects)]
  refine renderTerm_eq_of_lookup_eq ?_ _
  rw [lookup_context (nodup_decl_ids_of_valid hvalid) hmem, AnnotationTable.lookup_record]
  simp

/-- **The module of a valid unit** is what the included declarations are alone,
inserted in source order. -/
theorem exportedModule_result (hvalid : u.fault? = none) (o : ExportOptions) :
    (u.exportedModule o renderTerm).2
      = Module.empty.insertAll Decl.alone (Module.included o.filter u.context) := by
  rw [exportedModule, Module.build_result]
  exact Module.insertAll_congr (fun d hd => rendering_eq_alone hvalid hd) _

/-- The log apart, an export of a unit is its module, assembled. -/
theorem outcome_exportDocument (u : SourceUnit) (o : ExportOptions) (render : Renderer)
    (s : Sink) :
    (u.exportDocument o render s).outcome
      = match (u.exportedModule o render).2 with
        | .error e => (s, some e)
        | .ok m => m.assemble o.shape s := by
  cases hmodule : u.exportedModule o render with
  | mk log result =>
      cases result with
      | error e => exact outcome_exportDocument_of_error hmodule s
      | ok m => exact outcome_exportDocument_of_ok hmodule s

theorem mem_decls_of_included {d : Decl} (hd : d ∈ Module.included o.filter u.context) :
    d ∈ u.decls :=
  (List.mem_filter.mp hd).1

/-! ## §3. THE AGREEMENT THEOREM. -/

/-- Identities tell the declarations of a valid unit apart. -/
theorem eq_of_id_eq (hvalid : u.fault? = none) {d d' : Decl} (hd : d ∈ u.decls)
    (hd' : d' ∈ u.decls) (h : d.id = d'.id) : d = d' :=
  List.inj_on_of_nodup_map (nodup_decl_ids_of_valid hvalid) hd hd' h

/-- Every entry of a module is what an included declaration is alone. -/
theorem exists_alone_of_mem_entries (hvalid : u.fault? = none) {m : Module}
    (hm : (u.exportedModule o renderTerm).2 = .ok m) {e : Entry} (he : e ∈ m.entries) :
    ∃ d ∈ u.decls, d.id = e.origin ∧ d.alone = .ok ⟨e.name, e.term⟩ := by
  rw [exportedModule_result hvalid] at hm
  obtain ⟨_, rfl⟩ := (Module.insertAll_eq_ok_iff _ m).mp hm
  obtain ⟨d, hd, hentry⟩ := List.mem_filterMap.mp ((Entry.sublist_firsts _).subset he)
  refine ⟨d, mem_decls_of_included hd, ?_⟩
  cases halone : d.alone with
  | error failure => simp [Module.entryOf, halone] at hentry
  | ok r =>
      simp only [Module.entryOf, halone, Option.some.injEq] at hentry
      subst hentry
      exact ⟨rfl, rfl⟩

/-- A module that is not built because a declaration has no term names that
declaration. -/
theorem exists_alone_of_unrenderable (hvalid : u.fault? = none) {id : DeclId} {reason : String}
    (h : (u.exportedModule o renderTerm).2 = .error (.unrenderable id reason)) :
    ∃ d ∈ u.decls, d.id = id ∧ d.alone = .error (.unrenderable id reason) := by
  rw [exportedModule_result hvalid, Module.insertAll_eq_error_iff] at h
  obtain ⟨before, d, after, hsplit, _, hobstacle⟩ := h
  have hd : d ∈ Module.included o.filter u.context := by simp [hsplit]
  -- a collision is another failure, so it is the declaration itself that is refused
  cases hobstacle with
  | unrendered failed =>
      obtain ⟨construct, _, heq⟩ := renderTerm_eq_error_iff.mp failed
      obtain ⟨hid, _⟩ := Failure.unrenderable.inj heq
      exact ⟨d, mem_decls_of_included hd, hid.symm, failed⟩

/-- **The single declaration and the module agree**: whatever the options, the
declaration that an entry comes from is exported alone as the term of the entry and a
line feed; and where a module is not built because a declaration has no term, the
declaration alone is refused in the same words. -/
theorem exportTerm_eq_entry (hvalid : u.fault? = none) (o : ExportOptions) :
    (∀ m, (u.exportedModule o renderTerm).2 = .ok m → ∀ e ∈ m.entries,
      (∃ d ∈ u.decls, d.id = e.origin)
        ∧ ∀ d ∈ u.decls, d.id = e.origin → ∀ s : Sink, s.room = none →
            (d.exportTerm u renderTerm s).outcome
              = ({ s with text := s.text ++ (e.term ++ "\n") },
                if s.flushFails then some (.io .flush) else none))
    ∧ ∀ id reason, (u.exportedModule o renderTerm).2 = .error (.unrenderable id reason) →
      (∃ d ∈ u.decls, d.id = id)
        ∧ ∀ d ∈ u.decls, d.id = id → ∀ s,
            (d.exportTerm u renderTerm s).outcome = (s, some (.unrenderable id reason)) := by
  constructor
  · intro m hm e he
    obtain ⟨d, hd, hid, halone⟩ := exists_alone_of_mem_entries hvalid hm he
    refine ⟨⟨d, hd, hid⟩, fun d' hd' hid' s hs => ?_⟩
    obtain rfl := eq_of_id_eq hvalid hd' hd (hid'.trans hid.symm)
    rw [Decl.outcome_exportTerm, halone]
    exact writeTerm_of_unlimited hs e.term
  · intro id reason h
    obtain ⟨d, hd, hid, halone⟩ := exists_alone_of_unrenderable hvalid h
    refine ⟨⟨d, hd, hid⟩, fun d' hd' hid' s => ?_⟩
    obtain rfl := eq_of_id_eq hvalid hd' hd (hid'.trans hid.symm)
    rw [Decl.outcome_exportTerm, halone]

end SourceUnit

/-- A function with a contract, under the export key. -/
def Decl.contracted : Decl :=
  ⟨⟨1⟩, "f", ["ns"], some ⟨⟨0⟩, 1, 1⟩, some "/// @export\n/// @requires n > 0",
    .function .bool [] none⟩

/-- A construct without a structured form, without a comment. -/
def Decl.template : Decl :=
  ⟨⟨2⟩, "T", [], some ⟨⟨0⟩, 2, 1⟩, none, .unsupported "ClassTemplate"⟩

/-- The term of the function, which goes over several lines. -/
def contractedTerm : String :=
  "Dfunction \"ns::f\"\n  \x7b| f_return := Tbool;\n     f_params := [];\n"
    ++ "     f_spec := Some \x7b| s_requires := (Some \"n > 0\");\n    s_ensures := None |\x7d;\n"
    ++ "     f_body := None |\x7d"

/-- Both declarations, in the main file. -/
def SourceUnit.ofContract : SourceUnit :=
  ⟨[⟨⟨0⟩, "m.cpp", .main, none⟩], [.contracted, .template]⟩

/-- With the key asked for, the function is exported alone as its entry; without it the
module is not built, and the template alone is refused as well. -/
theorem SourceUnit.exportTerm_eq_entry_of_contract :
    ofContract.fault? = none
      ∧ (ofContract.exportedModule .default renderTerm).2
        = .ok ⟨[⟨"ns::f", contractedTerm, ⟨1⟩⟩]⟩
      ∧ (Decl.contracted.exportTerm ofContract renderTerm .unbounded).outcome
        = ({ Sink.unbounded with text := contractedTerm ++ "\n" }, none)
      ∧ (ofContract.exportedModule ⟨.namedPairs, .min, none, []⟩ renderTerm).2
        = .error (.unrenderable ⟨2⟩ "no term for `ClassTemplate` declarations")
      ∧ (Decl.template.exportTerm ofContract renderTerm .unbounded).outcome
        = (.unbounded, some (.unrenderable ⟨2⟩ "no term for `ClassTemplate` declarations")) := by
  have hvalid : ofContract.fault? = none := by decide +kernel
  have hbuilt : (ofContract.exportedModule .default renderTerm).2
      = .ok ⟨[⟨"ns::f", contractedTerm, ⟨1⟩⟩]⟩ := by
    decide +kernel
  have hunbuilt : (ofContract.exportedModule ⟨.namedPairs, .min, none, []⟩ renderTerm).2
      = .error (.unrenderable ⟨2⟩ "no term for `ClassTemplate` declarations") := by
    decide +kernel
  obtain ⟨-, hwritten⟩ :=
    (exportTerm_eq_entry hvalid .default).1 _ hbuilt _ (List.mem_singleton_self _)
  obtain ⟨-, hrefused⟩ := (exportTerm_eq_entry hvalid _).2 _ _ hunbuilt
  refine ⟨hvalid, hbuilt, ?_, hunbuilt, hrefused .template (by simp [ofContract]) rfl _⟩
  rw [hwritten .contracted (by simp [ofContract]) rfl .unbounded rfl]
  simp [Sink.unbounded]

/-! ## §4. THE INDEPENDENCE THEOREM. -/

/-- **What is not included has no influence**: two valid units with the same included
declarations, in the same order, are exported alike, document or failure, into every
sink and whatever else is in them. -/
theorem SourceUnit.exportDocument_eq_of_included_eq {u u' : SourceUnit} {o : ExportOptions}
    (hvalid : u.fault? = none) (hvalid' : u'.fault? = none)
    (h : Module.included o.filter u.context = Module.included o.filter u'.context) (s : Sink) :
    (u.exportDocument o renderTerm s).outcome = (u'.exportDocument o renderTerm s).outcome := by
  rw [outcome_exportDocument, outcome_exportDocument, exportedModule_result hvalid,
    exportedModule_result hvalid', h]

/-- An alias under the export key, between other declarations, in the main file of a
unit with a system header. -/
def SourceUnit.ofNeighbours (before after : List Decl) : SourceUnit :=
  ⟨[⟨⟨0⟩, "m.cpp", .main, none⟩, ⟨⟨1⟩, "sys.h", .system, some ⟨0⟩⟩],
    before ++ .ofTypedef 1 "a" (some 0) (some "// @export") :: after⟩

/-- A construct without a structured form, an alias of the same name without the key and
one with the key in the system header: the export is that of the alias by itself. -/
theorem SourceUnit.exportDocument_eq_of_neighbours :
    (ofNeighbours [] []).fault? = none
      ∧ (ofNeighbours [.template] [.ofTypedef 3 "a" (some 0) (some "@exported"),
          .ofTypedef 4 "a" (some 1) (some "// @export")]).fault? = none
      ∧ ((ofNeighbours [] []).exportDocument .default renderTerm .unbounded).failure = none
      ∧ ((ofNeighbours [] []).exportDocument .default renderTerm .unbounded).outcome
        = ((ofNeighbours [.template] [.ofTypedef 3 "a" (some 0) (some "@exported"),
            .ofTypedef 4 "a" (some 1) (some "// @export")]).exportDocument
          .default renderTerm .unbounded).outcome := by
  have hvalid : (ofNeighbours [] []).fault? = none := by decide +kernel
  have hvalid' : (ofNeighbours [.template] [.ofTypedef 3 "a" (some 0) (some "@exported"),
      .ofTypedef 4 "a" (some 1) (some "// @export")]).fault? = none := by
    decide +kernel
  exact ⟨hvalid, hvalid', by decide +kernel,
    exportDocument_eq_of_included_eq hvalid hvalid' rfl .unbounded⟩

end DeclExport
