/-
  DeclExport.Proofs.Export.Renumbering
  ────────────────────────────────
  **IDENTITIES ARE OPAQUE.**

  Under new numbers a unit is exported to the same document.  Its gates let the same
  declarations through, each of these is rendered to the same name and term, and one
  insertion after the other finds a name taken where it was taken before
  (`insert_renumber`, `insertAll_renumber`): identities are compared with each other
  and never looked at.  A failure is the same failure, with the new numbers in it.

      exportedModule  of  u under new numbers   =   exportedModule of u,  under new numbers
      document        of  m under new numbers   =   document of m
-/
import DeclExport.Proofs.Export.Locality
import DeclExport.Proofs.Source.Renumbering

namespace DeclExport

open Term

/-! ## §1. Modules and failures under new numbers. -/

/-- An entry under new numbers. -/
def Entry.renumber (number : DeclId → DeclId) (e : Entry) : Entry :=
  { e with origin := number e.origin }

/-- A failure under new numbers of declarations. -/
def Failure.renumber (number : DeclId → DeclId) : Failure → Failure
  | .invalid (.repeatedDecl id) => .invalid (.repeatedDecl (number id))
  | .collision name first second => .collision name (number first) (number second)
  | .unrenderable id reason => .unrenderable (number id) reason
  | failure => failure

namespace Module

variable (number : DeclId → DeclId)

/-- A module under new numbers. -/
def renumber (m : Module) : Module := ⟨m.entries.map (·.renumber number)⟩

/-- What comes of a build, under new numbers. -/
def renumberResult : Except Failure Module → Except Failure Module
  | .error e => .error (e.renumber number)
  | .ok m => .ok (m.renumber number)

/-- A document holds names and terms, and no identity. -/
theorem assemble_renumber (m : Module) (shape : DocumentShape) (s : Sink) :
    (m.renumber number).assemble shape s = m.assemble shape s := by
  have hlayout : (m.renumber number).layout shape = m.layout shape := by
    rw [layout, layout, renumber, List.flatMap_map]
    rfl
  rw [assemble_eq_deliver, assemble_eq_deliver, hlayout]

/-- Assembling fails for want of room or of delivery, and names no declaration. -/
theorem failure_assemble_renumber (m : Module) (shape : DocumentShape) (s : Sink) :
    (m.assemble shape s).2.map (Failure.renumber number) = (m.assemble shape s).2 := by
  rw [assemble_eq_deliver, Outcome.deliver]
  rcases m.leads_layout shape (.start s) rfl with ⟨hnone, hdepth⟩ | hfull
  · rw [hnone]
    by_cases hflush : (Step.runAll (.start s) (m.layout shape)).1.sink.flushFails = true
    · simp [Formatter.finish, hdepth, hflush, Failure.renumber]
    · simp [Formatter.finish, hdepth, hflush]
  · rw [hfull]
    rfl

/-! ## §2. Insertions under new numbers. -/

section Insertions

variable {number} {ids : List DeclId}

theorem get?_renumber (m : Module) (name : String) :
    (m.renumber number).get? name = (m.get? name).map (·.renumber number) :=
  List.find?_map

/-- **One insertion under new numbers**: a name is taken by the same declaration as
before, since numbers that were different still are. -/
theorem insert_renumber (hinj : ∀ a ∈ ids, ∀ b ∈ ids, number a = number b → a = b)
    {m : Module} (hm : ∀ e ∈ m.entries, e.origin ∈ ids) {e : Entry} (he : e.origin ∈ ids) :
    (m.renumber number).insert (e.renumber number) = renumberResult number (m.insert e) := by
  have hget : (m.renumber number).get? (e.renumber number).name
      = (m.get? e.name).map (·.renumber number) :=
    m.get?_renumber e.name
  rw [insert, insert, hget]
  cases howner : m.get? e.name with
  | none => simp [renumberResult, renumber]
  | some owner =>
      have hmem : owner.origin ∈ ids := hm owner (List.mem_of_find?_eq_some howner)
      by_cases hsame : owner.origin = e.origin
      · simp [hsame, renumberResult, Entry.renumber]
      · have hother : number owner.origin ≠ number e.origin :=
          fun heq => hsame (hinj _ hmem _ he heq)
        simp [hsame, hother, renumberResult, Entry.renumber, Failure.renumber]

/-- An insertion brings in no identity but its own. -/
theorem origins_insert {m m' : Module} {e : Entry} (h : m.insert e = .ok m')
    (hm : ∀ e ∈ m.entries, e.origin ∈ ids) (he : e.origin ∈ ids) :
    ∀ e ∈ m'.entries, e.origin ∈ ids := by
  rw [insert] at h
  cases howner : m.get? e.name with
  | none =>
      rw [howner] at h
      obtain rfl := Except.ok.inj h
      simpa [or_imp, forall_and] using ⟨hm, he⟩
  | some owner =>
      rw [howner] at h
      by_cases hsame : owner.origin = e.origin
      · simp only [hsame, if_true, Except.ok.injEq] at h
        exact h ▸ hm
      · simp [hsame] at h

/-- **All insertions under new numbers** come to the same, or to the same failure. -/
theorem insertAll_renumber (hinj : ∀ a ∈ ids, ∀ b ∈ ids, number a = number b → a = b)
    {rendering : Decl → Except Failure Rendered} {move : Decl → Decl}
    (hmove : ∀ d, (move d).id = number d.id)
    (hrendering : ∀ d, rendering (move d) = (rendering d).mapError (Failure.renumber number)) :
    ∀ (ds : List Decl), (∀ d ∈ ds, d.id ∈ ids) →
      ∀ m : Module, (∀ e ∈ m.entries, e.origin ∈ ids) →
        (m.renumber number).insertAll rendering (ds.map move)
          = renumberResult number (m.insertAll rendering ds)
  | [], _, m, _ => rfl
  | d :: ds, hds, m, hm => by
      obtain ⟨hd, hds⟩ := List.forall_mem_cons.mp hds
      rw [List.map_cons, insertAll, insertAll, hrendering]
      cases hr : rendering d with
      | error e => rfl
      | ok r =>
          have hentry := insert_renumber hinj hm (e := ⟨r.name, r.term, d.id⟩) hd
          simp only [Except.mapError, hmove]
          rw [show (⟨r.name, r.term, number d.id⟩ : Entry)
            = Entry.renumber number ⟨r.name, r.term, d.id⟩ from rfl, hentry]
          cases hinsert : m.insert ⟨r.name, r.term, d.id⟩ with
          | error e => rfl
          | ok m' =>
              exact insertAll_renumber hinj hmove hrendering ds hds m'
                (origins_insert hinsert hm hd)

end Insertions

end Module

/-! ## §3. Declarations under new numbers. -/

/-- What a declaration is alone, it is under every number, but for the number in its
failure. -/
theorem Decl.alone_renumber (declNumber : DeclId → DeclId) (fileNumber : FileId → FileId)
    (d : Decl) :
    (d.renumber declNumber fileNumber).alone
      = d.alone.mapError (Failure.renumber declNumber) := by
  -- both tables hold what the comment says, each under the number that is looked up
  have houtline : outline? (d.renumber declNumber fileNumber) .definition
        (AnnotationTable.empty.record (declNumber d.id) d.annotations)
      = outline? d .definition (AnnotationTable.empty.record d.id d.annotations) := by
    simp [outline?, AnnotationTable.get?, AnnotationTable.lookup_record, renumber, qualifiedName]
  show renderTerm _ .definition (AnnotationTable.empty.record (declNumber d.id) d.annotations) = _
  rw [alone]
  cases halone : renderTerm d .definition (AnnotationTable.empty.record d.id d.annotations) with
  | ok r =>
      obtain ⟨o, ho, rfl⟩ := renderTerm_eq_ok_iff.mp halone
      exact renderTerm_eq_ok_iff.mpr ⟨o, houtline.trans ho, rfl⟩
  | error e =>
      obtain ⟨construct, hkind, rfl⟩ := renderTerm_eq_error_iff.mp halone
      have hkind' : (d.renumber declNumber fileNumber).kind = .unsupported construct := hkind
      rw [renderTerm_of_unsupported hkind']
      rfl

namespace SourceUnit.Renumbering

variable {u : SourceUnit} (r : u.Renumbering)

theorem isOutside_renumber (hvalid : u.Intact) {d : Decl} (hd : d ∈ u.decls)
    (roots : List String) :
    r.apply.IsOutside roots (d.renumber r.declId r.fileId) ↔ u.IsOutside roots d := by
  rw [isOutside_iff, isOutside_iff]
  cases hl : d.location with
  | none => simp [Decl.renumber, hl]
  | some l =>
      have hregion := r.isSystemLocation_renumber hvalid (hvalid.places_known d hd l hl) roots
      simp [Decl.renumber, hl, hregion]

/-- **The options select the same declarations.** -/
theorem selects_renumber (hvalid : u.Intact) {d : Decl} (hd : d ∈ u.decls)
    (o : ExportOptions) :
    o.Selects r.apply (d.renumber r.declId r.fileId) ↔ o.Selects u d := by
  have houtside := r.isOutside_renumber hvalid hd o.systemRoots
  obtain ⟨shape, reduction, exportKey, roots⟩ := o
  cases exportKey with
  | none => exact houtside
  | some key =>
      cases reduction with
      | min => exact and_congr_left fun _ => houtside
      | max => exact or_congr_left houtside

theorem included_renumber (hvalid : u.fault? = none) (o : ExportOptions) :
    Module.included o.filter r.apply.context
      = (Module.included o.filter u.context).map (·.renumber r.declId r.fileId) := by
  rw [ExportOptions.included_eq_filter (r.fault?_eq_none hvalid),
    ExportOptions.included_eq_filter hvalid]
  show (u.decls.map _).filter _ = _
  rw [List.filter_map]
  congr 1
  refine List.filter_congr fun d hd => ?_
  exact decide_eq_decide.mpr (r.selects_renumber ((fault?_eq_none_iff u).mp hvalid) hd o)

/-! ## §4. THE OPACITY THEOREM. -/

/-- **The module under new numbers** is the old one under them. -/
theorem exportedModule_renumber (hvalid : u.fault? = none) (o : ExportOptions) :
    (r.apply.exportedModule o renderTerm).2
      = Module.renumberResult r.declId (u.exportedModule o renderTerm).2 := by
  rw [exportedModule_result (r.fault?_eq_none hvalid), exportedModule_result hvalid,
    r.included_renumber hvalid]
  refine Module.insertAll_renumber r.declId_inj (fun _ => rfl) (Decl.alone_renumber _ _)
    _ ?_ .empty ?_
  · exact fun d hd => List.mem_map_of_mem (mem_decls_of_included hd)
  · simp [Module.empty]

end SourceUnit.Renumbering

/-- **Identities are opaque**: under new numbers for declarations and files, and with
the files in another order, a valid unit is valid and is exported to the same document,
or fails in the same way, the failure naming the declarations by their new numbers. -/
theorem SourceUnit.exportDocument_renumber {u : SourceUnit} (r : u.Renumbering)
    (hvalid : u.fault? = none) :
    r.apply.fault? = none
      ∧ ∀ (o : ExportOptions) (s : Sink),
        (r.apply.exportDocument o renderTerm s).outcome
          = ((u.exportDocument o renderTerm s).sink,
            (u.exportDocument o renderTerm s).failure.map (Failure.renumber r.declId)) := by
  refine ⟨r.fault?_eq_none hvalid, fun o s => ?_⟩
  show _ = ((u.exportDocument o renderTerm s).outcome.1,
    (u.exportDocument o renderTerm s).outcome.2.map _)
  rw [outcome_exportDocument, outcome_exportDocument, r.exportedModule_renumber hvalid]
  cases (u.exportedModule o renderTerm).2 with
  | error e => rfl
  | ok m =>
      simp only [Module.renumberResult]
      rw [m.assemble_renumber, m.failure_assemble_renumber]

/-- Two aliases of one name under the export key. -/
def SourceUnit.ofNamesakes : SourceUnit :=
  ⟨[⟨⟨0⟩, "m.cpp", .main, none⟩, ⟨⟨1⟩, "m.h", .user, some ⟨0⟩⟩],
    [.ofTypedef 1 "a" (some 0) (some "// @export"), .ofTypedef 2 "a" (some 1) (some "// @export")]⟩

/-- Its declarations counted on from ten, its files numbered and listed the other way
round. -/
def SourceUnit.Renumbering.ofNamesakes : SourceUnit.ofNamesakes.Renumbering where
  declId id := ⟨id.val + 10⟩
  fileId id := ⟨1 - id.val⟩
  files := [⟨⟨0⟩, "m.h", .user, some ⟨1⟩⟩, ⟨⟨1⟩, "m.cpp", .main, none⟩]
  declId_inj := by decide +kernel
  fileId_inj := by decide +kernel
  files_perm := .swap _ _ _

/-- The aliases collide under the old numbers and under the new ones. -/
theorem SourceUnit.exportDocument_renumber_of_namesakes :
    ofNamesakes.fault? = none
      ∧ (ofNamesakes.exportDocument .default renderTerm .unbounded).failure
        = some (.collision "a" ⟨1⟩ ⟨2⟩)
      ∧ (Renumbering.ofNamesakes.apply.exportDocument .default renderTerm .unbounded).outcome.2
        = some (.collision "a" ⟨11⟩ ⟨12⟩) := by
  have hvalid : ofNamesakes.fault? = none := by decide +kernel
  have hcollision : (ofNamesakes.exportDocument .default renderTerm .unbounded).failure
      = some (.collision "a" ⟨1⟩ ⟨2⟩) := by
    decide +kernel
  obtain ⟨-, hrenumbered⟩ := exportDocument_renumber .ofNamesakes hvalid
  refine ⟨hvalid, hcollision, ?_⟩
  rw [hrenumbered, hcollision]
  rfl

end DeclExport
