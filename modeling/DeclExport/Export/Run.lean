/-
  DeclExport.Export.Run
  ────────────────────────────────
  **EXPORTS: OF A MODULE, OF A DECLARATION, OF A STATEMENT.**

  An export of a module goes through the export gates: outside of system
  regions, and annotated with the export key unless that gate is dropped.  An
  export of a single declaration or statement goes through no gate and writes a
  bare term.  Whatever fails, the log and the sink are handed back.
-/
import DeclExport.Annotation.Comment
import DeclExport.Export.Build
import DeclExport.Export.Document

namespace DeclExport

/-! ## §1. Options. -/

/-- What is chosen about an export. -/
structure ExportOptions where
  shape : DocumentShape
  /-- How the gates are reduced. -/
  reduction : Reduction
  /-- The annotation that an exported declaration carries; `none` drops this
  gate. -/
  exportKey : Option String
  /-- Directories that count as system regions. -/
  systemRoots : List String
  deriving Repr, DecidableEq

namespace ExportOptions

/-- The options where nothing is said. -/
def default : ExportOptions := ⟨.namedPairs, .min, some "export", []⟩

/-- The gates of an export. -/
def gates (o : ExportOptions) : List Filter :=
  .noSystemHeaders o.systemRoots :: (o.exportKey.map Filter.annotatedWith).toList

/-- The filter of an export: the gates, reduced. -/
def filter (o : ExportOptions) : Filter := .combine o.reduction o.gates

end ExportOptions

/-! ## §2. Deliveries. -/

/-- What comes of an export. -/
structure Delivery where
  log : List Event
  sink : Sink
  failure : Option Failure

/-- Write a term and end its line. -/
def writeTerm (term : String) (sink : Sink) : Sink × Option Failure :=
  match Step.runAll (.start sink) [.text term, .line] with
  | (f, some failure) => (f.sink, some failure)
  | (f, none) => (f.sink, f.finish)

/-! ## §3. Exports. -/

namespace SourceUnit

/-- The unit with the annotations in its comments. -/
def context (u : SourceUnit) : Context := ⟨u, u.collectInto .empty⟩

/-- The module that the options select from a unit. -/
def exportedModule (u : SourceUnit) (o : ExportOptions) (render : Renderer) :
    List Event × Except Failure Module :=
  Module.build o.filter u.context render

/-- Export a unit as one document. -/
def exportDocument (u : SourceUnit) (o : ExportOptions) (render : Renderer) (sink : Sink) :
    Delivery :=
  match u.exportedModule o render with
  | (log, .error failure) => ⟨u.collectionEvents ++ log, sink, some failure⟩
  | (log, .ok m) =>
      let summary := Event.assembled u.decls.length u.context.annotations.size m.size
      let (sink, failure) := m.assemble o.shape sink
      ⟨u.collectionEvents ++ log ++ [summary], sink, failure⟩

end SourceUnit

/-- A declaration alone, with the annotations in its comment. -/
def Decl.context (d : Decl) (u : SourceUnit) : Context :=
  ⟨u, AnnotationTable.empty.record d.id d.annotations⟩

/-- Export a declaration as a bare term. -/
def Decl.exportTerm (d : Decl) (u : SourceUnit) (render : Renderer) (sink : Sink) :
    Delivery :=
  let cx := d.context u
  let log := Filter.definitions.events cx d
  match render d (Filter.definitions.verdict cx d) cx.annotations with
  | .error failure => ⟨log, sink, some failure⟩
  | .ok r =>
      let (sink, failure) := writeTerm r.term sink
      ⟨log, sink, failure⟩

/-- Export a statement as a bare term. -/
def Stmt.exportTerm (s : Stmt) (sink : Sink) : Sink × Option Failure :=
  match Term.renderStmt s with
  | .error failure => (sink, some failure)
  | .ok term => writeTerm term sink

end DeclExport
