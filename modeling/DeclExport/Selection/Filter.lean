/-
  DeclExport.Selection.Filter
  ────────────────────────────────
  **FILTERS.**

  A filter maps a declaration to a verdict.  Filters combine to trees, whose
  inner nodes reduce the verdicts of their children; every child is judged,
  whatever the others say.
-/
import DeclExport.Annotation.Table
import DeclExport.Log
import DeclExport.Source.Unit

namespace DeclExport

/-- What a filter may look at besides the declaration. -/
structure Context where
  unit : SourceUnit
  annotations : AnnotationTable

/-- Filters, as trees. -/
inductive Filter where
  /-- The same verdict for every declaration. -/
  | everything (verdict : Verdict)
  /-- Excludes declarations in system regions, and has no opinion on those
  without a location. -/
  | noSystemHeaders (roots : List String)
  /-- Excludes declarations without the annotation. -/
  | annotatedWith (key : String)
  | custom (judge : Decl → Context → Verdict)
  | combine (reduction : Reduction) (filters : List Filter)

namespace Filter

/-- The filter of runs on a single declaration: everything in full. -/
def definitions : Filter := .everything .definition

/-! ## §1. Verdicts. -/

mutual

/-- The verdict on a declaration. -/
def verdict (cx : Context) (d : Decl) : Filter → Verdict
  | .everything v => v
  | .noSystemHeaders roots =>
      match d.location with
      | none => .unspecified
      | some l => if cx.unit.isSystemLocation l roots then .exclude else .definition
  | .annotatedWith key => if cx.annotations.has d.id key then .definition else .exclude
  | .custom judge => judge d cx
  | .combine reduction filters => reduction.fold (verdicts cx d filters)

/-- The verdicts of several filters. -/
def verdicts (cx : Context) (d : Decl) : List Filter → List Verdict
  | [] => []
  | f :: fs => f.verdict cx d :: verdicts cx d fs

end

/-! ## §2. Events. -/

/-- The name of a filter in log events. -/
def label : Filter → String
  | .everything _ => "everything"
  | .noSystemHeaders _ => "no-system-headers"
  | .annotatedWith _ => "requires-annotation"
  | .custom _ => "custom"
  | .combine .min _ => "combine-min"
  | .combine .max _ => "combine-max"

/-- The event of a filter that has judged a declaration. -/
def judgement (cx : Context) (d : Decl) (f : Filter) : Event :=
  .judged d.id (f.verdict cx d) f.label

mutual

/-- The events of judging a declaration: one for every node of the tree,
children before their parent. -/
def events (cx : Context) (d : Decl) : Filter → List Event
  | .combine reduction filters =>
      eventsOf cx d filters ++ [judgement cx d (.combine reduction filters)]
  | f => [judgement cx d f]

/-- The events of several filters, one after the other. -/
def eventsOf (cx : Context) (d : Decl) : List Filter → List Event
  | [] => []
  | f :: fs => f.events cx d ++ eventsOf cx d fs

end

end Filter

end DeclExport
