/-
  DeclExport.Export.Build
  ────────────────────────────────
  **BUILDING MODULES.**

  The declarations are taken in source order.  Each is judged; if it is
  included it is rendered and inserted, and the first failure ends the build.
  The events up to the failure are kept.
-/
import DeclExport.Export.Module
import DeclExport.Selection.Filter
import DeclExport.Term.Decl

namespace DeclExport.Module

/-- The events of one included declaration: it is judged, and added if it was
rendered. -/
def addingEvents (filter : Filter) (cx : Context) (d : Decl) (r : Rendered) : List Event :=
  filter.events cx d ++ [.adding d.id r.name (filter.verdict cx d)]

/-- The events of one declaration that is not included. -/
def skippingEvents (filter : Filter) (cx : Context) (d : Decl) : List Event :=
  filter.events cx d ++ [.skipping d.id d.qualifiedName (filter.verdict cx d)]

/-- Take the declarations into a module, and tell what happened. -/
def extend (filter : Filter) (cx : Context) (render : Renderer) (m : Module) :
    List Decl → List Event × Except Failure Module
  | [] => ([], .ok m)
  | d :: ds =>
      let verdict := filter.verdict cx d
      if verdict.isIncluded then
        match render d verdict cx.annotations with
        | .error e => (filter.events cx d, .error e)
        | .ok r =>
            match m.insert ⟨r.name, r.term, d.id⟩ with
            | .error e => (addingEvents filter cx d r, .error e)
            | .ok m =>
                let (log, result) := extend filter cx render m ds
                (addingEvents filter cx d r ++ log, result)
      else
        let (log, result) := extend filter cx render m ds
        (skippingEvents filter cx d ++ log, result)

/-- The module of the declarations of a unit. -/
def build (filter : Filter) (cx : Context) (render : Renderer) :
    List Event × Except Failure Module :=
  extend filter cx render empty cx.unit.decls

end DeclExport.Module
