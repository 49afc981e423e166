/-
  DeclExport.Proofs.Selection.Reporting
  ────────────────────────────────
  **ONE PASS OVER A FILTER JUDGES AND REPORTS.**

  Verdicts and events are defined apart from each other, each by its own recursion over
  the tree.  A run has one pass for both (`judge`): a child is judged, its events go to the
  log, and its verdict is reduced with those of the children before it.  The verdict
  reduced so far goes into the reduction alone:

      judge f  =  (one event for every node of f, children before their parent; verdict of f)

  so nothing that an earlier child says keeps a later one from being judged.
-/
import DeclExport.Selection.Filter

namespace DeclExport.Filter

variable (cx : Context) (d : Decl)

/-! ## §1. Nodes. -/

mutual

/-- The nodes of a filter, children before their parent. -/
def nodes : Filter → List Filter
  | .combine reduction filters => nodesOf filters ++ [.combine reduction filters]
  | f => [f]

/-- The nodes of several filters, one after the other. -/
def nodesOf : List Filter → List Filter
  | [] => []
  | f :: fs => f.nodes ++ nodesOf fs

end

mutual

/-- **One event for every node.** -/
theorem events_eq_map_nodes : ∀ f : Filter,
    f.events cx d = f.nodes.map (judgement cx d)
  | .combine reduction filters => by
      rw [events, nodes, eventsOf_eq_map_nodesOf filters, List.map_append]
      rfl
  | .everything _ | .noSystemHeaders _ | .annotatedWith _ | .custom _ => rfl

theorem eventsOf_eq_map_nodesOf : ∀ fs : List Filter,
    eventsOf cx d fs = (nodesOf fs).map (judgement cx d)
  | [] => rfl
  | f :: fs => by
      rw [eventsOf, nodesOf, events_eq_map_nodes f, eventsOf_eq_map_nodesOf fs, List.map_append]

end

/-! ## §2. One pass. -/

mutual

/-- Judge a declaration and report on it. -/
def judge : Filter → List Event × Verdict
  | .combine reduction filters =>
      let (log, verdict) := judgeAll reduction reduction.identity filters
      (log ++ [.judged d.id verdict (label (.combine reduction filters))], verdict)
  | f => ([.judged d.id (f.verdict cx d) f.label], f.verdict cx d)

/-- Judge by several filters, one after the other, with the verdict reduced so far. -/
def judgeAll (reduction : Reduction) (reduced : Verdict) : List Filter → List Event × Verdict
  | [] => ([], reduced)
  | f :: fs =>
      let (log, verdict) := f.judge
      let (later, reduced) := judgeAll reduction (reduction.reduce reduced verdict) fs
      (log ++ later, reduced)

end

mutual

/-- **One pass** gives the events and the verdict. -/
theorem judge_eq : ∀ f : Filter, f.judge cx d = (f.events cx d, f.verdict cx d)
  | .combine reduction filters => by
      have hchildren := judgeAll_eq reduction filters reduction.identity
      rw [judge, hchildren]
      rfl
  | .everything _ | .noSystemHeaders _ | .annotatedWith _ | .custom _ => rfl

/-- Whatever the verdict so far, the events of all filters come out. -/
theorem judgeAll_eq (reduction : Reduction) : ∀ (fs : List Filter) (reduced : Verdict),
    judgeAll cx d reduction reduced fs
      = (eventsOf cx d fs, (verdicts cx d fs).foldl reduction.reduce reduced)
  | [], _ => rfl
  | f :: fs, reduced => by
      rw [judgeAll, judge_eq f]
      dsimp only
      rw [judgeAll_eq reduction fs]
      rfl

end

end DeclExport.Filter
