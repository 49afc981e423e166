/-
  DeclExport.Proofs.Layout.Scopes
  ────────────────────────────────
  **WHICH SCOPES ARE CLOSED.**

  A nested body is run in a scope of its own, and how the body ends decides what
  becomes of the scope:

      one scope deeper than it began    closed, and the body's failure is kept
      anywhere else                     left as it is, and that is the failure

  A body that opens and closes scopes only around bodies of its own ends one scope
  deeper whatever becomes of it (`depth_runAll_of_scoped`).  A body that opens one
  by hand may fail before it closes it, and then two scopes stay open.
-/
import DeclExport.Proofs.Layout.Capacity

namespace DeclExport

/-! ## §1. Scopes around bodies only. -/

mutual

/-- A step that opens and closes scopes only around bodies.  It may fail. -/
def Step.Scoped : Step → Prop
  | .indent | .outdent => False
  | .nested body => Step.AllScoped body
  | .text _ | .line | .nbsp | .fail _ => True

/-- Steps that are all scoped. -/
def Step.AllScoped : List Step → Prop
  | [] => True
  | s :: ss => s.Scoped ∧ Step.AllScoped ss

end

namespace Formatter

/-- An operation that ends at the depth that it begins at, failed or not. -/
def KeepsDepth (op : Formatter → Outcome) : Prop := ∀ f, (op f).1.depth = f.depth

theorem StaysLevel.keepsDepth {op : Formatter → Outcome} (h : StaysLevel op) : KeepsDepth op :=
  fun f => (h f).1

theorem KeepsDepth.andThen {op next : Formatter → Outcome} (hop : KeepsDepth op)
    (hnext : KeepsDepth next) : KeepsDepth fun f => (op f).andThen next := by
  intro f
  have hdepth := hop f
  show ((op f).andThen next).1.depth = f.depth
  generalize op f = o at hdepth ⊢
  obtain ⟨g, failure⟩ := o
  cases failure with
  | some e => exact hdepth
  | none => exact (hnext g).trans hdepth

theorem composes_keepsDepth : Composes KeepsDepth where
  write c := (staysLevel_write c).keepsDepth
  mark _ := fun _ => rfl
  andThen := KeepsDepth.andThen
  chosen hop := fun f => hop f.depth f.pending f

theorem KeepsDepth.nested {op : Formatter → Outcome} (hop : KeepsDepth op) :
    KeepsDepth fun f => closeNested f.depth (op f.indent) := by
  intro f
  have hlevel : (op f.indent).1.depth = f.depth + 1 := hop f.indent
  simp only [closeNested_of_level hlevel]

theorem inherits_keepsDepth : Inherits KeepsDepth Step.Scoped Step.AllScoped where
  toComposes := composes_keepsDepth
  head := And.left
  tail := And.right
  body := id
  indent := False.elim
  outdent := False.elim
  nested := KeepsDepth.nested
  fail _ := fun _ => rfl

/-- **Scoped steps end at the depth that they begin at**, on every sink and whatever
becomes of them. -/
theorem depth_runAll_of_scoped (ss : List Step) (f : Formatter) (h : Step.AllScoped ss) :
    (Step.runAll f ss).1.depth = f.depth :=
  inherits_keepsDepth.runAll ss h f

/-! ## §2. Closing the scope of a body. -/

variable {d : Nat} {o : Outcome}

/-- Without a failure the scope is closed. -/
theorem depth_closeNested_of_ok (h : (closeNested d o).2 = none) :
    (closeNested d o).1.depth = d := by
  by_cases ho : o.1.depth = d + 1
  · rw [closeNested_of_level ho]
  · simp [closeNested_of_ne ho] at h

/-- The scope is closed if the body ends one scope deeper, or has closed it by itself. -/
theorem depth_closeNested_iff :
    (closeNested d o).1.depth = d ↔ o.1.depth = d + 1 ∨ o.1.depth = d := by
  by_cases ho : o.1.depth = d + 1
  · simp [closeNested_of_level ho, ho]
  · simp [closeNested_of_ne ho, ho]

/-! ## §3. THE SCOPE THEOREM. -/

/-- **When the scope of a body is closed**, for every body, on every sink and at every
depth.  It is closed whenever the nested step succeeds, and if the body opens and closes
scopes only around bodies, then also when it fails, with the failure of the body.  In
general it is closed exactly if the body stops one scope deeper than the step began, or
at its depth.  A body that stops at another depth than one scope deeper leaves the
depth where it is, and that is the failure. -/
theorem nested_closes_iff (f : Formatter) (body : List Step) :
    (((Step.nested body).run f).2 = none → ((Step.nested body).run f).1.depth = f.depth)
      ∧ (Step.AllScoped body →
          ((Step.nested body).run f).1.depth = f.depth
            ∧ ((Step.nested body).run f).2 = (Step.runAll f.indent body).2)
      ∧ (((Step.nested body).run f).1.depth = f.depth
          ↔ (Step.runAll f.indent body).1.depth = f.depth + 1
            ∨ (Step.runAll f.indent body).1.depth = f.depth)
      ∧ ((Step.runAll f.indent body).1.depth ≠ f.depth + 1 →
          (Step.nested body).run f = ((Step.runAll f.indent body).1,
            some (.unbalanced (.leaked (Step.runAll f.indent body).1.depth (f.depth + 1))))) := by
  rw [Step.run]
  refine ⟨depth_closeNested_of_ok, fun hbody => ?_, depth_closeNested_iff, closeNested_of_ne⟩
  have hlevel : (Step.runAll f.indent body).1.depth = f.depth + 1 :=
    depth_runAll_of_scoped body f.indent hbody
  rw [closeNested_of_level hlevel]
  exact ⟨rfl, rfl⟩

/-- A body that runs out of room two scopes deep, and one that gives up: both scopes are
closed, and the failures are kept. -/
theorem nested_closes_of_full :
    ((Step.nested [.text "ab", .nested [.line, .text "c"]]).run
        (.start (.ofRoom (some 4) false))).1.depth = 0
      ∧ ((Step.nested [.text "ab", .fail (.unknownDecl "x")]).run
        (.start (.ofRoom (some 4) false))).2 = some (.unknownDecl "x") := by
  obtain ⟨-, hfull, -, -⟩ := nested_closes_iff (.start (.ofRoom (some 4) false))
    [.text "ab", .nested [.line, .text "c"]]
  obtain ⟨-, hgiven, -, -⟩ := nested_closes_iff (.start (.ofRoom (some 4) false))
    [.text "ab", .fail (.unknownDecl "x")]
  refine ⟨(hfull (by simp [Step.AllScoped, Step.Scoped])).1, ?_⟩
  rw [(hgiven (by simp [Step.AllScoped, Step.Scoped])).2]
  rfl

/-- A scope that is opened by hand in a body stays open, and so does that of the body. -/
example : ((Step.nested [.indent, .fail (.unknownDecl "x")]).run (.start .unbounded)).1.depth = 2 :=
  rfl

end Formatter

end DeclExport
