/-
  DeclExport.Term.Decl
  ────────────────────────────────
  **LAYOUTS OF DECLARATIONS.**

  A declaration is laid out in full or by its signature only: then bodies,
  initializers and fields are left out as if the declaration had none.  What a
  function requires and ensures is taken from its annotations.
-/
import DeclExport.Annotation.Table
import DeclExport.Selection.Verdict
import DeclExport.Term.Stmt

namespace DeclExport

namespace Term

/-! ## §1. Parts. -/

/-- The layout of what a function requires and ensures. -/
def contract (requires ensures : Option String) : List Step :=
  if requires = none ∧ ensures = none then [.text "None"]
  else
    [.text ("Some \x7b| s_requires := " ++ option (requires.map quoted) ++ ";"),
      .nested [.line, .text ("s_ensures := " ++ option (ensures.map quoted) ++ " |\x7d")]]

/-- The layout of the fields of a record after the first. -/
def fieldTail : List Binder → List Step
  | [] => [.text " ]"]
  | b :: bs => .line :: .text ("; " ++ binder b) :: fieldTail bs

/-- The layout of the fields of a record. -/
def fields : List Binder → List Step
  | [] => [.text "[]"]
  | b :: bs => .text ("[ " ++ binder b) :: fieldTail bs

/-- The head word of a record: classes are structs. -/
def recordHead : RecordTag → String
  | .structTag => "Dstruct "
  | .classTag => "Dstruct "
  | .unionTag => "Dunion "

/-- A constant of an enumeration. -/
def constant (c : String × Int64) : String := pair c.1 (int c.2.toInt)

/-! ## §2. Declarations. -/

/-- The layout of a declaration with the given qualified name, what it requires
and ensures, and in full or not. -/
def decl (d : Decl) (full : Bool) (requires ensures : Option String) : List Step :=
  let name := quoted d.qualifiedName
  match d.kind with
  | .function ret params body =>
      [.text ("Dfunction " ++ name),
        .nested (
          [.line, .text ("\x7b| f_return := " ++ ty ret ++ ";"),
            .line, .text ("   f_params := " ++ list (params.map binder) ++ ";"),
            .line, .text "   f_spec := "]
          ++ contract requires ensures
          ++ [.text ";", .line, .text "   f_body := "]
          ++ (match body.filter fun _ => full with
              | none => [.text "None"]
              | some ss => [.text "Some", .nested (.line :: stmt (.block ss))])
          ++ [.text " |\x7d"])]
  | .variable t init =>
      [.text ("Dvar " ++ name), .nbsp, .text (ty t), .nbsp,
        .text (option ((init.filter fun _ => full).map expr))]
  | .record tag fs =>
      [.text (recordHead tag ++ name), .nbsp]
      ++ (match fs.filter fun _ => full with
          | none => [.text "None"]
          | some fs => [.text "(Some", .nested (.line :: fields fs), .text ")"])
  | .enumeration cs => [.text ("Denum " ++ name), .nbsp, .text (list (cs.map constant))]
  | .typedef t => [.text ("Dtypedef " ++ name), .nbsp, .text (ty t)]
  | .unsupported construct =>
      [.fail (.unrenderable d.id ("no term for `" ++ construct ++ "` declarations"))]

end Term

/-! ## §3. Renderers. -/

/-- The name and the term that a declaration is exported under. -/
structure Rendered where
  name : String
  term : String
  deriving Repr, DecidableEq

/-- Renderers see the declaration, the verdict on it and the annotations. -/
abbrev Renderer := Decl → Verdict → AnnotationTable → Except Failure Rendered

/-- The renderer of terms: under the qualified name, in full if the verdict says
so. -/
def renderTerm : Renderer := fun d verdict annotations =>
  let layout := Term.decl d verdict.isFull
    (annotations.get? d.id "requires") (annotations.get? d.id "ensures")
  match Step.toText layout with
  | .error e => .error e
  | .ok term => .ok ⟨d.qualifiedName, term⟩

end DeclExport
