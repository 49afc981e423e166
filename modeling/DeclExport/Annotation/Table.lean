/-
  DeclExport.Annotation.Table
  ────────────────────────────────
  **ANNOTATIONS PER DECLARATION.**

  A side table from declarations to what their comments announce.  The view of
  a table is `lookup`: an identity without a row looks up nothing.

      record   — adds at the end of what is there
      replace  — puts a list in the place of what is there
-/
import DeclExport.Source.Decl

namespace DeclExport

/-- A key, and the text after it if there is one. -/
structure Annotation where
  key : String
  value : Option String
  deriving Repr, DecidableEq

/-- Rows in the order in which their declarations were first met. -/
structure AnnotationTable where
  rows : List (DeclId × List Annotation)
  deriving Repr

namespace AnnotationTable

/-- The table without rows. -/
def empty : AnnotationTable := ⟨[]⟩

/-- What is recorded for a declaration, in the order of recording. -/
def lookup (t : AnnotationTable) (id : DeclId) : List Annotation :=
  (t.rows.lookup id).getD []

/-- The rows with the row of `id` set. -/
def put (id : DeclId) (as : List Annotation) :
    List (DeclId × List Annotation) → List (DeclId × List Annotation)
  | [] => [(id, as)]
  | row :: rows => if row.1 = id then (id, as) :: rows else row :: put id as rows

/-- Put a list in the place of what is recorded. -/
def replace (t : AnnotationTable) (id : DeclId) (as : List Annotation) : AnnotationTable :=
  ⟨put id as t.rows⟩

/-- Add a list at the end of what is recorded. -/
def record (t : AnnotationTable) (id : DeclId) (as : List Annotation) : AnnotationTable :=
  t.replace id (t.lookup id ++ as)

/-- Whether an annotation with the key is recorded. -/
def has (t : AnnotationTable) (id : DeclId) (key : String) : Bool :=
  (t.lookup id).any fun a => a.key = key

/-- The value of the first annotation with the key. -/
def get? (t : AnnotationTable) (id : DeclId) (key : String) : Option String :=
  ((t.lookup id).find? fun a => a.key = key).bind (·.value)

/-- The number of declarations with at least one annotation. -/
def size (t : AnnotationTable) : Nat :=
  (t.rows.filter fun row => !row.2.isEmpty).length

/-- Whether no declaration has an annotation; rows without annotations do not count. -/
def isEmpty (t : AnnotationTable) : Bool := t.size = 0

end AnnotationTable

end DeclExport
