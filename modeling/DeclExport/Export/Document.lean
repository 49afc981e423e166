/-
  DeclExport.Export.Document
  ────────────────────────────────
  **DOCUMENTS.**

  A document is a preamble, one entry after the other, each followed by `::`,
  and the terminator `nil.`:

      From Cpp Require Import Parser.

      Local Open Scope string_scope.
      Import ListNotations.

      Definition module : Ast.module :=
        ("<name>",
          <term>) ::
        nil.

-/
import DeclExport.Export.Module
import DeclExport.Layout.Formatter
import DeclExport.Term.Expr

namespace DeclExport

/-! ## §1. Shapes and their layouts. -/

/-- What an entry of a document is. -/
inductive DocumentShape where
  /-- A pair of name and term. -/
  | namedPairs
  /-- The term alone. -/
  | terms
  deriving Repr, DecidableEq

namespace DocumentShape

/-- The line that the definition begins with. -/
def header : DocumentShape → String
  | .namedPairs => "Definition module : Ast.module :="
  | .terms => "Definition module : list Decl :="

/-- The layout in front of the entries. -/
def opening (shape : DocumentShape) : List Step :=
  [.text "From Cpp Require Import Parser.", .line,
    .text "", .line,
    .text "Local Open Scope string_scope.", .line,
    .text "Import ListNotations.", .line,
    .text "", .line,
    .text shape.header, .indent]

/-- The layout of an entry. -/
def entry (shape : DocumentShape) (e : Entry) : List Step :=
  let inside : List Step :=
    match shape with
    | .namedPairs => [.text (Term.quoted e.name ++ ","), .nested [.line, .text e.term]]
    | .terms => [.text e.term]
  [.line, .text "("] ++ inside ++ [.text ")", .nbsp, .text "::"]

/-- The layout behind the entries. -/
def closing : List Step := [.line, .text "nil.", .outdent, .line, .line]

end DocumentShape

/-! ## §2. Documents in progress. -/

/-- A document between its preamble and its terminator. -/
structure Document where
  shape : DocumentShape
  formatter : Formatter

namespace Document

/-- Write the preamble. -/
def start (sink : Sink) (shape : DocumentShape) : Document × Option Failure :=
  let (formatter, failure) := Step.runAll (.start sink) shape.opening
  (⟨shape, formatter⟩, failure)

/-- Write an entry. -/
def entry (d : Document) (e : Entry) : Document × Option Failure :=
  let (formatter, failure) := Step.runAll d.formatter (d.shape.entry e)
  ({ d with formatter }, failure)

/-- Write entries up to the first failure. -/
def entries (d : Document) : List Entry → Document × Option Failure
  | [] => (d, none)
  | e :: es =>
      match d.entry e with
      | (d, none) => d.entries es
      | (d, some failure) => (d, some failure)

/-- Write the terminator, and deliver. -/
def finish (d : Document) : Sink × Option Failure :=
  match Step.runAll d.formatter DocumentShape.closing with
  | (f, some failure) => (f.sink, some failure)
  | (f, none) => (f.sink, f.finish)

end Document

/-! ## §3. Whole documents. -/

/-- Write a module as a document. -/
def Module.assemble (m : Module) (shape : DocumentShape) (sink : Sink) : Sink × Option Failure :=
  match Document.start sink shape with
  | (d, some failure) => (d.formatter.sink, some failure)
  | (d, none) =>
      match d.entries m.entries with
      | (d, some failure) => (d.formatter.sink, some failure)
      | (d, none) => d.finish

end DeclExport
