/-
  DeclExport.Layout.Formatter
  ────────────────────────────────
  **LAYOUTS, AND RUNNING THEM.**

  A layout is a list of steps.  Whoever lays something out says only where
  lines break and where scopes open and close; what the padding is, and where
  it is written, is the business of the formatter that runs the steps.

  A formatter is a character machine: `put` is the only operation that writes.
  After a line feed the padding of the new line is pending, and it is written
  just before the first character that follows on that line, at the depth of
  that moment.  So blank lines carry no padding.

      run     — one step
      runAll  — a list of steps, up to the first failure

  Both give the formatter they end with also when they fail, since whoever
  holds it may go on.
-/
import DeclExport.Failure
import DeclExport.Layout.Sink

namespace DeclExport

/-! ## §1. Steps and formatters. -/

/-- A step of a layout. -/
inductive Step where
  /-- A text; a line feed in it breaks the line. -/
  | text (text : String)
  | line
  /-- A single space. -/
  | nbsp
  /-- Open a scope: lines begun from here on are padded deeper. -/
  | indent
  /-- Close the innermost scope. -/
  | outdent
  /-- The steps of the body, one scope deeper. -/
  | nested (body : List Step)
  /-- Give up. -/
  | fail (failure : Failure)

/-- A layout in progress. -/
structure Formatter where
  depth : Nat
  /-- A line has begun and nothing is written on it yet. -/
  pending : Bool
  sink : Sink
  deriving DecidableEq

/-- A formatter, and the failure of the operation that led to it. -/
abbrev Outcome := Formatter × Option Failure

/-- Go on unless the operation failed. -/
def Outcome.andThen (o : Outcome) (next : Formatter → Outcome) : Outcome :=
  match o with
  | (f, none) => next f
  | (f, some e) => (f, some e)

namespace Formatter

/-- The number of spaces per scope. -/
def indentWidth : Nat := 2

/-- A formatter before its first character. -/
def start (sink : Sink) : Formatter := ⟨0, false, sink⟩

/-! ## §2. Characters. -/

/-- Write a character as it is. -/
def write (f : Formatter) (c : Char) : Outcome :=
  match f.sink.write c with
  | (sink, true) => ({ f with sink }, none)
  | (sink, false) => ({ f with sink }, some (.io .full))

/-- Write the same character several times. -/
def writeMany (c : Char) : Nat → Formatter → Outcome
  | 0, f => (f, none)
  | n + 1, f => (f.write c).andThen (writeMany c n)

/-- Write the padding if it is pending. -/
def pad (f : Formatter) : Outcome :=
  if f.pending then
    (writeMany ' ' (f.depth * indentWidth) f).andThen fun f => ({ f with pending := false }, none)
  else (f, none)

/-- Break the line. -/
def line (f : Formatter) : Outcome :=
  (f.write '\n').andThen fun f => ({ f with pending := true }, none)

/-- Lay out one character. -/
def put (f : Formatter) (c : Char) : Outcome :=
  if c = '\n' then f.line else f.pad.andThen (·.write c)

/-- Lay out characters up to the first failure. -/
def puts (f : Formatter) : List Char → Outcome
  | [] => (f, none)
  | c :: cs => (f.put c).andThen (·.puts cs)

/-- Lay out a text. -/
def text (f : Formatter) (s : String) : Outcome := f.puts s.toList

/-! ## §3. Scopes. -/

/-- Open a scope. -/
def indent (f : Formatter) : Formatter := { f with depth := f.depth + 1 }

/-- Close the innermost scope. -/
def outdent (f : Formatter) : Outcome :=
  match f.depth with
  | 0 => (f, some (.unbalanced .unopened))
  | d + 1 => ({ f with depth := d }, none)

/-- Close the scope that was opened at `depth` and whose body has come to `o`.
A body that ends at another depth than it began with is a failure in itself,
and the scope is left as it is. -/
def closeNested (depth : Nat) (o : Outcome) : Outcome :=
  if o.1.depth = depth + 1 then ({ o.1 with depth }, o.2)
  else (o.1, some (.unbalanced (.leaked o.1.depth (depth + 1))))

/-- What stands at the end of a document: nothing but closed scopes, and the
sink delivers. -/
def finish (f : Formatter) : Option Failure :=
  if f.depth ≠ 0 then some (.unbalanced (.unclosed f.depth))
  else if f.sink.flushFails then some (.io .flush)
  else none

end Formatter

/-! ## §4. Running steps. -/

mutual

/-- Run a step. -/
def Step.run (f : Formatter) : Step → Outcome
  | .text s => f.text s
  | .line => f.line
  | .nbsp => f.text " "
  | .indent => (f.indent, none)
  | .outdent => f.outdent
  | .nested body => Formatter.closeNested f.depth (Step.runAll f.indent body)
  | .fail e => (f, some e)

/-- Run steps up to the first failure. -/
def Step.runAll (f : Formatter) : List Step → Outcome
  | [] => (f, none)
  | s :: ss => (s.run f).andThen fun f => Step.runAll f ss

end

/-- The text of a layout on its own. -/
def Step.toText (steps : List Step) : Except Failure String :=
  match Step.runAll (.start .unbounded) steps with
  | (_, some e) => .error e
  | (f, none) =>
      match f.finish with
      | some e => .error e
      | none => .ok f.sink.text

end DeclExport
