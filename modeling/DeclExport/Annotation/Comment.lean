/-
  DeclExport.Annotation.Comment
  ────────────────────────────────
  **ANNOTATIONS IN COMMENTS.**

  A comment is read line by line.  A line loses its blanks, one opening marker,
  one closing marker and one leading star; what is left is an annotation if it
  is `@`, a key, and then nothing or a blank and a value.  Every other line is
  prose.

  Every declaration of a unit whose comment holds an annotation gets them
  recorded, and one event is reported for it.
-/
import DeclExport.Annotation.Table
import DeclExport.Log
import DeclExport.Source.Unit

namespace DeclExport

namespace Comment

open Text

/-! ## §1. Comment markers. -/

/-- The opening markers; of two that fit, the first in this list is meant. -/
def openers : List (List Char) :=
  [['/', '/', '/'], ['/', '/', '!'], ['/', '/'], ['/', '*', '*'], ['/', '*', '!'], ['/', '*']]

/-- A line without its opening marker. -/
def dropOpener (line : List Char) : List Char :=
  (openers.findSome? fun o => o.isPrefixOf? line).getD line

/-- A line without its closing marker. -/
def dropCloser (line : List Char) : List Char :=
  (['*', '/'].isSuffixOf? line).getD line

/-- A line without the star that decorates it. -/
def dropStar : List Char → List Char
  | '*' :: rest => rest
  | line => line

/-- What a line says. -/
def content (line : List Char) : List Char :=
  trim (dropStar (trim (dropCloser (dropOpener (trim line)))))

/-! ## §2. Annotations. -/

/-- The characters of keys: ASCII letters and digits, `_` and `-`. -/
def isKeyChar (c : Char) : Bool := c.isAlphanum || c = '_' || c = '-'

/-- The text after a key, if it may stand there: none, or a blank comes first. -/
def value? (tail : List Char) : Option (List Char) :=
  match tail with
  | [] => some []
  | c :: _ => if isBlank c then some (trim tail) else none

/-- The annotation that the content of a line is, if it is one. -/
def annotation? : List Char → Option Annotation
  | '@' :: rest =>
      match rest.takeWhile isKeyChar, value? (rest.dropWhile isKeyChar) with
      | [], _ => none
      | _, none => none
      | key, some value =>
          some ⟨String.ofList key, if value = [] then none else some (String.ofList value)⟩
  | _ => none

/-- The annotations of a comment, in the order of its lines. -/
def annotations (comment : String) : List Annotation :=
  (pieces '\n' comment.toList).filterMap fun line => annotation? (content line)

end Comment

/-! ## §3. Collecting the annotations of a unit. -/

/-- The annotations in the comment of a declaration. -/
def Decl.annotations (d : Decl) : List Annotation :=
  match d.comment with
  | none => []
  | some comment => Comment.annotations comment

namespace SourceUnit

/-- The declarations that announce something, with what they announce. -/
def announcements (u : SourceUnit) : List (DeclId × List Annotation) :=
  (u.decls.map fun d => (d.id, d.annotations)).filter fun row => !row.2.isEmpty

/-- A table with the annotations of the unit added. -/
def collectInto (u : SourceUnit) (t : AnnotationTable) : AnnotationTable :=
  u.announcements.foldl (fun t row => t.record row.1 row.2) t

/-- The events of collecting the annotations of the unit. -/
def collectionEvents (u : SourceUnit) : List Event :=
  u.announcements.map fun row => .collected row.1 row.2.length

end SourceUnit

end DeclExport
