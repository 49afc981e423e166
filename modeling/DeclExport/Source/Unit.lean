/-
  DeclExport.Source.Unit
  ────────────────────────────────
  **SOURCE UNITS.**

  A source unit is what one run of the front end has seen: a list of files and
  a list of declarations in source order.  Files know which file included them;
  following that from a file gives its *include chain*, which is walked no
  further than the number of files: a longer walk has met a file twice.

  Files have paths, and a path is compared by its components: repeated and
  trailing slashes and every `.` but a leading one do not count.  A `..` is a
  component like any other.
-/
import DeclExport.Source.Decl
import DeclExport.Text.Basic

namespace DeclExport

/-! ## §1. Paths by component. -/

namespace Path

/-- A component of a path. -/
inductive Component where
  /-- The leading slash. -/
  | root
  /-- A leading `.`. -/
  | here
  | name (name : List Char)
  deriving Repr, DecidableEq

/-- The components that are names: neither empty nor `.`. -/
def names (pieces : List (List Char)) : List Component :=
  (pieces.filter fun p => p ≠ [] ∧ p ≠ ['.']).map .name

/-- The components of a path. -/
def components (path : String) : List Component :=
  match Text.pieces '/' path.toList with
  | [] => []
  | [[]] => []
  | [] :: ps => .root :: names ps
  | p :: ps => if p = ['.'] then .here :: names ps else names (p :: ps)

/-- Whether the path is the root directory itself or lies somewhere under it. -/
def isUnder (path root : String) : Bool :=
  (components root).isPrefixOf (components path)

end Path

/-! ## §2. Files and units. -/

/-- Where a file came from. -/
inductive Provenance where
  /-- The file that the front end was invoked on. -/
  | main
  | user
  /-- A system or library header. -/
  | system
  deriving Repr, DecidableEq

/-- A file that the front end has read, and the file that included it. -/
structure SourceFile where
  id : FileId
  path : String
  provenance : Provenance
  includedFrom : Option FileId
  deriving Repr, DecidableEq

/-- A file that counts as a system header: by provenance, or by lying under one
of the roots. -/
def SourceFile.isSystem (f : SourceFile) (roots : List String) : Bool :=
  f.provenance = .system || roots.any (Path.isUnder f.path)

/-- What one run of the front end has seen. -/
structure SourceUnit where
  files : List SourceFile
  decls : List Decl

namespace SourceUnit

/-- The first file with the identity. -/
def file? (u : SourceUnit) (id : FileId) : Option SourceFile :=
  u.files.find? fun f => f.id = id

/-- The first declaration with the qualified name. -/
def findDecl? (u : SourceUnit) (name : String) : Option Decl :=
  u.decls.find? fun d => d.qualifiedName = name

/-! ## §3. Include chains. -/

/-- The first `steps` files of the include chain from a file on: the file, the
file that included it, and so on. -/
def includeChain (u : SourceUnit) : Nat → FileId → List SourceFile
  | 0, _ => []
  | steps + 1, id =>
      match u.file? id with
      | none => []
      | some f =>
          match f.includedFrom with
          | none => [f]
          | some parent => f :: u.includeChain steps parent

/-- Whether the include chain from a file on never ends. -/
def isCyclicFrom (u : SourceUnit) (id : FileId) : Bool :=
  u.files.length < (u.includeChain (u.files.length + 1) id).length

/-- Whether a location is in a system region: its file, or a file up its include
chain, is a system header. -/
def isSystemLocation (u : SourceUnit) (l : Location) (roots : List String) : Bool :=
  (u.includeChain u.files.length l.file).any (·.isSystem roots)

end SourceUnit

end DeclExport
