/-
  DeclExport.Command.Place
  ────────────────────────────────
  **PLACES AND PATHS.**

  A place is where a file or a directory is: names that lead there from the
  working directory, from a directory above it, or from the root.  A path is a
  text that names a place on the way that it describes; what the names on that
  way lead to is for the workspace to say.
-/
import DeclExport.Failure
import DeclExport.Text.Basic

namespace DeclExport.Command

/-! ## §1. Places. -/

/-- Where the way to a place begins. -/
inductive Origin where
  /-- So many directories above the working directory. -/
  | above (levels : Nat)
  | root
  deriving Repr, DecidableEq

/-- The names on the way to a file or to a directory. -/
structure Place where
  origin : Origin
  names : List String
  deriving Repr, DecidableEq

/-- A name that leads nowhere. -/
def isIdle (piece : String) : Bool := piece = "" || piece = "."

namespace Place

/-- The working directory. -/
def here : Place := ⟨.above 0, []⟩

/-- The root directory. -/
def root : Place := ⟨.root, []⟩

/-- The directory that a place is in; the root is in itself. -/
def up (place : Place) : Place :=
  match place.origin, place.names with
  | .above levels, [] => ⟨.above (levels + 1), []⟩
  | origin, names => ⟨origin, names.dropLast⟩

/-- Where a name leads from a directory. -/
def follow (place : Place) (piece : String) : Place :=
  if isIdle piece then place
  else if piece = ".." then place.up
  else { place with names := place.names ++ [piece] }

/-- Whether the way to one place leads through the other. -/
def isThrough (place other : Place) : Bool :=
  place.origin = other.origin && other.names.isPrefixOf place.names

end Place

/-! ## §2. Paths. -/

/-- The names of a path between its slashes. -/
def pathPieces (path : String) : List String :=
  (Text.pieces '/' path.toList).map String.ofList

/-- Where a path begins. -/
def pathOrigin (path : String) : Place :=
  if path.toList.head? = some '/' then .root else .here

/-- The place of a path if all names on the way lead to directories. -/
def Place.ofPath (path : String) : Place :=
  (pathPieces path).foldl Place.follow (pathOrigin path)

/-- The most bytes that a path may have. -/
def maxPathSize : Nat := 4095

/-- The most bytes that a name may have. -/
def maxNameSize : Nat := 255

/-- Whether a path can be looked up at all. -/
def checkPath (path : String) : Except IoFault Unit :=
  if path.isEmpty then .error .notFound
  else if maxPathSize < path.utf8ByteSize then .error .nameTooLong
  else .ok ()

/-- Pieces without the idle ones at the end; a leading `.` stays. -/
def trimPieces (pieces : List String) : List String :=
  match pieces with
  | [] => []
  | first :: rest => first :: (rest.reverse.dropWhile isIdle).reverse

/-- The path with the given pieces; an empty one alone is the root. -/
def joinPieces : List String → String
  | [""] => "/"
  | pieces => "/".intercalate pieces

/-- The path of the directory that a path is in, as it is written; `none` for a
path that is in none. -/
def parentPath? (path : String) : Option String :=
  if path.isEmpty then none
  else some (joinPieces (trimPieces (trimPieces (pathPieces path)).dropLast))

end DeclExport.Command
