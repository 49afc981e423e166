/-
  DeclExport.Source.Validity
  ────────────────────────────────
  **REFERENTIAL INTEGRITY OF SOURCE UNITS.**

  A unit is valid if its identities are unique, its references go to files of
  the unit, and no include chain runs in circles.  `fault?` names the first
  violation: repeated files, then the files in order, then the declarations in
  order.
-/
import DeclExport.Source.Unit

namespace DeclExport

/-- A violation of integrity. -/
inductive UnitFault where
  | repeatedFile (id : FileId)
  | unknownIncluder (path : String) (includer : FileId)
  | cyclicIncludes (path : String)
  | repeatedDecl (id : DeclId)
  | unknownFile (decl : String) (file : FileId)
  deriving Repr, DecidableEq

/-- The wording of a violation. -/
def UnitFault.message : UnitFault → String
  | .repeatedFile id => "file id " ++ toString id.val.toNat ++ " is used twice"
  | .unknownIncluder path id =>
      path ++ " is included from unknown file " ++ toString id.val.toNat
  | .cyclicIncludes path => "include chain of " ++ path ++ " is cyclic"
  | .repeatedDecl id => "declaration id " ++ id.text ++ " is used twice"
  | .unknownFile decl id =>
      "declaration `" ++ decl ++ "` refers to unknown file " ++ toString id.val.toNat

/-- The first element that repeats an earlier one. -/
def firstRepeat? {α : Type} [DecidableEq α] (seen : List α) : List α → Option α
  | [] => none
  | x :: xs => if x ∈ seen then some x else firstRepeat? (x :: seen) xs

namespace SourceUnit

/-- Whether the unit has a file with the identity. -/
def hasFile (u : SourceUnit) (id : FileId) : Bool :=
  u.files.any fun f => f.id = id

/-- The violation of a single file: an unknown includer before a cycle. -/
def fileFault? (u : SourceUnit) (f : SourceFile) : Option UnitFault :=
  match f.includedFrom.filter (fun id => !u.hasFile id) with
  | some id => some (.unknownIncluder f.path id)
  | none => if u.isCyclicFrom f.id then some (.cyclicIncludes f.path) else none

/-- The violation of a single declaration's place. -/
def placeFault? (u : SourceUnit) (d : Decl) : Option UnitFault :=
  match d.location with
  | none => none
  | some l => if u.hasFile l.file then none else some (.unknownFile d.qualifiedName l.file)

/-- The first violation among declarations, after those with the identities
`seen`. -/
def declFault? (u : SourceUnit) (seen : List DeclId) : List Decl → Option UnitFault
  | [] => none
  | d :: ds =>
      if d.id ∈ seen then some (.repeatedDecl d.id)
      else u.placeFault? d <|> u.declFault? (d.id :: seen) ds

/-- The first violation in the unit. -/
def fault? (u : SourceUnit) : Option UnitFault :=
  (firstRepeat? [] (u.files.map (·.id))).map .repeatedFile
    <|> u.files.findSome? u.fileFault?
    <|> u.declFault? [] u.decls

end SourceUnit

end DeclExport
