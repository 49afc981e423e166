/-
  DeclExport.Source.Decl
  ────────────────────────────────
  **RESOLVED DECLARATIONS.**

  What the front end knows about a declaration after name resolution: its
  identity, its qualified name, where it stands, the comment attached to it, and
  its kind with the types, statements and expressions in it.
-/

namespace DeclExport

/-! ## §1. Identities and places. -/

/-- Identity of a file within one source unit. -/
structure FileId where
  val : UInt32
  deriving Repr, DecidableEq

/-- Identity of a declaration within one source unit. -/
structure DeclId where
  val : UInt32
  deriving Repr, DecidableEq

/-- A declaration is referred to as `#` and its number. -/
def DeclId.text (id : DeclId) : String := "#" ++ toString id.val.toNat

/-- A position in a file. -/
structure Location where
  file : FileId
  line : UInt32
  column : UInt32
  deriving Repr, DecidableEq

/-! ## §2. Types, expressions and statements. -/

/-- The types of variables, parameters, fields and results. -/
inductive Ty where
  | void
  | bool
  | char
  | int (bits : UInt16) (signed : Bool)
  | float (bits : UInt16)
  | pointer (target : Ty)
  | reference (target : Ty)
  | const (underlying : Ty)
  | named (name : String)
  deriving DecidableEq

/-- Operators between two operands; `and` and `or` look at the second one only if
the first does not decide. -/
inductive BinaryOp where
  | add | sub | mul | div | rem
  | lt | le | gt | ge | eq | ne
  | and | or
  deriving Repr, DecidableEq

/-- Operators in front of one operand. -/
inductive UnaryOp where
  | neg | not | deref | addrOf
  deriving Repr, DecidableEq

/-- Expressions; names are resolved, so a variable or callee is a text. -/
inductive Expr where
  | int (value : Int64)
  | bool (value : Bool)
  | var (name : String)
  | call (callee : String) (args : List Expr)
  | binary (op : BinaryOp) (lhs rhs : Expr)
  | unary (op : UnaryOp) (operand : Expr)
  | assign (target value : Expr)

/-- Statements. -/
inductive Stmt where
  /-- Leave the function, with a value or without. -/
  | ret (value : Option Expr)
  /-- Evaluate an expression for its effect. -/
  | eval (expr : Expr)
  | block (body : List Stmt)
  | branch (cond : Expr) (yes : Stmt) (no : Option Stmt)
  | loop (cond : Expr) (body : Stmt)
  /-- Declare a local variable. -/
  | declare (name : String) (ty : Ty) (init : Option Expr)

/-! ## §3. Declarations. -/

/-- A parameter of a function, or a field of a record. -/
structure Binder where
  name : String
  ty : Ty
  deriving DecidableEq

/-- The keyword that a record was declared with. -/
inductive RecordTag where
  | structTag
  | classTag
  | unionTag
  deriving Repr, DecidableEq

/-- The kinds of declarations.  A body, an initializer or a field list that is
missing means that the declaration only announces the name. -/
inductive DeclKind where
  | function (ret : Ty) (params : List Binder) (body : Option (List Stmt))
  | variable (ty : Ty) (init : Option Expr)
  | record (tag : RecordTag) (fields : Option (List Binder))
  | enumeration (constants : List (String × Int64))
  | typedef (ty : Ty)
  /-- A construct without a structured form, under the front end's name for it. -/
  | unsupported (construct : String)

/-- A declaration as the front end resolved it. -/
structure Decl where
  id : DeclId
  name : String
  /-- Enclosing namespaces and classes, outermost first. -/
  scope : List String
  location : Option Location
  /-- The text of the comment attached to the declaration. -/
  comment : Option String
  kind : DeclKind

/-- The name with its scopes in front, joined by `::`. -/
def Decl.qualifiedName (d : Decl) : String :=
  "::".intercalate (d.scope ++ [d.name])

/-- Whether the declaration defines what it names. -/
def Decl.isDefinition (d : Decl) : Bool :=
  match d.kind with
  | .function _ _ body => body.isSome
  | .variable _ init => init.isSome
  | .record _ fields => fields.isSome
  | .enumeration _ => true
  | .typedef _ => true
  | .unsupported _ => false

end DeclExport
