/-
  DeclExport.Source.Format.Codec
  ────────────────────────────────
  **FROM TEXTS TO MODEL VALUES AND BACK.**

  Every type of the model has a reader that undoes its written value:

      text  —decode→  value  —ofValue?→  model  —toValue→  value  —encode→  text

  What is a fault is decided by the schema alone: every value that it lets
  through is the written value of some model value.
-/
import DeclExport.Json.Conformance
import DeclExport.Json.Writing
import DeclExport.Source.Format
import DeclExport.Source.Format.Written

namespace DeclExport.Format

open DeclExport.Json

/-! ## §1. Words, texts and lists. -/

/-- The natural number of a value. -/
def nat? : Value → Option Nat
  | .int i => if 0 ≤ i then some i.toNat else none
  | _ => none

/-- A 32-bit word; a number that does not fit is none. -/
def word32? (v : Value) : Option UInt32 :=
  (nat? v).bind fun n => if n < UInt32.size then some (.ofNat n) else none

/-- A 16-bit word; a number that does not fit is none. -/
def word16? (v : Value) : Option UInt16 :=
  (nat? v).bind fun n => if n < UInt16.size then some (.ofNat n) else none

/-- A signed 64-bit word; a number that does not fit is none. -/
def int64? : Value → Option Int64
  | .int i => if Int64.minValue.toInt ≤ i ∧ i ≤ Int64.maxValue.toInt then some (.ofInt i) else none
  | _ => none

/-- The text of a value. -/
def text? : Value → Option String
  | .text s => some s
  | _ => none

/-- The truth value of a value. -/
def bool? : Value → Option Bool
  | .bool b => some b
  | _ => none

/-- A value that may be missing. -/
def optional? {α : Type} (ofValue? : Value → Option α) : Value → Option (Option α)
  | .null => some none
  | v => (ofValue? v).map some

/-- The items of a list, all of them or none. -/
def list? {α : Type} (ofValue? : Value → Option α) : Value → Option (List α)
  | .list vs => vs.mapM ofValue?
  | _ => none

/-! ## §2. Types, expressions and statements. -/

/-- The type of a value. -/
def ty? : Value → Option Ty
  | .case tag parts =>
      match tag, parts with
      | "void", [] => some .void
      | "bool", [] => some .bool
      | "char", [] => some .char
      | "int", [b, s] => do return .int (← word16? b) (← bool? s)
      | "float", [b] => do return .float (← word16? b)
      | "pointer", [t] => do return .pointer (← ty? t)
      | "reference", [t] => do return .reference (← ty? t)
      | "const", [t] => do return .const (← ty? t)
      | "named", [n] => do return .named (← text? n)
      | _, _ => none
  | _ => none

/-- The operator of a value, between two operands. -/
def binaryOp? : Value → Option BinaryOp
  | .case tag [] =>
      match tag with
      | "add" => some .add | "sub" => some .sub | "mul" => some .mul
      | "div" => some .div | "rem" => some .rem
      | "lt" => some .lt | "le" => some .le | "gt" => some .gt | "ge" => some .ge
      | "eq" => some .eq | "ne" => some .ne
      | "and" => some .and | "or" => some .or
      | _ => none
  | _ => none

/-- The operator of a value, in front of one operand. -/
def unaryOp? : Value → Option UnaryOp
  | .case tag [] =>
      match tag with
      | "neg" => some .neg | "not" => some .not
      | "deref" => some .deref | "addr_of" => some .addrOf
      | _ => none
  | _ => none

mutual

/-- The expression of a value. -/
def expr? : Value → Option Expr
  | .case tag parts =>
      match tag, parts with
      | "int", [i] => do return .int (← int64? i)
      | "bool", [b] => do return .bool (← bool? b)
      | "var", [n] => do return .var (← text? n)
      | "call", [c, .list args] => do return .call (← text? c) (← exprs? args)
      | "binary", [op, l, r] => do return .binary (← binaryOp? op) (← expr? l) (← expr? r)
      | "unary", [op, e] => do return .unary (← unaryOp? op) (← expr? e)
      | "assign", [t, v] => do return .assign (← expr? t) (← expr? v)
      | _, _ => none
  | _ => none

/-- The expressions of values, all of them or none. -/
def exprs? : List Value → Option (List Expr)
  | [] => some []
  | v :: vs => do return (← expr? v) :: (← exprs? vs)

end

mutual

/-- The statement of a value. -/
def stmt? : Value → Option Stmt
  | .case tag parts =>
      match tag, parts with
      | "return", [e] => do return .ret (← optional? expr? e)
      | "expr", [e] => do return .eval (← expr? e)
      | "block", [.list ss] => do return .block (← stmts? ss)
      | "if", [c, yes, .null] => do return .branch (← expr? c) (← stmt? yes) none
      | "if", [c, yes, no] => do
          return .branch (← expr? c) (← stmt? yes) (some (← stmt? no))
      | "while", [c, body] => do return .loop (← expr? c) (← stmt? body)
      | "decl", [n, t, init] => do
          return .declare (← text? n) (← ty? t) (← optional? expr? init)
      | _, _ => none
  | _ => none

/-- The statements of values, all of them or none. -/
def stmts? : List Value → Option (List Stmt)
  | [] => some []
  | v :: vs => do return (← stmt? v) :: (← stmts? vs)

end

/-! ## §3. Declarations and units. -/

/-- The parameter or field of a value. -/
def binder? : Value → Option Binder
  | .record [n, t] => do return ⟨← text? n, ← ty? t⟩
  | _ => none

/-- The keyword of a value. -/
def recordTag? : Value → Option RecordTag
  | .case "struct" [] => some .structTag
  | .case "class" [] => some .classTag
  | .case "union" [] => some .unionTag
  | _ => none

/-- The constant of a value. -/
def constant? : Value → Option (String × Int64)
  | .list [n, i] => do return (← text? n, ← int64? i)
  | _ => none

/-- The body of a value. -/
def body? : Value → Option (List Stmt)
  | .list vs => stmts? vs
  | _ => none

/-- The kind of declaration of a value. -/
def kind? : Value → Option DeclKind
  | .case "function" [ret, params, body] => do
      return .function (← ty? ret) (← list? binder? params) (← optional? body? body)
  | .case "variable" [t, init] => do return .variable (← ty? t) (← optional? expr? init)
  | .case "record" [tag, fields] => do
      return .record (← recordTag? tag) (← optional? (list? binder?) fields)
  | .case "enumeration" [cs] => do return .enumeration (← list? constant? cs)
  | .case "typedef" [t] => do return .typedef (← ty? t)
  | .case "unsupported" [c] => do return .unsupported (← text? c)
  | _ => none

/-- The position of a value. -/
def location? : Value → Option Location
  | .record [f, l, c] => do return ⟨⟨← word32? f⟩, ← word32? l, ← word32? c⟩
  | _ => none

/-- The declaration of a value. -/
def decl? : Value → Option Decl
  | .record [id, name, scope, location, comment, kind] => do
      return {
        id := ⟨← word32? id⟩
        name := ← text? name
        scope := ← list? text? scope
        location := ← optional? location? location
        comment := ← optional? text? comment
        kind := ← kind? kind }
  | _ => none

/-- The provenance of a value. -/
def provenance? : Value → Option Provenance
  | .case "main" [] => some .main
  | .case "user" [] => some .user
  | .case "system" [] => some .system
  | _ => none

/-- The file of a value. -/
def file? : Value → Option SourceFile
  | .record [id, path, provenance, includer] => do
      return {
        id := ⟨← word32? id⟩
        path := ← text? path
        provenance := ← provenance? provenance
        includedFrom := (← optional? word32? includer).map FileId.mk }
  | _ => none

/-- The unit of a value; its references are not looked at. -/
def unit? : Value → Option SourceUnit
  | .record [files, decls] => do return ⟨← list? file? files, ← list? decl? decls⟩
  | _ => none

/-! ## §4. Codecs. -/

/-- How a type of the model is written and read as a part of the format. -/
structure Codec (α : Type) where
  part : Part
  toValue : α → Value
  ofValue? : Value → Option α

namespace Codec

/-- The model value of a text. -/
def read {α : Type} (c : Codec α) (text : String) : Except Fault α :=
  match decode format c.part text.toList with
  | .error e => .error e
  | .ok v => (c.ofValue? v).elim (.error .mismatch) .ok

/-- The tree of a model value. -/
def tree {α : Type} (c : Codec α) (a : α) : Tree := (c.toValue a).tree format (.named c.part)

/-- The text of a model value. -/
def write {α : Type} (c : Codec α) (a : α) : String :=
  String.ofList (encode format c.part (c.toValue a))

end Codec

/-- Units, their references not looked at. -/
def units : Codec SourceUnit := ⟨.unit, unitValue, unit?⟩

/-- Files. -/
def files : Codec SourceFile := ⟨.file, fileValue, file?⟩

/-- Positions. -/
def locations : Codec Location := ⟨.location, locationValue, location?⟩

/-- Declarations. -/
def decls : Codec Decl := ⟨.decl, declValue, decl?⟩

/-- Kinds of declarations. -/
def kinds : Codec DeclKind := ⟨.kind, kindValue, kind?⟩

/-- Statements. -/
def stmts : Codec Stmt := ⟨.stmt, stmtValue, stmt?⟩

/-- Expressions. -/
def exprs : Codec Expr := ⟨.expr, exprValue, expr?⟩

/-- Types. -/
def types : Codec Ty := ⟨.type, tyValue, ty?⟩

/-- Parameters of functions. -/
def params : Codec Binder := ⟨.param, binderValue, binder?⟩

/-- Fields of records. -/
def fields : Codec Binder := ⟨.field, binderValue, binder?⟩

end DeclExport.Format
