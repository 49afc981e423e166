/-
  DeclExport.Source.Format.Written
  ────────────────────────────────
  **MODEL VALUES AS VALUES OF THE FORMAT.**

  One function for each type of the model.  The fields of records and cases
  stand in the order of their definition in `format`, and what is missing is
  `null`.
-/
import DeclExport.Json.Schema
import DeclExport.Source.Unit

namespace DeclExport.Format

open DeclExport.Json

/-! ## §1. Types. -/

/-- A value that may be missing. -/
def optional {α : Type} (toValue : α → Value) : Option α → Value
  | none => .null
  | some a => toValue a

/-- An unsigned word as a value. -/
def word32 (n : UInt32) : Value := .int n.toNat

/-- A type as a value. -/
def tyValue : Ty → Value
  | .void => .case "void" []
  | .bool => .case "bool" []
  | .char => .case "char" []
  | .int bits signed => .case "int" [.int bits.toNat, .bool signed]
  | .float bits => .case "float" [.int bits.toNat]
  | .pointer t => .case "pointer" [tyValue t]
  | .reference t => .case "reference" [tyValue t]
  | .const t => .case "const" [tyValue t]
  | .named n => .case "named" [.text n]

/-! ## §2. Expressions and statements. -/

/-- The tag of an operator between two operands. -/
def binaryTag : BinaryOp → String
  | .add => "add" | .sub => "sub" | .mul => "mul" | .div => "div" | .rem => "rem"
  | .lt => "lt" | .le => "le" | .gt => "gt" | .ge => "ge" | .eq => "eq" | .ne => "ne"
  | .and => "and" | .or => "or"

/-- The tag of an operator in front of one operand. -/
def unaryTag : UnaryOp → String
  | .neg => "neg" | .not => "not" | .deref => "deref" | .addrOf => "addr_of"

mutual

/-- An expression as a value. -/
def exprValue : Expr → Value
  | .int i => .case "int" [.int i.toInt]
  | .bool b => .case "bool" [.bool b]
  | .var n => .case "var" [.text n]
  | .call callee args => .case "call" [.text callee, .list (exprValues args)]
  | .binary op l r => .case "binary" [.case (binaryTag op) [], exprValue l, exprValue r]
  | .unary op e => .case "unary" [.case (unaryTag op) [], exprValue e]
  | .assign t v => .case "assign" [exprValue t, exprValue v]

/-- The arguments of a call as values. -/
def exprValues : List Expr → List Value
  | [] => []
  | e :: es => exprValue e :: exprValues es

end

mutual

/-- A statement as a value. -/
def stmtValue : Stmt → Value
  | .ret e => .case "return" [optional exprValue e]
  | .eval e => .case "expr" [exprValue e]
  | .block ss => .case "block" [.list (stmtValues ss)]
  | .branch c yes none => .case "if" [exprValue c, stmtValue yes, .null]
  | .branch c yes (some no) => .case "if" [exprValue c, stmtValue yes, stmtValue no]
  | .loop c body => .case "while" [exprValue c, stmtValue body]
  | .declare n t init => .case "decl" [.text n, tyValue t, optional exprValue init]

/-- The statements of a block or a body as values. -/
def stmtValues : List Stmt → List Value
  | [] => []
  | s :: ss => stmtValue s :: stmtValues ss

end

/-! ## §3. Declarations. -/

/-- A parameter or a field as a value. -/
def binderValue (b : Binder) : Value := .record [.text b.name, tyValue b.ty]

/-- The keyword of a record as a value. -/
def recordTagValue : RecordTag → Value
  | .structTag => .case "struct" []
  | .classTag => .case "class" []
  | .unionTag => .case "union" []

/-- A constant of an enumeration as a value. -/
def constantValue (c : String × Int64) : Value := .list [.text c.1, .int c.2.toInt]

/-- A kind of declaration, with what belongs to it, as a value. -/
def kindValue : DeclKind → Value
  | .function ret params body =>
      .case "function" [tyValue ret, .list (params.map binderValue),
        optional (fun ss => .list (stmtValues ss)) body]
  | .variable t init => .case "variable" [tyValue t, optional exprValue init]
  | .record tag fields =>
      .case "record" [recordTagValue tag, optional (fun fs => .list (fs.map binderValue)) fields]
  | .enumeration cs => .case "enumeration" [.list (cs.map constantValue)]
  | .typedef t => .case "typedef" [tyValue t]
  | .unsupported c => .case "unsupported" [.text c]

/-- A position as a value. -/
def locationValue (l : Location) : Value :=
  .record [word32 l.file.val, word32 l.line, word32 l.column]

/-- A declaration as a value. -/
def declValue (d : Decl) : Value :=
  .record [word32 d.id.val, .text d.name, .list (d.scope.map .text),
    optional locationValue d.location, optional .text d.comment, kindValue d.kind]

/-! ## §4. Files and units. -/

/-- Where a file came from, as a value. -/
def provenanceValue : Provenance → Value
  | .main => .case "main" []
  | .user => .case "user" []
  | .system => .case "system" []

/-- A file as a value. -/
def fileValue (f : SourceFile) : Value :=
  .record [word32 f.id.val, .text f.path, provenanceValue f.provenance,
    optional (fun id => word32 id.val) f.includedFrom]

/-- A unit as a value. -/
def unitValue (u : SourceUnit) : Value :=
  .record [.list (u.files.map fileValue), .list (u.decls.map declValue)]

end DeclExport.Format
