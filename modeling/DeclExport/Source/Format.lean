/-
  DeclExport.Source.Format
  ────────────────────────────────
  **THE INTERCHANGE FORMAT OF SOURCE UNITS.**

  The front end hands a source unit over as JSON.  `format` describes the
  types of the format, one definition each; `Part` names them.  Records reject
  members they do not know, the contents of union cases skip them.
-/
import DeclExport.Json.Schema

namespace DeclExport.Format

open DeclExport.Json

/-! ## §1. Named types and shapes. -/

/-- The named types of the format. -/
inductive Part where
  | unit | file | provenance | location
  | type | binaryOp | unaryOp | expr | stmt
  | param | field | recordTag | kind | decl
  deriving Repr, DecidableEq

/-- Widths of machine types. -/
def u16 : Shape Part := .integer 0 (UInt16.size - 1)

/-- Identities, lines and columns. -/
def u32 : Shape Part := .integer 0 (UInt32.size - 1)

/-- Integer literals and the values of constants. -/
def i64 : Shape Part := .integer Int64.minValue.toInt Int64.maxValue.toInt

/-- Cases that are tags alone. -/
def tags (names : List String) : Definition Part :=
  .union (names.map fun n => (n, .unit))

/-- A case that contains one value. -/
def single (shape : Shape Part) : Content Part := .single { shape }

/-- Parameters and fields alike: a name and a type. -/
def binder : Definition Part :=
  .record [.required "name" .text, .required "ty" (.named .type)]

/-- The definitions of the format. -/
def format : Schema Part
  | .unit =>
      .record [.required "files" (.list (.named .file)),
        .required "decls" (.list (.named .decl))]
  | .file =>
      .record [.required "id" u32, .required "path" .text,
        .required "provenance" (.named .provenance), .optional "included_from" u32]
  | .provenance => tags ["main", "user", "system"]
  | .location => .record [.required "file" u32, .required "line" u32, .required "column" u32]
  | .type =>
      .union [("void", .unit), ("bool", .unit), ("char", .unit),
        ("int", .fields [.required "bits" u16, .required "signed" .bool]),
        ("float", .fields [.required "bits" u16]),
        ("pointer", single (.named .type)), ("reference", single (.named .type)),
        ("const", single (.named .type)), ("named", single .text)]
  | .binaryOp =>
      tags ["add", "sub", "mul", "div", "rem", "lt", "le", "gt", "ge", "eq", "ne", "and", "or"]
  | .unaryOp => tags ["neg", "not", "deref", "addr_of"]
  | .expr =>
      .union [("int", single i64), ("bool", single .bool), ("var", single .text),
        ("call", .fields [.required "callee" .text,
          .required "args" (.list (.named .expr))]),
        ("binary", .fields [.required "op" (.named .binaryOp),
          .required "lhs" (.named .expr), .required "rhs" (.named .expr)]),
        ("unary", .fields [.required "op" (.named .unaryOp),
          .required "operand" (.named .expr)]),
        ("assign", .fields [.required "target" (.named .expr),
          .required "value" (.named .expr)])]
  | .stmt =>
      .union [("return", .single { shape := .named .expr, nullable := true }),
        ("expr", single (.named .expr)), ("block", single (.list (.named .stmt))),
        ("if", .fields [.required "cond" (.named .expr), .required "then" (.named .stmt),
          .optional "otherwise" (.named .stmt)]),
        ("while", .fields [.required "cond" (.named .expr), .required "body" (.named .stmt)]),
        ("decl", .fields [.required "name" .text, .required "ty" (.named .type),
          .optional "init" (.named .expr)])]
  | .param => binder
  | .field => binder
  | .recordTag => tags ["struct", "class", "union"]
  | .kind =>
      .union [("function", .fields [.required "ret" (.named .type),
          .required "params" (.list (.named .param)),
          .optional "body" (.list (.named .stmt))]),
        ("variable", .fields [.required "ty" (.named .type), .optional "init" (.named .expr)]),
        ("record", .fields [.required "tag" (.named .recordTag),
          .optional "fields" (.list (.named .field))]),
        ("enumeration", .fields [.required "constants" (.list (.pair .text i64))]),
        ("typedef", .fields [.required "ty" (.named .type)]),
        ("unsupported", .fields [.required "clang_kind" .text])]
  | .decl =>
      .record [.required "id" u32, .required "name" .text, .listOrEmpty "scope" .text,
        .optional "location" (.named .location), .optional "comment" .text,
        .required "kind" (.named .kind)]

end DeclExport.Format
