/-
  DeclExport.Json.Schema
  ────────────────────────────────
  **SCHEMAS AND THE FAULTS AGAINST THEM.**

  A format is described by data: every named type is a *record* with its fields
  in declaration order, or a *union* with its tagged cases.  The same
  description is read by the reader, by the writer and by the messages.

      record   — an object, or the array of its fields; unknown names are faults
      union    — an object with one member, the tag and its content; a case
                 without content may also be the tag alone
      content  — nothing (`null`), one value, or fields; unknown names among
                 the fields of a case are skipped
-/
import DeclExport.Json.Tree

namespace DeclExport.Json

/-! ## §1. Values. -/

/-- A value of a described type: names of fields and types are in the schema. -/
inductive Value where
  | null
  | bool (value : Bool)
  | int (value : Int)
  | text (value : String)
  | list (items : List Value)
  /-- The fields of a record, in declaration order. -/
  | record (fields : List Value)
  /-- A case of a union: its tag and what it contains. -/
  | case (tag : String) (parts : List Value)

/-! ## §2. Schemas. -/

/-- A type, over the names `ν` of the described types. -/
inductive Shape (ν : Type) where
  | integer (min max : Int)
  | bool
  | text
  | list (item : Shape ν)
  | pair (first second : Shape ν)
  | named (name : ν)
  deriving Repr

/-- A place for a value, which may be a place for `null` too. -/
structure Slot (ν : Type) where
  shape : Shape ν
  nullable : Bool := false
  deriving Repr

/-- A field of a record or of a case. -/
structure Field (ν : Type) where
  name : String
  slot : Slot ν
  /-- What the field holds where it is left out, if it may be. -/
  fallback : Option Value := none

/-- What a case of a union contains. -/
inductive Content (ν : Type) where
  | unit
  | single (slot : Slot ν)
  | fields (fields : List (Field ν))

/-- A described type. -/
inductive Definition (ν : Type) where
  | record (fields : List (Field ν))
  | union (cases : List (String × Content ν))

/-- The described types of a format. -/
abbrev Schema (ν : Type) := ν → Definition ν

/-- Whether a value of the shape is told apart by a tag. -/
def Shape.isUnion {ν : Type} (σ : Schema ν) : Shape ν → Bool
  | .named n =>
      match σ n with
      | .union _ => true
      | .record _ => false
  | _ => false

/-- A field that must be there. -/
def Field.required {ν : Type} (name : String) (shape : Shape ν) : Field ν :=
  { name, slot := { shape } }

/-- A field that may be left out or `null`. -/
def Field.optional {ν : Type} (name : String) (shape : Shape ν) : Field ν :=
  { name, slot := { shape, nullable := true }, fallback := some .null }

/-- A list that is empty where it is left out. -/
def Field.listOrEmpty {ν : Type} (name : String) (item : Shape ν) : Field ν :=
  { name, slot := { shape := .list item }, fallback := some (.list []) }

/-! ## §3. Faults. -/

/-- Why a text is not the text of a value of a described type. -/
inductive Fault where
  | flaw (flaw : Flaw)
  /-- A well-formed value of the wrong type or range. -/
  | mismatch
  | missingField (name : String)
  | unknownField (name : String) (known : List String)
  | duplicateField (name : String)
  | unknownCase (tag : String) (known : List String)
  deriving Repr, DecidableEq

/-- The three classes of faults. -/
inductive Category where
  | malformed
  | cutShort
  | mismatch
  deriving Repr, DecidableEq

namespace Fault

/-- The class of a fault. -/
def category : Fault → Category
  | .flaw .malformed => .malformed
  | .flaw .cutShort => .cutShort
  | _ => .mismatch

/-- A name between backticks. -/
def ticked (name : String) : String := "`" ++ name ++ "`"

/-- The names that would have been known. -/
def expected : List String → String
  | [] => "there are no fields"
  | [a] => "expected " ++ ticked a
  | [a, b] => "expected " ++ ticked a ++ " or " ++ ticked b
  | names => "expected one of " ++ ", ".intercalate (names.map ticked)

/-- The wording of the faults that name a field or a tag. -/
def detail? : Fault → Option String
  | .missingField name => some ("missing field " ++ ticked name)
  | .duplicateField name => some ("duplicate field " ++ ticked name)
  | .unknownField name known => some ("unknown field " ++ ticked name ++ ", " ++ expected known)
  | .unknownCase tag known => some ("unknown variant " ++ ticked tag ++ ", " ++ expected known)
  | .flaw _ | .mismatch => none

/-- The wording of every fault. -/
def message (f : Fault) : String :=
  f.detail?.getD <|
    match f.category with
    | .malformed => "the text is not well-formed JSON"
    | .cutShort => "the text ends too early"
    | .mismatch => "a value has the wrong type or range"

end Fault

end DeclExport.Json
