/-
  DeclExport.Json.Writing
  ────────────────────────────────
  **WRITING BY A SCHEMA.**

  The written form is one of those that the reader takes: every field is
  written, in declaration order and by name; records are objects; a case
  without content is its tag alone.  A value that is no value of the schema has
  no meaningful written form.
-/
import DeclExport.Json.Schema
import DeclExport.Json.Text

namespace DeclExport.Json

mutual

/-- The tree of a value of the shape. -/
def Value.tree {ν : Type} (σ : Schema ν) (shape : Shape ν) : Value → Tree
  | .null => .scalar .null
  | .bool b => .scalar (.bool b)
  | .int i => .int i
  | .text s => .string s
  | .list vs =>
      match shape with
      | .list item => .array (Value.items σ item vs)
      | .pair a b =>
          match vs with
          | [v, w] => .ofItems [v.tree σ a, w.tree σ b]
          | _ => .array .close
      | _ => .array .close
  | .record vs =>
      match shape with
      | .named n =>
          match σ n with
          | .record fields => .object (Value.members σ fields vs)
          | .union _ => .object .close
      | _ => .object .close
  | .case tag parts =>
      match shape with
      | .named n =>
          match σ n with
          | .record _ => .string tag
          | .union cases =>
              match cases.lookup tag, parts with
              | some (.single slot), [v] => .ofMembers [(tag, v.tree σ slot.shape)]
              | some (.fields fields), vs =>
                  .ofMembers [(tag, .object (Value.members σ fields vs))]
              | _, _ => .string tag
      | _ => .string tag

/-- The items of a list. -/
def Value.items {ν : Type} (σ : Schema ν) (item : Shape ν) : List Value → Items
  | [] => .close
  | v :: vs => .more (v.tree σ item) (Value.items σ item vs)

/-- The members of a record, or of the content of a case. -/
def Value.members {ν : Type} (σ : Schema ν) (fields : List (Field ν)) : List Value → Members
  | [] => .close
  | v :: vs =>
      match fields with
      | [] => .close
      | f :: fs => .more (.name (some f.name)) (v.tree σ f.slot.shape) (Value.members σ fs vs)

end

/-- The text of a value of a described type. -/
def encode {ν : Type} (σ : Schema ν) (name : ν) (v : Value) : List Char :=
  (v.tree σ (.named name)).text

end DeclExport.Json
