/-
  DeclExport.Json.Conformance
  ────────────────────────────────
  **READING BY A SCHEMA.**

      conform σ room slot tree  =  the value, or the first fault from the left

  Faults are met in the order of the text: an unknown or repeated member name
  at the name, a wrong value at the value, a missing field at the closing
  brace, a break where it stands.  `room` is the number of brackets that may
  still be opened; opening one more is a flaw.

  Every call goes to a part of the tree, so reading always ends.
-/
import DeclExport.Json.Reading
import DeclExport.Json.Schema
import DeclExport.Json.Text

namespace DeclExport.Json

/-! ## §1. Scalars. -/

/-- The fault of a complete token that is of another type than wanted. -/
def Scalar.unwanted : Scalar → Fault
  | .string none => .flaw .malformed
  | .number .huge => .flaw .malformed
  | _ => .mismatch

/-- The place of a union case without content, written as its tag alone. -/
def readTag {ν : Type} (cases : List (String × Content ν)) : Scalar → Except Fault Value
  | .string (some tag) =>
      match cases.lookup tag with
      | some .unit => .ok (.case tag [])
      | some _ => .error .mismatch
      | none => .error (.unknownCase tag (cases.map Prod.fst))
  | _ => .error (.flaw .malformed)

/-- A scalar where a value of the shape is wanted. -/
def readScalar {ν : Type} (σ : Schema ν) (shape : Shape ν) (s : Scalar) : Except Fault Value :=
  match shape, s with
  | .integer min max, .number (.whole i) =>
      if min ≤ i ∧ i ≤ max then .ok (.int i) else .error .mismatch
  | .bool, .bool b => .ok (.bool b)
  | .text, .string (some t) => .ok (.text t)
  | .named n, s =>
      match σ n with
      | .union cases => readTag cases s
      | .record _ => .error s.unwanted
  | _, s => .error s.unwanted

/-- A break where a value is wanted. -/
def readBreak {ν : Type} (σ : Schema ν) (slot : Slot ν) (b : Break) : Fault :=
  .flaw <|
    match slot.nullable, b with
    | true, .literal true f => f
    | _, b => if slot.shape.isUnion σ then b.asTagged else b.asValue

/-! ## §2. Member names. -/

/-- The name of a field or the tag of a union case, if the key is one. -/
def Key.word : Key → Except Fault String
  | .name (some n) => .ok n
  | .name none => .error (.flaw .malformed)
  | .misplaced => .error (.flaw .malformed)
  | .broken b => .error (.flaw b.asTagged)

/-- The fields that are left out of the array form of a record. -/
def fallbacks {ν : Type} : List (Field ν) → Except Fault (List Value)
  | [] => .ok []
  | f :: fs =>
      match f.fallback with
      | none => .error .mismatch
      | some v => (fallbacks fs).map (v :: ·)

/-- The fields of a record in declaration order, from the members found. -/
def settleFields {ν : Type} (found : List (String × Value)) :
    List (Field ν) → Except Fault (List Value)
  | [] => .ok []
  | f :: fs =>
      match found.lookup f.name <|> f.fallback with
      | none => .error (.missingField f.name)
      | some v => (settleFields found fs).map (v :: ·)

/-- The content of a case that contains nothing. -/
def readNothing : Tree → Except Fault (List Value)
  | .scalar .null => .ok []
  | .scalar s => .error s.unwanted
  | .broken b => .error (.flaw b.asValue)
  | .array _ | .object _ => .error .mismatch

/-- The end of a case: nothing may follow its single member. -/
def closeCase (tag : String) (parts : List Value) : Members → Except Fault Value
  | .close => .ok (.case tag parts)
  | .stop f => .error (.flaw f)
  | .more _ _ _ => .error (.flaw .malformed)

/-! ## §3. Reading. -/

mutual

/-- The value of a tree in a slot. -/
def conform {ν : Type} (σ : Schema ν) (room : Nat) (slot : Slot ν) :
    Tree → Except Fault Value
  | .scalar s =>
      if slot.nullable ∧ s = .null then .ok .null else readScalar σ slot.shape s
  | .broken b => .error (readBreak σ slot b)
  | .array items =>
      match slot.shape, room with
      | .list item, room + 1 => (conformItems σ room item items).map .list
      | .list _, 0 => .error (.flaw .malformed)
      | .pair a b, room + 1 =>
          (conformFields σ room [.required "" a, .required "" b] items).map .list
      | .pair _ _, 0 => .error (.flaw .malformed)
      | .named n, room =>
          match σ n, room with
          | .record fields, room + 1 => (conformFields σ room fields items).map .record
          | .record _, 0 => .error (.flaw .malformed)
          | .union _, _ => .error (.flaw .malformed)
      | _, _ => .error .mismatch
  | .object members =>
      match slot.shape with
      | .named n =>
          match σ n, room with
          | .record fields, room + 1 =>
              (conformMembers σ room true fields [] members).map .record
          | .union cases, room + 1 => conformCase σ room cases members
          | _, 0 => .error (.flaw .malformed)
      | _ => .error .mismatch

/-- The items of a list. -/
def conformItems {ν : Type} (σ : Schema ν) (room : Nat) (item : Shape ν) :
    Items → Except Fault (List Value)
  | .close => .ok []
  | .stop f => .error (.flaw f)
  | .more t rest =>
      match conform σ room { shape := item } t with
      | .error e => .error e
      | .ok v => (conformItems σ room item rest).map (v :: ·)

/-- The fields of a record in its array form. -/
def conformFields {ν : Type} (σ : Schema ν) (room : Nat) (fields : List (Field ν)) :
    Items → Except Fault (List Value)
  | .close => fallbacks fields
  | .stop f => .error (.flaw f)
  | .more t rest =>
      match fields with
      | [] => .error (.flaw .malformed)
      | f :: fs =>
          match conform σ room f.slot t with
          | .error e => .error e
          | .ok v => (conformFields σ room fs rest).map (v :: ·)

/-- The members of a record or of a case with fields, after the members
`found`.  Unknown names are faults where the record is `closed`. -/
def conformMembers {ν : Type} (σ : Schema ν) (room : Nat) (closed : Bool)
    (fields : List (Field ν)) (found : List (String × Value)) :
    Members → Except Fault (List Value)
  | .close => settleFields found fields
  | .stop f => .error (.flaw f)
  | .more key t rest =>
      match key.word with
      | .error e => .error e
      | .ok name =>
          match fields.find? (·.name == name) with
          | none =>
              if closed then .error (.unknownField name (fields.map (·.name)))
              else match t.skipFlaw? with
                | some f => .error (.flaw f)
                | none => conformMembers σ room closed fields found rest
          | some field =>
              if (found.lookup name).isSome then .error (.duplicateField name)
              else match conform σ room field.slot t with
                | .error e => .error e
                | .ok v => conformMembers σ room closed fields ((name, v) :: found) rest

/-- The fields of a case, in either form. -/
def conformParts {ν : Type} (σ : Schema ν) (room : Nat) (fields : List (Field ν)) :
    Tree → Except Fault (List Value)
  | .scalar s => .error s.unwanted
  | .broken b => .error (.flaw b.asValue)
  | .array items =>
      match room with
      | room + 1 => conformFields σ room fields items
      | 0 => .error (.flaw .malformed)
  | .object members =>
      match room with
      | room + 1 => conformMembers σ room false fields [] members
      | 0 => .error (.flaw .malformed)

/-- The single member of a union in its object form. -/
def conformCase {ν : Type} (σ : Schema ν) (room : Nat) (cases : List (String × Content ν)) :
    Members → Except Fault Value
  | .close => .error (.flaw .malformed)
  | .stop f => .error (.flaw f)
  | .more key t rest =>
      match key.word with
      | .error e => .error e
      | .ok tag =>
          match cases.lookup tag with
          | none => .error (.unknownCase tag (cases.map Prod.fst))
          | some .unit => (readNothing t).bind (closeCase tag · rest)
          | some (.single slot) => (conform σ room slot t).bind (closeCase tag [·] rest)
          | some (.fields fields) => (conformParts σ room fields t).bind (closeCase tag · rest)

end

/-! ## §4. Whole texts. -/

/-- How many brackets may be open at once. -/
def maxDepth : Nat := 127

/-- The value of a whole text. -/
def decode {ν : Type} (σ : Schema ν) (name : ν) (text : List Char) : Except Fault Value :=
  let (tree, trailing) := read text
  match conform σ maxDepth { shape := .named name } tree with
  | .error e => .error e
  | .ok v => if trailing then .error (.flaw .malformed) else .ok v

end DeclExport.Json
