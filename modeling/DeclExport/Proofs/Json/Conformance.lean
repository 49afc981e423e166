/-
  DeclExport.Proofs.Json.Conformance
  ────────────────────────────────
  **READING BY A SCHEMA, BRACKET BY BRACKET.**

  What stands between brackets is read with one bracket less of room, and not at all
  where there is no room left (`opening`).  The laws below say what is read between
  them, for every kind of shape, and for everything that is read at one place (`Role`).
-/
import DeclExport.Json.Conformance

namespace DeclExport.Json

variable {ν : Type} {σ : Schema ν}

/-! ## §1. Opening a bracket. -/

/-- Read what stands between brackets, if there is room for them. -/
def opening {α : Type} (room : Nat) (read : Nat → Except Fault α) : Except Fault α :=
  match room with
  | 0 => .error (.flaw .malformed)
  | room + 1 => read room

theorem opening_eq_ok_iff {α : Type} {room : Nat} {read : Nat → Except Fault α} {a : α} :
    opening room read = .ok a ↔ ∃ k, room = k + 1 ∧ read k = .ok a := by
  cases room <;> simp [opening]

theorem map_eq_ok_iff {ε α β : Type} {f : α → β} {x : Except ε α} {b : β} :
    x.map f = .ok b ↔ ∃ a, x = .ok a ∧ b = f a := by
  cases x <;> simp [Except.map, eq_comm]

theorem bind_eq_ok_iff {ε α β : Type} {f : α → Except ε β} {x : Except ε α} {b : β} :
    x.bind f = .ok b ↔ ∃ a, x = .ok a ∧ f a = .ok b := by
  cases x <;> simp [Except.bind]

/-! ## §2. Arrays and objects. -/

variable {room : Nat} {slot : Slot ν} {n : ν} {items : Items} {members : Members}

theorem conform_list {item : Shape ν} (hshape : slot.shape = .list item) :
    conform σ room slot (.array items)
      = opening room fun k => (conformItems σ k item items).map .list := by
  obtain ⟨shape, nullable⟩ := slot
  obtain rfl : shape = .list item := hshape
  cases room <;> rfl

theorem conform_pair {a b : Shape ν} (hshape : slot.shape = .pair a b) :
    conform σ room slot (.array items)
      = opening room fun k =>
          (conformFields σ k [.required "" a, .required "" b] items).map .list := by
  obtain ⟨shape, nullable⟩ := slot
  obtain rfl : shape = .pair a b := hshape
  cases room <;> rfl

theorem conform_record_array {fields : List (Field ν)} (hshape : slot.shape = .named n)
    (hdef : σ n = .record fields) :
    conform σ room slot (.array items)
      = opening room fun k => (conformFields σ k fields items).map .record := by
  obtain ⟨shape, nullable⟩ := slot
  obtain rfl : shape = .named n := hshape
  cases room <;> simp only [conform, hdef, opening]

theorem conform_record {fields : List (Field ν)} (hshape : slot.shape = .named n)
    (hdef : σ n = .record fields) :
    conform σ room slot (.object members)
      = opening room fun k => (conformMembers σ k true fields [] members).map .record := by
  obtain ⟨shape, nullable⟩ := slot
  obtain rfl : shape = .named n := hshape
  cases room <;> simp only [conform, hdef, opening]

theorem conform_union {cases : List (String × Content ν)} (hshape : slot.shape = .named n)
    (hdef : σ n = .union cases) :
    conform σ room slot (.object members)
      = opening room fun k => conformCase σ k cases members := by
  obtain ⟨shape, nullable⟩ := slot
  obtain rfl : shape = .named n := hshape
  cases room <;> simp only [conform, hdef, opening]

theorem conformParts_array (fields : List (Field ν)) :
    conformParts σ room fields (.array items)
      = opening room fun k => conformFields σ k fields items := by
  cases room <;> rfl

theorem conformParts_object (fields : List (Field ν)) :
    conformParts σ room fields (.object members)
      = opening room fun k => conformMembers σ k false fields [] members := by
  cases room <;> rfl

/-! ## §3. Names. -/

/-- Names of fields and tags are strings without surrogates left alone. -/
theorem Key.eq_of_word_eq_ok {key : Key} {name : String} (h : key.word = .ok name) :
    key = .name (some name) := by
  match key, h with
  | .name (some _), rfl => rfl

/-! ## §4. Roles. -/

/-- What a tree stands for: a value in a slot, or the fields of a record, which is closed,
or of a case. -/
inductive Role (ν : Type) where
  | value (slot : Slot ν)
  | fields (closed : Bool) (fields : List (Field ν))

/-- What is read of the fields of a record or of a case. -/
def Role.read (σ : Schema ν) (room : Nat) : Role ν → Tree → Except Fault Value
  | .value slot, t => conform σ room slot t
  | .fields _ fs, .array items =>
      opening room fun k => (conformFields σ k fs items).map .record
  | .fields closed fs, .object members =>
      opening room fun k => (conformMembers σ k closed fs [] members).map .record
  | .fields _ _, .scalar _ | .fields _ _, .broken _ => .error .mismatch

/-- The content of a case is read to the case, by a reader of roles. -/
inductive Content.IsReadTo (R : Role ν → Tree → Value → Prop) (tag : String) :
    Content ν → Tree → Value → Prop
  | unit : IsReadTo R tag .unit (.scalar .null) (.case tag [])
  | single {slot : Slot ν} {t : Tree} {v : Value} : R (.value slot) t v →
      IsReadTo R tag (.single slot) t (.case tag [v])
  | parts {fields : List (Field ν)} {t : Tree} {vs : List Value} :
      R (.fields false fields) t (.record vs) → IsReadTo R tag (.fields fields) t (.case tag vs)

namespace Content

variable {R : Role ν → Tree → Value → Prop} {tag : String} {t : Tree} {v : Value}

theorem isReadTo_unit_iff :
    (Content.unit : Content ν).IsReadTo R tag t v ↔ t = .scalar .null ∧ v = .case tag [] := by
  constructor
  · rintro ⟨⟩
    exact ⟨rfl, rfl⟩
  · rintro ⟨rfl, rfl⟩
    exact .unit

theorem isReadTo_single_iff :
    (Content.single slot).IsReadTo R tag t v
      ↔ ∃ w, R (.value slot) t w ∧ v = .case tag [w] := by
  constructor
  · rintro (_ | hw)
    exact ⟨_, hw, rfl⟩
  · rintro ⟨w, hw, rfl⟩
    exact .single hw

theorem isReadTo_fields_iff {fields : List (Field ν)} :
    (Content.fields fields).IsReadTo R tag t v
      ↔ ∃ vs, R (.fields false fields) t (.record vs) ∧ v = .case tag vs := by
  constructor
  · rintro (_ | _ | hvs)
    exact ⟨_, hvs, rfl⟩
  · rintro ⟨vs, hvs, rfl⟩
    exact .parts hvs

end Content

theorem conformParts_eq_ok_iff {fields : List (Field ν)} {t : Tree} {vs : List Value} :
    conformParts σ room fields t = .ok vs
      ↔ (Role.fields false fields).read σ room t = .ok (.record vs) := by
  cases t with
  | scalar s => simp [conformParts, Role.read]
  | broken b => simp [conformParts, Role.read]
  | array items =>
      rw [conformParts_array, Role.read]
      cases room <;> simp [opening, map_eq_ok_iff]
  | object members =>
      rw [conformParts_object, Role.read]
      cases room <;> simp [opening, map_eq_ok_iff]

theorem readNothing_eq_ok_iff {t : Tree} {vs : List Value} :
    readNothing t = .ok vs ↔ t = .scalar .null ∧ vs = [] := by
  match t with
  | .scalar .null => simp [readNothing, eq_comm]
  | .scalar (.bool _) | .scalar (.number _) | .scalar (.string _) => simp [readNothing]
  | .broken _ | .array _ | .object _ => simp [readNothing]

theorem closeCase_eq_ok_iff {tag : String} {vs : List Value} {members : Members} {v : Value} :
    closeCase tag vs members = .ok v ↔ members = .close ∧ v = .case tag vs := by
  cases members <;> simp [closeCase, eq_comm]

/-- What the tag of a case is there for, and nothing behind it. -/
theorem conformCase_name_eq_ok_iff {cases : List (String × Content ν)} {tag : String} {t : Tree}
    {rest : Members} {content : Content ν} {v : Value} (hcase : cases.lookup tag = some content) :
    conformCase σ room cases (.more (.name (some tag)) t rest) = .ok v
      ↔ rest = .close
        ∧ content.IsReadTo (fun role t v => role.read σ room t = .ok v) tag t v := by
  rw [conformCase]
  simp only [Key.word, hcase]
  cases content with
  | unit =>
      simp only [bind_eq_ok_iff, readNothing_eq_ok_iff, closeCase_eq_ok_iff,
        Content.isReadTo_unit_iff]
      grind
  | single slot =>
      simp only [bind_eq_ok_iff, closeCase_eq_ok_iff, Content.isReadTo_single_iff, Role.read]
      grind
  | fields fields =>
      simp only [bind_eq_ok_iff, conformParts_eq_ok_iff, closeCase_eq_ok_iff,
        Content.isReadTo_fields_iff]
      grind

/-- The one member of a union is read as its case. -/
theorem conformCase_eq_ok_iff {cases : List (String × Content ν)} {members : Members}
    {v : Value} :
    conformCase σ room cases members = .ok v
      ↔ ∃ tag t content, members = .ofList [(tag, t)] ∧ cases.lookup tag = some content
          ∧ content.IsReadTo (fun role t v => role.read σ room t = .ok v) tag t v := by
  constructor
  · intro h
    cases members with
    | close => cases h
    | stop f => cases h
    | more key t rest =>
        cases hword : key.word with
        | error e => simp [conformCase, hword] at h
        | ok tag =>
            obtain rfl := Key.eq_of_word_eq_ok hword
            cases hcase : cases.lookup tag with
            | none => simp [conformCase, Key.word, hcase] at h
            | some content =>
                obtain ⟨rfl, hcontent⟩ := (conformCase_name_eq_ok_iff hcase).mp h
                exact ⟨tag, t, content, rfl, hcase, hcontent⟩
  · rintro ⟨tag, t, content, rfl, hcase, hcontent⟩
    exact (conformCase_name_eq_ok_iff hcase).mpr ⟨rfl, hcontent⟩

end DeclExport.Json
