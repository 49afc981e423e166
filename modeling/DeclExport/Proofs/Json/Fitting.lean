/-
  DeclExport.Proofs.Json.Fitting
  ────────────────────────────────
  **VALUES OF A SCHEMA ARE READ BACK.**

  The writer takes any value, the reader gives back only those of the schema.
  `Value.Fits` says which those are.  A value that fits is written as a tree that
  has a text, and the reader gives the value for the tree as long as there is room
  for its nesting:

      conform σ room slot (v.tree σ slot.shape)  =  v

  A member is found by its name alone, so the names of the fields of one record, or
  of one case, must be told apart (`Schema.NamesApart`).
-/
import Mathlib.Data.List.Forall2
import DeclExport.Json.Writing
import DeclExport.Proofs.Json.Conformance
import DeclExport.Proofs.Json.Reading

namespace DeclExport.Json

variable {ν : Type} {σ : Schema ν}

/-! ## §1. Values that fit. -/

/-- The value is one that the slot is for.  An integer is within its bounds and fits
a machine word besides, as number tokens are read into one. -/
inductive Value.Fits (σ : Schema ν) : Slot ν → Value → Prop
  | null {slot : Slot ν} : slot.nullable = true → Fits σ slot .null
  | bool {slot : Slot ν} {b : Bool} : slot.shape = .bool → Fits σ slot (.bool b)
  | int {slot : Slot ν} {min max i : Int} : slot.shape = .integer min max →
      min ≤ i ∧ i ≤ max → i.natAbs < UInt64.size → Fits σ slot (.int i)
  | text {slot : Slot ν} {s : String} : slot.shape = .text → Fits σ slot (.text s)
  | list {slot : Slot ν} {item : Shape ν} {vs : List Value} : slot.shape = .list item →
      (∀ v ∈ vs, Fits σ { shape := item } v) → Fits σ slot (.list vs)
  | pair {slot : Slot ν} {a b : Shape ν} {v w : Value} : slot.shape = .pair a b →
      Fits σ { shape := a } v → Fits σ { shape := b } w → Fits σ slot (.list [v, w])
  | record {slot : Slot ν} {n : ν} {fields : List (Field ν)} {vs : List Value} :
      slot.shape = .named n → σ n = .record fields → fields.length = vs.length →
      (∀ f v, (f, v) ∈ fields.zip vs → Fits σ f.slot v) → Fits σ slot (.record vs)
  | unit {slot : Slot ν} {n : ν} {cases : List (String × Content ν)} {tag : String} :
      slot.shape = .named n → σ n = .union cases → cases.lookup tag = some .unit →
      Fits σ slot (.case tag [])
  | single {slot inner : Slot ν} {n : ν} {cases : List (String × Content ν)} {tag : String}
      {v : Value} :
      slot.shape = .named n → σ n = .union cases → cases.lookup tag = some (.single inner) →
      Fits σ inner v → Fits σ slot (.case tag [v])
  | fields {slot : Slot ν} {n : ν} {cases : List (String × Content ν)} {tag : String}
      {fields : List (Field ν)} {vs : List Value} :
      slot.shape = .named n → σ n = .union cases → cases.lookup tag = some (.fields fields) →
      fields.length = vs.length → (∀ f v, (f, v) ∈ fields.zip vs → Fits σ f.slot v) →
      Fits σ slot (.case tag vs)

/-- A property of the fields with their values, field by field. -/
theorem forall₂_of_zip {fields : List (Field ν)} {vs : List Value} {P : Field ν → Value → Prop}
    (hlength : fields.length = vs.length) (h : ∀ f v, (f, v) ∈ fields.zip vs → P f v) :
    List.Forall₂ P fields vs :=
  List.forall₂_iff_zip.mpr ⟨hlength, fun {f v} => h f v⟩

namespace Value

/-- A record fits if its fields do. -/
theorem Fits.of_record {slot : Slot ν} {n : ν} {fields : List (Field ν)} {vs : List Value}
    (hshape : slot.shape = .named n) (hdef : σ n = .record fields)
    (h : List.Forall₂ (fun f v => v.Fits σ f.slot) fields vs) : (Value.record vs).Fits σ slot :=
  .record hshape hdef h.length_eq fun _ _ hmem => (List.forall₂_iff_zip.mp h).2 hmem

/-- A case with fields fits if they do. -/
theorem Fits.of_fields {slot : Slot ν} {n : ν} {cases : List (String × Content ν)}
    {tag : String} {fields : List (Field ν)} {vs : List Value} (hshape : slot.shape = .named n)
    (hdef : σ n = .union cases) (hcase : cases.lookup tag = some (.fields fields))
    (h : List.Forall₂ (fun f v => v.Fits σ f.slot) fields vs) : (Value.case tag vs).Fits σ slot :=
  .fields hshape hdef hcase h.length_eq fun _ _ hmem => (List.forall₂_iff_zip.mp h).2 hmem

/-! ## §2. What fits is written as a tree with a text. -/

theorem isSpelt_items {item : Shape ν} {vs : List Value}
    (h : ∀ v ∈ vs, (v.tree σ item).IsSpelt) : (items σ item vs).IsSpelt := by
  induction vs with
  | nil => trivial
  | cons v vs ih =>
      obtain ⟨hv, hvs⟩ := List.forall_mem_cons.mp h
      exact ⟨hv, ih hvs⟩

theorem isSpelt_members {fields : List (Field ν)} {vs : List Value}
    (h : List.Forall₂ (fun f v => (v.tree σ f.slot.shape).IsSpelt) fields vs) :
    (members σ fields vs).IsSpelt := by
  induction h with
  | nil => trivial
  | @cons f v _ _ hv _ ih => exact ⟨⟨f.name, rfl⟩, hv, ih⟩

/-- The tree of a value that fits has a text. -/
theorem Fits.isSpelt {slot : Slot ν} {v : Value} (h : v.Fits σ slot) :
    (v.tree σ slot.shape).IsSpelt := by
  induction h with
  | null _ => trivial
  | bool _ => trivial
  | int _ _ hword => exact hword
  | text _ => rfl
  | list hshape _ ih =>
      rw [hshape]
      exact isSpelt_items ih
  | pair hshape _ _ ihv ihw =>
      rw [hshape]
      exact ⟨ihv, ihw, trivial⟩
  | record hshape hdef hlength _ ih =>
      rw [hshape, tree]
      simp only [hdef]
      exact isSpelt_members (forall₂_of_zip hlength ih)
  | unit hshape hdef hcase =>
      rw [hshape, tree]
      simp only [hdef, hcase]
      rfl
  | single hshape hdef hcase _ ih =>
      rw [hshape, tree]
      simp only [hdef, hcase]
      exact ⟨⟨_, rfl⟩, ih, trivial⟩
  | fields hshape hdef hcase hlength _ ih =>
      rw [hshape, tree]
      simp only [hdef, hcase]
      exact ⟨⟨_, rfl⟩, isSpelt_members (forall₂_of_zip hlength ih), trivial⟩

end Value

/-! ## §3. Lists, records and the contents of cases are read back. -/

/-- The lists of fields in a definition. -/
def Definition.fieldLists : Definition ν → List (List (Field ν))
  | .record fields => [fields]
  | .union cases => cases.filterMap fun c =>
      match c.2 with
      | .fields fields => some fields
      | .unit | .single _ => none

theorem Definition.mem_fieldLists_of_lookup {cases : List (String × Content ν)} {tag : String}
    {fields : List (Field ν)} (h : cases.lookup tag = some (.fields fields)) :
    fields ∈ (Definition.union cases).fieldLists := by
  obtain ⟨before, after, rfl, _⟩ := List.lookup_eq_some_iff.mp h
  simp [fieldLists]

/-- No two fields of one record, or of one case, have the same name. -/
def Schema.NamesApart (σ : Schema ν) : Prop :=
  ∀ n, ∀ fields ∈ (σ n).fieldLists, (fields.map (·.name)).Nodup

/-- The value is read back from its tree where there is room for it. -/
def Value.IsReadBack (σ : Schema ν) (slot : Slot ν) (v : Value) : Prop :=
  ∀ room, (v.tree σ slot.shape).depth ≤ room →
    conform σ room slot (v.tree σ slot.shape) = .ok v

namespace Value

theorem conformItems_items {item : Shape ν} {vs : List Value}
    (h : ∀ v ∈ vs, v.IsReadBack σ { shape := item }) {room : Nat}
    (hroom : (items σ item vs).depth ≤ room) :
    conformItems σ room item (items σ item vs) = .ok vs := by
  induction vs with
  | nil => rfl
  | cons v vs ih =>
      obtain ⟨hv, hvs⟩ := List.forall_mem_cons.mp h
      obtain ⟨hvroom, hvsroom⟩ := max_le_iff.mp hroom
      rw [items, conformItems, hv room hvroom]
      simp only [ih hvs hvsroom]
      rfl

/-- Fields that have been found are put in the order of their declaration. -/
theorem settleFields_of_found {found : List (String × Value)} {fields : List (Field ν)}
    {vs : List Value} (h : List.Forall₂ (fun f v => found.lookup f.name = some v) fields vs) :
    settleFields found fields = .ok vs := by
  induction h with
  | nil => rfl
  | cons hv _ ih =>
      rw [settleFields, hv, ih]
      rfl

/-- Where names are told apart, a field is found by its name. -/
theorem find?_name {fields : List (Field ν)} (hnodup : (fields.map (·.name)).Nodup)
    {f : Field ν} (hf : f ∈ fields) : fields.find? (·.name == f.name) = some f := by
  induction fields with
  | nil => simp at hf
  | cons g gs ih =>
      obtain ⟨hfresh, hnodup⟩ := List.nodup_cons.mp hnodup
      obtain rfl | hf := List.mem_cons.mp hf
      · simp
      · have hne : g.name ≠ f.name := fun h => hfresh (List.mem_map.mpr ⟨f, hf, h.symm⟩)
        rw [List.find?_cons_of_neg (by simpa using hne), ih hnodup hf]

/-- Written members are read back behind those that have been found: `done` are the
fields found so far, `ws` their values. -/
theorem conformMembers_members {closed : Bool} {done fs : List (Field ν)} {ws vs : List Value}
    {found : List (String × Value)} {room : Nat}
    (hnodup : ((done ++ fs).map (·.name)).Nodup)
    (hfound : List.Forall₂ (fun f w => found.lookup f.name = some w) done ws)
    (hdue : ∀ f ∈ fs, found.lookup f.name = none)
    (h : List.Forall₂ (fun f v => v.IsReadBack σ f.slot) fs vs)
    (hroom : (members σ fs vs).depth ≤ room) :
    conformMembers σ room closed (done ++ fs) found (members σ fs vs) = .ok (ws ++ vs) := by
  induction h generalizing done ws found with
  | nil =>
      rw [members, conformMembers, List.append_nil, List.append_nil]
      exact settleFields_of_found hfound
  | @cons f v fs vs hv _ ih =>
      obtain ⟨hvroom, hvsroom⟩ := max_le_iff.mp hroom
      obtain ⟨hfirst, hdue⟩ := List.forall_mem_cons.mp hdue
      have hfind := find?_name hnodup (List.mem_append_right done List.mem_cons_self)
      have hstep : conformMembers σ room closed (done ++ f :: fs) found
          (members σ (f :: fs) (v :: vs))
          = conformMembers σ room closed (done ++ f :: fs) ((f.name, v) :: found)
              (members σ fs vs) := by
        rw [members, conformMembers]
        simp only [Key.word, hfind, hfirst, hv room hvroom, Option.isSome_none,
          Bool.false_eq_true, ↓reduceIte]
      -- the name of `f` is that of no other field, so nothing else changes
      have hfresh : ∀ g ∈ done ++ fs, g.name ≠ f.name := by
        intro g hg hname
        have hnodup : (f :: (done ++ fs)).map (·.name) |>.Nodup :=
          (List.perm_middle.map _).nodup_iff.mp hnodup
        exact (List.nodup_cons.mp hnodup).1 (List.mem_map.mpr ⟨g, hg, hname⟩)
      have hlookup : ∀ g ∈ done ++ fs,
          List.lookup g.name ((f.name, v) :: found) = found.lookup g.name := by
        intro g hg
        rw [List.lookup_cons, beq_false_of_ne (hfresh g hg)]
      have hfound' : List.Forall₂
          (fun g w => List.lookup g.name ((f.name, v) :: found) = some w)
          (done ++ [f]) (ws ++ [v]) := by
        refine List.rel_append ?_ (.cons (by simp) .nil)
        refine ((List.forall₂_and_left _ _).mpr ⟨fun g hg => hg, hfound⟩).imp ?_
        rintro g w ⟨hg, hw⟩
        rw [hlookup g (List.mem_append_left _ hg), hw]
      have hdue' : ∀ g ∈ fs, List.lookup g.name ((f.name, v) :: found) = none := by
        intro g hg
        rw [hlookup g (List.mem_append_right _ hg), hdue g hg]
      have hrest := ih (by rwa [List.append_assoc]) hfound' hdue' hvsroom
      rw [List.append_assoc, List.append_assoc] at hrest
      exact hstep.trans hrest

/-- Written fields are read back. -/
theorem conformMembers_of_fields (closed : Bool) {fields : List (Field ν)} {vs : List Value}
    {room : Nat} (hnodup : (fields.map (·.name)).Nodup)
    (h : List.Forall₂ (fun f v => v.IsReadBack σ f.slot) fields vs)
    (hroom : (members σ fields vs).depth ≤ room) :
    conformMembers σ room closed fields [] (members σ fields vs) = .ok vs :=
  conformMembers_members hnodup .nil (fun _ _ => rfl) h hroom

/-! ## §4. Behind brackets, values are read back. -/

theorem exists_room {depth room : Nat} (h : depth + 1 ≤ room) :
    ∃ k, room = k + 1 ∧ depth ≤ k := ⟨room - 1, by omega, by omega⟩

variable {slot : Slot ν} {n : ν} {tag : String}

theorem isReadBack_list {item : Shape ν} {vs : List Value} (hshape : slot.shape = .list item)
    (h : ∀ v ∈ vs, v.IsReadBack σ { shape := item }) : (list vs).IsReadBack σ slot := by
  intro room hroom
  simp only [tree, hshape] at hroom ⊢
  obtain ⟨room, rfl, hitems⟩ := exists_room hroom
  rw [conform_list hshape, opening, conformItems_items h hitems]
  rfl

theorem isReadBack_pair {a b : Shape ν} {v w : Value} (hshape : slot.shape = .pair a b)
    (hv : v.IsReadBack σ { shape := a }) (hw : w.IsReadBack σ { shape := b }) :
    (list [v, w]).IsReadBack σ slot := by
  intro room hroom
  simp only [tree, hshape] at hroom ⊢
  obtain ⟨room, rfl, hitems⟩ := exists_room hroom
  obtain ⟨hfirst, hitems⟩ := max_le_iff.mp hitems
  obtain ⟨hsecond, _⟩ := max_le_iff.mp hitems
  have hv : conform σ room { shape := a } (v.tree σ a) = .ok v := hv room hfirst
  have hw : conform σ room { shape := b } (w.tree σ b) = .ok w := hw room hsecond
  rw [Tree.ofItems, conform_pair hshape]
  simp only [opening, Items.ofList, conformFields, Field.required, hv, hw]
  rfl

theorem isReadBack_record {fields : List (Field ν)} {vs : List Value}
    (hshape : slot.shape = .named n) (hdef : σ n = .record fields)
    (hnodup : (fields.map (·.name)).Nodup)
    (h : List.Forall₂ (fun f v => v.IsReadBack σ f.slot) fields vs) :
    (record vs).IsReadBack σ slot := by
  intro room hroom
  simp only [tree, hshape, hdef] at hroom ⊢
  obtain ⟨room, rfl, hmembers⟩ := exists_room hroom
  rw [conform_record hshape hdef, opening, conformMembers_of_fields true hnodup h hmembers]
  rfl

theorem isReadBack_single {inner : Slot ν} {cases : List (String × Content ν)} {v : Value}
    (hshape : slot.shape = .named n) (hdef : σ n = .union cases)
    (hcase : cases.lookup tag = some (.single inner)) (h : v.IsReadBack σ inner) :
    (case tag [v]).IsReadBack σ slot := by
  intro room hroom
  simp only [tree, hshape, hdef, hcase] at hroom ⊢
  obtain ⟨room, rfl, hmember⟩ := exists_room hroom
  obtain ⟨hcontent, _⟩ := max_le_iff.mp hmember
  rw [Tree.ofMembers, conform_union hshape hdef]
  simp only [opening, Members.ofList, conformCase, Key.word, hcase, h room hcontent]
  rfl

theorem isReadBack_fields {cases : List (String × Content ν)} {fields : List (Field ν)}
    {vs : List Value} (hshape : slot.shape = .named n) (hdef : σ n = .union cases)
    (hcase : cases.lookup tag = some (.fields fields)) (hnodup : (fields.map (·.name)).Nodup)
    (h : List.Forall₂ (fun f v => v.IsReadBack σ f.slot) fields vs) :
    (case tag vs).IsReadBack σ slot := by
  intro room hroom
  simp only [tree, hshape, hdef, hcase] at hroom ⊢
  -- a case with fields is an object in an object
  obtain ⟨outer, rfl, hmember⟩ := exists_room hroom
  obtain ⟨hcontent, _⟩ := max_le_iff.mp hmember
  obtain ⟨room, rfl, hmembers⟩ := exists_room hcontent
  rw [Tree.ofMembers, conform_union hshape hdef]
  simp only [opening, Members.ofList, conformCase, Key.word, hcase, conformParts,
    conformMembers_of_fields false hnodup h hmembers]
  rfl

/-! ## §5. THE READ-BACK THEOREM. -/

/-- **A value that fits is read back** from its tree, where there is room for it. -/
theorem Fits.isReadBack (hσ : σ.NamesApart) {v : Value} (h : v.Fits σ slot) :
    v.IsReadBack σ slot := by
  induction h with
  | null hnullable =>
      intro room _
      rw [tree, conform, if_pos ⟨hnullable, rfl⟩]
  | bool hshape =>
      intro room _
      rw [tree, conform, if_neg (by simp), hshape]
      rfl
  | int hshape hbounds _ =>
      intro room _
      rw [tree, Tree.int, conform, if_neg (by simp), hshape, readScalar, if_pos hbounds]
  | text hshape =>
      intro room _
      rw [tree, Tree.string, conform, if_neg (by simp), hshape]
      rfl
  | list hshape _ ih => exact isReadBack_list hshape ih
  | pair hshape _ _ ihv ihw => exact isReadBack_pair hshape ihv ihw
  | @record _ n fields _ hshape hdef hlength _ ih =>
      have hnodup : (fields.map (·.name)).Nodup :=
        hσ n fields (by simp [hdef, Definition.fieldLists])
      exact isReadBack_record hshape hdef hnodup (forall₂_of_zip hlength ih)
  | unit hshape hdef hcase =>
      intro room _
      rw [hshape, tree]
      simp only [hdef, hcase]
      rw [Tree.string, conform, if_neg (by simp), hshape]
      simp only [readScalar, hdef, readTag, hcase]
  | single hshape hdef hcase _ ih => exact isReadBack_single hshape hdef hcase ih
  | @fields _ n _ _ fields _ hshape hdef hcase hlength _ ih =>
      have hnodup : (fields.map (·.name)).Nodup :=
        hσ n fields (hdef ▸ Definition.mem_fieldLists_of_lookup hcase)
      exact isReadBack_fields hshape hdef hcase hnodup (forall₂_of_zip hlength ih)

end Value

/-- **Encoded values are decoded**: a value that fits is read back from its text, if
the text nests no deeper than brackets may be open. -/
theorem decode_encode (hσ : σ.NamesApart) {n : ν} {v : Value}
    (h : v.Fits σ { shape := .named n }) (hdepth : (v.tree σ (.named n)).depth ≤ maxDepth) :
    decode σ n (encode σ n v) = .ok v := by
  have hread : read (encode σ n v) = (v.tree σ (.named n), false) := read_text h.isSpelt
  have hvalue : conform σ maxDepth { shape := .named n } (v.tree σ (.named n)) = .ok v :=
    h.isReadBack hσ maxDepth hdepth
  rw [decode, hread]
  simp only [hvalue]
  rfl

end DeclExport.Json
