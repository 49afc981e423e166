/-
  DeclExport.Proofs.Json.Unknown
  ────────────────────────────────
  **MEMBERS THAT ARE NOT KNOWN.**

  A member with an unknown name is met in one of two ways, wherever it stands:

      in a record               a fault: nothing is read (`not_isRead_of_unknownMember`)
      in the fields of a case   nothing: the outcome is the one without the member
                                (`Tree.conform_known`)

  For the first the places of a tree are followed down the schema: if the whole is
  read, so is each of its parts.
-/
import DeclExport.Proofs.Json.Conformance

namespace DeclExport.Json

variable {ν : Type} {σ : Schema ν}

/-! ## §1. Parts of a tree. -/

/-- The items of an array. -/
def Items.trees : Items → List Tree
  | .close | .stop _ => []
  | .more item rest => item :: rest.trees

/-- The members of an object. -/
def Members.entries : Members → List (Key × Tree)
  | .close | .stop _ => []
  | .more key value rest => (key, value) :: rest.entries

/-- The tree in the second place is one that a value in the first one is made of. -/
inductive IsPart (σ : Schema ν) : Slot ν × Tree → Slot ν × Tree → Prop
  /-- An item of a list. -/
  | item {slot : Slot ν} {shape : Shape ν} {items : Items} {t : Tree} :
      slot.shape = .list shape → t ∈ items.trees → IsPart σ (slot, .array items) ({ shape }, t)
  /-- A half of a pair. -/
  | half {slot : Slot ν} {a b : Shape ν} {items : Items} {f : Field ν} {t : Tree} :
      slot.shape = .pair a b →
      (f, t) ∈ [Field.required "" a, .required "" b].zip items.trees →
      IsPart σ (slot, .array items) (f.slot, t)
  /-- A field of a record in its array form. -/
  | recordItem {slot : Slot ν} {n : ν} {fields : List (Field ν)} {items : Items} {f : Field ν}
      {t : Tree} :
      slot.shape = .named n → σ n = .record fields → (f, t) ∈ fields.zip items.trees →
      IsPart σ (slot, .array items) (f.slot, t)
  /-- A field of a record in its object form. -/
  | recordMember {slot : Slot ν} {n : ν} {fields : List (Field ν)} {members : Members}
      {name : String} {f : Field ν} {t : Tree} :
      slot.shape = .named n → σ n = .record fields → (.name (some name), t) ∈ members.entries →
      fields.find? (·.name == name) = some f → IsPart σ (slot, .object members) (f.slot, t)
  /-- The one value of a case. -/
  | content {slot inner : Slot ν} {n : ν} {cases : List (String × Content ν)}
      {members : Members} {tag : String} {t : Tree} :
      slot.shape = .named n → σ n = .union cases → (.name (some tag), t) ∈ members.entries →
      cases.lookup tag = some (.single inner) → IsPart σ (slot, .object members) (inner, t)
  /-- A field of a case in its array form. -/
  | caseItem {slot : Slot ν} {n : ν} {cases : List (String × Content ν)} {members : Members}
      {tag : String} {fields : List (Field ν)} {items : Items} {f : Field ν} {t : Tree} :
      slot.shape = .named n → σ n = .union cases →
      (.name (some tag), .array items) ∈ members.entries →
      cases.lookup tag = some (.fields fields) → (f, t) ∈ fields.zip items.trees →
      IsPart σ (slot, .object members) (f.slot, t)
  /-- A field of a case in its object form. -/
  | caseMember {slot : Slot ν} {n : ν} {cases : List (String × Content ν)}
      {members inner : Members} {tag name : String} {fields : List (Field ν)} {f : Field ν}
      {t : Tree} :
      slot.shape = .named n → σ n = .union cases →
      (.name (some tag), .object inner) ∈ members.entries →
      cases.lookup tag = some (.fields fields) → (.name (some name), t) ∈ inner.entries →
      fields.find? (·.name == name) = some f → IsPart σ (slot, .object members) (f.slot, t)

/-! ## §2. What is read is read part by part. -/

/-- A value is read in the place, with some room. -/
def IsRead (σ : Schema ν) (p : Slot ν × Tree) : Prop :=
  ∃ room v, conform σ room p.1 p.2 = .ok v

theorem isRead_of_conformItems {room : Nat} {shape : Shape ν} :
    ∀ {items : Items} {vs : List Value}, conformItems σ room shape items = .ok vs →
      ∀ t ∈ items.trees, IsRead σ ({ shape }, t)
  | .close, _, _ => by simp [Items.trees]
  | .more t rest, _, h => by
      rw [conformItems] at h
      cases hv : conform σ room { shape } t with
      | error e => simp [hv] at h
      | ok v =>
          simp only [hv] at h
          obtain ⟨_, hrest, _⟩ := map_eq_ok_iff.mp h
          exact List.forall_mem_cons.mpr ⟨⟨room, v, hv⟩, isRead_of_conformItems hrest⟩

theorem isRead_of_conformFields {room : Nat} :
    ∀ {items : Items} {fields : List (Field ν)} {vs : List Value},
      conformFields σ room fields items = .ok vs →
        ∀ p ∈ fields.zip items.trees, IsRead σ (p.1.slot, p.2)
  | .close, _, _, _ => by simp [Items.trees]
  | .more t rest, [], _, _ => by simp
  | .more t rest, f :: fs, _, h => by
      rw [conformFields] at h
      cases hv : conform σ room f.slot t with
      | error e => simp [hv] at h
      | ok v =>
          simp only [hv] at h
          obtain ⟨_, hrest, _⟩ := map_eq_ok_iff.mp h
          rw [Items.trees, List.zip_cons_cons]
          exact List.forall_mem_cons.mpr ⟨⟨room, v, hv⟩, isRead_of_conformFields hrest⟩

/-- A member that has been passed without a fault: its value has been read, or it has
been skipped, which no record does. -/
inductive Passed (σ : Schema ν) (closed : Bool) (fields : List (Field ν)) : Key × Tree → Prop
  | known {name : String} {f : Field ν} {t : Tree} :
      fields.find? (·.name == name) = some f → IsRead σ (f.slot, t) →
      Passed σ closed fields (.name (some name), t)
  | skipped {name : String} {t : Tree} :
      fields.find? (·.name == name) = none → closed = false →
      Passed σ closed fields (.name (some name), t)

theorem passed_of_conformMembers {room : Nat} {closed : Bool} {fields : List (Field ν)} :
    ∀ {members : Members} {found : List (String × Value)} {vs : List Value},
      conformMembers σ room closed fields found members = .ok vs →
        ∀ m ∈ members.entries, Passed σ closed fields m
  | .close, _, _, _ => by simp [Members.entries]
  | .more key t rest, found, _, h => by
      rw [conformMembers] at h
      cases hword : key.word with
      | error e => simp [hword] at h
      | ok name =>
          obtain rfl := Key.eq_of_word_eq_ok hword
          simp only [hword] at h
          refine List.forall_mem_cons.mpr ?_
          cases hfind : fields.find? (·.name == name) with
          | none =>
              simp only [hfind] at h
              split at h
              · simp at h
              · rename_i hopen
                split at h
                · simp at h
                · exact ⟨.skipped hfind (by simpa using hopen), passed_of_conformMembers h⟩
          | some f =>
              simp only [hfind] at h
              split at h
              · simp at h
              · cases hv : conform σ room f.slot t with
                | error e => simp [hv] at h
                | ok v =>
                    simp only [hv] at h
                    exact ⟨.known hfind ⟨room, v, hv⟩, passed_of_conformMembers h⟩

/-- The value of a member that has been passed has been read, if its name is known. -/
theorem Passed.isRead {closed : Bool} {fields : List (Field ν)} {name : String} {f : Field ν}
    {t : Tree} (h : Passed σ closed fields (.name (some name), t))
    (hf : fields.find? (·.name == name) = some f) : IsRead σ (f.slot, t) := by
  cases h with
  | known hfind hread => exact Option.some.inj (hfind.symm.trans hf) ▸ hread
  | skipped hfind _ => simp [hfind] at hf

/-- What a record passes is known. -/
theorem Passed.isKnown {fields : List (Field ν)} {name : String} {t : Tree}
    (h : Passed σ true fields (.name (some name), t)) : name ∈ fields.map (·.name) := by
  cases h with
  | @known _ f _ hfind _ =>
      have hname : f.name = name := by simpa using List.find?_some hfind
      exact List.mem_map.mpr ⟨f, List.mem_of_find?_eq_some hfind, hname⟩
  | skipped _ hopen => simp at hopen

section

variable {room : Nat} {slot : Slot ν} {n : ν} {members : Members} {v : Value}

/-- A record in its object form has been read member by member. -/
theorem passed_of_conform_record {fields : List (Field ν)} (hshape : slot.shape = .named n)
    (hdef : σ n = .record fields) (h : conform σ room slot (.object members) = .ok v) :
    ∀ m ∈ members.entries, Passed σ true fields m := by
  rw [conform_record hshape hdef] at h
  obtain ⟨_, rfl, h⟩ := opening_eq_ok_iff.mp h
  obtain ⟨_, hmembers, _⟩ := map_eq_ok_iff.mp h
  exact passed_of_conformMembers hmembers

/-- What a case contains has been read. -/
def ContentIsRead (σ : Schema ν) (content : Content ν) (t : Tree) : Prop :=
  match content with
  | .unit => True
  | .single slot => IsRead σ (slot, t)
  | .fields fields => ∃ room vs, conformParts σ room fields t = .ok vs

/-- A union in its object form is one member, the tag with what the case contains. -/
theorem exists_of_conformCase {cases : List (String × Content ν)}
    (h : conformCase σ room cases members = .ok v) :
    ∃ tag t content, members = .more (.name (some tag)) t .close
      ∧ cases.lookup tag = some content ∧ ContentIsRead σ content t := by
  obtain ⟨tag, t, content, rfl, hcase, hcontent⟩ := conformCase_eq_ok_iff.mp h
  refine ⟨tag, t, content, rfl, hcase, ?_⟩
  cases hcontent with
  | unit => trivial
  | single hv => exact ⟨room, _, hv⟩
  | parts hvs => exact ⟨room, _, conformParts_eq_ok_iff.mpr hvs⟩

theorem contentIsRead_of_conform_union {cases : List (String × Content ν)}
    (hshape : slot.shape = .named n) (hdef : σ n = .union cases)
    (h : conform σ room slot (.object members) = .ok v) {tag : String} {content : Content ν}
    {t : Tree} (hmem : (.name (some tag), t) ∈ members.entries)
    (hcase : cases.lookup tag = some content) : ContentIsRead σ content t := by
  rw [conform_union hshape hdef] at h
  obtain ⟨_, rfl, h⟩ := opening_eq_ok_iff.mp h
  obtain ⟨tag', t', content', rfl, hcase', hread⟩ := exists_of_conformCase h
  obtain ⟨rfl, rfl⟩ : tag = tag' ∧ t = t' := by simpa [Members.entries] using hmem
  obtain rfl := Option.some.inj (hcase'.symm.trans hcase)
  exact hread

end

/-- **Parts are read**: where a value is read, so is each part of it. -/
theorem IsPart.isRead {p q : Slot ν × Tree} (h : IsPart σ p q) (hp : IsRead σ p) :
    IsRead σ q := by
  obtain ⟨room, v, hv⟩ := hp
  cases h with
  | item hshape ht =>
      rw [conform_list hshape] at hv
      obtain ⟨_, rfl, hv⟩ := opening_eq_ok_iff.mp hv
      obtain ⟨_, hitems, _⟩ := map_eq_ok_iff.mp hv
      exact isRead_of_conformItems hitems _ ht
  | half hshape ht =>
      rw [conform_pair hshape] at hv
      obtain ⟨_, rfl, hv⟩ := opening_eq_ok_iff.mp hv
      obtain ⟨_, hfields, _⟩ := map_eq_ok_iff.mp hv
      exact isRead_of_conformFields hfields _ ht
  | recordItem hshape hdef ht =>
      rw [conform_record_array hshape hdef] at hv
      obtain ⟨_, rfl, hv⟩ := opening_eq_ok_iff.mp hv
      obtain ⟨_, hfields, _⟩ := map_eq_ok_iff.mp hv
      exact isRead_of_conformFields hfields _ ht
  | recordMember hshape hdef ht hfind =>
      exact (passed_of_conform_record hshape hdef hv _ ht).isRead hfind
  | content hshape hdef ht hcase =>
      exact contentIsRead_of_conform_union hshape hdef hv ht hcase
  | caseItem hshape hdef ht hcase hitem =>
      obtain ⟨_, _, hparts⟩ := contentIsRead_of_conform_union hshape hdef hv ht hcase
      rw [conformParts_array] at hparts
      obtain ⟨_, rfl, hfields⟩ := opening_eq_ok_iff.mp hparts
      exact isRead_of_conformFields hfields _ hitem
  | caseMember hshape hdef ht hcase hmember hfind =>
      obtain ⟨_, _, hparts⟩ := contentIsRead_of_conform_union hshape hdef hv ht hcase
      rw [conformParts_object] at hparts
      obtain ⟨_, rfl, hmembers⟩ := opening_eq_ok_iff.mp hparts
      exact (passed_of_conformMembers hmembers _ hmember).isRead hfind

/-! ## §3. In a record, a fault. -/

/-- Somewhere in the place, a record has a member whose name is that of no field. -/
inductive HasUnknownMember (σ : Schema ν) : Slot ν × Tree → Prop
  | here {slot : Slot ν} {n : ν} {fields : List (Field ν)} {members : Members} {name : String}
      {t : Tree} :
      slot.shape = .named n → σ n = .record fields → (.name (some name), t) ∈ members.entries →
      name ∉ fields.map (·.name) → HasUnknownMember σ (slot, .object members)
  | part {p q : Slot ν × Tree} : IsPart σ p q → HasUnknownMember σ q → HasUnknownMember σ p

/-- **Records take no unknown members**, at any depth: nothing is read. -/
theorem not_isRead_of_unknownMember {p : Slot ν × Tree} (h : HasUnknownMember σ p) :
    ¬ IsRead σ p := by
  induction h with
  | @here slot n fields members name t hshape hdef hmem hunknown =>
      rintro ⟨room, v, hv⟩
      exact hunknown (passed_of_conform_record hshape hdef hv _ hmem).isKnown
  | part hpart _ ih => exact fun hp => ih (hpart.isRead hp)

/-! ## §4. In the fields of a case, nothing. -/

mutual

/-- The tree without the members that are skipped: those with an unknown name among
the fields of a case. -/
def Tree.known (σ : Schema ν) (slot : Slot ν) : Tree → Tree
  | .scalar s => .scalar s
  | .broken b => .broken b
  | .array items =>
      match slot.shape with
      | .list item => .array (items.known σ item)
      | .pair a b => .array (items.knownFields σ [.required "" a, .required "" b])
      | .named n =>
          match σ n with
          | .record fields => .array (items.knownFields σ fields)
          | .union _ => .array items
      | _ => .array items
  | .object members =>
      match slot.shape with
      | .named n =>
          match σ n with
          | .record fields => .object (members.known σ true fields)
          | .union cases => .object (members.knownCase σ cases)
      | _ => .object members

/-- The items of a list. -/
def Items.known (σ : Schema ν) (item : Shape ν) : Items → Items
  | .close => .close
  | .stop f => .stop f
  | .more t rest => .more (t.known σ { shape := item }) (rest.known σ item)

/-- The fields of a record or of a case, in the array form. -/
def Items.knownFields (σ : Schema ν) (fields : List (Field ν)) : Items → Items
  | .close => .close
  | .stop f => .stop f
  | .more t rest =>
      match fields with
      | [] => .more t rest
      | f :: fs => .more (t.known σ f.slot) (rest.knownFields σ fs)

/-- The members of a record, or of a case.  What has a flaw is not skipped. -/
def Members.known (σ : Schema ν) (closed : Bool) (fields : List (Field ν)) : Members → Members
  | .close => .close
  | .stop f => .stop f
  | .more key t rest =>
      match key.word with
      | .error _ => .more key t rest
      | .ok name =>
          match fields.find? (·.name == name) with
          | some f => .more key (t.known σ f.slot) (rest.known σ closed fields)
          | none =>
              if closed || t.skipFlaw?.isSome then .more key t rest
              else rest.known σ closed fields

/-- The fields of a case, in either form. -/
def Tree.knownParts (σ : Schema ν) (fields : List (Field ν)) : Tree → Tree
  | .scalar s => .scalar s
  | .broken b => .broken b
  | .array items => .array (items.knownFields σ fields)
  | .object members => .object (members.known σ false fields)

/-- The single member of a union in its object form. -/
def Members.knownCase (σ : Schema ν) (cases : List (String × Content ν)) : Members → Members
  | .close => .close
  | .stop f => .stop f
  | .more key t rest =>
      match key.word with
      | .error _ => .more key t rest
      | .ok tag =>
          match cases.lookup tag with
          | some (.single slot) => .more key (t.known σ slot) rest
          | some (.fields fields) => .more key (t.knownParts σ fields) rest
          | some .unit | none => .more key t rest

end

mutual

/-- **Unknown members of cases are skipped**, at any depth: the outcome is the one
without them. -/
theorem Tree.conform_known (room : Nat) (slot : Slot ν) : ∀ t : Tree,
    conform σ room slot (t.known σ slot) = conform σ room slot t
  | .scalar _ => by rw [Tree.known]
  | .broken _ => by rw [Tree.known]
  | .array items => by
      cases hshape : slot.shape with
      | list item =>
          simp only [Tree.known, hshape, conform_list hshape, Items.conformItems_known]
      | pair a b =>
          simp only [Tree.known, hshape, conform_pair hshape, Items.conformFields_known]
      | named n =>
          cases hdef : σ n with
          | union cases => simp only [Tree.known, hshape, hdef]
          | record fields =>
              simp only [Tree.known, hshape, hdef, conform_record_array hshape hdef,
                Items.conformFields_known]
      | _ => simp only [Tree.known, hshape]
  | .object members => by
      cases hshape : slot.shape with
      | named n =>
          cases hdef : σ n with
          | union cases =>
              simp only [Tree.known, hshape, hdef, conform_union hshape hdef,
                Members.conformCase_known]
          | record fields =>
              simp only [Tree.known, hshape, hdef, conform_record hshape hdef,
                Members.conformMembers_known]
      | _ => simp only [Tree.known, hshape]

theorem Items.conformItems_known (room : Nat) (item : Shape ν) : ∀ items : Items,
    conformItems σ room item (items.known σ item) = conformItems σ room item items
  | .close => by rw [Items.known]
  | .stop _ => by rw [Items.known]
  | .more t rest => by
      rw [Items.known, conformItems, conformItems, Tree.conform_known room _ t,
        Items.conformItems_known room item rest]

theorem Items.conformFields_known (room : Nat) : ∀ (fields : List (Field ν)) (items : Items),
    conformFields σ room fields (items.knownFields σ fields) = conformFields σ room fields items
  | _, .close => by rw [Items.knownFields]
  | _, .stop _ => by rw [Items.knownFields]
  | [], .more _ _ => by rw [Items.knownFields]
  | f :: fs, .more t rest => by
      simp only [Items.knownFields, conformFields, Tree.conform_known room f.slot t,
        Items.conformFields_known room fs rest]

theorem Members.conformMembers_known (room : Nat) (closed : Bool) (fields : List (Field ν)) :
    ∀ (members : Members) (found : List (String × Value)),
      conformMembers σ room closed fields found (members.known σ closed fields)
        = conformMembers σ room closed fields found members
  | .close, _ => by rw [Members.known]
  | .stop _, _ => by rw [Members.known]
  | .more key t rest, found => by
      rw [Members.known]
      cases hword : key.word with
      | error e => rfl
      | ok name =>
          cases hfind : fields.find? (·.name == name) with
          | some f =>
              simp only [hfind, conformMembers, hword, Tree.conform_known room f.slot t,
                Members.conformMembers_known room closed fields rest]
          | none =>
              cases hkept : closed || t.skipFlaw?.isSome with
              | true => simp only [hfind, ↓reduceIte]
              | false =>
                  obtain ⟨rfl, hskip⟩ := Bool.or_eq_false_iff.mp hkept
                  have hskip : t.skipFlaw? = none := by simpa using hskip
                  simp only [hfind, Bool.false_eq_true, ↓reduceIte, conformMembers, hword, hskip,
                    Members.conformMembers_known room false fields rest]

theorem Tree.conformParts_known (room : Nat) (fields : List (Field ν)) : ∀ t : Tree,
    conformParts σ room fields (t.knownParts σ fields) = conformParts σ room fields t
  | .scalar _ => by rw [Tree.knownParts]
  | .broken _ => by rw [Tree.knownParts]
  | .array items => by
      simp only [Tree.knownParts, conformParts_array, Items.conformFields_known]
  | .object members => by
      simp only [Tree.knownParts, conformParts_object, Members.conformMembers_known]

theorem Members.conformCase_known (room : Nat) (cases : List (String × Content ν)) :
    ∀ members : Members,
      conformCase σ room cases (members.knownCase σ cases) = conformCase σ room cases members
  | .close => by rw [Members.knownCase]
  | .stop _ => by rw [Members.knownCase]
  | .more key t rest => by
      rw [Members.knownCase]
      cases hword : key.word with
      | error e => rfl
      | ok tag =>
          cases hcase : cases.lookup tag with
          | none => simp only [hcase]
          | some content =>
              cases content with
              | unit => simp only [hcase]
              | single slot =>
                  simp only [hcase, conformCase, hword, Tree.conform_known room slot t]
              | fields fields =>
                  simp only [hcase, conformCase, hword, Tree.conformParts_known room fields t]

end

/-! ## §5. Whole texts. -/

/-- A text with an unknown member in a record is not decoded. -/
theorem exists_fault_of_unknownMember {n : ν} {text : List Char}
    (h : HasUnknownMember σ ({ shape := .named n }, (read text).1)) :
    ∃ fault, decode σ n text = .error fault := by
  cases hv : conform σ maxDepth { shape := .named n } (read text).1 with
  | ok v => exact absurd ⟨maxDepth, v, hv⟩ (not_isRead_of_unknownMember h)
  | error fault =>
      refine ⟨fault, ?_⟩
      rw [decode]
      simp only [hv]

/-- A text is decoded as one without the unknown members of its cases. -/
theorem decode_eq_of_known {n : ν} {text text' : List Char}
    (h : read text' = ((read text).1.known σ { shape := .named n }, (read text).2)) :
    decode σ n text' = decode σ n text := by
  rw [decode, decode, h]
  simp only [Tree.conform_known]

end DeclExport.Json
