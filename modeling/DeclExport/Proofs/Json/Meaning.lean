/-
  DeclExport.Proofs.Json.Meaning
  ────────────────────────────────
  **WHAT A TREE MEANS, WITHOUT ORDER AND WITHOUT ROOM.**

  The reader goes through a tree from the left, collects what it has found and counts
  the brackets that are open.  `Means` says what it finds, rule by rule and without
  either of them: members are taken by their names, wherever they stand, and what is
  not there has its fallback.  Both say the same:

      conform σ room slot t = v                     →  t means v in the slot
      t means v in the slot, t.depth ≤ room         →  conform σ room slot t = v
-/
import Mathlib.Data.List.Nodup
import DeclExport.Proofs.Json.Fitting

namespace DeclExport.Json

variable {ν : Type} {σ : Schema ν}

/-! ## §1. The meaning of a tree. -/

/-- The names of the fields. -/
def fieldNames (fields : List (Field ν)) : List String := fields.map (·.name)

/-- The fields of the role are those of a record or a case of the schema. -/
def Role.IsDefined (σ : Schema ν) : Role ν → Prop
  | .value _ => True
  | .fields _ fs => ∃ n, fs ∈ (σ n).fieldLists

theorem Role.isDefined_value (slot : Slot ν) : (Role.value slot).IsDefined σ := trivial

theorem Role.isDefined_of_record {n : ν} {closed : Bool} {fields : List (Field ν)}
    (hdef : σ n = .record fields) : (Role.fields closed fields).IsDefined σ :=
  ⟨n, by simp [hdef, Definition.fieldLists]⟩

theorem Role.isDefined_of_case {n : ν} {closed : Bool} {fields : List (Field ν)}
    {cases : List (String × Content ν)} {tag : String} (hdef : σ n = .union cases)
    (hcase : cases.lookup tag = some (.fields fields)) : (Role.fields closed fields).IsDefined σ :=
  ⟨n, hdef ▸ Definition.mem_fieldLists_of_lookup hcase⟩

theorem Role.IsDefined.nodup {closed : Bool} {fields : List (Field ν)}
    (h : (Role.fields closed fields).IsDefined σ) (hσ : σ.NamesApart) :
    (fieldNames fields).Nodup := by
  obtain ⟨n, hn⟩ := h
  exact hσ n fields hn

/-- The names of the members. -/
def memberNames (ms : List (String × Tree)) : List String := ms.map Prod.fst

/-- The names of the members that are names of fields. -/
def knownNames (fields : List (Field ν)) (ms : List (String × Tree)) : List String :=
  (memberNames ms).filter (· ∈ fieldNames fields)

/-- In the role, the tree means the value. -/
inductive Means (σ : Schema ν) : Role ν → Tree → Value → Prop
  | null {slot : Slot ν} : slot.nullable = true → Means σ (.value slot) (.scalar .null) .null
  | scalar {slot : Slot ν} {s : Scalar} {v : Value} : ¬ (slot.nullable ∧ s = .null) →
      readScalar σ slot.shape s = .ok v → Means σ (.value slot) (.scalar s) v
  | list {slot : Slot ν} {item : Shape ν} {ts : List Tree} {vs : List Value} :
      slot.shape = .list item → ts.length = vs.length →
      (∀ t v, (t, v) ∈ ts.zip vs → Means σ (.value { shape := item }) t v) →
      Means σ (.value slot) (.ofItems ts) (.list vs)
  | pair {slot : Slot ν} {a b : Shape ν} {t u : Tree} {v w : Value} : slot.shape = .pair a b →
      Means σ (.value { shape := a }) t v → Means σ (.value { shape := b }) u w →
      Means σ (.value slot) (.ofItems [t, u]) (.list [v, w])
  | record {slot : Slot ν} {n : ν} {fields : List (Field ν)} {t : Tree} {vs : List Value} :
      slot.shape = .named n → σ n = .record fields →
      Means σ (.fields true fields) t (.record vs) → Means σ (.value slot) t (.record vs)
  | unit {slot : Slot ν} {n : ν} {cases : List (String × Content ν)} {tag : String} :
      slot.shape = .named n → σ n = .union cases → cases.lookup tag = some .unit →
      Means σ (.value slot) (.ofMembers [(tag, .scalar .null)]) (.case tag [])
  | single {slot inner : Slot ν} {n : ν} {cases : List (String × Content ν)} {tag : String}
      {t : Tree} {v : Value} :
      slot.shape = .named n → σ n = .union cases → cases.lookup tag = some (.single inner) →
      Means σ (.value inner) t v → Means σ (.value slot) (.ofMembers [(tag, t)]) (.case tag [v])
  | parts {slot : Slot ν} {n : ν} {cases : List (String × Content ν)} {tag : String}
      {fields : List (Field ν)} {t : Tree} {vs : List Value} :
      slot.shape = .named n → σ n = .union cases → cases.lookup tag = some (.fields fields) →
      Means σ (.fields false fields) t (.record vs) →
      Means σ (.value slot) (.ofMembers [(tag, t)]) (.case tag vs)
  /-- Fields in their order; those behind the last item have their fallbacks. -/
  | listed {closed : Bool} {fields : List (Field ν)} {ts : List Tree} {vs : List Value} :
      fields.length = vs.length → ts.length ≤ fields.length →
      (∀ f v t, ((f, v), t) ∈ (fields.zip vs).zip ts → Means σ (.value f.slot) t v) →
      (∀ f v, (f, v) ∈ (fields.zip vs).drop ts.length → f.fallback = some v) →
      Means σ (.fields closed fields) (.ofItems ts) (.record vs)
  /-- Fields by their names, each at most once; those that no member names have their
  fallbacks.  Other members are there only in a case, and nothing is looked at but
  whether they are well-formed. -/
  | named {closed : Bool} {fields : List (Field ν)} {ms : List (String × Tree)}
      {vs : List Value} :
      fields.length = vs.length →
      (knownNames fields ms).Nodup →
      (∀ name t, (name, t) ∈ ms → name ∉ fieldNames fields →
        closed = false ∧ t.skipFlaw? = none) →
      (∀ f v t, (f, v) ∈ fields.zip vs → (f.name, t) ∈ ms → Means σ (.value f.slot) t v) →
      (∀ f v, (f, v) ∈ fields.zip vs → f.name ∉ memberNames ms → f.fallback = some v) →
      Means σ (.fields closed fields) (.ofMembers ms) (.record vs)

/-! ## §2. What is read of a list, and of fields in their order. -/

/-- In a zip with a list that is long enough, everything has a partner. -/
theorem exists_mem_zip_left {α β : Type} {as : List α} {bs : List β} {a : α}
    (hlength : as.length ≤ bs.length) (ha : a ∈ as) : ∃ b, (a, b) ∈ as.zip bs := by
  rw [← List.map_fst_zip hlength] at ha
  obtain ⟨⟨_, b⟩, hb, rfl⟩ := List.mem_map.mp ha
  exact ⟨b, hb⟩

theorem exists_mem_zip_right {α β : Type} {as : List α} {bs : List β} {b : β}
    (hlength : bs.length ≤ as.length) (hb : b ∈ bs) : ∃ a, (a, b) ∈ as.zip bs := by
  rw [← List.map_snd_zip hlength] at hb
  obtain ⟨⟨a, _⟩, ha, rfl⟩ := List.mem_map.mp hb
  exact ⟨a, ha⟩

/-- A reader of values. -/
abbrev Reads (ν : Type) := Slot ν → Tree → Value → Prop

/-- Fields in their order are read to the values. -/
structure Listed (R : Reads ν) (fields : List (Field ν)) (ts : List Tree) (vs : List Value) :
    Prop where
  length : fields.length = vs.length
  fits : ts.length ≤ fields.length
  read : ∀ f v t, ((f, v), t) ∈ (fields.zip vs).zip ts → R f.slot t v
  missing : ∀ f v, (f, v) ∈ (fields.zip vs).drop ts.length → f.fallback = some v

/-- What is read by the reader with this much room. -/
def readsWith (σ : Schema ν) (room : Nat) : Reads ν := fun slot t v =>
  conform σ room slot t = .ok v

variable {room : Nat}

theorem conformItems_ofList {item : Shape ν} {ts : List Tree} {vs : List Value} :
    conformItems σ room item (.ofList ts) = .ok vs
      ↔ List.Forall₂ (readsWith σ room { shape := item }) ts vs := by
  induction ts generalizing vs with
  | nil => cases vs <;> simp [Items.ofList, conformItems]
  | cons t ts ih =>
      rw [Items.ofList, conformItems, List.forall₂_cons_left_iff]
      cases ht : conform σ room { shape := item } t with
      | error e => simp [readsWith, ht]
      | ok v => simp [readsWith, ht, map_eq_ok_iff, ih]

/-- An array that is read is closed. -/
theorem exists_ofList_of_conformItems {item : Shape ν} : ∀ {items : Items} {vs : List Value},
    conformItems σ room item items = .ok vs → ∃ ts, items = .ofList ts
  | .close, _, _ => ⟨[], rfl⟩
  | .more t rest, _, h => by
      rw [conformItems] at h
      split at h
      · cases h
      · obtain ⟨_, hrest, _⟩ := map_eq_ok_iff.mp h
        obtain ⟨ts, rfl⟩ := exists_ofList_of_conformItems hrest
        exact ⟨t :: ts, rfl⟩

theorem fallbacks_eq_ok_iff {fields : List (Field ν)} {vs : List Value} :
    fallbacks fields = .ok vs ↔ List.Forall₂ (fun f v => f.fallback = some v) fields vs := by
  induction fields generalizing vs with
  | nil => cases vs <;> simp [fallbacks]
  | cons f fs ih =>
      rw [fallbacks, List.forall₂_cons_left_iff]
      cases hf : f.fallback with
      | none => simp
      | some v => simp [map_eq_ok_iff, ih]

namespace Listed

variable {R : Reads ν} {f : Field ν} {fs : List (Field ν)} {t : Tree} {ts : List Tree}
  {v : Value} {vs : List Value}

/-- Without items, all fields have their fallbacks. -/
theorem nil_iff : Listed R fs [] vs ↔ List.Forall₂ (fun f v => f.fallback = some v) fs vs := by
  rw [List.forall₂_iff_zip]
  constructor
  · intro h
    exact ⟨h.length, fun {f v} => h.missing f v⟩
  · rintro ⟨hlength, h⟩
    exact ⟨hlength, Nat.zero_le _, by simp, fun f v => h⟩

theorem cons_iff : Listed R (f :: fs) (t :: ts) vs
      ↔ ∃ v ws, vs = v :: ws ∧ R f.slot t v ∧ Listed R fs ts ws := by
  constructor
  · intro h
    cases vs with
    | nil => exact nomatch h.length
    | cons v vs =>
        exact ⟨v, vs, rfl, h.read f v t List.mem_cons_self, Nat.succ.inj h.length,
          Nat.le_of_succ_le_succ h.fits, fun f v t ht => h.read f v t (.tail _ ht),
          fun f v hv => h.missing f v hv⟩
  · rintro ⟨v, ws, rfl, hv, h⟩
    refine ⟨congrArg (· + 1) h.length, Nat.succ_le_succ h.fits, fun g w u hu => ?_, h.missing⟩
    cases hu with
    | head => exact hv
    | tail _ hu => exact h.read g w u hu

end Listed

theorem conformFields_ofList {fields : List (Field ν)} {ts : List Tree} {vs : List Value} :
    conformFields σ room fields (.ofList ts) = .ok vs
      ↔ Listed (readsWith σ room) fields ts vs := by
  induction ts generalizing fields vs with
  | nil => rw [Items.ofList, conformFields, fallbacks_eq_ok_iff, Listed.nil_iff]
  | cons t ts ih =>
      cases fields with
      | nil =>
          constructor
          · rintro ⟨⟩
          · exact fun h => absurd h.fits (by simp)
      | cons f fs =>
          rw [Items.ofList, conformFields, Listed.cons_iff]
          cases ht : conform σ room f.slot t with
          | error e => simp [readsWith, ht]
          | ok v => simp [readsWith, ht, map_eq_ok_iff, ih, and_comm]

theorem exists_ofList_of_conformFields : ∀ {items : Items} {fields : List (Field ν)}
    {vs : List Value}, conformFields σ room fields items = .ok vs → ∃ ts, items = .ofList ts
  | .close, _, _, _ => ⟨[], rfl⟩
  | .more t rest, f :: fs, _, h => by
      rw [conformFields] at h
      split at h
      · cases h
      · obtain ⟨_, hrest, _⟩ := map_eq_ok_iff.mp h
        obtain ⟨ts, rfl⟩ := exists_ofList_of_conformFields hrest
        exact ⟨t :: ts, rfl⟩

/-! ## §3. What is read of fields by their names. -/

/-- Fields by their names are read to the values, behind the fields `found`. -/
structure Named (R : Reads ν) (closed : Bool) (fields : List (Field ν))
    (found : List (String × Value)) (ms : List (String × Tree)) (vs : List Value) : Prop where
  length : fields.length = vs.length
  once : (knownNames fields ms).Nodup
  fresh : ∀ name ∈ memberNames ms, name ∈ fieldNames fields → found.lookup name = none
  unknown : ∀ name t, (name, t) ∈ ms → name ∉ fieldNames fields →
    closed = false ∧ t.skipFlaw? = none
  read : ∀ f v t, (f, v) ∈ fields.zip vs → (f.name, t) ∈ ms → R f.slot t v
  missing : ∀ f v, (f, v) ∈ fields.zip vs → f.name ∉ memberNames ms →
    (found.lookup f.name <|> f.fallback) = some v

theorem settleFields_eq_ok_iff {found : List (String × Value)} {fields : List (Field ν)}
    {vs : List Value} :
    settleFields found fields = .ok vs
      ↔ List.Forall₂ (fun f v => (found.lookup f.name <|> f.fallback) = some v) fields vs := by
  induction fields generalizing vs with
  | nil => cases vs <;> simp [settleFields]
  | cons f fs ih =>
      rw [settleFields, List.forall₂_cons_left_iff]
      cases hf : (found.lookup f.name <|> f.fallback) with
      | none => simp
      | some v => simp [map_eq_ok_iff, ih]

namespace Named

variable {R : Reads ν} {closed : Bool} {fields : List (Field ν)} {f : Field ν}
  {found : List (String × Value)} {name : String} {t : Tree} {ms : List (String × Tree)}
  {v : Value} {vs : List Value}

theorem nil_iff : Named R closed fields found [] vs
    ↔ List.Forall₂ (fun f v => (found.lookup f.name <|> f.fallback) = some v) fields vs := by
  rw [List.forall₂_iff_zip]
  constructor
  · intro h
    exact ⟨h.length, fun {f v} hv => h.missing f v hv List.not_mem_nil⟩
  · rintro ⟨hlength, h⟩
    exact ⟨hlength, List.nodup_nil, by simp [memberNames], by simp, by simp,
      fun f v hv _ => h hv⟩

theorem knownNames_cons_of_unknown (hname : name ∉ fieldNames fields) :
    knownNames fields ((name, t) :: ms) = knownNames fields ms :=
  List.filter_cons_of_neg (by simpa using hname)

theorem nodup_knownNames_cons (hname : name ∈ fieldNames fields) :
    (knownNames fields ((name, t) :: ms)).Nodup
      ↔ name ∉ memberNames ms ∧ (knownNames fields ms).Nodup := by
  have hcons : knownNames fields ((name, t) :: ms) = name :: knownNames fields ms :=
    List.filter_cons_of_pos (by simpa using hname)
  have hmem : name ∈ knownNames fields ms ↔ name ∈ memberNames ms := by
    simp [knownNames, hname]
  rw [hcons, List.nodup_cons, hmem]

/-- A member that is skipped. -/
theorem cons_iff_of_unknown (hname : name ∉ fieldNames fields) :
    Named R closed fields found ((name, t) :: ms) vs
      ↔ (closed = false ∧ t.skipFlaw? = none) ∧ Named R closed fields found ms vs := by
  have hne : ∀ {f v}, (f, v) ∈ fields.zip vs → f.name ≠ name := by
    rintro f v hv rfl
    exact hname (List.mem_map.mpr ⟨f, (List.of_mem_zip hv).1, rfl⟩)
  constructor
  · rintro ⟨hlength, honce, hfresh, hunknown, hread, hmissing⟩
    refine ⟨hunknown name t List.mem_cons_self hname, hlength, ?_, ?_, ?_, ?_, ?_⟩
    · rwa [knownNames_cons_of_unknown hname] at honce
    · exact fun m hm => hfresh m (.tail _ hm)
    · exact fun m u hu => hunknown m u (.tail _ hu)
    · exact fun f v u hv hu => hread f v u hv (.tail _ hu)
    · exact fun f v hv hf => hmissing f v hv (by simpa [memberNames, hne hv] using hf)
  · rintro ⟨hskipped, hlength, honce, hfresh, hunknown, hread, hmissing⟩
    refine ⟨hlength, ?_, ?_, ?_, ?_, ?_⟩
    · rwa [knownNames_cons_of_unknown hname]
    · rintro m (_ | ⟨_, hm⟩) hknown
      · exact absurd hknown hname
      · exact hfresh m hm hknown
    · rintro m u (_ | ⟨_, hu⟩) hm
      · exact hskipped
      · exact hunknown m u hu hm
    · rintro f v u hv hu
      cases hu with
      | head => exact absurd rfl (hne hv)
      | tail _ hu => exact hread f v u hv hu
    · exact fun f v hv hf => hmissing f v hv fun h => hf (.tail _ h)

/-- The names are those of the fields with their values. -/
theorem map_name_zip (hlength : fields.length = vs.length) :
    ((fields.zip vs).map fun p => p.1.name) = fieldNames fields := by
  calc (fields.zip vs).map (fun p => p.1.name)
      = ((fields.zip vs).map Prod.fst).map (·.name) := by rw [List.map_map]; rfl
    _ = fieldNames fields := by rw [List.map_fst_zip hlength.le, fieldNames]

/-- Where names are told apart, so are the fields with their values. -/
theorem eq_of_name {p q : Field ν × Value} (hnodup : (fieldNames fields).Nodup)
    (hlength : fields.length = vs.length) (hp : p ∈ fields.zip vs) (hq : q ∈ fields.zip vs)
    (h : p.1.name = q.1.name) : p = q :=
  List.inj_on_of_nodup_map (map_name_zip hlength ▸ hnodup) hp hq h

/-- A member that is read: it is found by those that follow. -/
theorem cons_iff_of_known (hnodup : (fieldNames fields).Nodup) (hf : f ∈ fields) :
    Named R closed fields found ((f.name, t) :: ms) vs
      ↔ found.lookup f.name = none
          ∧ ∃ v, R f.slot t v ∧ Named R closed fields ((f.name, v) :: found) ms vs := by
  have hknown : f.name ∈ fieldNames fields := List.mem_map.mpr ⟨f, hf, rfl⟩
  have hlookup : ∀ {name v}, name ≠ f.name →
      List.lookup name ((f.name, v) :: found) = found.lookup name := by
    intro name v hne
    rw [List.lookup_cons, beq_false_of_ne hne]
  constructor
  · rintro ⟨hlength, honce, hfresh, hunknown, hread, hmissing⟩
    obtain ⟨v, hv⟩ := exists_mem_zip_left hlength.le hf
    obtain ⟨hnew, honce⟩ := (nodup_knownNames_cons hknown).mp honce
    refine ⟨hfresh f.name List.mem_cons_self hknown, v, hread f v t hv List.mem_cons_self,
      hlength, honce, ?_, ?_, ?_, ?_⟩
    · intro name hname hmem
      rw [hlookup (ne_of_mem_of_not_mem hname hnew)]
      exact hfresh name (.tail _ hname) hmem
    · exact fun name u hu => hunknown name u (.tail _ hu)
    · exact fun g w u hw hu => hread g w u hw (.tail _ hu)
    · intro g w hw hg
      by_cases hname : g.name = f.name
      · cases eq_of_name hnodup hlength hw hv hname
        simp
      · rw [hlookup hname]
        exact hmissing g w hw (List.not_mem_cons_of_ne_of_not_mem hname hg)
  · rintro ⟨hnone, v, hv, hlength, honce, hfresh, hunknown, hread, hmissing⟩
    -- no further member has this name, as it has been found already
    have hnew : f.name ∉ memberNames ms := fun hmem => by
      simpa using hfresh f.name hmem hknown
    refine ⟨hlength, (nodup_knownNames_cons hknown).mpr ⟨hnew, honce⟩, ?_, ?_, ?_, ?_⟩
    · rintro name (_ | ⟨_, hname⟩) hmem
      · exact hnone
      · rw [← hlookup (ne_of_mem_of_not_mem hname hnew)]
        exact hfresh name hname hmem
    · rintro name u (_ | ⟨_, hu⟩) hname
      · exact absurd hknown hname
      · exact hunknown name u hu hname
    · intro g w u hw hu
      obtain hu | hu := List.mem_cons.mp hu
      · obtain ⟨hname, rfl⟩ := Prod.mk.inj hu
        obtain ⟨v', hv'⟩ := exists_mem_zip_left hlength.le hf
        cases eq_of_name hnodup hlength hw hv' hname
        have hfound := hmissing f w hw hnew
        simp only [List.lookup_cons_self] at hfound
        cases hfound
        exact hv
      · exact hread g w u hw hu
    · intro g w hw hg
      have hne : g.name ≠ f.name := fun h => hg (h ▸ List.mem_cons_self)
      rw [← hlookup hne]
      exact hmissing g w hw fun h => hg (.tail _ h)

end Named

theorem find?_eq_none_iff {fields : List (Field ν)} {name : String} :
    fields.find? (·.name == name) = none ↔ name ∉ fieldNames fields := by
  simp [fieldNames, List.find?_eq_none]

theorem conformMembers_ofList {closed : Bool} {fields : List (Field ν)}
    (hnodup : (fieldNames fields).Nodup) {ms : List (String × Tree)}
    {found : List (String × Value)} {vs : List Value} :
    conformMembers σ room closed fields found (.ofList ms) = .ok vs
      ↔ Named (readsWith σ room) closed fields found ms vs := by
  induction ms generalizing found with
  | nil => rw [Members.ofList, conformMembers, settleFields_eq_ok_iff, Named.nil_iff]
  | cons m ms ih =>
      obtain ⟨name, t⟩ := m
      rw [Members.ofList, conformMembers]
      simp only [Key.word]
      cases hfind : fields.find? (·.name == name) with
      | none =>
          rw [Named.cons_iff_of_unknown (find?_eq_none_iff.mp hfind), ← ih]
          cases closed with
          | true => simp
          | false => cases hflaw : t.skipFlaw? <;> simp
      | some f =>
          obtain rfl : f.name = name := by simpa using List.find?_some hfind
          rw [Named.cons_iff_of_known hnodup (List.mem_of_find?_eq_some hfind)]
          simp only [← ih]
          cases hlookup : found.lookup f.name with
          | some w => simp
          | none => cases ht : conform σ room f.slot t <;> simp [readsWith, ht]

/-- An object that is read is closed, and its keys are names. -/
theorem exists_ofList_of_conformMembers {closed : Bool} {fields : List (Field ν)} :
    ∀ {members : Members} {found : List (String × Value)} {vs : List Value},
      conformMembers σ room closed fields found members = .ok vs →
        ∃ ms, members = .ofList ms
  | .close, _, _, _ => ⟨[], rfl⟩
  | .more key t rest, found, vs, h => by
      rw [conformMembers] at h
      cases hword : key.word with
      | error e => simp [hword] at h
      | ok name =>
          obtain rfl := Key.eq_of_word_eq_ok hword
          have hrest : ∃ found', conformMembers σ room closed fields found' rest = .ok vs := by
            simp only [hword] at h
            repeat' split at h
            all_goals first | exact ⟨_, h⟩ | cases h
          obtain ⟨_, hrest⟩ := hrest
          obtain ⟨ms, rfl⟩ := exists_ofList_of_conformMembers hrest
          exact ⟨(name, t) :: ms, rfl⟩

/-! ## §4. What is read is the meaning. -/

/-- The two values of a pair. -/
theorem listed_pair_iff {R : Reads ν} {a b : Shape ν} {ts : List Tree} {vs : List Value} :
    Listed R [.required "" a, .required "" b] ts vs
      ↔ ∃ t u v w, ts = [t, u] ∧ vs = [v, w] ∧ R { shape := a } t v ∧ R { shape := b } u w := by
  constructor
  · intro h
    match ts, h with
    | [], h => simp [Listed.nil_iff, Field.required, List.forall₂_cons_left_iff] at h
    | [t], h =>
        simp [Listed.cons_iff, Listed.nil_iff, Field.required, List.forall₂_cons_left_iff] at h
    | [t, u], h =>
        obtain ⟨v, _, rfl, hv, h⟩ := Listed.cons_iff.mp h
        obtain ⟨w, _, rfl, hw, h⟩ := Listed.cons_iff.mp h
        obtain rfl := List.forall₂_nil_left_iff.mp (Listed.nil_iff.mp h)
        exact ⟨t, u, v, w, rfl, rfl, hv, hw⟩
    | _ :: _ :: _ :: _, h => simpa using h.fits
  · rintro ⟨t, u, v, w, rfl, rfl, hv, hw⟩
    have hsecond : Listed R [.required "" b] [u] [w] :=
      Listed.cons_iff.mpr ⟨w, _, rfl, hw, Listed.nil_iff.mpr .nil⟩
    exact Listed.cons_iff.mpr ⟨v, _, rfl, hv, hsecond⟩

/-- With this much room, what is read is the meaning. -/
def ReadsMeaning (σ : Schema ν) (room : Nat) : Prop :=
  ∀ slot t v, conform σ room slot t = .ok v → Means σ (.value slot) t v

section

variable {slot : Slot ν} {n : ν} {fields : List (Field ν)} {t : Tree} {v : Value}
  (ih : ∀ k < room, ReadsMeaning σ k)

include ih

theorem means_of_read_fields (hσ : σ.NamesApart) {closed : Bool}
    (hrole : (Role.fields closed fields).IsDefined σ)
    (h : (Role.fields closed fields).read σ room t = .ok v) :
    ∃ vs, v = .record vs ∧ Means σ (.fields closed fields) t (.record vs) := by
  cases t with
  | array items =>
      obtain ⟨k, rfl, h⟩ := opening_eq_ok_iff.mp h
      obtain ⟨vs, hvs, rfl⟩ := map_eq_ok_iff.mp h
      obtain ⟨ts, rfl⟩ := exists_ofList_of_conformFields hvs
      have hlisted := conformFields_ofList.mp hvs
      exact ⟨vs, rfl, .listed hlisted.length hlisted.fits
        (fun f v t ht => ih k k.lt_succ_self _ _ _ (hlisted.read f v t ht)) hlisted.missing⟩
  | object members =>
      obtain ⟨k, rfl, h⟩ := opening_eq_ok_iff.mp h
      obtain ⟨vs, hvs, rfl⟩ := map_eq_ok_iff.mp h
      obtain ⟨ms, rfl⟩ := exists_ofList_of_conformMembers hvs
      have hnamed := (conformMembers_ofList (hrole.nodup hσ)).mp hvs
      exact ⟨vs, rfl, .named hnamed.length hnamed.once hnamed.unknown
        (fun f v t hv ht => ih k k.lt_succ_self _ _ _ (hnamed.read f v t hv ht))
        hnamed.missing⟩
  | scalar s => exact nomatch h
  | broken b => exact nomatch h

theorem means_of_conform_array (hσ : σ.NamesApart) {items : Items}
    (h : conform σ room slot (.array items) = .ok v) : Means σ (.value slot) (.array items) v := by
  cases hshape : slot.shape with
  | list item =>
      rw [conform_list hshape] at h
      obtain ⟨k, rfl, h⟩ := opening_eq_ok_iff.mp h
      obtain ⟨vs, hvs, rfl⟩ := map_eq_ok_iff.mp h
      obtain ⟨ts, rfl⟩ := exists_ofList_of_conformItems hvs
      obtain ⟨hlength, hread⟩ := List.forall₂_iff_zip.mp (conformItems_ofList.mp hvs)
      exact .list hshape hlength fun t v ht => ih k k.lt_succ_self _ _ _ (hread ht)
  | pair a b =>
      rw [conform_pair hshape] at h
      obtain ⟨k, rfl, h⟩ := opening_eq_ok_iff.mp h
      obtain ⟨vs, hvs, rfl⟩ := map_eq_ok_iff.mp h
      obtain ⟨ts, rfl⟩ := exists_ofList_of_conformFields hvs
      obtain ⟨t, u, v, w, rfl, rfl, hv, hw⟩ := listed_pair_iff.mp (conformFields_ofList.mp hvs)
      exact .pair hshape (ih k k.lt_succ_self _ _ _ hv) (ih k k.lt_succ_self _ _ _ hw)
  | named n =>
      cases hdef : σ n with
      | record fields =>
          have hfields : (Role.fields true fields).read σ room (.array items) = .ok v :=
            (conform_record_array hshape hdef).symm.trans h
          obtain ⟨vs, rfl, hmeans⟩ :=
            means_of_read_fields ih hσ (Role.isDefined_of_record hdef) hfields
          exact .record hshape hdef hmeans
      | union cases => simp [conform, hshape, hdef] at h
  | integer _ _ | bool | text => simp [conform, hshape] at h

theorem means_of_conform_object (hσ : σ.NamesApart) {members : Members}
    (h : conform σ room slot (.object members) = .ok v) :
    Means σ (.value slot) (.object members) v := by
  cases hshape : slot.shape with
  | named n =>
      cases hdef : σ n with
      | record fields =>
          have hfields : (Role.fields true fields).read σ room (.object members) = .ok v :=
            (conform_record hshape hdef).symm.trans h
          obtain ⟨vs, rfl, hmeans⟩ :=
            means_of_read_fields ih hσ (Role.isDefined_of_record hdef) hfields
          exact .record hshape hdef hmeans
      | union cases =>
          rw [conform_union hshape hdef] at h
          obtain ⟨k, rfl, h⟩ := opening_eq_ok_iff.mp h
          obtain ⟨tag, t, content, rfl, hcase, hcontent⟩ := conformCase_eq_ok_iff.mp h
          cases hcontent with
          | unit => exact .unit hshape hdef hcase
          | single hv => exact .single hshape hdef hcase (ih k k.lt_succ_self _ _ _ hv)
          | @parts fields _ vs hvs =>
              obtain ⟨_, hrecord, hmeans⟩ :=
                means_of_read_fields (fun j hj => ih j (hj.trans k.lt_succ_self)) hσ
                  (Role.isDefined_of_case hdef hcase) hvs
              cases hrecord
              exact .parts hshape hdef hcase hmeans
  | integer _ _ | bool | text | list _ | pair _ _ => simp [conform, hshape] at h

end

/-- **What is read is the meaning.** -/
theorem means_of_conform (hσ : σ.NamesApart) (room : Nat) : ReadsMeaning σ room := by
  -- on the room: what stands between two brackets is read with less of it
  induction room using Nat.strong_induction_on with
  | _ room ih =>
    intro slot t v h
    cases t with
    | scalar s =>
        rw [conform] at h
        split_ifs at h with hnull
        · obtain ⟨hnullable, rfl⟩ := hnull
          cases h
          exact .null hnullable
        · exact .scalar hnull h
    | broken b => simp [conform] at h
    | array items => exact means_of_conform_array ih hσ h
    | object members => exact means_of_conform_object ih hσ h

/-! ## §5. The meaning is read. -/

/-- A closed array opens one bracket more than its items. -/
theorem Tree.depth_ofItems_le {ts : List Tree} :
    (Tree.ofItems ts).depth ≤ room ↔ ∃ k, room = k + 1 ∧ ∀ t ∈ ts, t.depth ≤ k := by
  have hitems : ∀ k, (Items.ofList ts).depth ≤ k ↔ ∀ t ∈ ts, t.depth ≤ k := by
    intro k
    induction ts with
    | nil => simp [Items.ofList, Items.depth]
    | cons t ts ih => simp [Items.ofList, Items.depth, ih]
  constructor
  · intro h
    obtain ⟨k, rfl, hk⟩ := Value.exists_room h
    exact ⟨k, rfl, (hitems k).mp hk⟩
  · rintro ⟨k, rfl, hk⟩
    exact Nat.succ_le_succ ((hitems k).mpr hk)

/-- A closed object opens one bracket more than its members. -/
theorem Tree.depth_ofMembers_le {ms : List (String × Tree)} :
    (Tree.ofMembers ms).depth ≤ room ↔ ∃ k, room = k + 1 ∧ ∀ m ∈ ms, m.2.depth ≤ k := by
  have hmembers : ∀ k, (Members.ofList ms).depth ≤ k ↔ ∀ m ∈ ms, m.2.depth ≤ k := by
    intro k
    induction ms with
    | nil => simp [Members.ofList, Members.depth]
    | cons m ms ih => simp [Members.ofList, Members.depth, ih]
  constructor
  · intro h
    obtain ⟨k, rfl, hk⟩ := Value.exists_room h
    exact ⟨k, rfl, (hmembers k).mp hk⟩
  · rintro ⟨k, rfl, hk⟩
    exact Nat.succ_le_succ ((hmembers k).mpr hk)

/-- A record is read by its fields. -/
theorem conform_of_read_fields {slot : Slot ν} {n : ν} {fields : List (Field ν)} {t : Tree}
    {v : Value} (hshape : slot.shape = .named n) (hdef : σ n = .record fields)
    (h : (Role.fields true fields).read σ room t = .ok v) : conform σ room slot t = .ok v := by
  cases t with
  | array items => exact (conform_record_array hshape hdef).trans h
  | object members => exact (conform_record hshape hdef).trans h
  | scalar s => exact nomatch h
  | broken b => exact nomatch h

/-- **The meaning is read**, where there is room for the nesting of the tree. -/
theorem Means.read_eq (hσ : σ.NamesApart) {role : Role ν} {t : Tree} {v : Value}
    (hrole : role.IsDefined σ) (h : Means σ role t v) (hroom : t.depth ≤ room) :
    role.read σ room t = .ok v := by
  -- on the meaning, for any room: every bracket of the tree takes one of it
  induction h generalizing room with
  | null hnullable => rw [Role.read, conform, if_pos ⟨hnullable, rfl⟩]
  | scalar hnull hread => rw [Role.read, conform, if_neg hnull, hread]
  | @list slot item ts vs hshape hlength _ ih =>
      obtain ⟨k, rfl, hk⟩ := Tree.depth_ofItems_le.mp hroom
      have hitems : conformItems σ k item (.ofList ts) = .ok vs :=
        conformItems_ofList.mpr (List.forall₂_iff_zip.mpr
          ⟨hlength, fun ht => ih _ _ ht trivial (hk _ (List.of_mem_zip ht).1)⟩)
      rw [Role.read, Tree.ofItems, conform_list hshape, opening, hitems]
      rfl
  | @pair slot a b t u v w hshape _ _ iht ihu =>
      obtain ⟨k, rfl, hk⟩ := Tree.depth_ofItems_le.mp hroom
      have hfields : conformFields σ k [.required "" a, .required "" b] (.ofList [t, u])
          = .ok [v, w] :=
        conformFields_ofList.mpr (listed_pair_iff.mpr
          ⟨t, u, v, w, rfl, rfl, iht trivial (hk t (by simp)),
            ihu trivial (hk u (by simp))⟩)
      rw [Role.read, Tree.ofItems, conform_pair hshape, opening, hfields]
      rfl
  | @record slot n fields t vs hshape hdef _ ih =>
      exact conform_of_read_fields hshape hdef (ih (Role.isDefined_of_record hdef) hroom)
  | @unit slot n cases tag hshape hdef hcase =>
      obtain ⟨k, rfl, hk⟩ := Tree.depth_ofMembers_le.mp hroom
      rw [Role.read, Tree.ofMembers, conform_union hshape hdef]
      exact conformCase_eq_ok_iff.mpr ⟨tag, _, .unit, rfl, hcase, .unit⟩
  | @single slot inner n cases tag t v hshape hdef hcase _ ih =>
      obtain ⟨k, rfl, hk⟩ := Tree.depth_ofMembers_le.mp hroom
      rw [Role.read, Tree.ofMembers, conform_union hshape hdef]
      exact conformCase_eq_ok_iff.mpr ⟨tag, t, .single inner, rfl, hcase,
        .single (ih trivial (hk (tag, t) (by simp)))⟩
  | @parts slot n cases tag fields t vs hshape hdef hcase _ ih =>
      obtain ⟨k, rfl, hk⟩ := Tree.depth_ofMembers_le.mp hroom
      rw [Role.read, Tree.ofMembers, conform_union hshape hdef]
      exact conformCase_eq_ok_iff.mpr ⟨tag, t, .fields fields, rfl, hcase,
        .parts (ih (Role.isDefined_of_case hdef hcase) (hk (tag, t) (by simp)))⟩
  | @listed closed fields ts vs hlength hfits _ hmissing ih =>
      obtain ⟨k, rfl, hk⟩ := Tree.depth_ofItems_le.mp hroom
      have hfields : conformFields σ k fields (.ofList ts) = .ok vs :=
        conformFields_ofList.mpr ⟨hlength, hfits,
          fun f v t ht => ih f v t ht trivial (hk t (List.of_mem_zip ht).2), hmissing⟩
      rw [Tree.ofItems, Role.read, opening, hfields]
      rfl
  | @named closed fields ms vs hlength honce hunknown _ hmissing ih =>
      obtain ⟨k, rfl, hk⟩ := Tree.depth_ofMembers_le.mp hroom
      have hmembers : conformMembers σ k closed fields [] (.ofList ms) = .ok vs :=
        (conformMembers_ofList (hrole.nodup hσ)).mpr ⟨hlength, honce, fun _ _ _ => rfl, hunknown,
          fun f v t hv ht => ih f v t hv ht trivial (hk _ ht), hmissing⟩
      rw [Tree.ofMembers, Role.read, opening, hmembers]
      rfl

/-! ## §6. What has a meaning. -/

/-- A tree has one meaning only. -/
theorem Means.unique (hσ : σ.NamesApart) {slot : Slot ν} {t : Tree} {v w : Value}
    (hv : Means σ (.value slot) t v) (hw : Means σ (.value slot) t w) : v = w := by
  have hrole := Role.isDefined_value (σ := σ) slot
  exact Except.ok.inj ((hv.read_eq hσ hrole le_rfl).symm.trans (hw.read_eq hσ hrole le_rfl))

theorem Tree.skipFlaw?_ofItems {ts : List Tree} :
    (Tree.ofItems ts).skipFlaw? = none ↔ ∀ t ∈ ts, t.skipFlaw? = none := by
  show (Items.ofList ts).skipFlaw? = none ↔ _
  induction ts with
  | nil => simp [Items.ofList, Items.skipFlaw?]
  | cons t ts ih => rw [Items.ofList, Items.skipFlaw?_more, ih, List.forall_mem_cons]

theorem Tree.skipFlaw?_ofMembers {ms : List (String × Tree)} :
    (Tree.ofMembers ms).skipFlaw? = none ↔ ∀ m ∈ ms, m.2.skipFlaw? = none := by
  show (Members.ofList ms).skipFlaw? = none ↔ _
  induction ms with
  | nil => simp [Members.ofList, Members.skipFlaw?]
  | cons m ms ih =>
      rw [Members.ofList, Members.skipFlaw?_more, ih, List.forall_mem_cons]
      simp

/-- What has a meaning has no flaw, not even where nothing is looked at. -/
theorem Means.skipFlaw? {role : Role ν} {t : Tree} {v : Value} (h : Means σ role t v) :
    t.skipFlaw? = none := by
  induction h with
  | null _ | scalar _ _ => rfl
  | @list slot item ts vs hshape hlength _ ih =>
      refine Tree.skipFlaw?_ofItems.mpr fun t ht => ?_
      obtain ⟨v, hv⟩ := exists_mem_zip_left hlength.le ht
      exact ih t v hv
  | pair _ _ _ iht ihu => exact Tree.skipFlaw?_ofItems.mpr (by simp [iht, ihu])
  | record _ _ _ ih => exact ih
  | unit _ _ _ => rfl
  | single _ _ _ _ ih | parts _ _ _ _ ih => exact Tree.skipFlaw?_ofMembers.mpr (by simp [ih])
  | @listed closed fields ts vs hlength hfits _ _ ih =>
      refine Tree.skipFlaw?_ofItems.mpr fun t ht => ?_
      have hfits : ts.length ≤ (fields.zip vs).length := by
        rwa [List.length_zip, ← hlength, min_self]
      obtain ⟨⟨f, v⟩, hv⟩ := exists_mem_zip_right hfits ht
      exact ih f v t hv
  | @named closed fields ms vs hlength _ hunknown _ _ ih =>
      refine Tree.skipFlaw?_ofMembers.mpr ?_
      rintro ⟨name, t⟩ ht
      -- a member is read by its field, or skipped because nothing in it is flawed
      by_cases hname : name ∈ fieldNames fields
      · obtain ⟨f, hf, rfl⟩ := List.mem_map.mp hname
        obtain ⟨v, hv⟩ := exists_mem_zip_left hlength.le hf
        exact ih f v t hv ht
      · exact (hunknown name t ht hname).2

end DeclExport.Json
