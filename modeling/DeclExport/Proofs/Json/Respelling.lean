/-
  DeclExport.Proofs.Json.Respelling
  ────────────────────────────────
  **SPELLINGS THAT MEAN THE SAME.**

  A value has many trees.  `Respelling` names the ways in which two of them may differ,
  at one place: the order of members, a member that holds nothing but its fallback, the
  array form of fields, the tag of an empty case with or without `null`.  What differs
  in any number of places, in any of these ways, is spelt alike (`SpeltAlike`).

      t respelt as t'     →  t and t' mean the same values
      t spelt as text     →  text is decoded to the meaning of t

  Blanks are left to the texts of a tree, which may stand wherever tokens meet.
-/
import Mathlib.Logic.Relation
import DeclExport.Proofs.Json.Meaning
import DeclExport.Proofs.Json.Spelling

namespace DeclExport.Json

variable {ν : Type} {σ : Schema ν}

/-! ## §1. One change of spelling. -/

/-- In the role, the second tree is the first one with one change of spelling. -/
inductive Respelling (σ : Schema ν) : Role ν → Tree → Tree → Prop
  /-- A case without content, by its tag alone or with `null`. -/
  | tag {slot : Slot ν} {n : ν} {cases : List (String × Content ν)} {tag : String} :
      slot.shape = .named n → σ n = .union cases → cases.lookup tag = some .unit →
      Respelling σ (.value slot) (.string tag) (.ofMembers [(tag, .scalar .null)])
  /-- Members in another order. -/
  | reordered {closed : Bool} {fields : List (Field ν)} {ms ms' : List (String × Tree)} :
      ms.Perm ms' → Respelling σ (.fields closed fields) (.ofMembers ms) (.ofMembers ms')
  /-- A member with the fallback of a field that none was there for. -/
  | defaulted {closed : Bool} {fields : List (Field ν)} {f : Field ν} {v : Value}
      {ms : List (String × Tree)} :
      f ∈ fields → f.fallback = some v → f.name ∉ memberNames ms →
      Respelling σ (.fields closed fields) (.ofMembers ms)
        (.ofMembers ((f.name, v.tree σ f.slot.shape) :: ms))
  /-- One member for each field, or the array of what they hold. -/
  | exchanged {closed : Bool} {fields : List (Field ν)} {ts : List Tree} :
      ts.length = fields.length →
      Respelling σ (.fields closed fields) (.ofMembers ((fieldNames fields).zip ts))
        (.ofItems ts)
  /-- What is skipped, as long as it is well-formed. -/
  | skipped {closed : Bool} {fields : List (Field ν)} {name : String} {t t' : Tree}
      {ms : List (String × Tree)} :
      name ∉ fieldNames fields → t.skipFlaw? = none → t'.skipFlaw? = none →
      Respelling σ (.fields closed fields) (.ofMembers ((name, t) :: ms))
        (.ofMembers ((name, t') :: ms))
  /-- Inside of a member. -/
  | member {closed : Bool} {fields : List (Field ν)} {f : Field ν} {t t' : Tree}
      {ms : List (String × Tree)} :
      f ∈ fields → Respelling σ (.value f.slot) t t' →
      Respelling σ (.fields closed fields) (.ofMembers ((f.name, t) :: ms))
        (.ofMembers ((f.name, t') :: ms))
  /-- Inside of a field in the array form. -/
  | element {closed : Bool} {fields : List (Field ν)} {f : Field ν} {before after : List Tree}
      {t t' : Tree} :
      fields[before.length]? = some f → Respelling σ (.value f.slot) t t' →
      Respelling σ (.fields closed fields) (.ofItems (before ++ t :: after))
        (.ofItems (before ++ t' :: after))
  /-- Inside of an item of a list. -/
  | item {slot : Slot ν} {item : Shape ν} {before after : List Tree} {t t' : Tree} :
      slot.shape = .list item → Respelling σ (.value { shape := item }) t t' →
      Respelling σ (.value slot) (.ofItems (before ++ t :: after))
        (.ofItems (before ++ t' :: after))
  /-- Inside of the first half of a pair. -/
  | first {slot : Slot ν} {a b : Shape ν} {t t' u : Tree} : slot.shape = .pair a b →
      Respelling σ (.value { shape := a }) t t' →
      Respelling σ (.value slot) (.ofItems [t, u]) (.ofItems [t', u])
  /-- Inside of the second half of a pair. -/
  | second {slot : Slot ν} {a b : Shape ν} {t u u' : Tree} : slot.shape = .pair a b →
      Respelling σ (.value { shape := b }) u u' →
      Respelling σ (.value slot) (.ofItems [t, u]) (.ofItems [t, u'])
  /-- In the fields of a record. -/
  | record {slot : Slot ν} {n : ν} {fields : List (Field ν)} {t t' : Tree} :
      slot.shape = .named n → σ n = .record fields → Respelling σ (.fields true fields) t t' →
      Respelling σ (.value slot) t t'
  /-- Inside of the value that a case contains. -/
  | single {slot inner : Slot ν} {n : ν} {cases : List (String × Content ν)} {tag : String}
      {t t' : Tree} :
      slot.shape = .named n → σ n = .union cases → cases.lookup tag = some (.single inner) →
      Respelling σ (.value inner) t t' →
      Respelling σ (.value slot) (.ofMembers [(tag, t)]) (.ofMembers [(tag, t')])
  /-- In the fields of a case. -/
  | parts {slot : Slot ν} {n : ν} {cases : List (String × Content ν)} {tag : String}
      {fields : List (Field ν)} {t t' : Tree} :
      slot.shape = .named n → σ n = .union cases → cases.lookup tag = some (.fields fields) →
      Respelling σ (.fields false fields) t t' →
      Respelling σ (.value slot) (.ofMembers [(tag, t)]) (.ofMembers [(tag, t')])

/-- The trees differ in any number of such changes, each of them made or undone. -/
def SpeltAlike (σ : Schema ν) (slot : Slot ν) : Tree → Tree → Prop :=
  Relation.EqvGen (Respelling σ (.value slot))

/-! ## §2. What each kind of tree means. -/

@[simp] theorem Tree.ofItems_inj {ts us : List Tree} : Tree.ofItems ts = .ofItems us ↔ ts = us := by
  rw [Tree.ofItems, Tree.ofItems, Tree.array.injEq]
  induction ts generalizing us with
  | nil => cases us <;> simp [Items.ofList]
  | cons t ts ih => cases us <;> simp [Items.ofList, ih]

@[simp] theorem Tree.ofMembers_inj {ms ns : List (String × Tree)} :
    Tree.ofMembers ms = .ofMembers ns ↔ ms = ns := by
  rw [Tree.ofMembers, Tree.ofMembers, Tree.object.injEq]
  induction ms generalizing ns with
  | nil => cases ns <;> simp [Members.ofList]
  | cons m ms ih => cases ns <;> simp [Members.ofList, ih, Prod.ext_iff, and_assoc]

@[simp] theorem Tree.ofItems_ne_ofMembers {ts : List Tree} {ms : List (String × Tree)} :
    Tree.ofItems ts ≠ .ofMembers ms := nofun

@[simp] theorem Tree.ofMembers_ne_ofItems {ts : List Tree} {ms : List (String × Tree)} :
    Tree.ofMembers ms ≠ .ofItems ts := nofun

@[simp] theorem Tree.ofItems_ne_scalar {ts : List Tree} {s : Scalar} :
    Tree.ofItems ts ≠ .scalar s := nofun

@[simp] theorem Tree.ofMembers_ne_scalar {ms : List (String × Tree)} {s : Scalar} :
    Tree.ofMembers ms ≠ .scalar s := nofun

/-- The meaning as a reader. -/
def meaning (σ : Schema ν) : Reads ν := fun slot t v => Means σ (.value slot) t v

variable {slot : Slot ν} {n : ν} {cases : List (String × Content ν)} {tag : String}
  {closed : Bool} {fields : List (Field ν)} {ts : List Tree} {ms : List (String × Tree)}
  {t u : Tree} {v : Value}

theorem means_listed_iff :
    Means σ (.fields closed fields) (.ofItems ts) v
      ↔ ∃ vs, v = .record vs ∧ Listed (meaning σ) fields ts vs := by
  constructor
  · generalize htree : Tree.ofItems ts = tree
    intro h
    cases h with
    | listed hlength hfits hread hmissing =>
        obtain rfl := Tree.ofItems_inj.mp htree
        exact ⟨_, rfl, hlength, hfits, hread, hmissing⟩
    | named => exact absurd htree (by simp)
  · rintro ⟨vs, rfl, h⟩
    exact .listed h.length h.fits h.read h.missing

theorem means_named_iff :
    Means σ (.fields closed fields) (.ofMembers ms) v
      ↔ ∃ vs, v = .record vs ∧ Named (meaning σ) closed fields [] ms vs := by
  constructor
  · generalize htree : Tree.ofMembers ms = tree
    intro h
    cases h with
    | listed => exact absurd htree (by simp)
    | named hlength honce hunknown hread hmissing =>
        obtain rfl := Tree.ofMembers_inj.mp htree
        exact ⟨_, rfl, hlength, honce, fun _ _ _ => rfl, hunknown, hread, hmissing⟩
  · rintro ⟨vs, rfl, h⟩
    exact .named h.length h.once h.unknown h.read h.missing

theorem means_list_iff {item : Shape ν} (hshape : slot.shape = .list item) :
    Means σ (.value slot) (.ofItems ts) v
      ↔ ∃ vs, v = .list vs ∧ List.Forall₂ (meaning σ { shape := item }) ts vs := by
  constructor
  · generalize htree : Tree.ofItems ts = tree
    intro h
    cases h with
    | list hshape' hlength hread =>
        obtain rfl := Tree.ofItems_inj.mp htree
        cases hshape.symm.trans hshape'
        exact ⟨_, rfl, List.forall₂_iff_zip.mpr ⟨hlength, fun {t v} => hread t v⟩⟩
    | pair hshape' => cases hshape.symm.trans hshape'
    | record hshape' => cases hshape.symm.trans hshape'
    | null | scalar | unit | single | parts => exact absurd htree (by simp)
  · rintro ⟨vs, rfl, h⟩
    obtain ⟨hlength, hread⟩ := List.forall₂_iff_zip.mp h
    exact .list hshape hlength fun t v => hread

theorem means_pair_iff {a b : Shape ν} (hshape : slot.shape = .pair a b) :
    Means σ (.value slot) (.ofItems [t, u]) v
      ↔ ∃ w x, v = .list [w, x] ∧ Means σ (.value { shape := a }) t w
          ∧ Means σ (.value { shape := b }) u x := by
  constructor
  · generalize htree : Tree.ofItems [t, u] = tree
    intro h
    cases h with
    | pair hshape' hw hx =>
        obtain ⟨rfl, rfl⟩ : t = _ ∧ u = _ := by simpa using Tree.ofItems_inj.mp htree
        cases hshape.symm.trans hshape'
        exact ⟨_, _, rfl, hw, hx⟩
    | list hshape' => cases hshape.symm.trans hshape'
    | record hshape' => cases hshape.symm.trans hshape'
    | null | scalar | unit | single | parts => exact absurd htree (by simp)
  · rintro ⟨w, x, rfl, hw, hx⟩
    exact .pair hshape hw hx

/-- A record means what its fields do. -/
theorem means_record_iff (hshape : slot.shape = .named n) (hdef : σ n = .record fields)
    (htree : ∀ s, t ≠ .scalar s) :
    Means σ (.value slot) t v
      ↔ ∃ vs, v = .record vs ∧ Means σ (.fields true fields) t (.record vs) := by
  constructor
  · intro h
    cases h with
    | record hshape' hdef' hfields =>
        cases hshape.symm.trans hshape'
        cases hdef.symm.trans hdef'
        exact ⟨_, rfl, hfields⟩
    | null => exact absurd rfl (htree _)
    | scalar => exact absurd rfl (htree _)
    | list hshape' => cases hshape.symm.trans hshape'
    | pair hshape' => cases hshape.symm.trans hshape'
    | unit hshape' hdef' | single hshape' hdef' | parts hshape' hdef' =>
        cases hshape.symm.trans hshape'
        cases hdef.symm.trans hdef'
  · rintro ⟨vs, rfl, h⟩
    exact .record hshape hdef h

/-- A union means what its one member does. -/
theorem means_union_iff {content : Content ν} (hshape : slot.shape = .named n)
    (hdef : σ n = .union cases) (hcase : cases.lookup tag = some content) :
    Means σ (.value slot) (.ofMembers [(tag, t)]) v
      ↔ content.IsReadTo (Means σ) tag t v := by
  constructor
  · generalize htree : Tree.ofMembers [(tag, t)] = tree
    intro h
    cases h with
    | unit hshape' hdef' hcase' =>
        obtain ⟨rfl, rfl⟩ : tag = _ ∧ t = _ := by simpa using Tree.ofMembers_inj.mp htree
        cases hshape.symm.trans hshape'
        cases hdef.symm.trans hdef'
        cases hcase.symm.trans hcase'
        exact .unit
    | single hshape' hdef' hcase' hv =>
        obtain ⟨rfl, rfl⟩ : tag = _ ∧ t = _ := by simpa using Tree.ofMembers_inj.mp htree
        cases hshape.symm.trans hshape'
        cases hdef.symm.trans hdef'
        cases hcase.symm.trans hcase'
        exact .single hv
    | parts hshape' hdef' hcase' hvs =>
        obtain ⟨rfl, rfl⟩ : tag = _ ∧ t = _ := by simpa using Tree.ofMembers_inj.mp htree
        cases hshape.symm.trans hshape'
        cases hdef.symm.trans hdef'
        cases hcase.symm.trans hcase'
        exact .parts hvs
    | record hshape' hdef' =>
        cases hshape.symm.trans hshape'
        cases hdef.symm.trans hdef'
    | null | scalar | list | pair => exact absurd htree (by simp)
  · intro h
    cases h with
    | unit => exact .unit hshape hdef hcase
    | single hv => exact .single hshape hdef hcase hv
    | parts hvs => exact .parts hshape hdef hcase hvs

/-- The tag of a case without content means the case. -/
theorem means_tag_iff (hshape : slot.shape = .named n) (hdef : σ n = .union cases)
    (hcase : cases.lookup tag = some .unit) :
    Means σ (.value slot) (.string tag) v ↔ v = .case tag [] := by
  have hread : readScalar σ slot.shape (.string (some tag)) = .ok (.case tag []) := by
    simp [readScalar, readTag, hshape, hdef, hcase]
  constructor
  · generalize htree : Tree.string tag = tree
    intro h
    cases h with
    | scalar hnull hv =>
        cases htree
        exact Except.ok.inj (hv.symm.trans hread)
    | record hshape' hdef' =>
        cases hshape.symm.trans hshape'
        cases hdef.symm.trans hdef'
    | null | list | pair | unit | single | parts => cases htree
  · rintro rfl
    exact .scalar (by simp) hread

/-! ## §3. Fields, however they are spelt. -/

namespace Named

variable {R : Reads ν} {ms ms' : List (String × Tree)} {vs : List Value} {f : Field ν}

/-- The order of members is not looked at. -/
theorem perm (h : Named R closed fields [] ms vs) (hperm : ms.Perm ms') :
    Named R closed fields [] ms' vs := by
  have hnames : (memberNames ms).Perm (memberNames ms') := hperm.map Prod.fst
  refine ⟨h.length, (hnames.filter _).nodup_iff.mp h.once, fun _ _ _ => rfl, ?_, ?_, ?_⟩
  · exact fun name t ht => h.unknown name t (hperm.mem_iff.mpr ht)
  · exact fun f v t hv ht => h.read f v t hv (hperm.mem_iff.mpr ht)
  · exact fun f v hv hf => h.missing f v hv fun hmem => hf (hnames.mem_iff.mp hmem)

/-- A field that no member names may have been found with its fallback. -/
theorem found_fallback_iff (hnodup : (fieldNames fields).Nodup) (hf : f ∈ fields)
    (hfallback : f.fallback = some v) (hname : f.name ∉ memberNames ms) :
    Named R closed fields [(f.name, v)] ms vs ↔ Named R closed fields [] ms vs := by
  have hlookup : ∀ g ∈ fields, (List.lookup g.name [(f.name, v)] <|> g.fallback) = g.fallback := by
    intro g hg
    by_cases hne : g.name = f.name
    · obtain rfl : g = f := List.inj_on_of_nodup_map hnodup hg hf hne
      simp [hfallback]
    · simp [List.lookup_cons, beq_false_of_ne hne]
  constructor
  · intro h
    refine ⟨h.length, h.once, fun _ _ _ => rfl, h.unknown, h.read, fun g w hw hg => ?_⟩
    exact (hlookup g (List.of_mem_zip hw).1).symm.trans (h.missing g w hw hg)
  · intro h
    refine ⟨h.length, h.once, fun name hmem _ => ?_, h.unknown, h.read, fun g w hw hg => ?_⟩
    · rw [List.lookup_cons, beq_false_of_ne (ne_of_mem_of_not_mem hmem hname)]
      rfl
    · exact (hlookup g (List.of_mem_zip hw).1).trans (h.missing g w hw hg)

/-- Where names are told apart, what stands in the place of a field is what stands in the
place of its name. -/
theorem mem_zip_names_iff (hnodup : (fieldNames fields).Nodup)
    (hlength : fields.length = vs.length) {t : Tree} :
    (f, v) ∈ fields.zip vs ∧ (f.name, t) ∈ (fieldNames fields).zip ts
      ↔ ((f, v), t) ∈ (fields.zip vs).zip ts := by
  have hnames : (fieldNames fields).zip ts
      = ((fields.zip vs).zip ts).map (Prod.map (fun p => p.1.name) id) := by
    rw [← List.zip_map_left, map_name_zip hlength]
  rw [hnames, List.mem_map]
  constructor
  · rintro ⟨hv, ⟨p, u⟩, hu, heq⟩
    obtain ⟨hname, rfl⟩ := Prod.mk.inj heq
    rwa [eq_of_name hnodup hlength hv (List.of_mem_zip hu).1 hname.symm]
  · exact fun ht => ⟨(List.of_mem_zip ht).1, _, ht, rfl⟩

/-- One member for each field is the array of what they hold. -/
theorem listed_iff (hnodup : (fieldNames fields).Nodup) (hlength : ts.length = fields.length) :
    Named R closed fields [] ((fieldNames fields).zip ts) vs ↔ Listed R fields ts vs := by
  have hnames : memberNames ((fieldNames fields).zip ts) = fieldNames fields :=
    List.map_fst_zip (by simp [fieldNames, hlength])
  constructor
  · intro h
    refine ⟨h.length, hlength.le, fun f v t ht => ?_, ?_⟩
    · obtain ⟨hv, ht⟩ := (mem_zip_names_iff hnodup h.length).mpr ht
      exact h.read f v t hv ht
    · rw [List.drop_eq_nil_of_le (by simp [hlength])]
      simp
  · intro h
    refine ⟨h.length, ?_, fun _ _ _ => rfl, ?_, ?_, ?_⟩
    · rw [knownNames, hnames]
      exact hnodup.filter _
    · intro name t ht hname
      exact absurd (List.of_mem_zip ht).1 hname
    · exact fun f v t hv ht => h.read f v t ((mem_zip_names_iff hnodup h.length).mp ⟨hv, ht⟩)
    · intro f v hv hf
      rw [hnames] at hf
      exact absurd (List.mem_map.mpr ⟨f, (List.of_mem_zip hv).1, rfl⟩) hf

end Named

section

variable {before after : List Tree} {t t' : Tree} {vs : List Value}

/-- An item that is read to the same values may be exchanged. -/
theorem forall₂_replace {R : Tree → Value → Prop} (h : ∀ v, R t v → R t' v) :
    List.Forall₂ R (before ++ t :: after) vs → List.Forall₂ R (before ++ t' :: after) vs := by
  induction before generalizing vs with
  | nil =>
      rintro (_ | ⟨ht, hafter⟩)
      exact .cons (h _ ht) hafter
  | cons b before ih =>
      rintro (_ | ⟨hb, hrest⟩)
      exact .cons hb (ih hrest)

/-- A field that is read to the same values may be exchanged. -/
theorem Listed.replace {R : Reads ν} {f : Field ν} (hf : fields[before.length]? = some f)
    (h : ∀ v, R f.slot t v → R f.slot t' v) (hlisted : Listed R fields (before ++ t :: after) vs) :
    Listed R fields (before ++ t' :: after) vs := by
  induction before generalizing fields vs with
  | nil =>
      cases fields with
      | nil => simp at hf
      | cons g fields =>
          obtain rfl : g = f := by simpa using hf
          obtain ⟨v, ws, rfl, hv, hrest⟩ := Listed.cons_iff.mp hlisted
          exact Listed.cons_iff.mpr ⟨v, ws, rfl, h v hv, hrest⟩
  | cons b before ih =>
      cases fields with
      | nil => simp at hf
      | cons g fields =>
          obtain ⟨v, ws, rfl, hv, hrest⟩ := Listed.cons_iff.mp hlisted
          exact Listed.cons_iff.mpr ⟨v, ws, rfl, hv, ih (by simpa using hf) hrest⟩

end

/-! ## §4. A change of spelling is none of meaning. -/

/-- The fallbacks of a field are values that the field is for. -/
def Field.FallbackFits (σ : Schema ν) (f : Field ν) : Prop :=
  ∀ v, f.fallback = some v → v.Fits σ f.slot

/-- All fallbacks of the schema fit. -/
def Schema.FallbacksFit (σ : Schema ν) : Prop :=
  ∀ n, ∀ fields ∈ (σ n).fieldLists, ∀ f ∈ fields, f.FallbackFits σ

theorem Role.IsDefined.fallbackFits (hrole : (Role.fields closed fields).IsDefined σ)
    (hfit : σ.FallbacksFit) {f : Field ν} (hf : f ∈ fields) : f.FallbackFits σ := by
  obtain ⟨n, hn⟩ := hrole
  exact hfit n fields hn f hf

/-- The tree of a value that fits means that value. -/
theorem Value.Fits.means_iff (hσ : σ.NamesApart) (h : v.Fits σ slot) {w : Value} :
    Means σ (.value slot) (v.tree σ slot.shape) w ↔ w = v := by
  have hv : Means σ (.value slot) (v.tree σ slot.shape) v :=
    means_of_conform hσ _ _ _ _ (h.isReadBack hσ _ le_rfl)
  constructor
  · exact fun hw => hw.unique hσ hv
  · rintro rfl
    exact hv

/-- Fields are never spelt as a scalar. -/
theorem Respelling.ne_scalar {t t' : Tree} (h : Respelling σ (.fields closed fields) t t') :
    (∀ s, t ≠ .scalar s) ∧ ∀ s, t' ≠ .scalar s := by
  cases h <;> simp

/-- **One change of spelling** leaves the meaning alone. -/
theorem Respelling.means_iff (hσ : σ.NamesApart) (hfit : σ.FallbacksFit) {role : Role ν}
    {t t' : Tree} (h : Respelling σ role t t') (hrole : role.IsDefined σ) {v : Value} :
    Means σ role t v ↔ Means σ role t' v := by
  -- on the place of the change: inside of a tree, the meaning of what has changed is the same
  induction h generalizing v with
  | tag hshape hdef hcase =>
      simp only [means_tag_iff hshape hdef hcase, means_union_iff hshape hdef hcase,
        Content.isReadTo_unit_iff, true_and]
  | reordered hperm =>
      simp only [means_named_iff]
      constructor
      · rintro ⟨vs, rfl, h⟩
        exact ⟨vs, rfl, h.perm hperm⟩
      · rintro ⟨vs, rfl, h⟩
        exact ⟨vs, rfl, h.perm hperm.symm⟩
  | @defaulted closed fields f w ms hf hfallback hname =>
      have hmeans : ∀ x, meaning σ f.slot (w.tree σ f.slot.shape) x ↔ x = w := fun x =>
        (hrole.fallbackFits hfit hf w hfallback).means_iff hσ
      simp only [means_named_iff, Named.cons_iff_of_known (hrole.nodup hσ) hf, hmeans,
        exists_eq_left, List.lookup_nil, true_and,
        Named.found_fallback_iff (hrole.nodup hσ) hf hfallback hname]
  | exchanged hlength =>
      simp only [means_named_iff, means_listed_iff, Named.listed_iff (hrole.nodup hσ) hlength]
  | @skipped closed fields name t t' ms hname ht ht' =>
      simp only [means_named_iff, Named.cons_iff_of_unknown hname, ht, ht']
  | @member closed fields f t t' ms hf _ ih =>
      have hmeans : ∀ x, meaning σ f.slot t x ↔ meaning σ f.slot t' x := fun x => ih trivial
      simp only [means_named_iff, Named.cons_iff_of_known (hrole.nodup hσ) hf, hmeans]
  | @element closed fields f before after t t' hf _ ih =>
      simp only [means_listed_iff]
      constructor
      · rintro ⟨vs, rfl, h⟩
        exact ⟨vs, rfl, h.replace hf fun x => (ih trivial).mp⟩
      · rintro ⟨vs, rfl, h⟩
        exact ⟨vs, rfl, h.replace hf fun x => (ih trivial).mpr⟩
  | item hshape _ ih =>
      simp only [means_list_iff hshape]
      constructor
      · rintro ⟨vs, rfl, h⟩
        exact ⟨vs, rfl, forall₂_replace (fun x => (ih trivial).mp) h⟩
      · rintro ⟨vs, rfl, h⟩
        exact ⟨vs, rfl, forall₂_replace (fun x => (ih trivial).mpr) h⟩
  | first hshape _ ih => simp only [means_pair_iff hshape, ih trivial]
  | second hshape _ ih => simp only [means_pair_iff hshape, ih trivial]
  | record hshape hdef hfields ih =>
      obtain ⟨ht, ht'⟩ := hfields.ne_scalar
      rw [means_record_iff hshape hdef ht, means_record_iff hshape hdef ht']
      simp only [ih (Role.isDefined_of_record hdef)]
  | single hshape hdef hcase _ ih =>
      simp only [means_union_iff hshape hdef hcase, Content.isReadTo_single_iff, ih trivial]
  | parts hshape hdef hcase _ ih =>
      simp only [means_union_iff hshape hdef hcase, Content.isReadTo_fields_iff,
        ih (Role.isDefined_of_case hdef hcase)]

/-- **What is spelt alike means the same.** -/
theorem SpeltAlike.means_iff (hσ : σ.NamesApart) (hfit : σ.FallbacksFit) {t t' : Tree}
    (h : SpeltAlike σ slot t t') : Means σ (.value slot) t v ↔ Means σ (.value slot) t' v := by
  induction h with
  | rel t t' h => exact h.means_iff hσ hfit trivial
  | refl t => exact Iff.rfl
  | symm t t' _ ih => exact ih.symm
  | trans t t' t'' _ _ ih ih' => exact ih.trans ih'

/-! ## §5. Whole texts. -/

variable {text text' : List Char}

/-- A text is decoded to what its tree means, if the tree does not nest too deep. -/
theorem decode_eq_ok_of_means (hσ : σ.NamesApart) (hspelt : t.SpeltAs text)
    (hmeans : Means σ (.value { shape := .named n }) t v) (hdepth : t.depth ≤ maxDepth) :
    decode σ n text = .ok v := by
  have hconform : conform σ maxDepth { shape := .named n } t = .ok v :=
    hmeans.read_eq hσ (Role.isDefined_value _) hdepth
  rw [decode, hspelt.read_eq]
  simp only [hconform]
  rfl

/-- A text that is decoded is one of a tree, and is decoded to what the tree means. -/
theorem exists_means_of_decode_eq_ok (hσ : σ.NamesApart) (h : decode σ n text = .ok v) :
    ∃ t : Tree, t.SpeltAs text ∧ Means σ (.value { shape := .named n }) t v := by
  rw [decode] at h
  cases hread : read text with
  | mk t trailing =>
      simp only [hread] at h
      cases hconform : conform σ maxDepth { shape := .named n } t with
      | error e => simp [hconform] at h
      | ok w =>
          simp only [hconform] at h
          split_ifs at h with htrailing
          cases h
          obtain rfl : trailing = false := by simpa using htrailing
          have hmeans := means_of_conform hσ _ _ _ _ hconform
          exact ⟨t, .of_read_eq hmeans.skipFlaw? hread, hmeans⟩

/-- **Spelling does not matter**: what is spelt alike is decoded alike, with any blanks, as
long as it does not nest too deep. -/
theorem decode_of_speltAlike (hσ : σ.NamesApart) (hfit : σ.FallbacksFit) {t' : Tree}
    (h : decode σ n text = .ok v) (hspelt : t.SpeltAs text)
    (halike : SpeltAlike σ { shape := .named n } t t') (hspelt' : t'.SpeltAs text')
    (hdepth : t'.depth ≤ maxDepth) : decode σ n text' = .ok v := by
  obtain ⟨u, hu, hmeans⟩ := exists_means_of_decode_eq_ok hσ h
  obtain rfl := hu.unique hspelt
  exact decode_eq_ok_of_means hσ hspelt' ((halike.means_iff hσ hfit).mp hmeans) hdepth

end DeclExport.Json
