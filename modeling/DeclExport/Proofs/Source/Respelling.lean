/-
  DeclExport.Proofs.Source.Respelling
  ────────────────────────────────
  **SPELLING DOES NOT MATTER.**

  A text of the format may put its members in any order and its blanks anywhere, leave
  out what has a fallback, give fields by name or in order, and empty cases with or
  without `null`.  Whatever it chooses, at every place for itself, it is read to the
  same value of the model.
-/
import DeclExport.Proofs.Json.Respelling
import DeclExport.Proofs.Source.Interchange

namespace DeclExport.Format

open DeclExport.Json

/-! ## §1. The fallbacks of the format. -/

section

variable {ν : Type} {σ : Schema ν} (name : String) (shape : Shape ν)

@[simp] theorem fallbackFits_required : (Field.required name shape).FallbackFits σ :=
  fun _ h => nomatch h

@[simp] theorem fallbackFits_optional : (Field.optional name shape).FallbackFits σ := by
  rintro v ⟨⟩
  exact .null rfl

@[simp] theorem fallbackFits_listOrEmpty : (Field.listOrEmpty name shape).FallbackFits σ := by
  rintro v ⟨⟩
  exact .list rfl (by simp)

end

/-- What a field of the format holds where it is left out is a value of the field. -/
theorem fallbacksFit_format : Schema.FallbacksFit format := by
  intro n
  cases n <;> simp [format, binder, tags, single, Definition.fieldLists]

/-! ## §2. THE SPELLING THEOREM. -/

/-- The second text is the first one in another spelling, of a part of the format: the
trees of the two are spelt alike, and that of the second nests arrays and objects fewer
than 128 deep. -/
def Respelt (part : Part) (text text' : String) : Prop :=
  ∃ t t' : Tree, t.SpeltAs text.toList ∧ SpeltAlike format { shape := .named part } t t'
    ∧ t'.SpeltAs text'.toList ∧ t'.depth < 128

/-- **Spelling does not matter**: of every type of the model, a text that is read is one
of a tree, and every text that spells it otherwise is read to the same value. -/
theorem Codec.read_respelt {α : Type} (c : Codec α) {text : String} {a : α}
    (h : c.read text = .ok a) :
    (∃ t : Tree, t.SpeltAs text.toList)
      ∧ ∀ text', Respelt c.part text text' → c.read text' = .ok a := by
  obtain ⟨v, hv⟩ : ∃ v, decode format c.part text.toList = .ok v := by
    rw [Codec.read] at h
    cases hv : decode format c.part text.toList with
    | error e => simp [hv] at h
    | ok v => exact ⟨v, rfl⟩
  constructor
  · obtain ⟨t, hspelt, _⟩ := exists_means_of_decode_eq_ok namesApart_format hv
    exact ⟨t, hspelt⟩
  · rintro text' ⟨t, t', hspelt, halike, hspelt', hdepth⟩
    have hv' : decode format c.part text'.toList = .ok v :=
      decode_of_speltAlike namesApart_format fallbacksFit_format hv hspelt halike hspelt'
        (Nat.le_of_lt_succ hdepth)
    rw [Codec.read, hv']
    rw [Codec.read, hv] at h
    exact h

/-- The declaration of a name for `void`. -/
def typedefDecl : Decl := ⟨⟨1⟩, "t", [], none, none, .typedef .void⟩

/-- Its members by name, and no more of them than there must be. -/
def typedefByName : Tree :=
  .ofMembers [("id", .int 1), ("name", .string "t"),
    ("kind", .ofMembers [("typedef", .ofMembers [("ty", .string "void")])])]

/-- What stands in its fields, one after the other, with this content of the kind. -/
def typedefItems (content : Tree) : List Tree :=
  [.int 1, .string "t", .ofItems [], .scalar .null, .scalar .null]
    ++ [.ofMembers [("typedef", content)]]

/-- Nothing left out, and everything in its order. -/
def typedefInOrder : Tree :=
  .ofItems (typedefItems (.ofItems [.ofMembers [("void", .scalar .null)]]))

theorem speltAlike_typedef :
    SpeltAlike format { shape := .named .decl } typedefByName typedefInOrder := by
  have ofRecord : ∀ {t t' : Tree}, Respelling format (.fields true _) t t' →
      SpeltAlike format { shape := .named .decl } t t' :=
    fun h => .rel _ _ (.record rfl rfl h)
  have ofKind : ∀ {t t' : Tree}, Respelling format (.fields false _) t t' →
      SpeltAlike format { shape := .named .decl } (.ofItems (typedefItems t))
        (.ofItems (typedefItems t')) :=
    fun h => ofRecord (.element rfl (.parts rfl rfl rfl h))
  -- what has been left out
  refine .trans _ _ _ (ofRecord (.defaulted
    (.tail _ (.tail _ (.tail _ (.tail _ (.head _))))) rfl (by decide))) ?_
  refine .trans _ _ _ (ofRecord (.defaulted
    (.tail _ (.tail _ (.tail _ (.head _)))) rfl (by decide))) ?_
  refine .trans _ _ _ (ofRecord (.defaulted (.tail _ (.tail _ (.head _))) rfl (by decide))) ?_
  -- the order of the declaration, and no names
  refine .trans _ _ _ (ofRecord (.reordered
    ((@List.perm_append_comm _ [_, _, _] [_, _]).append_right [_]))) ?_
  refine .trans _ _ _ (ofRecord (@Respelling.exchanged Part format _ _ (typedefItems _) rfl)) ?_
  -- the kind: its field without a name, and the type as an object
  refine .trans _ _ _ (ofKind (@Respelling.exchanged Part format _ _ [.string "void"] rfl)) ?_
  exact ofKind (@Respelling.element Part format _ _ _ [] [] _ _ rfl (.tag rfl rfl rfl))

/-- The declaration by its members, without a blank. -/
def typedefTight : String :=
  "\x7b\"id\":1,\"name\":\"t\",\"kind\":\x7b\"typedef\":\x7b\"ty\":\"void\"\x7d\x7d\x7d"

/-- The declaration in its order, with blanks. -/
def typedefLoose : String :=
  "\t[1, \"t\", [], null, null, \x7b\"typedef\": [\x7b\"void\": null\x7d]\x7d]\n"

theorem Codec.read_respelt_of_typedef :
    decls.read typedefTight = .ok typedefDecl ∧ decls.read typedefLoose = .ok typedefDecl := by
  have htight : typedefByName.SpeltAs typedefTight.toList := .of_tokens rfl (by decide)
  have hloose : typedefInOrder.SpeltAs typedefLoose.toList := .of_tokens rfl (by decide)
  have hread : decls.read typedefTight = .ok typedefDecl := by
    rw [Codec.read, Json.decode, htight.read_eq]
    rfl
  refine ⟨hread, (decls.read_respelt hread).2 _ ?_⟩
  exact ⟨_, _, htight, speltAlike_typedef, hloose, by decide⟩

end DeclExport.Format
