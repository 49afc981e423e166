/-
  DeclExport.Proofs.Term.Outline
  ────────────────────────────────
  **OUTLINES OF DECLARATIONS ARE READ BACK.**

  An *outline* is what the term of a declaration is made from: the qualified
  name, the parts that are shown, and what a function requires and ensures.  Its
  glyphs are a lead that tells the constructor, and the parts in a fixed order,
  so that a reader knows the depth of everything before reading it.
-/
import DeclExport.Proofs.Term.Stmt
import DeclExport.Term.Decl

namespace DeclExport

open Text Term Glyph Step

/-! ## §1. Parts of a declaration. -/

namespace Term

/-- A constant of an enumeration is read back. -/
theorem readable_constant (c : String × Int64) : Readable constant c := by
  intro c' r r' h
  have hint : Readable (fun i : Int64 => int i.toInt ++ ")") c.2 := by
    intro i r r' h
    exact Int64.toInt_inj.mp (readable_int ")" rfl (by decide) c.2.toInt i.toInt r r' h)
  obtain ⟨hname, hvalue⟩ := pair_inj hint h
  exact Prod.ext hname hvalue

theorem readable_constants (cs : List (String × Int64)) :
    Readable (fun cs => list (cs.map constant)) cs :=
  readable_list constant (fun c => pair_begins c.1 (int c.2.toInt)) fun c _ => readable_constant c

theorem readable_option_quoted (o : Option String) :
    Readable (fun o => option (o.map quoted)) o :=
  readable_option (fun s => readable_quoted ")" rfl (by decide) s) o

theorem closed_contract (requires ensures : Option String) :
    Closed (contract requires ensures) := by
  unfold contract
  split
  · exact closed_text _
  · exact (closed_nil.nested_cons (closed_text _).line_cons).text_cons _

theorem glyphs_contract_none (d : Nat) :
    glyphs d (contract none none) = row d "None".toList := by
  simp [contract]

theorem glyphs_contract {requires ensures : Option String}
    (h : ¬ (requires = none ∧ ensures = none)) (d : Nat) :
    glyphs d (contract requires ensures)
      = row d "Some \x7b| s_requires := ".toList
        ++ (row d (option (requires.map quoted)).toList
        ++ (row d ";".toList ++ (⟨d + 1, '\n'⟩ :: (row (d + 1) "s_ensures := ".toList
        ++ (row (d + 1) (option (ensures.map quoted)).toList
        ++ row (d + 1) " |\x7d".toList))))) := by
  rw [contract, if_neg h, glyphs_text_cons, glyphs_nested_cons (closed_text _).line_cons]
  simp

/-- What a function requires and ensures is read back. -/
theorem legible_contract (requires ensures : Option String) (d : Nat) :
    Legible (fun c : Option String × Option String => glyphs d (contract c.1 c.2))
      (requires, ensures) := by
  rintro ⟨requires', ensures'⟩ p X Y h
  by_cases hnone : requires = none ∧ ensures = none
  · by_cases hnone' : requires' = none ∧ ensures' = none
    · rw [hnone.1, hnone.2, hnone'.1, hnone'.2]
    · simp only [hnone.1, hnone.2, glyphs_contract_none, glyphs_contract hnone',
        List.append_assoc] at h
      exact absurd (written_cons_inj h).1 (by decide)
  · by_cases hnone' : requires' = none ∧ ensures' = none
    · simp only [hnone'.1, hnone'.2, glyphs_contract_none, glyphs_contract hnone,
        List.append_assoc] at h
      exact absurd (written_cons_inj h).1 (by decide)
    · simp only [glyphs_contract hnone, glyphs_contract hnone', List.append_assoc,
        List.cons_append] at h
      obtain ⟨hrequires, h⟩ :=
        (legible_row (readable_option_quoted requires) d).rest (written_append_cancel h)
      obtain ⟨_, h⟩ := written_cons_inj (written_append_cancel h)
      have hensures := legible_row (readable_option_quoted ensures) (d + 1) ensures' _ _ _
        (written_append_cancel h)
      rw [hrequires, hensures]

theorem closed_fieldTail (bs : List Binder) : Closed (fieldTail bs) := by
  induction bs with
  | nil => exact closed_text _
  | cons b bs ih => exact (ih.text_cons _).line_cons

theorem closed_fields (bs : List Binder) : Closed (fields bs) := by
  cases bs with
  | nil => exact closed_text _
  | cons b bs => exact (closed_fieldTail bs).text_cons _

theorem glyphs_fieldTail_cons (d : Nat) (b : Binder) (bs : List Binder) :
    glyphs d (fieldTail (b :: bs))
      = ⟨d, '\n'⟩ :: (row d "; ".toList ++ (row d (binder b).toList
        ++ glyphs d (fieldTail bs))) := by
  simp [fieldTail]

theorem glyphs_fields_cons (d : Nat) (b : Binder) (bs : List Binder) :
    glyphs d (fields (b :: bs))
      = row d "[ ".toList ++ (row d (binder b).toList ++ glyphs d (fieldTail bs)) := by
  simp [fields]

theorem legible_fieldTail (bs : List Binder) (d : Nat) :
    Legible (fun bs => glyphs d (fieldTail bs)) bs := by
  induction bs with
  | nil =>
      intro cs p X Y h
      cases cs with
      | nil => rfl
      | cons c cs =>
          simp only [glyphs_fieldTail_cons] at h
          exact absurd h (written_ne_newline (by decide) p d d _ _)
  | cons b bs ih =>
      intro cs p X Y h
      cases cs with
      | nil =>
          simp only [glyphs_fieldTail_cons] at h
          exact absurd h.symm (written_ne_newline (by decide) p d d _ _)
      | cons c cs =>
          simp only [glyphs_fieldTail_cons, List.cons_append, List.append_assoc] at h
          obtain ⟨_, h⟩ := written_cons_inj h
          obtain ⟨hb, h⟩ :=
            (legible_row (readable_binder b) d).rest (written_append_cancel h)
          rw [hb, ih cs _ _ _ h]

/-- **The fields of a record are read back**, an empty list of them as well. -/
theorem legible_fields (bs : List Binder) (d : Nat) :
    Legible (fun bs => glyphs d (fields bs)) bs := by
  intro cs p X Y h
  cases bs with
  | nil =>
      cases cs with
      | nil => rfl
      | cons c cs =>
          -- `[]` and `[ ` differ in the second character
          simp only [glyphs_fields_cons, List.append_assoc] at h
          exact absurd (written_cons_inj (written_cons_inj h).2).1 (by decide)
  | cons b bs =>
      cases cs with
      | nil =>
          simp only [glyphs_fields_cons, List.append_assoc] at h
          exact absurd (written_cons_inj (written_cons_inj h).2).1 (by decide)
      | cons c cs =>
          simp only [glyphs_fields_cons, List.append_assoc] at h
          obtain ⟨hb, h⟩ :=
            (legible_row (readable_binder b) d).rest (written_append_cancel h)
          rw [hb, legible_fieldTail bs d cs _ _ _ h]

end Term

/-! ## §2. Outlines. -/

namespace Term

/-- What the term of a declaration is made from. -/
inductive Outline where
  | function (name : String) (ret : Ty) (params : List Binder)
      (requires ensures : Option String) (body : Option (List Stmt))
  | object (name : String) (ty : Ty) (init : Option Expr)
  | record (isUnion : Bool) (name : String) (fields : Option (List Binder))
  | enumeration (name : String) (constants : List (String × Int64))
  | synonym (name : String) (ty : Ty)

namespace Outline

/-- The constructors of outlines; structs and unions are apart. -/
inductive Shape where
  | function | object | record (isUnion : Bool) | enumeration | synonym
  deriving DecidableEq

/-- The constructor of an outline. -/
def shape : Outline → Shape
  | .function _ _ _ _ _ _ => .function
  | .object _ _ _ => .object
  | .record isUnion _ _ => .record isUnion
  | .enumeration _ _ => .enumeration
  | .synonym _ _ => .synonym

/-- The text that names a constructor. -/
def Shape.lead : Shape → String
  | .function => "Dfunction "
  | .object => "Dvar "
  | .record false => "Dstruct "
  | .record true => "Dunion "
  | .enumeration => "Denum "
  | .synonym => "Dtypedef "

/-- The glyphs of a body that may be missing. -/
def bodyGlyphs (d : Nat) : Option (List Stmt) → List Glyph
  | none => row d "None".toList
  | some ss => row d "Some".toList ++ (⟨d + 1, '\n'⟩ :: glyphs (d + 1) (stmt (.block ss)))

/-- The glyphs of fields that may be missing. -/
def fieldGlyphs (d : Nat) : Option (List Binder) → List Glyph
  | none => row d "None".toList
  | some fs =>
      row d "(Some".toList
        ++ (⟨d + 1, '\n'⟩ :: (glyphs (d + 1) (fields fs) ++ row d ")".toList))

/-- The glyphs behind the lead. -/
def inside (d : Nat) : Outline → List Glyph
  | .function name ret params requires ensures body =>
      row d (quoted name).toList ++ (⟨d + 1, '\n'⟩ :: (row (d + 1) "\x7b| f_return := ".toList
        ++ (row (d + 1) (ty ret).toList ++ (row (d + 1) ";".toList
        ++ (⟨d + 1, '\n'⟩ :: (row (d + 1) "   f_params := ".toList
        ++ (row (d + 1) (list (params.map binder)).toList ++ (row (d + 1) ";".toList
        ++ (⟨d + 1, '\n'⟩ :: (row (d + 1) "   f_spec := ".toList
        ++ (glyphs (d + 1) (contract requires ensures) ++ (row (d + 1) ";".toList
        ++ (⟨d + 1, '\n'⟩ :: (row (d + 1) "   f_body := ".toList
        ++ (bodyGlyphs (d + 1) body ++ row (d + 1) " |\x7d".toList)))))))))))))))
  | .object name t init =>
      row d (quoted name ++ " ").toList ++ (row d (ty t).toList
        ++ (row d " ".toList ++ row d (option (init.map expr)).toList))
  | .record _ name fields => row d (quoted name ++ " ").toList ++ fieldGlyphs d fields
  | .enumeration name constants =>
      row d (quoted name ++ " ").toList ++ row d (list (constants.map constant)).toList
  | .synonym name t => row d (quoted name ++ " ").toList ++ row d (ty t).toList

/-- The glyphs of an outline. -/
def glyphs (d : Nat) (o : Outline) : List Glyph := row d o.shape.lead.toList ++ o.inside d

theorem readable_lead (s : Shape) : Readable Shape.lead s := by
  refine readable_of_not_prefix ?_ s
  rintro (_ | _ | (_ | _) | _ | _) (_ | _ | (_ | _) | _ | _) <;> decide

theorem legible_bodyGlyphs (body : Option (List Stmt)) (d : Nat) :
    Legible (bodyGlyphs d) body := by
  intro body' p X Y h
  cases body with
  | none =>
      cases body' with
      | none => rfl
      | some ss => exact absurd (written_cons_inj h).1 (by decide)
  | some ss =>
      cases body' with
      | none => exact absurd (written_cons_inj h).1 (by decide)
      | some ss' =>
          simp only [bodyGlyphs, List.append_assoc, List.cons_append] at h
          obtain ⟨_, h⟩ := written_cons_inj (written_append_cancel h)
          have hblock := Stmt.legible_stmt (.block ss) (d + 1) (.block ss') _ _ _ h
          rw [Stmt.block.inj hblock]

theorem legible_fieldGlyphs (fs : Option (List Binder)) (d : Nat) :
    Legible (fieldGlyphs d) fs := by
  intro fs' p X Y h
  cases fs with
  | none =>
      cases fs' with
      | none => rfl
      | some gs => exact absurd (written_cons_inj h).1 (by decide)
  | some gs =>
      cases fs' with
      | none => exact absurd (written_cons_inj h).1 (by decide)
      | some gs' =>
          simp only [fieldGlyphs, List.append_assoc, List.cons_append] at h
          obtain ⟨_, h⟩ := written_cons_inj (written_append_cancel h)
          rw [legible_fields gs (d + 1) gs' _ _ _ h]

/-- A name in front of a line break, which looks the same at every depth. -/
theorem name_inj_of_newline {d e : Nat} {p : Bool} {m n : String} {X Y : List Glyph}
    (h : written p (row d (quoted m).toList ++ (⟨e, '\n'⟩ :: X))
      = written p (row d (quoted n).toList ++ (⟨e, '\n'⟩ :: Y))) : m = n := by
  -- a line feed is written alike at every depth, so it can be the mark of the name
  have hdepth : ∀ (s : String) (Z : List Glyph),
      written p (row d (quoted s).toList ++ (⟨e, '\n'⟩ :: Z))
        = written p (row d (quoted s ++ "\n").toList ++ Z) := by
    intro s Z
    have hbreak : row d "\n".toList ++ Z = ⟨d, '\n'⟩ :: Z := rfl
    rw [String.toList_append, row_append, List.append_assoc, hbreak, written_append,
      written_append, written_newline, written_newline]
  rw [hdepth, hdepth] at h
  exact legible_row (readable_quoted "\n" rfl (by decide) m) d n p X Y h

/-- **Outlines are read back**, at every depth and whatever follows. -/
theorem legible_outline (o : Outline) (d : Nat) : Legible (glyphs d) o := by
  intro o' p X Y h
  simp only [glyphs, List.append_assoc] at h
  obtain ⟨hshape, hin⟩ := (legible_row (readable_lead o.shape) d).rest h
  cases o with
  | function name ret params requires ensures body =>
      cases o' with
      | function name' ret' params' requires' ensures' body' =>
          -- the name at this depth, every member of the record one scope deeper
          simp only [inside, List.append_assoc, List.cons_append] at hin
          obtain rfl := name_inj_of_newline hin
          obtain ⟨_, hin⟩ := written_cons_inj (written_append_cancel hin)
          obtain ⟨hret, hin⟩ :=
            (legible_row (Ty.readable_ty ret) (d + 1)).rest (written_append_cancel hin)
          obtain ⟨_, hin⟩ := written_cons_inj (written_append_cancel hin)
          obtain ⟨hparams, hin⟩ :=
            (legible_row (readable_binders params) (d + 1)).rest (written_append_cancel hin)
          obtain ⟨_, hin⟩ := written_cons_inj (written_append_cancel hin)
          obtain ⟨hcontract, hin⟩ := Legible.rest (b := (requires', ensures'))
            (legible_contract requires ensures (d + 1)) (written_append_cancel hin)
          obtain ⟨_, hin⟩ := written_cons_inj (written_append_cancel hin)
          have hbody := legible_bodyGlyphs body (d + 1) body' _ _ _ (written_append_cancel hin)
          obtain ⟨hrequires, hensures⟩ := Prod.mk.inj hcontract
          rw [hret, hparams, hrequires, hensures, hbody]
      | _ => simp [shape] at hshape
  | object name t init =>
      cases o' with
      | object name' t' init' =>
          simp only [inside, List.append_assoc] at hin
          obtain ⟨hname, hin⟩ :=
            (legible_row (readable_quoted " " rfl (by decide) name) d).rest hin
          obtain ⟨hty, hin⟩ := (legible_row (Ty.readable_ty t) d).rest hin
          have hinit := legible_row (readable_option_expr init) d init' _ _ _
            (written_append_cancel hin)
          rw [hname, hty, hinit]
      | _ => simp [shape] at hshape
  | record isUnion name fields =>
      cases o' with
      | record isUnion' name' fields' =>
          simp only [inside, List.append_assoc] at hin
          obtain ⟨hname, hin⟩ :=
            (legible_row (readable_quoted " " rfl (by decide) name) d).rest hin
          rw [Shape.record.inj hshape, hname, legible_fieldGlyphs fields d fields' _ _ _ hin]
      | _ => simp [shape] at hshape
  | enumeration name constants =>
      cases o' with
      | enumeration name' constants' =>
          simp only [inside, List.append_assoc] at hin
          obtain ⟨hname, hin⟩ :=
            (legible_row (readable_quoted " " rfl (by decide) name) d).rest hin
          rw [hname, legible_row (readable_constants constants) d constants' _ _ _ hin]
      | _ => simp [shape] at hshape
  | synonym name t =>
      cases o' with
      | synonym name' t' =>
          simp only [inside, List.append_assoc] at hin
          obtain ⟨hname, hin⟩ :=
            (legible_row (readable_quoted " " rfl (by decide) name) d).rest hin
          rw [hname, legible_row (Ty.readable_ty t) d t' _ _ _ hin]
      | _ => simp [shape] at hshape

end Outline

end Term

end DeclExport
