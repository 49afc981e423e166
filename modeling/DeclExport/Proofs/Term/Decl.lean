/-
  DeclExport.Proofs.Term.Decl
  ────────────────────────────────
  **WHAT THE TERM OF A DECLARATION SHOWS.**

  The layout of a declaration is a function of its outline (`shows_decl`), and
  outlines are read back.  So two terms are equal exactly if the outlines are,
  and the outlines are equal exactly if the names, the kinds as they are shown,
  and what functions require and ensure are.
-/
import DeclExport.Proofs.Term.Outline

namespace DeclExport

open Text Term Glyph Step

/-! ## §1. What is shown of a kind. -/

/-- A tag as it is shown: classes are structs. -/
def RecordTag.shown : RecordTag → RecordTag
  | .structTag => .structTag
  | .classTag => .structTag
  | .unionTag => .unionTag

/-- What is left of an optional part, if it is kept just for a full definition. -/
theorem Verdict.filter_isFull {α : Type} (v : Verdict) (o : Option α) :
    (o.filter fun _ => v.isFull) = if .definition ≤ v then o else none := by
  cases o with
  | none => simp
  | some a => by_cases hv : Verdict.definition ≤ v <;> simp [isFull, hv]

namespace DeclKind

/-- Whether a kind is that of functions. -/
def IsFunction : DeclKind → Prop
  | .function _ _ _ => True
  | _ => False

/-- A kind with its classes as structs. -/
def classAsStruct : DeclKind → DeclKind
  | .record tag fields => .record tag.shown fields
  | kind => kind

/-- A kind without body, initializer and fields. -/
def signature : DeclKind → DeclKind
  | .function ret params _ => .function ret params none
  | .variable ty _ => .variable ty none
  | .record tag _ => .record tag none
  | kind => kind

/-- A kind as it is shown under a verdict: the signature alone, unless the verdict
is to define. -/
def shown (v : Verdict) (kind : DeclKind) : DeclKind :=
  if .definition ≤ v then kind.classAsStruct else kind.classAsStruct.signature

/-- What is shown of a kind, constructor by constructor. -/
theorem shown_eq (v : Verdict) (kind : DeclKind) :
    kind.shown v = match kind with
      | .function ret params body => .function ret params (body.filter fun _ => v.isFull)
      | .variable ty init => .variable ty (init.filter fun _ => v.isFull)
      | .record tag fields => .record tag.shown (fields.filter fun _ => v.isFull)
      | kind => kind := by
  simp only [Verdict.filter_isFull]
  by_cases hv : Verdict.definition ≤ v
  · cases kind <;> simp [shown, classAsStruct, hv]
  · cases kind <;> simp [shown, classAsStruct, signature, hv]

/-- What a kind is shown as is a function exactly if the kind is. -/
theorem isFunction_shown (v : Verdict) (kind : DeclKind) :
    (kind.shown v).IsFunction ↔ kind.IsFunction := by
  rw [shown_eq]
  cases kind <;> rfl

/-- No kind is shown as a class. -/
theorem shown_ne_class (v : Verdict) (kind : DeclKind) (fs : Option (List Binder)) :
    kind.shown v ≠ .record .classTag fs := by
  rw [shown_eq]
  cases kind with
  | record tag fs' => cases tag <;> simp [RecordTag.shown]
  | _ => simp

end DeclKind

namespace Term

/-- The outline of a kind, if it has a term at all. -/
def Outline.ofKind (name : String) (requires ensures : Option String) :
    DeclKind → Option Outline
  | .function ret params body => some (.function name ret params requires ensures body)
  | .variable t init => some (.object name t init)
  | .record tag fields => some (.record (tag = .unionTag) name fields)
  | .enumeration constants => some (.enumeration name constants)
  | .typedef t => some (.synonym name t)
  | .unsupported _ => none

/-- The outline that the term of a declaration is made from. -/
def outline? (d : Decl) (v : Verdict) (t : AnnotationTable) : Option Outline :=
  Outline.ofKind d.qualifiedName (t.get? d.id "requires") (t.get? d.id "ensures")
    (d.kind.shown v)

/-! ## §2. The layout of a declaration is that of its outline. -/

/-- Steps that are closed and come to the glyphs of an outline. -/
def Shows (steps : List Step) (o : Outline) : Prop :=
  Closed steps ∧ ∀ k, Step.glyphs k steps = o.glyphs k

/-- The steps of a body that may be missing. -/
def bodySteps : Option (List Stmt) → List Step
  | none => [.text "None"]
  | some ss => [.text "Some", .nested (.line :: stmt (.block ss))]

/-- The steps of fields that may be missing. -/
def fieldSteps : Option (List Binder) → List Step
  | none => [.text "None"]
  | some fs => [.text "(Some", .nested (.line :: fields fs), .text ")"]

theorem closed_bodySteps (body : Option (List Stmt)) : Closed (bodySteps body) := by
  cases body with
  | none => exact closed_text _
  | some ss => exact (closed_nil.nested_cons (Stmt.closed_stmt _).line_cons).text_cons _

theorem closed_fieldSteps (fs : Option (List Binder)) : Closed (fieldSteps fs) := by
  cases fs with
  | none => exact closed_text _
  | some fs =>
      exact ((closed_text _).nested_cons (closed_fields fs).line_cons).text_cons _

theorem glyphs_bodySteps (d : Nat) (body : Option (List Stmt)) :
    Step.glyphs d (bodySteps body) = Outline.bodyGlyphs d body := by
  cases body with
  | none => simp [bodySteps, Outline.bodyGlyphs]
  | some ss =>
      rw [bodySteps, glyphs_text_cons, glyphs_nested_cons (Stmt.closed_stmt _).line_cons]
      simp [Outline.bodyGlyphs]

theorem glyphs_fieldSteps (d : Nat) (fs : Option (List Binder)) :
    Step.glyphs d (fieldSteps fs) = Outline.fieldGlyphs d fs := by
  cases fs with
  | none => simp [fieldSteps, Outline.fieldGlyphs]
  | some fs =>
      rw [fieldSteps, glyphs_text_cons, glyphs_nested_cons (closed_fields fs).line_cons]
      simp [Outline.fieldGlyphs]

theorem shows_function (name : String) (ret : Ty) (params : List Binder)
    (requires ensures : Option String) (body : Option (List Stmt)) :
    Shows [.text ("Dfunction " ++ quoted name),
        .nested (
          [.line, .text ("\x7b| f_return := " ++ ty ret ++ ";"),
            .line, .text ("   f_params := " ++ list (params.map binder) ++ ";"),
            .line, .text "   f_spec := "]
          ++ contract requires ensures
          ++ [.text ";", .line, .text "   f_body := "]
          ++ bodySteps body
          ++ [.text " |\x7d"])]
      (.function name ret params requires ensures body) := by
  -- what stands in the scope is closed from any point on; built up from behind
  have hend : Closed (bodySteps body ++ [.text " |\x7d"]) :=
    (closed_bodySteps body).append (closed_text _)
  have hspec : Closed (contract requires ensures ++
      ([.text ";", .line, .text "   f_body := "] ++ (bodySteps body ++ [.text " |\x7d"]))) :=
    (closed_contract requires ensures).append ((hend.text_cons _).line_cons.text_cons _)
  have hfields : Closed ([.line, .text ("\x7b| f_return := " ++ ty ret ++ ";"),
      .line, .text ("   f_params := " ++ list (params.map binder) ++ ";"),
      .line, .text "   f_spec := "] ++ (contract requires ensures ++
      ([.text ";", .line, .text "   f_body := "] ++ (bodySteps body ++ [.text " |\x7d"])))) :=
    ((((hspec.text_cons _).line_cons.text_cons _).line_cons.text_cons _).line_cons)
  simp only [List.append_assoc]
  refine ⟨(closed_nil.nested_cons hfields).text_cons _, fun k => ?_⟩
  rw [glyphs_text_cons, glyphs_nested_cons hfields]
  simp [glyphs_append (closed_contract requires ensures), glyphs_append (closed_bodySteps body),
    glyphs_bodySteps, Outline.glyphs, Outline.shape, Outline.Shape.lead, Outline.inside]

theorem shows_record (name : String) (tag : RecordTag) (fs : Option (List Binder)) :
    Shows ([.text (recordHead tag ++ quoted name), .nbsp] ++ fieldSteps fs)
      (.record (tag.shown = .unionTag) name fs) := by
  have hfields := closed_fieldSteps fs
  refine ⟨hfields.nbsp_cons.text_cons _, fun k => ?_⟩
  cases tag <;>
    simp [glyphs_fieldSteps, RecordTag.shown, recordHead, Outline.glyphs, Outline.shape,
      Outline.Shape.lead, Outline.inside]

theorem shows_object (name : String) (t : Ty) (init : Option Expr) :
    Shows [.text ("Dvar " ++ quoted name), .nbsp, .text (ty t), .nbsp,
        .text (option (init.map expr))]
      (.object name t init) := by
  refine ⟨(closed_text _).nbsp_cons.text_cons _ |>.nbsp_cons.text_cons _, fun k => ?_⟩
  simp [Outline.glyphs, Outline.shape, Outline.Shape.lead, Outline.inside]

theorem shows_enumeration (name : String) (cs : List (String × Int64)) :
    Shows [.text ("Denum " ++ quoted name), .nbsp, .text (list (cs.map constant))]
      (.enumeration name cs) := by
  refine ⟨(closed_text _).nbsp_cons.text_cons _, fun k => ?_⟩
  simp [Outline.glyphs, Outline.shape, Outline.Shape.lead, Outline.inside]

theorem shows_synonym (name : String) (t : Ty) :
    Shows [.text ("Dtypedef " ++ quoted name), .nbsp, .text (ty t)] (.synonym name t) := by
  refine ⟨(closed_text _).nbsp_cons.text_cons _, fun k => ?_⟩
  simp [Outline.glyphs, Outline.shape, Outline.Shape.lead, Outline.inside]

/-- Every outline is that of a layout. -/
theorem exists_shows (o : Outline) : ∃ steps, Shows steps o := by
  cases o with
  | function name ret params requires ensures body => exact ⟨_, shows_function _ _ _ _ _ _⟩
  | object name t init => exact ⟨_, shows_object _ _ _⟩
  | record isUnion name fs =>
      cases isUnion with
      | false => exact ⟨_, shows_record name .structTag fs⟩
      | true => exact ⟨_, shows_record name .unionTag fs⟩
  | enumeration name cs => exact ⟨_, shows_enumeration _ _⟩
  | synonym name t => exact ⟨_, shows_synonym _ _⟩

/-- **A declaration is laid out as its outline says.** -/
theorem shows_decl {d : Decl} {v : Verdict} {t : AnnotationTable} {o : Outline}
    (h : outline? d v t = some o) :
    Shows (decl d v.isFull (t.get? d.id "requires") (t.get? d.id "ensures")) o := by
  unfold outline? at h
  unfold decl
  cases hkind : d.kind with
  | function ret params body =>
      rw [hkind, DeclKind.shown_eq] at h
      obtain rfl := Option.some.inj h
      exact shows_function _ _ _ _ _ _
  | «variable» u init =>
      rw [hkind, DeclKind.shown_eq] at h
      obtain rfl := Option.some.inj h
      exact shows_object _ _ _
  | record tag fs =>
      rw [hkind, DeclKind.shown_eq] at h
      obtain rfl := Option.some.inj h
      exact shows_record _ _ _
  | enumeration cs =>
      rw [hkind, DeclKind.shown_eq] at h
      obtain rfl := Option.some.inj h
      exact shows_enumeration _ _
  | typedef u =>
      rw [hkind, DeclKind.shown_eq] at h
      obtain rfl := Option.some.inj h
      exact shows_synonym _ _
  | unsupported construct =>
      rw [hkind, DeclKind.shown_eq] at h
      exact absurd h (by simp [Outline.ofKind])

/-- Constructs without a structured form are refused under the identity of the
declaration. -/
theorem renderTerm_of_unsupported {d : Decl} {construct : String}
    (h : d.kind = .unsupported construct) (v : Verdict) (t : AnnotationTable) :
    renderTerm d v t
      = .error (.unrenderable d.id ("no term for `" ++ construct ++ "` declarations")) := by
  rw [renderTerm, decl, h]
  rfl

/-- They are all that has no outline. -/
theorem outline?_eq_none_iff {d : Decl} {v : Verdict} {t : AnnotationTable} :
    outline? d v t = none ↔ ∃ construct, d.kind = .unsupported construct := by
  unfold outline?
  cases hkind : d.kind <;> simp [DeclKind.shown_eq, Outline.ofKind]

/-- Declarations without an outline have no term. -/
theorem renderTerm_of_outline?_eq_none {d : Decl} {v : Verdict} {t : AnnotationTable}
    (h : outline? d v t = none) : ∃ e, renderTerm d v t = .error e := by
  obtain ⟨construct, hkind⟩ := outline?_eq_none_iff.mp h
  exact ⟨_, renderTerm_of_unsupported hkind v t⟩

/-- **The term of a declaration** is what is written for its outline. -/
theorem outline_of_renderTerm {d : Decl} {v : Verdict} {t : AnnotationTable} {r : Rendered}
    (h : renderTerm d v t = .ok r) :
    ∃ o, outline? d v t = some o ∧ r.term = String.ofList (written false (o.glyphs 0)) := by
  cases ho : outline? d v t with
  | none =>
      obtain ⟨e, he⟩ := renderTerm_of_outline?_eq_none ho
      exact absurd (he.symm.trans h) (by simp)
  | some o =>
      obtain ⟨hclosed, hglyphs⟩ := shows_decl ho
      rw [renderTerm, toText_of_closed hclosed] at h
      obtain rfl := Except.ok.inj h
      exact ⟨o, rfl, by rw [hglyphs]⟩

/-- **Why a declaration has no term**: it is a construct without a structured form,
and the failure says so under its identity. -/
theorem renderTerm_eq_error_iff {d : Decl} {v : Verdict} {t : AnnotationTable} {e : Failure} :
    renderTerm d v t = .error e ↔ ∃ construct, d.kind = .unsupported construct
      ∧ e = .unrenderable d.id ("no term for `" ++ construct ++ "` declarations") := by
  constructor
  · intro h
    cases ho : outline? d v t with
    | none =>
        obtain ⟨construct, hkind⟩ := outline?_eq_none_iff.mp ho
        rw [renderTerm_of_unsupported hkind] at h
        exact ⟨construct, hkind, (Except.error.inj h).symm⟩
    | some o =>
        obtain ⟨hclosed, _⟩ := shows_decl ho
        rw [renderTerm, toText_of_closed hclosed] at h
        exact absurd h (by simp)
  · rintro ⟨construct, hkind, rfl⟩
    exact renderTerm_of_unsupported hkind v t

/-! ## §3. THE COMPARISON THEOREM. -/

/-- Apart from classes, a tag is known from whether it is that of unions. -/
theorem isUnion_eq_iff {tag tag' : RecordTag} (h : tag ≠ .classTag) (h' : tag' ≠ .classTag) :
    decide (tag = .unionTag) = decide (tag' = .unionTag) ↔ tag = tag' := by
  cases tag <;> cases tag' <;> simp_all

/-- Outlines compared, for kinds that are not classes. -/
theorem ofKind_eq_iff {name name' : String} {requires requires' ensures ensures' : Option String}
    {kind kind' : DeclKind} {o o' : Outline}
    (hclass : ∀ fs, kind ≠ .record .classTag fs) (hclass' : ∀ fs, kind' ≠ .record .classTag fs)
    (h : Outline.ofKind name requires ensures kind = some o)
    (h' : Outline.ofKind name' requires' ensures' kind' = some o') :
    o = o' ↔ name = name' ∧ kind = kind'
      ∧ (kind.IsFunction → requires = requires' ∧ ensures = ensures') := by
  cases kind <;> cases kind' <;> cases h <;> cases h'
  case function.function.refl.refl ret params body ret' params' body' =>
    simp only [Outline.function.injEq, DeclKind.function.injEq, DeclKind.IsFunction,
      true_implies]
    tauto
  case record.record.refl.refl tag fs tag' fs' =>
    have htag : tag ≠ .classTag := fun hc => hclass fs (hc ▸ rfl)
    have htag' : tag' ≠ .classTag := fun hc => hclass' fs' (hc ▸ rfl)
    simp only [Outline.record.injEq, DeclKind.record.injEq, DeclKind.IsFunction,
      isUnion_eq_iff htag htag', false_implies, and_true]
    tauto
  -- the other pairs of kinds hold the same data, or are apart
  all_goals simp [DeclKind.IsFunction]

/-- Terms are equal exactly if their outlines are. -/
theorem term_eq_iff_outline_eq {r r' : Rendered} {o o' : Outline}
    (h : r.term = String.ofList (written false (o.glyphs 0)))
    (h' : r'.term = String.ofList (written false (o'.glyphs 0))) :
    r.term = r'.term ↔ o = o' := by
  constructor
  · intro hterm
    rw [h, h', String.ofList_inj] at hterm
    exact Outline.legible_outline o 0 o' false [] [] (by simpa using hterm)
  · intro ho
    rw [h, h', ho]

end Term

/-- **Two terms are equal exactly if they show the same**: the qualified name, the
kind as it is shown under the verdict, and what a function requires and ensures.
Nothing else of a declaration or its annotations leaks in. -/
theorem renderTerm_term_eq_iff {d d' : Decl} {v v' : Verdict} {t t' : AnnotationTable}
    {r r' : Rendered} (h : renderTerm d v t = .ok r) (h' : renderTerm d' v' t' = .ok r') :
    r.term = r'.term ↔
      d.qualifiedName = d'.qualifiedName
        ∧ d.kind.shown v = d'.kind.shown v'
        ∧ (d.kind.IsFunction →
          t.get? d.id "requires" = t'.get? d'.id "requires"
            ∧ t.get? d.id "ensures" = t'.get? d'.id "ensures") := by
  obtain ⟨o, ho, hr⟩ := outline_of_renderTerm h
  obtain ⟨o', ho', hr'⟩ := outline_of_renderTerm h'
  rw [term_eq_iff_outline_eq hr hr',
    ofKind_eq_iff (DeclKind.shown_ne_class v d.kind) (DeclKind.shown_ne_class v' d'.kind) ho ho',
    DeclKind.isFunction_shown]

/-- A class with fields, under a verdict to declare, and a struct that is announced
under another identity: one term, so one kind is shown. -/
theorem renderTerm_term_eq_of_class :
    renderTerm ⟨⟨1⟩, "S", ["ns"], none, none, .record .classTag (some [⟨"x", .bool⟩])⟩
        .declaration .empty = .ok ⟨"ns::S", "Dstruct \"ns::S\" None"⟩
      ∧ renderTerm ⟨⟨2⟩, "S", ["ns"], none, none, .record .structTag none⟩
        .definition ⟨[(⟨2⟩, [⟨"export", none⟩])]⟩ = .ok ⟨"ns::S", "Dstruct \"ns::S\" None"⟩
      ∧ (DeclKind.record .classTag (some [⟨"x", .bool⟩])).shown .declaration
        = (DeclKind.record .structTag none).shown .definition := by
  have hclass : renderTerm
      ⟨⟨1⟩, "S", ["ns"], none, none, .record .classTag (some [⟨"x", .bool⟩])⟩
      .declaration .empty = .ok ⟨"ns::S", "Dstruct \"ns::S\" None"⟩ := by
    decide +kernel
  have hstruct : renderTerm ⟨⟨2⟩, "S", ["ns"], none, none, .record .structTag none⟩
      .definition ⟨[(⟨2⟩, [⟨"export", none⟩])]⟩
        = .ok ⟨"ns::S", "Dstruct \"ns::S\" None"⟩ := by
    decide +kernel
  obtain ⟨_, hshown, _⟩ := (renderTerm_term_eq_iff hclass hstruct).mp rfl
  exact ⟨hclass, hstruct, hshown⟩

end DeclExport
