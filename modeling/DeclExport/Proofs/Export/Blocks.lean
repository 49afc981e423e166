/-
  DeclExport.Proofs.Export.Blocks
  ────────────────────────────────
  **DOCUMENTS OF RENDERED TERMS.**

  The term of a declaration is written twice: from its outline, and again in the
  document that it is spliced into.  What comes out is what would be written for
  its outline one or two scopes deeper.  So a document of rendered terms is

      the preamble, a block for each entry, the terminator

  and a block is made from the name and the outline of its entry
  (`Outlined.assemble_text`).

  In a list of terms the lines of a term are padded like entries, so padding does
  not tell where an entry ends.  But outlines are read back whatever follows, and
  behind an outline stands its closing bracket.  So such a list is read back, as
  long as its terms are rendered ones.
-/
import DeclExport.Proofs.Export.Document
import DeclExport.Proofs.Layout.Splicing
import DeclExport.Proofs.Term.Decl

namespace DeclExport

open Text Term Glyph

/-! ## §1. Terms that are written from outlines. -/

namespace Term.Outline

/-- The term that is written for an outline. -/
def term (o : Outline) : String := String.ofList (written false (o.glyphs 0))

/-- Outlines are laid out alike in every scope. -/
theorem glyphs_deeper (o : Outline) (k : Nat) : o.glyphs k = (o.glyphs 0).map (deeper k) := by
  obtain ⟨steps, hclosed, hglyphs⟩ := exists_shows o
  rw [← hglyphs, ← hglyphs, ← hclosed.glyphs_deeper, Nat.zero_add]

theorem exists_glyphs_eq_cons (o : Outline) (d : Nat) : ∃ c gs, o.glyphs d = ⟨d, c⟩ :: gs := by
  have hlead : ∀ s : Shape, s.lead.toList.head? = some 'D' := by
    rintro (_ | _ | (_ | _) | _ | _) <;> rfl
  obtain ⟨cs, hcs⟩ := List.head?_eq_some_iff.mp (hlead o.shape)
  exact ⟨'D', row d cs ++ o.inside d, by rw [glyphs, hcs, row_cons, List.cons_append]⟩

/-- **The term of an outline is spliced in as the glyphs of the outline.** -/
theorem alike_term (o : Outline) (k : Nat) : Alike (row k o.term.toList) (o.glyphs k) := by
  -- a term begins with its lead, outside of all scopes, so no padding is lost
  obtain ⟨c, gs, hgs⟩ := exists_glyphs_eq_cons o 0
  rw [glyphs_deeper, term, String.toList_ofList, hgs]
  exact alike_spliced k

end Term.Outline

/-- A declaration is rendered exactly if it has an outline, to the term of that. -/
theorem renderTerm_eq_ok_iff {d : Decl} {v : Verdict} {t : AnnotationTable} {r : Rendered} :
    renderTerm d v t = .ok r ↔ ∃ o, outline? d v t = some o ∧ r = ⟨d.qualifiedName, o.term⟩ := by
  cases ho : outline? d v t with
  | none =>
      obtain ⟨e, he⟩ := renderTerm_of_outline?_eq_none ho
      simp [he]
  | some o =>
      obtain ⟨hclosed, hglyphs⟩ := shows_decl ho
      rw [renderTerm, Step.toText_of_closed hclosed, hglyphs]
      simp [Outline.term, eq_comm]

/-- Entries whose term is that of a declaration. -/
def Entry.IsRendered (e : Entry) : Prop :=
  ∃ d v t r, renderTerm d v t = .ok r ∧ r.term = e.term

/-- Entries with their names and the outlines of their terms. -/
def Outlined (es : List Entry) (ps : List (String × Outline)) : Prop :=
  es.map (fun e => (e.name, e.term)) = ps.map fun p => (p.1, p.2.term)

namespace Outlined

variable {es : List Entry} {ps : List (String × Outline)}

theorem length_eq (h : Outlined es ps) : es.length = ps.length := by
  simpa using congrArg List.length h

theorem terms_eq (h : Outlined es ps) : es.map (·.term) = (ps.map (·.2)).map Outline.term := by
  simpa [Function.comp_def] using congrArg (List.map Prod.snd) h

end Outlined

/-- Rendered entries have outlines. -/
theorem exists_outlined {es : List Entry} (h : ∀ e ∈ es, e.IsRendered) :
    ∃ ps, Outlined es ps := by
  induction es with
  | nil => exact ⟨[], rfl⟩
  | cons e es ih =>
      obtain ⟨⟨d, v, t, r, hr, hterm⟩, hes⟩ := List.forall_mem_cons.mp h
      obtain ⟨o, _, rfl⟩ := renderTerm_eq_ok_iff.mp hr
      obtain ⟨ps, hps⟩ := ih hes
      have hpair : (e.name, e.term) = (e.name, o.term) := by rw [← hterm]
      exact ⟨(e.name, o) :: ps, congrArg₂ List.cons hpair hps⟩

/-! ## §2. Blocks. -/

namespace DocumentShape

/-- The text in front of the entries. -/
def preamble (shape : DocumentShape) : String :=
  "\n".intercalate
    ["From Cpp Require Import Parser.",
      "",
      "Local Open Scope string_scope.",
      "Import ListNotations.",
      "",
      shape.header]

/-- The glyphs of an entry between its parentheses. -/
def interior : DocumentShape → String → Outline → List Glyph
  | .namedPairs, name, o => row 1 (quoted name).toList ++ (⟨1, ','⟩ :: ⟨2, '\n'⟩ :: o.glyphs 2)
  | .terms, _, o => o.glyphs 1

/-- The glyphs of an entry. -/
def block (shape : DocumentShape) (name : String) (o : Outline) : List Glyph :=
  ⟨1, '\n'⟩ :: ⟨1, '('⟩ :: (shape.interior name o ++ row 1 ") ::".toList)

/-- The glyphs of the terminator. -/
def terminator : List Glyph := ⟨1, '\n'⟩ :: (row 1 "nil.".toList ++ [⟨0, '\n'⟩, ⟨0, '\n'⟩])

/-- The glyphs of the entries that are left, and of the terminator. -/
def blocks (shape : DocumentShape) : List (String × Outline) → List Glyph
  | [] => terminator
  | (name, o) :: ps => shape.block name o ++ shape.blocks ps

theorem glyphs_opening (shape : DocumentShape) :
    Step.glyphs 0 shape.opening = row 0 shape.preamble.toList := by
  have hindent : Step.glyphs 0 [.indent] = [] := rfl
  simp only [opening, preamble, String.intercalate_cons_cons, String.intercalate_singleton,
    Step.glyphs_text_cons, Step.glyphs_line_cons, hindent, String.toList_append, row_append,
    List.append_assoc, List.append_nil]
  rfl

/-- Blocks begin with a line break, so what is pending in front of them does not show. -/
theorem written_blocks (shape : DocumentShape) (ps : List (String × Outline)) (p : Bool) :
    written p (shape.blocks ps) = written false (shape.blocks ps) := by
  cases ps <;> rfl

/-- An entry with the term of an outline is written as its block. -/
theorem alike_block (shape : DocumentShape) {e : Entry} {o : Outline} (h : e.term = o.term) :
    Alike (Step.glyphs 1 (shape.entry e)) (shape.block e.name o) := by
  cases shape with
  | namedPairs =>
      -- in front of the term and behind it both sides are the same glyphs
      have hline : Step.Closed [.line, .text e.term] := (Step.closed_text _).line_cons
      have hsplice := (((Alike.refl (⟨1, '\n'⟩ :: ⟨1, '('⟩
        :: (row 1 (quoted e.name).toList ++ [⟨1, ','⟩, ⟨2, '\n'⟩]))).append
          (o.alike_term 2)).append (.refl (row 1 ") ::".toList)))
      rw [← h] at hsplice
      simpa [entry, Step.glyphs_nested_cons hline, block, interior] using hsplice
  | terms =>
      have hsplice := ((Alike.refl [⟨1, '\n'⟩, ⟨1, '('⟩]).append
        (o.alike_term 1)).append (.refl (row 1 ") ::".toList))
      rw [← h] at hsplice
      simpa [entry, block, interior] using hsplice

/-- The entries and the terminator are written as blocks. -/
theorem alike_blocks (shape : DocumentShape) (ps : List (String × Outline)) :
    ∀ {es : List Entry}, Outlined es ps →
      Alike (Step.glyphs 1 (es.flatMap shape.entry) ++ Step.glyphs 1 closing)
        (shape.blocks ps) := by
  induction ps with
  | nil =>
      intro es h
      obtain rfl := List.map_eq_nil_iff.mp h
      exact .refl terminator
  | cons p ps ih =>
      intro es h
      obtain ⟨e, es, rfl, he, hes⟩ := List.map_eq_cons_iff.mp h
      obtain ⟨hname, hterm⟩ := Prod.mk.inj he
      -- a block for the first entry, in front of those for the others
      rw [List.flatMap_cons, Step.glyphs_append (closed_entry shape e), List.append_assoc]
      exact (hname ▸ alike_block shape hterm).append (ih hes)

end DocumentShape

/-- **The text of a document of rendered terms.** -/
theorem Outlined.assemble_text {m : Module} {shape : DocumentShape} {s : Sink}
    {ps : List (String × Outline)} (hps : Outlined m.entries ps)
    (h : (m.assemble shape s).2 = none) :
    (m.assemble shape s).1.text
      = s.text ++ (shape.preamble ++ String.ofList (written false (shape.blocks ps))) := by
  have hglyphs : Step.glyphs 0 (m.layout shape) = Step.glyphs 0 shape.opening
      ++ (Step.glyphs 1 (m.entries.flatMap shape.entry) ++ Step.glyphs 1 DocumentShape.closing) :=
    congrArg Trace.glyphs (m.traceAll_layout shape)
  -- the preamble stands outside of all scopes, so it is written as it is
  rw [Module.assemble_text h, hglyphs, DocumentShape.glyphs_opening, written_append,
    written_row_zero, (DocumentShape.alike_blocks shape ps hps).written_eq,
    DocumentShape.written_blocks, String.ofList_append, String.ofList_toList]

/-! ## §3. THE READING THEOREM FOR LISTS OF TERMS. -/

namespace DocumentShape

/-- The outlines of a list of terms are read back. -/
theorem blocks_terms_inj (ps : List (String × Outline)) : ∀ ps' : List (String × Outline),
    written false (blocks .terms ps) = written false (blocks .terms ps') →
      ps.map (·.2) = ps'.map (·.2) := by
  induction ps with
  | nil =>
      intro ps' h
      cases ps' with
      | nil => rfl
      | cons p' ps' =>
          -- the terminator begins with `n`, an entry with its bracket
          exact absurd (written_cons_inj (written_cons_inj h).2).1 (by decide)
  | cons p ps ih =>
      intro ps' h
      cases ps' with
      | nil => exact absurd (written_cons_inj (written_cons_inj h).2).1 (by decide)
      | cons p' ps' =>
          obtain ⟨name, o⟩ := p
          obtain ⟨name', o'⟩ := p'
          simp only [blocks, block, interior, List.cons_append, List.append_assoc] at h
          obtain ⟨_, h⟩ := written_cons_inj h
          obtain ⟨_, h⟩ := written_cons_inj h
          -- behind the opening bracket stands the outline, and then the next block
          obtain ⟨ho, h⟩ := (o.legible_outline 1).rest h
          rw [List.map_cons, List.map_cons, ho, ih ps' (written_append_cancel h)]

/-- The layout of a list of terms has no names in it. -/
theorem flatMap_entry_terms (es : List Entry) :
    es.flatMap (entry .terms) = (es.map (·.term)).flatMap fun t =>
      [.line, .text "(", .text t, .text ")", .nbsp, .text "::"] := by
  rw [List.flatMap_map]
  rfl

end DocumentShape

/-- **Lists of rendered terms are read back**: two modules whose terms are all those
of declarations, each assembled on a sink that its document fits, come to the same
text exactly if they have the same terms in the same order, whatever strings the
terms hold. -/
theorem Module.assemble_terms_text_eq_iff {m m' : Module} {s s' : Sink}
    (hm : ∀ e ∈ m.entries, e.IsRendered) (hm' : ∀ e ∈ m'.entries, e.IsRendered)
    (hs : s.text = s'.text) (h : (m.assemble .terms s).2 = none)
    (h' : (m'.assemble .terms s').2 = none) :
    (m.assemble .terms s).1.text = (m'.assemble .terms s').1.text
      ↔ m.entries.map (·.term) = m'.entries.map (·.term) := by
  constructor
  · intro htext
    -- both documents are written from outlines, and those are read back
    obtain ⟨ps, hps⟩ := exists_outlined hm
    obtain ⟨ps', hps'⟩ := exists_outlined hm'
    rw [hps.assemble_text h, hps'.assemble_text h', hs, String.append_right_inj,
      String.append_right_inj, String.ofList_inj] at htext
    have houtlines := DocumentShape.blocks_terms_inj ps ps' htext
    rw [hps.terms_eq, hps'.terms_eq, houtlines]
  · intro hterms
    rw [assemble_text h, assemble_text h', hs, layout, layout,
      DocumentShape.flatMap_entry_terms, DocumentShape.flatMap_entry_terms, hterms]

/-- A synonym whose name imitates the end of its entry and a second entry is not taken
for two terms. -/
theorem Module.assemble_terms_text_ne_of_imitation :
    (∀ e ∈ (⟨[⟨"", "Dtypedef \"f\"\" Tbool) ::\n  (Dtypedef \"\"g\" Tbool", ⟨1⟩⟩]⟩ : Module).entries,
        e.IsRendered)
      ∧ (∀ e ∈ (⟨[⟨"f", "Dtypedef \"f\" Tbool", ⟨1⟩⟩, ⟨"g", "Dtypedef \"g\" Tbool", ⟨2⟩⟩]⟩
          : Module).entries, e.IsRendered)
      ∧ (assemble ⟨[⟨"", "Dtypedef \"f\"\" Tbool) ::\n  (Dtypedef \"\"g\" Tbool", ⟨1⟩⟩]⟩
          .terms .unbounded).1.text
        ≠ (assemble ⟨[⟨"f", "Dtypedef \"f\" Tbool", ⟨1⟩⟩, ⟨"g", "Dtypedef \"g\" Tbool", ⟨2⟩⟩]⟩
          .terms .unbounded).1.text := by
  have hsynonym : ∀ (name term : String),
      renderTerm ⟨⟨1⟩, name, [], none, none, .typedef .bool⟩ .definition .empty
          = .ok ⟨name, term⟩ →
        ∀ n id, (⟨n, term, id⟩ : Entry).IsRendered :=
    fun name term h n id => ⟨_, _, _, _, h, rfl⟩
  -- the first term ends its entry and begins a second one, but for its quotes
  have hforged := hsynonym "f\" Tbool) ::\n  (Dtypedef \"g"
    "Dtypedef \"f\"\" Tbool) ::\n  (Dtypedef \"\"g\" Tbool" (by decide +kernel)
  have hf := hsynonym "f" "Dtypedef \"f\" Tbool" (by decide +kernel)
  have hg := hsynonym "g" "Dtypedef \"g\" Tbool" (by decide +kernel)
  refine ⟨by simp [hforged], by simp [hf, hg], fun htext => ?_⟩
  have hterms := (assemble_terms_text_eq_iff (by simp [hforged]) (by simp [hf, hg]) rfl
    (assemble_unbounded _ _) (assemble_unbounded _ _)).mp htext
  exact absurd (congrArg List.length hterms) (by decide)

end DeclExport
