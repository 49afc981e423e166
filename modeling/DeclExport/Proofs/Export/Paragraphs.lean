/-
  DeclExport.Proofs.Export.Paragraphs
  ────────────────────────────────
  **EVERY ENTRY IS A PARAGRAPH OF ITS OWN.**

  One formatter writes all entries, and what it carries along from one to the next is a
  depth and whether padding is pending.  Neither reaches over an entry: whatever is
  pending in front of it, an entry begins with a line break, and behind its `::` nothing
  is pending (`written_entry`).  So there is a text for each entry, told by the shape,
  the name and the term alone, and a document is

      the preamble, the paragraph of every entry, the terminator

  (`assemble_paragraphs`).  Within a paragraph, a term that is empty or ends with a line
  feed leaves the closing bracket at the head of a line, where it is padded.
-/
import DeclExport.Proofs.Export.Blocks
import DeclExport.Proofs.Layout.Padding

namespace DeclExport

open Text Term Glyph

/-! ## §1. Paragraphs. -/

namespace DocumentShape

/-- The text of an entry with the given name and term, up to its closing bracket. -/
def opened : DocumentShape → String → String → List Char
  | .namedPairs, name, term =>
      ['\n', ' ', ' ', '(']
        ++ (hanging 2 (quoted name).toList ++ [',', '\n'] ++ indented 4 term.toList)
  | .terms, _, term => ['\n', ' ', ' ', '('] ++ hanging 2 term.toList

/-- The closing bracket behind a text, and the separator; padded at the head of a line. -/
def bracket (before : List Char) : String := if endsLine before then "  ) ::" else ") ::"

/-- The text of an entry with the given name and term. -/
def paragraph (shape : DocumentShape) (name term : String) : String :=
  String.ofList (shape.opened name term) ++ bracket (shape.opened name term)

end DocumentShape

/-- The text of a module as a document. -/
def Module.document (m : Module) (shape : DocumentShape) : String :=
  shape.preamble ++ String.join (m.entries.map fun e => shape.paragraph e.name e.term)
    ++ "\n  nil.\n\n"

/-! ## §2. An entry is written as its paragraph. -/

namespace DocumentShape

/-- The glyphs of an entry up to its closing bracket. -/
def openedGlyphs : DocumentShape → String → String → List Glyph
  | .namedPairs, name, term =>
      row 1 ['\n', '('] ++ (row 1 (quoted name).toList
        ++ (row 1 [','] ++ (row 2 ['\n'] ++ row 2 term.toList)))
  | .terms, _, term => row 1 ['\n', '('] ++ row 1 term.toList

theorem glyphs_entry (shape : DocumentShape) (e : Entry) :
    Step.glyphs 1 (shape.entry e) = shape.openedGlyphs e.name e.term ++ row 1 ") ::".toList := by
  cases shape with
  | namedPairs =>
      have hline : Step.Closed [.line, .text e.term] := (Step.closed_text _).line_cons
      simp [entry, Step.glyphs_nested_cons hline, openedGlyphs]
  | terms => simp [entry, openedGlyphs]

/-- A quoted name does not end with a line feed. -/
theorem pendingAfter_quoted (d : Nat) (name : String) :
    pendingAfter false (row d (quoted name).toList) = false := by
  rw [toList_quoted, ← List.cons_append, row_append, pendingAfter_append]
  rfl

/-- Up to its closing bracket an entry is written as it should, whether or not padding is
pending in front of it. -/
theorem written_openedGlyphs (shape : DocumentShape) (name term : String) (p : Bool) :
    written p (shape.openedGlyphs name term) = shape.opened name term := by
  have hopening : ∀ R, written p (row 1 ['\n', '('] ++ R)
      = ['\n', ' ', ' ', '('] ++ written false R := fun _ => rfl
  cases shape with
  | namedPairs =>
      have hcomma : ∀ R, written false (row 1 [','] ++ (row 2 ['\n'] ++ R))
          = [',', '\n'] ++ written true R := fun _ => rfl
      rw [openedGlyphs, hopening, written_append, pendingAfter_quoted, hcomma, written_false_row,
        written_true_row, opened, List.append_assoc]
  | terms => rw [openedGlyphs, hopening, written_false_row, opened]

/-- What is pending in front of the closing bracket can be read off the text so far. -/
theorem pendingAfter_openedGlyphs (shape : DocumentShape) (name term : String) (p : Bool) :
    pendingAfter p (shape.openedGlyphs name term) = endsLine (shape.opened name term) := by
  have hany : pendingAfter p (shape.openedGlyphs name term)
      = pendingAfter false (shape.openedGlyphs name term) := by
    cases shape <;> rfl
  rw [hany, ← written_openedGlyphs shape name term false]
  exact (endsLine_append_written _ false [] rfl).symm

/-- **An entry is written as its paragraph**, whether or not padding is pending in front
of it, and none is pending behind it. -/
theorem written_entry (shape : DocumentShape) (e : Entry) (p : Bool) :
    written p (Step.glyphs 1 (shape.entry e)) = (shape.paragraph e.name e.term).toList
      ∧ pendingAfter p (Step.glyphs 1 (shape.entry e)) = false := by
  have hbracket : ∀ q : Bool, written q (row 1 ") ::".toList)
      = (if q then "  ) ::" else ") ::" : String).toList := by
    intro q
    cases q <;> rfl
  rw [glyphs_entry]
  constructor
  · rw [written_append, written_openedGlyphs, pendingAfter_openedGlyphs, hbracket, paragraph,
      bracket, String.toList_append, String.toList_ofList]
  · rw [pendingAfter_append]
    rfl

/-- **Entries are written as their paragraphs**, one behind the other, and the
terminator behind them. -/
theorem written_entries (shape : DocumentShape) (es : List Entry) : ∀ p,
    written p (Step.glyphs 1 (es.flatMap shape.entry) ++ Step.glyphs 1 closing)
      = (es.flatMap fun e => (shape.paragraph e.name e.term).toList) ++ "\n  nil.\n\n".toList := by
  induction es with
  | nil => exact fun p => rfl
  | cons e es ih =>
      intro p
      obtain ⟨hwritten, hpending⟩ := shape.written_entry e p
      rw [List.flatMap_cons, Step.glyphs_append (closed_entry shape e), List.append_assoc,
        written_append, hwritten, hpending, ih false, List.flatMap_cons, List.append_assoc]

end DocumentShape

/-! ## §3. THE PARAGRAPH THEOREM. -/

namespace Module

/-- What is written for the layout of a module. -/
theorem written_layout (m : Module) (shape : DocumentShape) :
    String.ofList (written false (Step.glyphs 0 (m.layout shape))) = m.document shape := by
  have hglyphs : Step.glyphs 0 (m.layout shape) = Step.glyphs 0 shape.opening
      ++ (Step.glyphs 1 (m.entries.flatMap shape.entry) ++ Step.glyphs 1 DocumentShape.closing) :=
    congrArg Trace.glyphs (m.traceAll_layout shape)
  rw [← String.toList_inj, String.toList_ofList, hglyphs, DocumentShape.glyphs_opening,
    written_append, written_row_zero, DocumentShape.written_entries]
  simp [document, List.flatMap_map, List.append_assoc]

/-- Without a bound on the sink, the whole document is written, and the sink delivers or
does not. -/
theorem assemble_of_unlimited (m : Module) (shape : DocumentShape) {s : Sink}
    (h : s.room = none) :
    m.assemble shape s = ({ s with text := s.text ++ m.document shape },
      if s.flushFails then some (.io .flush) else none) := by
  rw [assemble_eq_deliver, Formatter.runAll_eq_trace _ _ h]
  show (Formatter.outcome _ (Step.traceAll 0 (m.layout shape))).deliver = _
  have htrace : Step.traceAll 0 (m.layout shape) = ⟨Step.glyphs 0 (m.layout shape), 0, none⟩ := by
    rw [Step.glyphs, traceAll_layout]
  rw [htrace]
  simp [Formatter.outcome, Formatter.wrote, Formatter.append, Formatter.start, written_layout,
    Outcome.deliver, Formatter.finish]

/-- **Documents are made of paragraphs**: whatever the names and terms of its entries, a
module is assembled as the preamble, the paragraphs of the entries in order, a line
break, `nil.` behind two spaces, and two line breaks.  That is what is written to every
sink without a bound, and what every other sink holds if the document fits. -/
theorem assemble_paragraphs (m : Module) (shape : DocumentShape) (s : Sink) :
    (s.room = none → m.assemble shape s
      = ({ s with text := s.text ++ (shape.preamble
            ++ String.join (m.entries.map fun e => shape.paragraph e.name e.term)
            ++ "\n  nil.\n\n") },
        if s.flushFails then some (.io .flush) else none))
    ∧ ((m.assemble shape s).2 = none → (m.assemble shape s).1.text
      = s.text ++ (shape.preamble
          ++ String.join (m.entries.map fun e => shape.paragraph e.name e.term)
          ++ "\n  nil.\n\n")) := by
  constructor
  · intro h
    rw [assemble_of_unlimited m shape h, document]
  · intro h
    rw [assemble_text h, written_layout, document]

/-- A name of two lines with an empty term, and an empty name with a term that ends with
a line feed. -/
def ofRaggedTerms : Module := ⟨[⟨"a\nb", "", ⟨1⟩⟩, ⟨"", "t\n\nu\n", ⟨2⟩⟩]⟩

/-- Neither entry disturbs the other or the terminator, with a bound on the sink or
without. -/
theorem assemble_paragraphs_of_ragged :
    ofRaggedTerms.assemble .namedPairs .unbounded
        = ({ Sink.unbounded with text := DocumentShape.namedPairs.preamble
            ++ "\n  (\"a\n  b\",\n  ) ::\n  (\"\",\n    t\n\n    u\n  ) ::\n  nil.\n\n" }, none)
      ∧ (ofRaggedTerms.assemble .terms (.ofRoom (some 200) false)).2 = none
      ∧ (ofRaggedTerms.assemble .terms (.ofRoom (some 200) false)).1.text
        = DocumentShape.terms.preamble ++ "\n  () ::\n  (t\n\n  u\n  ) ::\n  nil.\n\n" := by
  have hfits : (ofRaggedTerms.assemble .terms (.ofRoom (some 200) false)).2 = none := by
    decide +kernel
  have hfree := (ofRaggedTerms.assemble_paragraphs .namedPairs .unbounded).1 rfl
  have hbounded := (ofRaggedTerms.assemble_paragraphs .terms (.ofRoom (some 200) false)).2 hfits
  refine ⟨?_, hfits, ?_⟩
  · rw [hfree]
    decide +kernel
  · rw [hbounded]
    decide +kernel

end Module

end DeclExport
