/-
  DeclExport.Proofs.Export.Document
  ────────────────────────────────
  **DOCUMENTS ARE READ BACK.**

  A term is laid out in a document as it is, so a document holds whatever a term
  does: closing brackets, entries, terminators.  What a term cannot imitate is
  depth.  Its lines stand two scopes deep, its closing bracket and the next
  entry stand one scope deep:

        ("<name>",
          <term>) ::
        nil.

  So a term that goes on where another ends has four spaces, or none and a line
  feed, where the next entry or the terminator has two (`written_term_inj`).
-/
import DeclExport.Export.Document
import DeclExport.Proofs.Layout.Reading
import DeclExport.Proofs.Layout.Room
import DeclExport.Proofs.Term.Literal

namespace DeclExport

open Text Term Glyph

/-! ## §1. Assembling is one run. -/

/-- The layout of a module as a document. -/
def Module.layout (m : Module) (shape : DocumentShape) : List Step :=
  shape.opening ++ (m.entries.flatMap shape.entry ++ DocumentShape.closing)

/-- What is delivered of a run: the sink, and the failure or that of finishing. -/
def Outcome.deliver (o : Outcome) : Sink × Option Failure :=
  (o.1.sink, o.2 <|> o.1.finish)

theorem Document.entries_eq_runAll (es : List Entry) :
    ∀ d : Document, d.entries es =
      ({ d with formatter := (Step.runAll d.formatter (es.flatMap d.shape.entry)).1 },
        (Step.runAll d.formatter (es.flatMap d.shape.entry)).2) := by
  induction es with
  | nil => intro d; rfl
  | cons e es ih =>
      intro d
      rw [List.flatMap_cons, Step.runAll_append, entries, entry]
      cases hrun : Step.runAll d.formatter (d.shape.entry e) with
      | mk f failure =>
          cases failure with
          | some failure => rfl
          | none => exact ih { d with formatter := f }

/-- **A module is assembled by running its layout.** -/
theorem Module.assemble_eq_deliver (m : Module) (shape : DocumentShape) (s : Sink) :
    m.assemble shape s = (Step.runAll (.start s) (m.layout shape)).deliver := by
  rw [layout, Step.runAll_append, assemble, Document.start]
  cases hopening : Step.runAll (.start s) shape.opening with
  | mk f failure =>
      cases failure with
      | some failure => rfl
      | none =>
          show _ = (Step.runAll f (m.entries.flatMap shape.entry ++ _)).deliver
          rw [Step.runAll_append]
          simp only [Document.entries_eq_runAll]
          cases hentries : Step.runAll f (m.entries.flatMap shape.entry) with
          | mk f failure =>
              cases failure with
              | some failure => rfl
              | none =>
                  show Document.finish ⟨shape, f⟩
                    = (Step.runAll f DocumentShape.closing).deliver
                  rw [Document.finish]
                  cases hclosing : Step.runAll f DocumentShape.closing with
                  | mk f failure => cases failure <;> rfl

/-! ## §2. The glyphs of a document. -/

namespace DocumentShape

/-- The preamble ends one scope deep. -/
theorem traceAll_opening (shape : DocumentShape) :
    Step.traceAll 0 shape.opening = ⟨Step.glyphs 0 shape.opening, 1, none⟩ := rfl

theorem closed_entry (shape : DocumentShape) (e : Entry) : Step.Closed (shape.entry e) := by
  have hend : Step.Closed [.text ")", .nbsp, .text "::"] :=
    (Step.closed_text _).nbsp_cons.text_cons _
  cases shape with
  | namedPairs =>
      exact ((hend.nested_cons (Step.closed_text _).line_cons).text_cons _).text_cons _
        |>.line_cons
  | terms => exact ((hend.text_cons _).text_cons _).line_cons

theorem closed_entries (shape : DocumentShape) (es : List Entry) :
    Step.Closed (es.flatMap shape.entry) := by
  induction es with
  | nil => exact Step.closed_nil
  | cons e es ih =>
      rw [List.flatMap_cons]
      exact (closed_entry shape e).append ih

end DocumentShape

/-- **The trace of a document**: no failure, and every scope is closed. -/
theorem Module.traceAll_layout (m : Module) (shape : DocumentShape) :
    Step.traceAll 0 (m.layout shape)
      = ⟨Step.glyphs 0 shape.opening ++ (Step.glyphs 1 (m.entries.flatMap shape.entry)
          ++ Step.glyphs 1 DocumentShape.closing), 0, none⟩ := by
  have hrest : Step.traceAll 1 (m.entries.flatMap shape.entry ++ DocumentShape.closing)
      = ⟨Step.glyphs 1 (m.entries.flatMap shape.entry)
          ++ Step.glyphs 1 DocumentShape.closing, 0, none⟩ := by
    rw [Step.traceAll_append, (DocumentShape.closed_entries shape m.entries).trace_eq 1]
    rfl
  rw [layout, Step.traceAll_append, DocumentShape.traceAll_opening]
  simp only [Trace.andThen, hrest]

/-- Without bounds on the sink, a module is assembled. -/
theorem Module.assemble_unbounded (m : Module) (shape : DocumentShape) :
    (m.assemble shape .unbounded).2 = none := by
  rw [assemble_eq_deliver, Formatter.runAll_eq_trace _ _ rfl]
  show (Outcome.deliver (Formatter.outcome _ (Step.traceAll 0 (m.layout shape)))).2 = none
  rw [traceAll_layout]
  rfl

/-- **The text of an assembled module**, on every sink that it fits. -/
theorem Module.assemble_text {m : Module} {shape : DocumentShape} {s : Sink}
    (h : (m.assemble shape s).2 = none) :
    (m.assemble shape s).1.text
      = s.text ++ String.ofList (written false (Step.glyphs 0 (m.layout shape))) := by
  rw [assemble_eq_deliver] at h ⊢
  cases hrun : Step.runAll (.start s) (m.layout shape) with
  | mk f failure =>
      cases failure with
      | some failure =>
          rw [hrun] at h
          exact absurd h (by simp [Outcome.deliver])
      | none => exact Formatter.runAll_ok hrun

/-! ## §3. Where a term ends. -/

namespace Document

/-- The glyphs behind the opening bracket of a named pair, up to the next entry. -/
def pairGlyphs (e : Entry) : List Glyph :=
  row 1 (quoted e.name ++ ",").toList
    ++ (⟨2, '\n'⟩ :: (row 2 e.term.toList ++ row 1 ") ::".toList))

/-- The glyphs of the entries that are left, and of the terminator. -/
def remaining : List Entry → List Glyph
  | [] => ⟨1, '\n'⟩ :: ⟨1, 'n'⟩ :: (row 1 "il.".toList ++ [⟨0, '\n'⟩, ⟨0, '\n'⟩])
  | e :: es => ⟨1, '\n'⟩ :: ⟨1, '('⟩ :: (pairGlyphs e ++ remaining es)

theorem glyphs_remaining (es : List Entry) :
    Step.glyphs 1 (es.flatMap DocumentShape.namedPairs.entry)
      ++ Step.glyphs 1 DocumentShape.closing = remaining es := by
  induction es with
  | nil => rfl
  | cons e es ih =>
      have hline : Step.Closed [.line, .text e.term] := (Step.closed_text _).line_cons
      rw [List.flatMap_cons,
        Step.glyphs_append (DocumentShape.closed_entry .namedPairs e), List.append_assoc, ih]
      simp [DocumentShape.entry, Step.glyphs_nested_cons hline, remaining, pairGlyphs]

/-- What follows a term: a line that begins one scope deep, with a character that
is neither a blank nor a closing bracket. -/
def Follows (X : List Glyph) : Prop :=
  ∃ c Z, X = ⟨1, '\n'⟩ :: ⟨1, c⟩ :: Z ∧ c ≠ ' ' ∧ c ≠ ')' ∧ c ≠ '\n'

theorem follows_remaining (es : List Entry) : Follows (remaining es) := by
  cases es with
  | nil => exact ⟨'n', _, rfl, by decide, by decide, by decide⟩
  | cons e es => exact ⟨'(', _, rfl, by decide, by decide, by decide⟩

/-- A line of a term is blank or padded by four spaces: it does not begin with two
spaces and another character. -/
theorem written_line_ne {a : Char} (ha : a ≠ ' ') (c : Char) (cs : List Char) (R : List Glyph)
    (zs : List Char) : written true (row 2 (c :: cs) ++ R) ≠ ' ' :: ' ' :: a :: zs := by
  intro h
  by_cases hc : c = '\n'
  · rw [hc, row_cons, List.cons_append, written_newline] at h
    exact absurd (List.cons.inj h).1 (by decide)
  · rw [row_cons, List.cons_append, written_cons_of_ne hc] at h
    obtain ⟨_, h⟩ := List.cons.inj h
    obtain ⟨_, h⟩ := List.cons.inj h
    exact ha (List.cons.inj h).1.symm

/-- Characters other than line feeds and closing brackets that are found where a term
is written stand in the term. -/
theorem imitated {R : List Glyph} {zs : List Char} (w : List Char)
    (hw : ∀ c ∈ w, c ≠ ')' ∧ c ≠ '\n') : ∀ u : List Char,
    written false (row 2 u ++ (⟨1, ')'⟩ :: R)) = w ++ zs →
      ∃ v, u = w ++ v ∧ written false (row 2 v ++ (⟨1, ')'⟩ :: R)) = zs := by
  induction w with
  | nil => intro u h; exact ⟨u, rfl, h⟩
  | cons a w ih =>
      intro u h
      obtain ⟨hbracket, hbreak⟩ := hw a (List.mem_cons_self ..)
      cases u with
      | nil =>
          rw [row_nil, List.nil_append, written_false_cons] at h
          exact absurd (List.cons.inj h).1.symm hbracket
      | cons c cs =>
          simp only [row_cons, List.cons_append, written_false_cons] at h
          obtain ⟨hca, hrest⟩ := List.cons.inj h
          rw [hca, decide_eq_false hbreak] at hrest
          obtain ⟨v, hcs, hv⟩ :=
            ih (fun a ha => hw a (List.mem_cons_of_mem _ ha)) cs hrest
          exact ⟨v, by rw [hca, hcs, List.cons_append], hv⟩

/-- **A term does not go on as if it had ended.** -/
theorem ending_ne {X : List Glyph} (hX : Follows X) (p : Bool) (c : Char) (cs : List Char)
    (Y : List Glyph) :
    written p (row 1 ") ::".toList ++ X)
      ≠ written p (row 2 (c :: cs) ++ (row 1 ") ::".toList ++ Y)) := by
  intro h
  cases p with
  | true => exact written_line_ne (by decide) c cs _ _ h.symm
  | false =>
      obtain ⟨a, Z, rfl, hblank, hbracket, hbreak⟩ := hX
      have hend : written false (row 1 ") ::".toList ++ (⟨1, '\n'⟩ :: ⟨1, a⟩ :: Z))
          = ')' :: ([' ', ':', ':'] ++ ('\n' :: ' ' :: ' ' :: a :: written false Z)) := by
        show ')' :: ' ' :: ':' :: ':' :: '\n' :: written true (⟨1, a⟩ :: Z) = _
        rw [written_cons_of_ne hbreak]
        rfl
      have hterm : written false (row 2 (c :: cs) ++ (row 1 ") ::".toList ++ Y))
          = c :: written (c = '\n') (row 2 cs ++ (row 1 ") ::".toList ++ Y)) :=
        written_false_cons 2 c _
      rw [hend, hterm] at h
      obtain ⟨hc, hrest⟩ := List.cons.inj h
      rw [← hc] at hrest
      -- the term holds a closing bracket and `::`, and then what breaks the line
      obtain ⟨v, _, hv⟩ := imitated [' ', ':', ':'] (by simp) cs hrest.symm
      cases v with
      | nil =>
          rw [row_nil, List.nil_append, written_false_cons] at hv
          exact absurd (List.cons.inj hv).1 (by decide)
      | cons b bs =>
          rw [row_cons, List.cons_append, written_false_cons] at hv
          obtain ⟨hb, hline⟩ := List.cons.inj hv
          rw [hb] at hline
          -- the next line of the term is padded deeper than an entry
          cases bs with
          | nil =>
              obtain ⟨_, hline⟩ := List.cons.inj hline
              obtain ⟨_, hline⟩ := List.cons.inj hline
              exact hbracket (List.cons.inj hline).1.symm
          | cons b' bs => exact written_line_ne hblank b' bs _ _ hline

/-- **Terms are read back**, whatever they hold, in front of what follows a term. -/
theorem written_term_inj {X Y : List Glyph} (hX : Follows X) (hY : Follows Y) (t : List Char) :
    ∀ (u : List Char) (p : Bool),
      written p (row 2 t ++ (row 1 ") ::".toList ++ X))
        = written p (row 2 u ++ (row 1 ") ::".toList ++ Y)) →
      t = u ∧ written false X = written false Y := by
  induction t with
  | nil =>
      intro u p h
      cases u with
      | nil =>
          have hXY : written (pendingAfter p (row 1 ") ::".toList)) X
              = written (pendingAfter p (row 1 ") ::".toList)) Y := written_append_cancel h
          exact ⟨rfl, hXY⟩
      | cons c cs => exact absurd h (ending_ne hX p c cs Y)
  | cons c cs ih =>
      intro u p h
      cases u with
      | nil => exact absurd h.symm (ending_ne hY p c cs X)
      | cons c' cs' =>
          -- both characters stand in a term, so the depth is known
          obtain ⟨hc, h⟩ := written_cons_inj h
          obtain ⟨hcs, hXY⟩ := ih cs' _ h
          exact ⟨by rw [hc, hcs], hXY⟩

/-! ## §4. THE READING THEOREM. -/

/-- The entries that are left are read back, up to where they come from. -/
theorem remaining_inj (es : List Entry) : ∀ es' : List Entry,
    written false (remaining es) = written false (remaining es') →
      es.map (fun e => (e.name, e.term)) = es'.map fun e => (e.name, e.term) := by
  induction es with
  | nil =>
      intro es' h
      cases es' with
      | nil => rfl
      | cons e' es' =>
          exact absurd (written_cons_inj (written_cons_inj h).2).1 (by decide)
  | cons e es ih =>
      intro es' h
      cases es' with
      | nil => exact absurd (written_cons_inj (written_cons_inj h).2).1 (by decide)
      | cons e' es' =>
          obtain ⟨_, h⟩ := written_cons_inj h
          obtain ⟨_, h⟩ := written_cons_inj h
          simp only [pairGlyphs, List.append_assoc, List.cons_append] at h
          have hread := legible_row (readable_quoted "," rfl (by decide) e.name) 1
          obtain ⟨hname, h⟩ := hread.rest h
          obtain ⟨_, h⟩ := written_cons_inj h
          obtain ⟨hterm, h⟩ := written_term_inj (follows_remaining es)
            (follows_remaining es') e.term.toList e'.term.toList _ h
          have hes := ih es' h
          rw [List.map_cons, List.map_cons, hname, String.toList_inj.mp hterm, hes]

/-- What is written for entries is told by their names and terms. -/
theorem remaining_congr : ∀ {es es' : List Entry},
    es.map (fun e => (e.name, e.term)) = es'.map (fun e => (e.name, e.term)) →
      remaining es = remaining es'
  | [], [], _ => rfl
  | [], e' :: es', h => by simp at h
  | e :: es, [], h => by simp at h
  | e :: es, e' :: es', h => by
      obtain ⟨hpair, hrest⟩ := List.cons.inj h
      obtain ⟨hname, hterm⟩ := Prod.mk.inj hpair
      rw [remaining, remaining, pairGlyphs, pairGlyphs, hname, hterm, remaining_congr hrest]

end Document

/-- **Documents of named pairs are read back**: two modules, each assembled on a sink
that its document fits, come to the same text exactly if their names and terms are
the same in the same order, whatever the names and terms hold. -/
theorem Module.assemble_namedPairs_text_eq_iff {m m' : Module} {s s' : Sink}
    (hs : s.text = s'.text) (h : (m.assemble .namedPairs s).2 = none)
    (h' : (m'.assemble .namedPairs s').2 = none) :
    (m.assemble .namedPairs s).1.text = (m'.assemble .namedPairs s').1.text
      ↔ m.entries.map (fun e => (e.name, e.term))
        = m'.entries.map fun e => (e.name, e.term) := by
  have hglyphs : ∀ m : Module, Step.glyphs 0 (m.layout .namedPairs)
      = Step.glyphs 0 DocumentShape.namedPairs.opening ++ Document.remaining m.entries := by
    intro m
    show (Step.traceAll 0 (m.layout .namedPairs)).glyphs = _
    rw [traceAll_layout, ← Document.glyphs_remaining]
  rw [assemble_text h, assemble_text h', hs, String.append_right_inj, String.ofList_inj,
    hglyphs, hglyphs]
  constructor
  · intro htext
    exact Document.remaining_inj m.entries m'.entries (written_append_cancel htext)
  · intro hpairs
    rw [Document.remaining_congr hpairs]

/-- A term that imitates the end of its entry and a second entry is not taken for
two entries. -/
theorem Module.assemble_text_ne_of_imitation :
    (assemble ⟨[⟨"a", "x) ::\n(\"b\",\n  y", ⟨1⟩⟩]⟩ .namedPairs .unbounded).2 = none
      ∧ (assemble ⟨[⟨"a", "x", ⟨1⟩⟩, ⟨"b", "y", ⟨2⟩⟩]⟩ .namedPairs .unbounded).2 = none
      ∧ (assemble ⟨[⟨"a", "x) ::\n(\"b\",\n  y", ⟨1⟩⟩]⟩ .namedPairs .unbounded).1.text
        ≠ (assemble ⟨[⟨"a", "x", ⟨1⟩⟩, ⟨"b", "y", ⟨2⟩⟩]⟩ .namedPairs .unbounded).1.text := by
  refine ⟨assemble_unbounded _ _, assemble_unbounded _ _, fun htext => ?_⟩
  have hpairs := (assemble_namedPairs_text_eq_iff rfl (assemble_unbounded _ _)
    (assemble_unbounded _ _)).mp htext
  exact absurd (congrArg List.length hpairs) (by decide)

end DeclExport
