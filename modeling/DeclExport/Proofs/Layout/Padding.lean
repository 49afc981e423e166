/-
  DeclExport.Proofs.Layout.Padding
  ────────────────────────────────
  **TEXTS LAID OUT AT ONE DEPTH.**

  A text that is laid out goes on where the line before it ends, or begins a line of
  its own.  Either way its line feeds are kept and its lines are padded, but for those
  that are empty, and but for the first one where that goes on:

      hanging     the first line as it is, the others padded
      indented    every line padded

  (`written_true_row`, `written_false_row`).  Which of the two it is depends on one
  thing that can be read off the text so far: whether it ends with a line feed
  (`endsLine_append_written`).
-/
import DeclExport.Proofs.Layout.Lines
import DeclExport.Proofs.Text.Trimming

namespace DeclExport

namespace Text

/-! ## §1. Padded texts. -/

/-- A line behind `n` spaces; an empty line stays empty. -/
def padLine (n : Nat) (line : List Char) : List Char :=
  if line = [] then [] else List.replicate n ' ' ++ line

/-- A text with every line padded. -/
def indented (n : Nat) (cs : List Char) : List Char :=
  ['\n'].intercalate ((pieces '\n' cs).map (padLine n))

/-- A text with every line padded but the first. -/
def hanging (n : Nat) (cs : List Char) : List Char :=
  match pieces '\n' cs with
  | [] => []
  | first :: later => ['\n'].intercalate (first :: later.map (padLine n))

/-- Whether a text ends with a line feed. -/
def endsLine (cs : List Char) : Bool := cs.getLast? = some '\n'

@[simp] theorem endsLine_concat (cs : List Char) (c : Char) :
    endsLine (cs ++ [c]) = decide (c = '\n') := by
  simp [endsLine]

end Text

namespace Glyph

open Text

/-! ## §2. Rows of glyphs. -/

/-- The lines of a row are the lines of its text. -/
theorem lines_row (d : Nat) (cs : List Char) :
    lines (row d cs) = (pieces '\n' cs).map (row d) := by
  induction cs with
  | nil => rfl
  | cons c cs ih =>
      obtain ⟨first, later, hpieces⟩ : ∃ first later, pieces '\n' cs = first :: later := by
        rw [pieces_eq_splitOn]
        exact List.exists_cons_of_ne_nil (List.splitOn_ne_nil '\n' cs)
      by_cases hc : c = '\n'
      · rw [row_cons, lines_of_feed hc, ih, pieces, if_pos hc, List.map_cons, row_nil]
      · rw [hpieces, List.map_cons] at ih
        rw [row_cons, lines_of_ne hc ih, pieces, if_neg hc, hpieces]
        rfl

theorem lineText_row (d : Nat) (line : List Char) :
    lineText (row d line) = padLine (2 * d) line := by
  cases line with
  | nil => rfl
  | cons c cs => simp [lineText, padLine, row, Function.comp_def]

/-- A text at one depth is written line by line. -/
theorem splitOn_written_row (p : Bool) (d : Nat) (cs : List Char) :
    ∃ first later, pieces '\n' cs = first :: later
      ∧ (written p (row d cs)).splitOn '\n'
        = lineFrom p (row d first) :: later.map (padLine (2 * d)) := by
  obtain ⟨first, later, hlines, hsplit⟩ := splitOn_written (row d cs) p
  rw [lines_row] at hlines
  obtain ⟨firstText, laterTexts, hpieces, rfl, rfl⟩ := List.map_eq_cons_iff.mp hlines
  refine ⟨firstText, laterTexts, hpieces, hsplit.trans ?_⟩
  rw [List.map_map]
  exact congrArg _ (List.map_congr_left fun line _ => lineText_row d line)

/-- **At the head of a line** a text is written indented. -/
theorem written_true_row (d : Nat) (cs : List Char) :
    written true (row d cs) = indented (2 * d) cs := by
  obtain ⟨first, later, hpieces, hsplit⟩ := splitOn_written_row true d cs
  refine (List.intercalate_splitOn '\n').symm.trans ?_
  rw [hsplit, indented, hpieces, List.map_cons, ← lineText_row]
  rfl

/-- **In a line that has begun** a text is written hanging. -/
theorem written_false_row (d : Nat) (cs : List Char) :
    written false (row d cs) = hanging (2 * d) cs := by
  obtain ⟨first, later, hpieces, hsplit⟩ := splitOn_written_row false d cs
  have hfirst : lineFrom false (row d first) = first := by simp [lineFrom, row, Function.comp_def]
  refine (List.intercalate_splitOn '\n').symm.trans ?_
  rw [hsplit, hfirst, hanging, hpieces]

/-! ## §3. What is pending. -/

/-- **Padding is pending where the text so far ends with a line feed**, if that was so
in front of the glyphs. -/
theorem endsLine_append_written (gs : List Glyph) : ∀ (p : Bool) (before : List Char),
    endsLine before = p → endsLine (before ++ written p gs) = pendingAfter p gs := by
  induction gs with
  | nil => intro p before h; rwa [written, List.append_nil]
  | cons g gs ih =>
      intro p before h
      -- the text so far, with what is written for the first glyph
      rw [written, pendingAfter]
      by_cases hg : g.char = '\n'
      · have hrest := ih true (before ++ ['\n']) (by simp)
        simpa [hg] using hrest
      · have hends : endsLine (before ++ padding p g.depth ++ [g.char]) = false := by
          rw [endsLine_concat, decide_eq_false hg]
        simpa [hg] using ih false _ hends

end Glyph

end DeclExport
