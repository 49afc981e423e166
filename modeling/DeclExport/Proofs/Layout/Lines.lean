/-
  DeclExport.Proofs.Layout.Lines
  ────────────────────────────────
  **LAYOUTS LINE BY LINE.**

  A formatter pads as it goes: whether there is padding to be written depends on what
  came last, and how much on where it stands by then.  Seen from the end a layout is
  simpler.  Cut its glyphs at the line feeds; then the first line is its characters,
  and every other line is empty, or its characters behind the padding for the depth of
  the first of them:

      text, cut at line feeds  =  first line  ::  lineText of every other line

  That is so whatever becomes of the steps: a step that fails has written what it has
  written, and whoever holds the formatter may go on with the next (`runEach`).
-/
import DeclExport.Proofs.Layout.Glyphs

namespace DeclExport

namespace Glyph

/-! ## §1. Lines of glyphs and of characters. -/

/-- The glyphs of each line, without the line feeds between them. -/
def lines (gs : List Glyph) : List (List Glyph) := gs.splitOnP (·.char = '\n')

/-- What stands on a line that a line feed began: nothing, or the padding for the
depth of its first character and then its characters. -/
def lineText : List Glyph → List Char
  | [] => []
  | g :: gs => List.replicate (2 * g.depth) ' ' ++ (g :: gs).map (·.char)

/-- What stands on a line, with padding pending or not when it begins. -/
def lineFrom (pending : Bool) (gs : List Glyph) : List Char :=
  if pending then lineText gs else gs.map (·.char)

theorem lines_of_feed {g : Glyph} (hg : g.char = '\n') (gs : List Glyph) :
    lines (g :: gs) = [] :: lines gs := by
  rw [lines, List.splitOnP_cons_eq_if_modifyHead, if_pos (by simpa using hg), lines]

theorem lines_of_ne {g : Glyph} (hg : g.char ≠ '\n') {gs first : List Glyph}
    {later : List (List Glyph)} (h : lines gs = first :: later) :
    lines (g :: gs) = (g :: first) :: later := by
  rw [lines] at h ⊢
  rw [List.splitOnP_cons_eq_if_modifyHead, if_neg (by simpa using hg), h, List.modifyHead_cons]

/-! ## §2. Cutting at line feeds. -/

theorem splitOn_newline_cons (cs : List Char) :
    ('\n' :: cs).splitOn '\n' = [] :: cs.splitOn '\n' := by
  rw [List.splitOn, List.splitOnP_cons_eq_if_modifyHead, if_pos (by simp), List.splitOn]

theorem splitOn_append_of_not_mem {w cs first : List Char} {later : List (List Char)}
    (hw : '\n' ∉ w) (h : cs.splitOn '\n' = first :: later) :
    (w ++ cs).splitOn '\n' = (w ++ first) :: later := by
  induction w with
  | nil => exact h
  | cons c w ih =>
      rw [List.mem_cons, not_or] at hw
      have hrest := ih hw.2
      rw [List.splitOn] at hrest ⊢
      rw [List.cons_append, List.splitOnP_cons_eq_if_modifyHead,
        if_neg (by simpa using fun hc => hw.1 hc.symm), hrest, List.modifyHead_cons,
        List.cons_append]

/-! ## §3. What is written, line by line. -/

theorem lineFrom_cons (p : Bool) (g : Glyph) (gs : List Glyph) :
    lineFrom p (g :: gs) = padding p g.depth ++ [g.char] ++ lineFrom false gs := by
  cases p with
  | true => simp [lineFrom, lineText, padding, Formatter.indentWidth, Nat.mul_comm]
  | false => simp [lineFrom, padding]

theorem newline_not_mem_padding (p : Bool) (d : Nat) : '\n' ∉ padding p d := by
  cases p <;> simp [padding, List.mem_replicate]

/-- **Lines are written one by one**, the first one with padding pending or not. -/
theorem splitOn_written (gs : List Glyph) : ∀ p, ∃ first later, lines gs = first :: later
    ∧ (written p gs).splitOn '\n' = lineFrom p first :: later.map lineText := by
  induction gs with
  | nil => exact fun p => ⟨[], [], rfl, by cases p <;> rfl⟩
  | cons g gs ih =>
      intro p
      by_cases hg : g.char = '\n'
      · obtain ⟨first, later, hlines, hsplit⟩ := ih true
        refine ⟨[], first :: later, by rw [lines_of_feed hg, hlines], ?_⟩
        rw [written, if_pos hg, splitOn_newline_cons, hsplit]
        cases p <;> rfl
      · obtain ⟨first, later, hlines, hsplit⟩ := ih false
        refine ⟨g :: first, later, lines_of_ne hg hlines, ?_⟩
        have hword : '\n' ∉ padding p g.depth ++ [g.char] := by
          simpa [newline_not_mem_padding] using fun hc => hg hc.symm
        rw [written, if_neg hg, List.append_cons, splitOn_append_of_not_mem hword hsplit,
          lineFrom_cons]

end Glyph

/-! ## §4. THE LINE THEOREM. -/

namespace Step

/-- Run every step, whatever has become of those before it. -/
def runEach (f : Formatter) (steps : List Step) : Formatter :=
  steps.foldl (fun f s => (s.run f).1) f

/-- The glyphs of steps that are all run, whatever becomes of them. -/
def glyphsEach (depth : Nat) : List Step → List Glyph
  | [] => []
  | s :: ss => (s.trace depth).glyphs ++ glyphsEach (s.trace depth).depth ss

/-- What is written by steps that are all run. -/
theorem sink_runEach (ss : List Step) : ∀ f : Formatter, f.sink.room = none →
    (runEach f ss).sink = (f.wrote (glyphsEach f.depth ss)).sink := by
  induction ss with
  | nil =>
      intro f _
      rw [glyphsEach, Formatter.wrote_nil, runEach, List.foldl_nil]
  | cons s ss ih =>
      intro f hf
      -- the rest begins at the depth that the step ended at, failed or not
      have hrun : (s.run f).1
          = { f.wrote (s.trace f.depth).glyphs with depth := (s.trace f.depth).depth } := by
        rw [Formatter.run_eq_trace s f hf]
        rfl
      have hrest := ih
        { f.wrote (s.trace f.depth).glyphs with depth := (s.trace f.depth).depth } hf
      rw [glyphsEach, Formatter.wrote_append, runEach, List.foldl_cons, hrun]
      exact hrest

/-- **A layout line by line**: whatever steps are run on a fresh formatter, and whatever
becomes of them, what stands on the first line of the text are the characters that were
laid out before the first line feed, and on every other line nothing, or its characters
behind two spaces for every scope that the first of them stands in.  No line is padding
alone, and every character stands where it was laid out. -/
theorem splitOn_runEach (steps : List Step) :
    ∃ first later, Glyph.lines (glyphsEach 0 steps) = first :: later
      ∧ (runEach (.start .unbounded) steps).sink.text.toList.splitOn '\n'
        = first.map (·.char) :: later.map Glyph.lineText := by
  obtain ⟨first, later, hlines, hsplit⟩ := Glyph.splitOn_written (glyphsEach 0 steps) false
  have htext : (runEach (.start .unbounded) steps).sink.text.toList
      = Glyph.written false (glyphsEach 0 steps) := by
    rw [sink_runEach steps _ rfl]
    simp [Formatter.wrote, Formatter.append, Formatter.start, Sink.unbounded]
  exact ⟨first, later, hlines, by rw [htext, hsplit]; rfl⟩

end Step

end DeclExport
