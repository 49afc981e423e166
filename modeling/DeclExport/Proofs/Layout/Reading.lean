/-
  DeclExport.Proofs.Layout.Reading
  ────────────────────────────────
  **READING GLYPHS BACK FROM WHAT IS WRITTEN.**

  Padding depends on the depth, and a reader who does not know the depth cannot
  tell it from spaces of the text.  A reader who does know it can: at equal
  depth and with equal padding pending, texts that agree begin with the same
  character (`written_cons_inj`).  So a layout is read from left to right, as
  long as the depth of what comes next follows from what was read.

  *Legible* is for glyphs what *readable* is for texts, and a readable text that
  is laid out at one depth is legible (`legible_row`).
-/
import DeclExport.Proofs.Layout.Glyphs
import DeclExport.Proofs.Text.Readable

namespace DeclExport.Glyph

open Text

/-! ## §1. One character. -/

theorem written_newline (p : Bool) (d : Nat) (gs : List Glyph) :
    written p (⟨d, '\n'⟩ :: gs) = '\n' :: written true gs := rfl

theorem written_cons_of_ne {c : Char} (hc : c ≠ '\n') (p : Bool) (d : Nat) (gs : List Glyph) :
    written p (⟨d, c⟩ :: gs) = padding p d ++ c :: written false gs :=
  if_neg hc

/-- Where no padding is pending, the depth does not show. -/
theorem written_false_cons (d : Nat) (c : Char) (gs : List Glyph) :
    written false (⟨d, c⟩ :: gs) = c :: written (c = '\n') gs := by
  by_cases hc : c = '\n'
  · rw [hc]
    rfl
  · rw [written_cons_of_ne hc]
    simp [padding, hc]

/-- A word in a line that has begun is written as it is. -/
theorem written_false_word {w : List Char} (hw : '\n' ∉ w) (d : Nat) (R : List Glyph) :
    written false (row d w ++ R) = w ++ written false R := by
  induction w with
  | nil => rfl
  | cons c w ih =>
      rw [List.mem_cons, not_or] at hw
      have hc : c ≠ '\n' := fun h => hw.1 h.symm
      rw [row_cons, List.cons_append, written_cons_of_ne hc, ih hw.2]
      rfl

/-- A word is written behind the padding that is pending. -/
theorem written_word {c : Char} {w : List Char} (hw : '\n' ∉ c :: w) (p : Bool) (d : Nat)
    (R : List Glyph) :
    written p (row d (c :: w) ++ R) = padding p d ++ (c :: w ++ written false R) := by
  rw [List.mem_cons, not_or] at hw
  have hc : c ≠ '\n' := fun h => hw.1 h.symm
  rw [row_cons, List.cons_append, written_cons_of_ne hc, written_false_word hw.2]
  rfl

/-- What begins a line is no line feed. -/
theorem padding_append_ne_newline {c : Char} (hc : c ≠ '\n') (p : Bool) (d : Nat)
    (xs ys : List Char) : padding p d ++ c :: xs ≠ '\n' :: ys := by
  intro h
  cases p with
  | false => exact hc (List.cons.inj h).1
  | true =>
      cases hn : d * Formatter.indentWidth with
      | zero =>
          rw [padding, if_pos rfl, hn] at h
          exact hc (List.cons.inj h).1
      | succ n =>
          rw [padding, if_pos rfl, hn, List.replicate_succ] at h
          exact absurd (List.cons.inj h).1 (by decide)

/-- A line is not broken where a character stands, whatever the depths. -/
theorem written_ne_newline {c : Char} (hc : c ≠ '\n') (p : Bool) (d e : Nat)
    (X Y : List Glyph) : written p (⟨d, c⟩ :: X) ≠ written p (⟨e, '\n'⟩ :: Y) := by
  rw [written_newline, written_cons_of_ne hc]
  exact padding_append_ne_newline hc p d _ _

/-- **Characters are read at a known depth.** -/
theorem written_cons_inj {p : Bool} {d : Nat} {c c' : Char} {X Y : List Glyph}
    (h : written p (⟨d, c⟩ :: X) = written p (⟨d, c'⟩ :: Y)) :
    c = c' ∧ written (c = '\n') X = written (c = '\n') Y := by
  by_cases hc : c = '\n'
  · by_cases hc' : c' = '\n'
    · rw [hc, hc', written_newline, written_newline] at h
      exact ⟨hc.trans hc'.symm, by simpa [hc] using h⟩
    · rw [hc, written_newline, written_cons_of_ne hc'] at h
      exact absurd h.symm (padding_append_ne_newline hc' p d _ _)
  · by_cases hc' : c' = '\n'
    · rw [hc', written_newline, written_cons_of_ne hc] at h
      exact absurd h (padding_append_ne_newline hc p d _ _)
    · rw [written_cons_of_ne hc, written_cons_of_ne hc'] at h
      -- the depth is the same, and so is the padding in front
      obtain ⟨hcc, hrest⟩ := List.cons.inj (List.append_cancel_left h)
      exact ⟨hcc, by simpa [hc] using hrest⟩

/-! ## §2. Equal glyphs in front. -/

/-- Equal glyphs in front are read over. -/
theorem written_append_cancel {p : Bool} {gs X Y : List Glyph}
    (h : written p (gs ++ X) = written p (gs ++ Y)) :
    written (pendingAfter p gs) X = written (pendingAfter p gs) Y := by
  rw [written_append, written_append] at h
  exact List.append_cancel_left h

/-! ## §3. Rows and readable texts. -/

variable {α : Type}

/-- No written text that begins with the glyphs of `a` begins with those of
another value. -/
def Legible (code : α → List Glyph) (a : α) : Prop :=
  ∀ b p X Y, written p (code a ++ X) = written p (code b ++ Y) → a = b

/-- What follows a legible value is read as well. -/
theorem Legible.rest {code : α → List Glyph} {a b : α} {p : Bool} {X Y : List Glyph}
    (ha : Legible code a) (h : written p (code a ++ X) = written p (code b ++ Y)) :
    a = b ∧ written (pendingAfter p (code a)) X = written (pendingAfter p (code a)) Y := by
  obtain rfl := ha b p X Y h
  exact ⟨rfl, written_append_cancel h⟩

/-- Rows of one depth that are written alike agree as far as both go. -/
theorem agree_of_written {d : Nat} {X Y : List Glyph} :
    ∀ {p : Bool} {xs ys : List Char},
      written p (row d xs ++ X) = written p (row d ys ++ Y) →
      ∃ r r', xs ++ r = ys ++ r'
  | _, [], ys, _ => ⟨ys, [], by simp⟩
  | _, x :: xs, [], _ => ⟨[], x :: xs, by simp⟩
  | p, x :: xs, y :: ys, h => by
      obtain ⟨hxy, hrest⟩ := written_cons_inj h
      obtain ⟨r, r', hagree⟩ := agree_of_written hrest
      exact ⟨r, r', by rw [hxy, List.cons_append, List.cons_append, hagree]⟩

/-- **A readable text is legible at every depth.** -/
theorem legible_row {code : α → String} {a : α} (ha : Readable code a) (d : Nat) :
    Legible (fun a => row d (code a).toList) a := by
  intro b p X Y h
  obtain ⟨r, r', hagree⟩ := agree_of_written h
  exact ha b r r' hagree

end DeclExport.Glyph
