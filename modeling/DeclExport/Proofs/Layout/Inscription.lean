/-
  DeclExport.Proofs.Layout.Inscription
  ────────────────────────────────
  **WHAT THE LITERAL OF A STRING IS READ AS.**

  Quotes in a string are doubled, and a reader undoes that.  Line feeds are not
  escaped: one that stands in a literal breaks the line, so the padding of the
  new line becomes part of the literal.  With `⏎` a line feed and `_` a space:

      a⏎b   at depth 2 is written   "a⏎____b"   and read as   a⏎____b

  `relaid` says what becomes of a text, `tokens_quoted` and `written_quoted`
  together that this is what is read, and `relaid_eq_self_iff` that in a scope
  just the texts of a single line are left as they are.
-/
import DeclExport.Proofs.Layout.Reading
import DeclExport.Proofs.Term.Literal
import DeclExport.Proofs.Text.Token

namespace DeclExport

open Text

/-! ## §1. Texts with the padding that they get. -/

/-- A text as it is laid out at a depth: padding stands behind every line feed that
no other follows. -/
def relaid (depth : Nat) : List Char → List Char
  | [] => []
  | c :: cs =>
      c :: ((if c = '\n' ∧ cs.head? ≠ some '\n' then Glyph.padding true depth else [])
        ++ relaid depth cs)

/-- A text without line feeds is laid out as it is. -/
theorem relaid_of_single_line (d : Nat) {cs : List Char} (h : '\n' ∉ cs) :
    relaid d cs = cs := by
  induction cs with
  | nil => rfl
  | cons c cs ih =>
      rw [List.mem_cons, not_or] at h
      obtain ⟨hc, hcs⟩ := h
      have hplain : ¬ (c = '\n' ∧ cs.head? ≠ some '\n') := fun hbreak => hc hbreak.1.symm
      rw [relaid, if_neg hplain, ih hcs, List.nil_append]

theorem length_relaid_ge (d : Nat) (cs : List Char) : cs.length ≤ (relaid d cs).length := by
  induction cs with
  | nil => exact Nat.le_refl 0
  | cons c cs ih =>
      simp only [relaid, List.length_cons, List.length_append]
      omega

/-- A text with a line feed grows in a scope: the last one is followed by another
character or by the closing quote. -/
theorem length_relaid_gt {d : Nat} (hd : 0 < d) {cs : List Char} (h : '\n' ∈ cs) :
    cs.length < (relaid d cs).length := by
  induction cs with
  | nil => simp at h
  | cons c cs ih =>
      -- the last line feed is the one that surely gets padding
      by_cases hcs : '\n' ∈ cs
      · have hgrow := ih hcs
        simp only [relaid, List.length_cons, List.length_append]
        omega
      · have hc : c = '\n' := by
          rcases List.mem_cons.mp h with hc | hmem
          · exact hc.symm
          · exact absurd hmem hcs
        have hlast : cs.head? ≠ some '\n' := fun hhead => hcs (List.mem_of_mem_head? hhead)
        have hpad : 0 < (Glyph.padding true d).length := by
          simp [Glyph.padding, Formatter.indentWidth, hd]
        have hkeep := length_relaid_ge d cs
        rw [relaid, if_pos ⟨hc, hlast⟩]
        simp only [List.length_cons, List.length_append]
        omega

/-- **In a scope, a text comes through unaltered exactly if it has no line feed.** -/
theorem relaid_eq_self_iff {d : Nat} (hd : 0 < d) (cs : List Char) :
    relaid d cs = cs ↔ '\n' ∉ cs := by
  constructor
  · intro heq hmem
    have hgrow := length_relaid_gt hd hmem
    rw [heq] at hgrow
    exact Nat.lt_irrefl _ hgrow
  · exact relaid_of_single_line d

/-- A source string, and the depth that its literal is laid out at. -/
structure Inscription where
  depth : Nat
  text : String
  deriving Repr, DecidableEq

namespace Inscription

/-- What the literal of a source string is read as. -/
def laidOut (i : Inscription) : String := String.ofList (relaid i.depth i.text.toList)

/-- Source strings whose literals are laid out at one depth. -/
def row (depth : Nat) (texts : List String) : List Inscription := texts.map (mk depth)

theorem row_append (d : Nat) (xs ys : List String) : row d (xs ++ ys) = row d xs ++ row d ys :=
  List.map_append

theorem laidOut_eq_text_iff {i : Inscription} (hd : 0 < i.depth) :
    i.laidOut = i.text ↔ '\n' ∉ i.text.toList := by
  rw [← relaid_eq_self_iff hd, laidOut, ← String.toList_inj, String.toList_ofList]

end Inscription

namespace Glyph

/-! ## §2. Literals as they are written. -/

/-- The glyphs of a literal behind its opening quote are written as those of the text
with its padding.  The first line has none if the text begins with a line feed. -/
theorem written_doubled (d : Nat) (R : List Glyph) (cs : List Char) :
    ∀ p, written p (row d (Term.doubled cs ++ ['"']) ++ R)
      = (if cs.head? = some '\n' then [] else padding p d)
        ++ (Term.doubled (relaid d cs) ++ '"' :: written false R) := by
  have hpadding : Term.doubled (padding true d) = padding true d := Term.doubled_spaces _
  induction cs with
  | nil =>
      intro p
      show written p (⟨d, '"'⟩ :: R) = _
      rw [written_cons_of_ne (by decide)]
      rfl
  | cons c cs ih =>
      intro p
      by_cases hc : c = '\n'
      · subst hc
        show '\n' :: written true (row d (Term.doubled cs ++ ['"']) ++ R) = _
        rw [ih true, relaid, Term.doubled_cons]
        -- of line feeds in a row only the last has padding behind it
        by_cases hcs : cs.head? = some '\n'
        · simp [hcs]
        · simp [hcs, Term.doubled_append, hpadding]
      · have hrelaid : relaid d (c :: cs) = c :: relaid d cs := by
          rw [relaid, if_neg fun h => hc h.1, List.nil_append]
        rw [hrelaid, Term.doubled_cons, Term.doubled_cons]
        -- a quote is two characters, of which neither breaks the line
        by_cases hquote : c = '"'
        · subst hquote
          show written p (⟨d, '"'⟩ :: ⟨d, '"'⟩ :: (row d (Term.doubled cs ++ ['"']) ++ R)) = _
          rw [written_cons_of_ne hc, written_cons_of_ne hc, ih false]
          simp [padding]
        · rw [if_neg hquote, List.append_assoc, List.singleton_append, row_cons,
            List.cons_append, written_cons_of_ne hc, ih false]
          simp [padding, hc]

/-- **A literal is written as the literal of its text as it is laid out.** -/
theorem written_quoted (p : Bool) (d : Nat) (s : String) (R : List Glyph) :
    written p (row d (Term.quoted s).toList ++ R)
      = padding p d
        ++ '"' :: (Term.doubled (relaid d s.toList) ++ '"' :: written false R) := by
  rw [Term.toList_quoted, row_cons, List.cons_append, written_cons_of_ne (by decide),
    written_doubled]
  simp [padding]

end Glyph

namespace Text

/-! ## §3. Literals as they are read. -/

/-- A literal is read up to its closing quote, if no other quote follows. -/
theorem literalTokens_doubled {cs : List Char} (hcs : cs.head? ≠ some '"') (xs : List Char) :
    ∀ before, literalTokens before (Term.doubled xs ++ '"' :: cs)
      = (tokens cs).map (.literal (String.ofList (before.reverse ++ xs)) :: ·) := by
  induction xs with
  | nil =>
      intro before
      show literalTokens before ('"' :: cs) = _
      -- the closing quote: a second one behind it would make it part of the text
      cases cs with
      | nil => simp [literalTokens]
      | cons c cs =>
          have hc : c ≠ '"' := fun h => hcs (by rw [h]; rfl)
          simp [literalTokens, hc]
  | cons x xs ih =>
      intro before
      rw [Term.doubled_cons]
      by_cases hx : x = '"'
      · subst hx
        show literalTokens ('"' :: before) (Term.doubled xs ++ '"' :: cs) = _
        rw [ih]
        simp
      · rw [if_neg hx]
        show literalTokens before (x :: (Term.doubled xs ++ '"' :: cs)) = _
        rw [literalTokens, ih]
        · simp
        · exact fun _ h _ => hx h
        · exact hx

/-- A literal is read as its text, whatever the text holds. -/
theorem tokens_quoted {cs : List Char} (hcs : cs.head? ≠ some '"') (xs : List Char) :
    tokens ('"' :: (Term.doubled xs ++ '"' :: cs))
      = (tokens cs).map (.literal (String.ofList xs) :: ·) :=
  literalTokens_doubled hcs xs []

/-- Padding is plain. -/
theorem isPlain_of_mem_padding {p : Bool} {d : Nat} {c : Char} (hc : c ∈ Glyph.padding p d) :
    isPlain c = true := by
  obtain rfl : c = ' ' := by
    cases p with
    | false => simp [Glyph.padding] at hc
    | true => exact (List.mem_replicate.mp hc).2
  decide

/-- Padding is read as the spaces that it is. -/
theorem tokens_padding (p : Bool) (d : Nat) (cs : List Char) :
    tokens (Glyph.padding p d ++ cs) = (tokens cs).map ((Glyph.padding p d).map .mark ++ ·) :=
  tokens_plain_append (List.all_eq_true.mpr fun _ hc => isPlain_of_mem_padding hc) cs

end Text

end DeclExport
