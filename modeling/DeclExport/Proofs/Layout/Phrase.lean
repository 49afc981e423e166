/-
  DeclExport.Proofs.Layout.Phrase
  ────────────────────────────────
  **GLYPHS THAT ARE READ AS TOKENS.**

  A *phrase* is made of plain characters, of literals that no quote follows, and
  of delimiters around phrases.  Nothing is said of what the literals hold, nor
  of the depths that all of it is laid out at.  Still what is written for a
  phrase is read as tokens in which every delimiter that is opened is closed,
  no comment begins, and the literals are those of the phrase
  (`Phrase.reading`).
-/
import DeclExport.Proofs.Layout.Inscription

namespace DeclExport

open Text

namespace Glyph

/-! ## §1. Phrases. -/

/-- Glyphs that do not begin with a quote, so that a literal in front of them ends. -/
def Unquoted (gs : List Glyph) : Prop := ∀ g ∈ gs.head?, g.char ≠ '"'

theorem unquoted_nil : Unquoted [] := by simp [Unquoted]

theorem unquoted_cons {d : Nat} {c : Char} (hc : c ≠ '"') (gs : List Glyph) :
    Unquoted (⟨d, c⟩ :: gs) := by
  simpa [Unquoted] using hc

theorem Unquoted.append {gs hs : List Glyph} (h : Unquoted gs) (h' : Unquoted hs) :
    Unquoted (gs ++ hs) := by
  cases gs with
  | nil => exact h'
  | cons g gs => exact h

/-- Glyphs in which literals are closed and delimiters match, with their literals. -/
inductive Phrase : List Glyph → List Inscription → Prop where
  | nil : Phrase [] []
  | plain {d : Nat} {c : Char} {gs : List Glyph} {is : List Inscription}
      (hc : isPlain c = true) (rest : Phrase gs is) : Phrase (⟨d, c⟩ :: gs) is
  /-- A literal, in front of what is no quote. -/
  | literal {d : Nat} {s : String} {gs : List Glyph} {is : List Inscription}
      (next : Unquoted gs) (rest : Phrase gs is) :
      Phrase (row d (Term.quoted s).toList ++ gs) (⟨d, s⟩ :: is)
  /-- Delimiters around a phrase; they may stand at different depths. -/
  | group {d e : Nat} {inside gs : List Glyph} {is js : List Inscription} (k : Delimiter)
      (inner : Phrase inside is) (rest : Phrase gs js) :
      Phrase (row d k.opener ++ (inside ++ (row e k.closer ++ gs))) (is ++ js)

namespace Phrase

variable {gs hs : List Glyph} {is js : List Inscription}

/-- Two phrases make one, unless a literal at the end of the first meets a quote. -/
theorem append (h : Phrase gs is) (hquote : Unquoted hs) (h' : Phrase hs js) :
    Phrase (gs ++ hs) (is ++ js) := by
  induction h with
  | nil => exact h'
  | plain hc _ ih => exact .plain hc ih
  | literal next _ ih =>
      rw [List.append_assoc]
      exact .literal (next.append hquote) ih
  | group k inner _ _ ih =>
      simp only [List.append_assoc]
      exact .group k inner ih

/-- Plain characters in front of a phrase. -/
theorem plain_append {w : List Char} (hw : w.all isPlain = true) (d : Nat)
    (h : Phrase gs is) : Phrase (row d w ++ gs) is := by
  induction w with
  | nil => exact h
  | cons c w ih =>
      rw [List.all_cons, Bool.and_eq_true] at hw
      exact .plain hw.1 (ih hw.2)

/-- A phrase does not begin with a star, so no bracket in front of it opens a comment. -/
theorem begins_ne_star (h : Phrase gs is) : ∀ g ∈ gs.head?, g.char ≠ '*' := by
  cases h with
  | nil => simp
  | @plain d c gs is hc rest =>
      intro g hg
      obtain rfl : (⟨d, c⟩ : Glyph) = g := by simpa using hg
      exact ne_of_isPlain hc rfl
  | literal next rest =>
      -- a literal begins with its quote, whatever it holds
      rw [Term.toList_quoted]
      simp
  | group k inner rest => cases k <;> simp [Delimiter.opener]

end Phrase

/-! ## §2. What is written for parts of a phrase. -/

/-- Plain characters and their padding are plain. -/
theorem isPlain_of_mem_written {gs : List Glyph} (h : ∀ g ∈ gs, isPlain g.char = true) :
    ∀ p, ∀ c ∈ written p gs, isPlain c = true := by
  induction gs with
  | nil => intro p c hc; simp [written] at hc
  | cons g gs ih =>
      intro p c hc
      obtain ⟨hg, hgs⟩ := List.forall_mem_cons.mp h
      by_cases hbreak : g.char = '\n'
      · rw [written, if_pos hbreak, List.mem_cons] at hc
        rcases hc with rfl | hc
        · decide
        · exact ih hgs true c hc
      · rw [written, if_neg hbreak, List.mem_append, List.mem_cons] at hc
        rcases hc with hc | rfl | hc
        · exact isPlain_of_mem_padding hc
        · exact hg
        · exact ih hgs false c hc

theorem written_opener (p : Bool) (d : Nat) (k : Delimiter) (X : List Glyph) :
    written p (row d k.opener ++ X) = padding p d ++ (k.opener ++ written false X) := by
  cases k <;> exact written_word (by decide) p d X

theorem written_closer (p : Bool) (d : Nat) (k : Delimiter) (X : List Glyph) :
    written p (row d k.closer ++ X) = padding p d ++ (k.closer ++ written false X) := by
  cases k <;> exact written_word (by decide) p d X

/-- Once a line has begun, a text begins with a character only if its glyphs do, or
what stands behind them. -/
theorem head?_written {x : Char} {gs : List Glyph} {zs : List Char}
    (hgs : ∀ g ∈ gs.head?, g.char ≠ x) (hzs : zs.head? ≠ some x) :
    (written false gs ++ zs).head? ≠ some x := by
  cases gs with
  | nil => exact hzs
  | cons g gs =>
      obtain ⟨d, c⟩ := g
      have hc : c ≠ x := hgs ⟨d, c⟩ (by simp)
      rw [written_false_cons]
      simpa using hc

/-- A delimiter that is closed stands behind padding, so the text there begins with no
character of another kind. -/
theorem head?_written_closer {x : Char} (hplain : isPlain x = false)
    (hclose : ∀ k : Delimiter, k.closer.head? ≠ some x) (p : Bool) (d : Nat) (k : Delimiter)
    (X : List Glyph) (zs : List Char) :
    (written p (row d k.closer ++ X) ++ zs).head? ≠ some x := by
  rw [written_closer, List.append_assoc]
  cases hpad : padding p d with
  | nil =>
      have hk := hclose k
      cases k <;> exact hk
  | cons c cs =>
      have hc : isPlain c = true := isPlain_of_mem_padding (p := p) (d := d) (by simp [hpad])
      have hne : c ≠ x := ne_of_isPlain hc hplain
      simpa using hne

/-! ## §3. Reading a phrase. -/

/-- Tokens that glyphs are read as, wherever they stand in a text, unless a quote
follows that would make a literal go on.  They are told by whether padding is
pending, since padding is read as spaces. -/
structure Reading (gs : List Glyph) (is : List Inscription) (ts : Bool → List Token) :
    Prop where
  read : ∀ p zs, zs.head? ≠ some '"' →
    tokens (written p gs ++ zs) = (tokens zs).map (ts p ++ ·)
  nested : ∀ p, Nested (ts p)
  literals : ∀ p, literals (ts p) = is.map (·.laidOut)
  no_comment : ∀ p, .comment ∉ ts p

namespace Reading

variable {gs : List Glyph} {is : List Inscription} {ts : Bool → List Token}

theorem nil : Reading [] [] fun _ => [] :=
  ⟨fun _ _ _ => by simp [written], fun _ => nested_nil, fun _ => rfl, fun _ => by simp⟩

/-- The tokens of plain glyphs in front of others. -/
def behindPlain (hs : List Glyph) (ts : Bool → List Token) (p : Bool) : List Token :=
  (written p hs).map .mark ++ ts (pendingAfter p hs)

theorem plain (hs : List Glyph) (hhs : ∀ g ∈ hs, isPlain g.char = true)
    (h : Reading gs is ts) : Reading (hs ++ gs) is (behindPlain hs ts) := by
  refine ⟨fun p zs hzs => ?_, fun p => (nested_marks _).append (h.nested _), fun p => ?_,
    fun p => ?_⟩
  · have hplain : (written p hs).all isPlain = true :=
      List.all_eq_true.mpr (isPlain_of_mem_written hhs p)
    rw [written_append, List.append_assoc, tokens_plain_append hplain, h.read _ zs hzs]
    simp [behindPlain, Function.comp_def]
  · simp [behindPlain, h.literals]
  · simpa [behindPlain] using h.no_comment _

/-- The tokens of a literal in front of others. -/
def behindLiteral (i : Inscription) (ts : Bool → List Token) (p : Bool) : List Token :=
  (padding p i.depth).map .mark ++ .literal i.laidOut :: ts false

theorem literal (next : Unquoted gs) (i : Inscription) (h : Reading gs is ts) :
    Reading (row i.depth (Term.quoted i.text).toList ++ gs) (i :: is) (behindLiteral i ts) := by
  refine ⟨fun p zs hzs => ?_,
    fun p => (nested_marks _).append ((nested_literal _).append (h.nested _)), fun p => ?_,
    fun p => ?_⟩
  · -- what is behind the literal is no quote, so the literal ends there
    have hnext : (written false gs ++ zs).head? ≠ some '"' := head?_written next hzs
    rw [written_quoted, List.append_assoc, tokens_padding, List.cons_append, List.append_assoc,
      List.cons_append, tokens_quoted hnext, h.read _ zs hzs]
    simp [behindLiteral, Function.comp_def, Inscription.laidOut]
  · simp [behindLiteral, h.literals]
  · simpa [behindLiteral] using h.no_comment _

/-- The tokens of glyphs and their delimiters, in front of others. -/
def behindGroup (k : Delimiter) (d e : Nat) (inside : List Glyph) (ts us : Bool → List Token)
    (p : Bool) : List Token :=
  (padding p d).map .mark
    ++ (enclosed k (ts false ++ (padding (pendingAfter false inside) e).map .mark) ++ us false)

theorem group {inside : List Glyph} {js : List Inscription} {us : Bool → List Token}
    (k : Delimiter) (d e : Nat) (hstar : ∀ g ∈ inside.head?, g.char ≠ '*')
    (hin : Reading inside is ts) (h : Reading gs js us) :
    Reading (row d k.opener ++ (inside ++ (row e k.closer ++ gs))) (is ++ js)
      (behindGroup k d e inside ts us) := by
  have hnested := (hin.nested false).append
    (nested_marks (padding (pendingAfter false inside) e))
  refine ⟨fun p zs hzs => ?_,
    fun p => (nested_marks _).append ((hnested.enclosed k).append (h.nested _)), fun p => ?_,
    fun p => ?_⟩
  · -- behind the inside stands the closing delimiter, or padding in front of it
    have hclose : ∀ x : Char, x = '"' ∨ x = '*' → ∀ q : Bool,
        (written q (row e k.closer ++ gs) ++ zs).head? ≠ some x := by
      rintro x (rfl | rfl) q
      · exact head?_written_closer rfl (fun k => by cases k <;> decide) q e k gs zs
      · exact head?_written_closer rfl (fun k => by cases k <;> decide) q e k gs zs
    -- a star behind `(` would open a comment
    have hopen : (written false (inside ++ (row e k.closer ++ gs)) ++ zs).head? ≠ some '*' := by
      rw [written_append, List.append_assoc]
      exact head?_written hstar (hclose '*' (.inr rfl) _)
    rw [written_opener, List.append_assoc, tokens_padding, List.append_assoc,
      tokens_opener k hopen, written_append, List.append_assoc,
      hin.read _ _ (hclose '"' (.inl rfl) _), written_closer,
      List.append_assoc, tokens_padding, List.append_assoc, tokens_closer, h.read _ zs hzs]
    simp [behindGroup, enclosed, Function.comp_def]
  · simp [behindGroup, hin.literals, h.literals]
  · simpa [behindGroup, enclosed] using ⟨hin.no_comment false, h.no_comment false⟩

end Reading

/-- **A phrase is read as tokens**, wherever it stands and whatever its literals hold:
delimiters match, no comment begins, and the literals are its own. -/
theorem Phrase.reading {gs : List Glyph} {is : List Inscription} (h : Phrase gs is) :
    ∃ ts, Reading gs is ts := by
  -- one way of reading for each way of making a phrase
  induction h with
  | nil => exact ⟨_, .nil⟩
  | @plain d c gs is hc _ ih =>
      obtain ⟨ts, hts⟩ := ih
      exact ⟨_, hts.plain [⟨d, c⟩] (by simpa using hc)⟩
  | @literal d s gs is next _ ih =>
      obtain ⟨ts, hts⟩ := ih
      exact ⟨_, hts.literal next ⟨d, s⟩⟩
  | group k inner _ ihin ih =>
      obtain ⟨ts, hts⟩ := ihin
      obtain ⟨us, hus⟩ := ih
      exact ⟨_, .group k _ _ inner.begins_ne_star hts hus⟩

end Glyph

end DeclExport
