/-
  DeclExport.Proofs.Text.Token
  ────────────────────────────────
  **TEXTS AS TOKENS.**

  How a reader of terms takes a text apart, said without a word about who wrote
  it.  `tokens` goes over the characters once and fails only in a literal that
  is not closed; `outside` goes over the tokens and fails where the delimiters
  do not match.  With `_` a space:

      ("a""b",_[x])_::_nil.

      tokens   (  "a"b"  ,  _  [  x  ]  )  _  :  :  _  n  i  l  .
      outside  group  _  :  :  _  n  i  l  .

  A literal is one token with its text: a doubled quote in it is a quote, and
  whatever else it holds is never looked at.
-/
import Mathlib.Data.List.Basic

namespace DeclExport.Text

/-! ## §1. Tokens. -/

/-- The delimiters of terms. -/
inductive Delimiter where
  | paren
  | bracket
  /-- The braces of records, each with its bar. -/
  | brace
  deriving Repr, DecidableEq

namespace Delimiter

/-- How a delimiter is opened. -/
def opener : Delimiter → List Char
  | .paren => ['(']
  | .bracket => ['[']
  | .brace => ['{', '|']

/-- How a delimiter is closed. -/
def closer : Delimiter → List Char
  | .paren => [')']
  | .bracket => [']']
  | .brace => ['|', '}']

end Delimiter

/-- The tokens of terms. -/
inductive Token where
  /-- A literal, by the text that it stands for. -/
  | literal (text : String)
  | opening (d : Delimiter)
  | closing (d : Delimiter)
  /-- The opener of a comment. -/
  | comment
  /-- Any other character. -/
  | mark (c : Char)
  deriving Repr, DecidableEq

mutual

/-- The tokens of a text, if all of its literals are closed. -/
def tokens : List Char → Option (List Token)
  | [] => some []
  | '"' :: cs => literalTokens [] cs
  | '(' :: '*' :: cs => (tokens cs).map (.comment :: ·)
  | '(' :: cs => (tokens cs).map (.opening .paren :: ·)
  | ')' :: cs => (tokens cs).map (.closing .paren :: ·)
  | '[' :: cs => (tokens cs).map (.opening .bracket :: ·)
  | ']' :: cs => (tokens cs).map (.closing .bracket :: ·)
  | '{' :: '|' :: cs => (tokens cs).map (.opening .brace :: ·)
  | '|' :: '}' :: cs => (tokens cs).map (.closing .brace :: ·)
  | c :: cs => (tokens cs).map (.mark c :: ·)

/-- The tokens of a text that begins inside a literal, behind the characters
`before` of it, the last one first. -/
def literalTokens (before : List Char) : List Char → Option (List Token)
  | [] => none
  | '"' :: '"' :: cs => literalTokens ('"' :: before) cs
  | '"' :: cs => (tokens cs).map (.literal (String.ofList before.reverse) :: ·)
  | c :: cs => literalTokens (c :: before) cs

end

/-- The texts of the literals among tokens. -/
def literals (ts : List Token) : List String :=
  ts.filterMap fun
    | .literal text => some text
    | _ => none

/-! ## §2. What stands outside of all delimiters. -/

/-- What stands outside of all delimiters. -/
inductive Item where
  /-- A delimiter with all that it encloses. -/
  | group (d : Delimiter)
  | literal (text : String)
  | mark (c : Char)
  deriving Repr, DecidableEq

/-- What stands outside of all delimiters, behind tokens that have opened the
delimiters `pending`, the last one first; nothing if a delimiter is closed that
is not the last one opened, or is left open. -/
def outside : List Delimiter → List Token → Option (List Item)
  | [], [] => some []
  | _ :: _, [] => none
  | pending, .opening d :: ts => outside (d :: pending) ts
  | [], .closing _ :: _ => none
  | [d'], .closing d :: ts => if d = d' then (outside [] ts).map (.group d :: ·) else none
  | d' :: d'' :: pending, .closing d :: ts =>
      if d = d' then outside (d'' :: pending) ts else none
  | [], .literal text :: ts => (outside [] ts).map (.literal text :: ·)
  | [], .mark c :: ts => (outside [] ts).map (.mark c :: ·)
  | [], .comment :: ts => outside [] ts
  | d :: pending, .literal _ :: ts => outside (d :: pending) ts
  | d :: pending, .mark _ :: ts => outside (d :: pending) ts
  | d :: pending, .comment :: ts => outside (d :: pending) ts

/-! ## §3. Reading one token after the other. -/

/-- The characters that are read alone and stand for themselves: all but quotes,
stars, and the characters of delimiters. -/
def isPlain (c : Char) : Bool :=
  !(['"', '*', '(', ')', '[', ']', '{', '|', '}'].contains c)

theorem ne_of_isPlain {c x : Char} (hc : isPlain c = true)
    (hx : isPlain x = false) : c ≠ x := by
  rintro rfl
  simp [hc] at hx

/-- A plain character is a token of its own. -/
theorem tokens_plain {c : Char} (hc : isPlain c = true) (cs : List Char) :
    tokens (c :: cs) = (tokens cs).map (.mark c :: ·) := by
  have hne : ∀ x, isPlain x = false → c ≠ x := fun x hx => ne_of_isPlain hc hx
  have hparen := hne '(' rfl
  have hbrace := hne '{' rfl
  have hbar := hne '|' rfl
  rw [tokens]
  · exact hne '"' rfl
  · exact fun _ h _ => hparen h
  · exact hparen
  · exact hne ')' rfl
  · exact hne '[' rfl
  · exact hne ']' rfl
  · exact fun _ h _ => hbrace h
  · exact fun _ h _ => hbar h

/-- Plain characters are read one after the other. -/
theorem tokens_plain_append {w : List Char} (hw : w.all isPlain = true) (cs : List Char) :
    tokens (w ++ cs) = (tokens cs).map (w.map .mark ++ ·) := by
  induction w with
  | nil => simp
  | cons c w ih =>
      rw [List.all_cons, Bool.and_eq_true] at hw
      rw [List.cons_append, tokens_plain hw.1, ih hw.2]
      simp [Function.comp_def]

/-- A delimiter is opened, unless a star makes it the opener of a comment. -/
theorem tokens_opener (d : Delimiter) {cs : List Char} (hcs : cs.head? ≠ some '*') :
    tokens (d.opener ++ cs) = (tokens cs).map (.opening d :: ·) := by
  cases d with
  | paren =>
      show tokens ('(' :: cs) = _
      cases cs with
      | nil => rfl
      | cons c cs =>
          have hc : c ≠ '*' := fun h => hcs (by rw [h]; rfl)
          simp [tokens, hc]
  | bracket => rfl
  | brace => rfl

theorem tokens_closer (d : Delimiter) (cs : List Char) :
    tokens (d.closer ++ cs) = (tokens cs).map (.closing d :: ·) := by
  cases d <;> rfl

/-! ## §4. Tokens inside a delimiter. -/

/-- Tokens that leave every delimiter as they found it, once one is open. -/
def Nested (ts : List Token) : Prop :=
  ∀ d pending us, outside (d :: pending) (ts ++ us) = outside (d :: pending) us

theorem nested_nil : Nested [] := fun _ _ _ => rfl

theorem nested_literal (text : String) : Nested [.literal text] := fun _ _ _ => rfl

theorem nested_marks (cs : List Char) : Nested (cs.map .mark) := by
  intro d pending us
  induction cs with
  | nil => rfl
  | cons c cs ih => exact ih

theorem Nested.append {ts us : List Token} (hts : Nested ts) (hus : Nested us) :
    Nested (ts ++ us) := by
  intro d pending vs
  rw [List.append_assoc, hts, hus]

/-- A delimiter that is opened and closed around tokens. -/
def enclosed (d : Delimiter) (ts : List Token) : List Token := .opening d :: (ts ++ [.closing d])

theorem Nested.enclosed {ts : List Token} (hts : Nested ts) (d : Delimiter) :
    Nested (enclosed d ts) := by
  intro d' pending us
  show outside (d :: d' :: pending) ((ts ++ [.closing d]) ++ us) = _
  rw [List.append_assoc, hts]
  simp [outside]

/-- Outside of all delimiters, plain characters stand for themselves. -/
theorem outside_marks (cs : List Char) (us : List Token) :
    outside [] (cs.map .mark ++ us) = (outside [] us).map (cs.map .mark ++ ·) := by
  induction cs with
  | nil => simp
  | cons c cs ih =>
      show (outside [] (cs.map .mark ++ us)).map (.mark c :: ·) = _
      rw [ih]
      simp [Function.comp_def]

/-- A delimiter and its partner are one group, whatever they enclose. -/
theorem outside_enclosed {ts : List Token} (hts : Nested ts) (d : Delimiter)
    (us : List Token) :
    outside [] (enclosed d ts ++ us) = (outside [] us).map (.group d :: ·) := by
  show outside [d] ((ts ++ [.closing d]) ++ us) = _
  rw [List.append_assoc, hts]
  simp [outside]

/-! ## §5. The literals among tokens. -/

@[simp] theorem literals_append (ts us : List Token) :
    literals (ts ++ us) = literals ts ++ literals us :=
  List.filterMap_append

@[simp] theorem literals_literal_cons (text : String) (ts : List Token) :
    literals (.literal text :: ts) = text :: literals ts := rfl

@[simp] theorem literals_marks (cs : List Char) : literals (cs.map .mark) = [] := by
  induction cs with
  | nil => rfl
  | cons c cs ih => exact ih

@[simp] theorem literals_enclosed (d : Delimiter) (ts : List Token) :
    literals (enclosed d ts) = literals ts := by
  show literals (ts ++ [.closing d]) = literals ts
  rw [literals_append]
  exact List.append_nil _

end DeclExport.Text
