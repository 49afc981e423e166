/-
  DeclExport.Proofs.Term.Spelling
  ────────────────────────────────
  **THE STRINGS IN THE TERM OF A TYPE OR AN EXPRESSION.**

  Terms hold source strings: names of types, variables and callees, in the order
  in which they stand in the source.  A text *spells* a list of strings if its
  characters are a phrase whose literals are just these, at whatever depth it is
  laid out:

      (Ecall "f" [(Evar "x"); (Evar "y")])   spells   f, x, y

  Each way of putting texts together keeps that: words in an application, items
  in a list, a name and a term in a pair.  So the strings of a term are those of
  its parts, one after the other (`spells_ty`, `spells_expr`).
-/
import Mathlib.Data.List.Forall2
import DeclExport.Proofs.Layout.Phrase
import DeclExport.Proofs.Term.Expr
import DeclExport.Term.Stmt

namespace DeclExport

open Text Glyph

/-! ## §1. The strings of types and expressions. -/

/-- The names in a type. -/
def Ty.strings : Ty → List String
  | .void | .bool | .char | .int _ _ | .float _ => []
  | .pointer t | .reference t | .const t => t.strings
  | .named n => [n]

/-- The name of a parameter or field, and the names in its type. -/
def Binder.strings (b : Binder) : List String := b.name :: b.ty.strings

mutual

/-- The names in an expression. -/
def Expr.strings : Expr → List String
  | .int _ | .bool _ => []
  | .var n => [n]
  | .call callee args => callee :: Expr.stringsAll args
  | .binary _ l r => l.strings ++ r.strings
  | .unary _ e => e.strings
  | .assign t v => t.strings ++ v.strings

/-- The names in the arguments of a call. -/
def Expr.stringsAll : List Expr → List String
  | [] => []
  | e :: es => e.strings ++ Expr.stringsAll es

end

namespace Term

/-! ## §2. Texts that spell strings. -/

/-- A text that is a phrase at every depth, with literals of the given strings. -/
def Spells (text : String) (ss : List String) : Prop :=
  ∀ d, Phrase (row d text.toList) (Inscription.row d ss)

theorem isPlain_of_isDigit {c : Char} (hc : c.isDigit = true) : isPlain c = true := by
  -- none of the characters that are not plain is a digit
  have hnone : (['"', '*', '(', ')', '[', ']', '{', '|', '}'].all fun x => !x.isDigit) = true :=
    rfl
  rw [isPlain, Bool.not_eq_true', List.contains_eq_mem, decide_eq_false_iff_not]
  intro hmem
  have hnot := List.all_eq_true.mp hnone c hmem
  simp [hc] at hnot

theorem spells_plain {w : String} (hw : w.toList.all isPlain = true) : Spells w [] := by
  intro d
  have h := Phrase.plain_append hw d .nil
  rwa [List.append_nil] at h

theorem spells_quoted (s : String) : Spells (quoted s) [s] := by
  intro d
  have h := Phrase.literal (d := d) (s := s) unquoted_nil .nil
  rwa [List.append_nil] at h

theorem Spells.append {a b : String} {ss ts : List String} (ha : Spells a ss)
    (hb : Spells b ts) (hquote : b.toList.head? ≠ some '"') : Spells (a ++ b) (ss ++ ts) := by
  intro d
  rw [String.toList_append, Glyph.row_append, Inscription.row_append]
  refine (ha d).append ?_ (hb d)
  cases hbs : b.toList with
  | nil => exact unquoted_nil
  | cons c cs =>
      -- a quote here would be read into a literal at the end of `a`
      have hc : c ≠ '"' := fun h => hquote (by rw [hbs, h]; rfl)
      exact unquoted_cons hc _

/-- A plain word in front of a text, which may begin with a quote. -/
theorem Spells.plain_append {w t : String} {ss : List String}
    (hw : w.toList.all isPlain = true) (h : Spells t ss) : Spells (w ++ t) ss := by
  intro d
  rw [String.toList_append, Glyph.row_append]
  exact (h d).plain_append hw d

/-- A text between delimiters. -/
theorem Spells.enclosed {text inside : String} {ss : List String} (k : Delimiter)
    (htext : text.toList = k.opener ++ (inside.toList ++ k.closer)) (h : Spells inside ss) :
    Spells text ss := by
  intro d
  have hgroup := Phrase.group (d := d) (e := d) k (h d) .nil
  rw [htext, Glyph.row_append, Glyph.row_append]
  simpa using hgroup

/-- Texts with a plain separator between two. -/
theorem spells_intercalate (sep : String) {c : Char} {cs : List Char}
    (hsep : sep.toList = c :: cs) (hplain : sep.toList.all isPlain = true)
    {words : List String} {sss : List (List String)} (h : List.Forall₂ Spells words sss) :
    Spells (sep.intercalate words) sss.flatten := by
  have hc : c ≠ '"' := ne_of_isPlain (List.all_eq_true.mp hplain c (by simp [hsep])) rfl
  induction h with
  | nil => exact spells_plain (by simp)
  | @cons w ss words sss hw hwords ih =>
      cases words with
      | nil =>
          cases hwords
          simpa using hw
      | cons w' words =>
          -- the separator comes between, so a literal at the end of `w` ends there
          rw [String.intercalate_cons_cons, String.append_assoc, List.flatten_cons]
          refine hw.append (ih.plain_append hplain) ?_
          simpa [String.toList_append, hsep] using hc

/-- An application of words. -/
theorem spells_app {words : List String} {sss : List (List String)}
    (h : List.Forall₂ Spells words sss) : Spells (app words) sss.flatten := by
  have hwords := spells_intercalate " " rfl (by decide) h
  exact hwords.enclosed .paren (by simp [app, Delimiter.opener, Delimiter.closer])

/-- A list of terms. -/
theorem spells_list {items : List String} {sss : List (List String)}
    (h : List.Forall₂ Spells items sss) : Spells (list items) sss.flatten := by
  have hitems := spells_intercalate "; " rfl (by decide) h
  exact hitems.enclosed .bracket (by simp [list, Delimiter.opener, Delimiter.closer])

/-- A list of the terms of values. -/
theorem spells_list_map {α : Type} {code : α → String} {strings : α → List String}
    {as : List α} (h : ∀ a ∈ as, Spells (code a) (strings a)) :
    Spells (list (as.map code)) (as.flatMap strings) := by
  rw [List.flatMap_def]
  refine spells_list ?_
  rw [List.forall₂_map_left_iff, List.forall₂_map_right_iff]
  exact List.forall₂_same.mpr h

/-- A pair of a name and a term. -/
theorem spells_pair (name : String) {term : String} {ss : List String} (h : Spells term ss) :
    Spells (pair name term) (name :: ss) := by
  have hterm : Spells (", " ++ term) ss := h.plain_append (by decide)
  have hinside := (spells_quoted name).append hterm (by simp)
  exact hinside.enclosed .paren (by simp [pair, Delimiter.opener, Delimiter.closer])

/-- A term that may be missing. -/
theorem spells_option {α : Type} {code : α → String} {strings : α → List String}
    (h : ∀ a, Spells (code a) (strings a)) (o : Option α) :
    Spells (option (o.map code)) (o.toList.flatMap strings) := by
  cases o with
  | none =>
      show Spells "None" []
      exact spells_plain (by decide)
  | some a =>
      have hinside : Spells ("Some " ++ code a) (strings a) := (h a).plain_append (by decide)
      have hterm : Spells (option (some (code a))) (strings a) :=
        hinside.enclosed .paren (by simp [option, Delimiter.opener, Delimiter.closer])
      simpa using hterm

/-! ## §3. Numbers and types. -/

theorem all_isPlain_nat (n : Nat) : (nat n).toList.all isPlain = true :=
  List.all_eq_true.mpr fun _ hc => isPlain_of_isDigit (isDigit_of_mem_nat hc)

theorem spells_int (i : Int) : Spells (int i) [] := by
  cases i with
  | ofNat n => exact spells_plain (all_isPlain_nat n)
  | negSucc n =>
      have hinside : Spells ("-" ++ nat (n + 1)) [] :=
        (spells_plain (all_isPlain_nat (n + 1))).plain_append (by decide)
      exact hinside.enclosed .paren (by simp [int, Delimiter.opener, Delimiter.closer])

/-- An application of one plain word to a term. -/
theorem spells_app_term {w term : String} {ss : List String}
    (hw : w.toList.all isPlain = true) (h : Spells term ss) : Spells (app [w, term]) ss := by
  have happ := spells_app (.cons (spells_plain hw) (.cons h .nil))
  simpa using happ

/-- **The term of a type spells the names in it.** -/
theorem spells_ty (t : Ty) : Spells (ty t) t.strings := by
  have hwidth : ∀ n, Spells ("W" ++ nat n) [] := fun n =>
    (spells_plain (all_isPlain_nat n)).plain_append (by decide)
  induction t with
  | void => exact spells_plain (by decide)
  | bool => exact spells_plain (by decide)
  | char => exact spells_plain (by decide)
  | int bits signed =>
      have hsign : Spells (if signed then "Signed" else "Unsigned") [] := by
        cases signed <;> exact spells_plain (by decide)
      exact spells_app (.cons (spells_plain (by decide))
        (.cons (hwidth bits.toNat) (.cons hsign .nil)))
  | float bits => exact spells_app_term (by decide) (hwidth bits.toNat)
  | pointer t ih => exact spells_app_term (by decide) ih
  | reference t ih => exact spells_app_term (by decide) ih
  | const t ih => exact spells_app_term (by decide) ih
  | named n => exact spells_app_term (by decide) (spells_quoted n)

theorem spells_binder (b : Binder) : Spells (binder b) b.strings :=
  spells_pair b.name (spells_ty b.ty)

/-! ## §4. Expressions. -/

theorem stringsAll_eq_flatMap (es : List Expr) :
    Expr.stringsAll es = es.flatMap Expr.strings := by
  induction es with
  | nil => rfl
  | cons e es ih => rw [Expr.stringsAll, ih, List.flatMap_cons]

/-- Plain words in front of others, such as those that name an operator. -/
theorem spells_words_append {ws words : List String} {sss : List (List String)}
    (hws : ∀ w ∈ ws, w.toList.all isPlain = true) (h : List.Forall₂ Spells words sss) :
    List.Forall₂ Spells (ws ++ words) (ws.map (fun _ => []) ++ sss) := by
  refine List.rel_append ?_ h
  rw [List.forall₂_map_right_iff]
  exact List.forall₂_same.mpr fun w hw => spells_plain (hws w hw)

theorem all_isPlain_binaryHead (op : BinaryOp) :
    ∀ w ∈ binaryHead op, w.toList.all isPlain = true := by
  cases op <;> decide

theorem all_isPlain_unaryHead (op : UnaryOp) :
    ∀ w ∈ unaryHead op, w.toList.all isPlain = true := by
  cases op <;> decide

mutual

/-- **The term of an expression spells the names in it.** -/
theorem spells_expr : ∀ e : Expr, Spells (expr e) e.strings
  | .int i => spells_app_term (by decide) (spells_int i.toInt)
  | .bool b => by
      cases b <;> exact spells_app_term (by decide) (spells_plain (by decide))
  | .var n => spells_app_term (by decide) (spells_quoted n)
  | .call callee args => by
      -- the arguments are one word of the application
      have hargs : Spells (list (exprs args)) (Expr.stringsAll args) := by
        rw [Expr.exprs_eq_map, stringsAll_eq_flatMap]
        exact spells_list_map (spells_exprs args)
      have happ := spells_app (.cons (spells_plain (w := "Ecall") (by decide))
        (.cons (spells_quoted callee) (.cons hargs .nil)))
      simpa [expr, Expr.strings] using happ
  | .binary op l r => by
      have happ := spells_app (spells_words_append (all_isPlain_binaryHead op)
        (.cons (spells_expr l) (.cons (spells_expr r) .nil)))
      simpa [expr, Expr.strings] using happ
  | .unary op e => by
      have happ := spells_app (spells_words_append (all_isPlain_unaryHead op)
        (.cons (spells_expr e) .nil))
      simpa [expr, Expr.strings] using happ
  | .assign t v => by
      have happ := spells_app (.cons (spells_plain (w := "Eassign") (by decide))
        (.cons (spells_expr t) (.cons (spells_expr v) .nil)))
      simpa [expr, Expr.strings] using happ

theorem spells_exprs : ∀ es : List Expr, ∀ e ∈ es, Spells (expr e) e.strings
  | [] => by simp
  | e :: es => List.forall_mem_cons.mpr ⟨spells_expr e, spells_exprs es⟩

end

theorem spells_option_expr (o : Option Expr) :
    Spells (option (o.map expr)) (o.toList.flatMap Expr.strings) :=
  spells_option spells_expr o

end Term

end DeclExport
