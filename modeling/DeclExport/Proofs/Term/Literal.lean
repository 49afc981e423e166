/-
  DeclExport.Proofs.Term.Literal
  ────────────────────────────────
  **LITERALS ARE READ BACK.**

  Numbers and string literals are readable together with the text behind them,
  if it begins with a character that cannot go on with the literal: no digit
  behind a number, no quote behind a string.  Lists are readable as they are, if
  their items are and begin with a parenthesis.
-/
import DeclExport.Proofs.Text.Readable
import DeclExport.Term.Expr

namespace DeclExport.Term

open Text

/-! ## §1. Numbers. -/

theorem toList_nat (n : Nat) : (nat n).toList = Nat.toDigits 10 n :=
  String.toList_ofList

theorem isDigit_of_mem_nat {n : Nat} {c : Char} (h : c ∈ (nat n).toList) :
    c.isDigit = true := by
  rw [toList_nat] at h
  exact Nat.isDigit_of_mem_toDigits (by decide) (by decide) h

theorem nat_inj {m n : Nat} (h : (nat m).toList = (nat n).toList) : m = n := by
  rw [toList_nat, toList_nat] at h
  rw [← Nat.ofDigitChars_ten_toDigits (n := m), h, Nat.ofDigitChars_ten_toDigits]

/-- A number and a mark that is no digit. -/
theorem readable_nat (mark : String) {c : Char} {cs : List Char}
    (hmark : mark.toList = c :: cs) (hc : c.isDigit = false) (n : Nat) :
    Readable (fun n => nat n ++ mark) n := by
  intro m r r' h
  simp only [String.toList_append, hmark, List.append_assoc, List.cons_append] at h
  exact nat_inj (append_cons_inj_of_all (fun _ => isDigit_of_mem_nat)
    (fun _ => isDigit_of_mem_nat) hc hc h)

/-- A number does not begin with a parenthesis. -/
theorem nat_append_ne_paren (n : Nat) (xs ys : List Char) :
    (nat n).toList ++ xs ≠ '(' :: ys := by
  intro h
  cases hn : (nat n).toList with
  | nil =>
      rw [toList_nat] at hn
      exact Nat.toDigits_ne_nil hn
  | cons c cs =>
      have hc : c.isDigit = true := isDigit_of_mem_nat (n := n) (by simp [hn])
      rw [hn, List.cons_append] at h
      obtain ⟨rfl, _⟩ := List.cons.inj h
      exact absurd hc (by decide)

/-- An integer and a mark that is no digit. -/
theorem readable_int (mark : String) {c : Char} {cs : List Char}
    (hmark : mark.toList = c :: cs) (hc : c.isDigit = false) (i : Int) :
    Readable (fun i => int i ++ mark) i := by
  intro j r r' h
  cases i with
  | ofNat m =>
      cases j with
      | ofNat n =>
          have hmn : m = n := readable_nat mark hmark hc m n r r' h
          rw [hmn]
      | negSucc n =>
          -- a negative number stands in parentheses, the other does not
          simp only [int, String.toList_append, List.append_assoc] at h
          exact absurd h (nat_append_ne_paren m _ _)
  | negSucc m =>
      cases j with
      | ofNat n =>
          simp only [int, String.toList_append, List.append_assoc] at h
          exact absurd h.symm (nat_append_ne_paren n _ _)
      | negSucc n =>
          simp only [int, String.toList_append, List.append_assoc,
            List.append_cancel_left_eq] at h
          -- the closing parenthesis is the mark, whatever stands behind it
          have hmn : m + 1 = n + 1 :=
            readable_nat ")" rfl (by decide) (m + 1) (n + 1)
              (mark.toList ++ r) (mark.toList ++ r') (by simpa using h)
          rw [Nat.succ.inj hmn]

/-! ## §2. String literals. -/

theorem toList_quoted (s : String) :
    (quoted s).toList = '"' :: (doubled s.toList ++ ['"']) :=
  String.toList_ofList

theorem doubled_cons (c : Char) (cs : List Char) :
    doubled (c :: cs) = (if c = '"' then ['"', '"'] else [c]) ++ doubled cs := rfl

theorem doubled_append (xs ys : List Char) : doubled (xs ++ ys) = doubled xs ++ doubled ys :=
  List.flatMap_append

theorem doubled_spaces (n : Nat) :
    doubled (List.replicate n ' ') = List.replicate n ' ' := by
  induction n with
  | zero => rfl
  | succ n ih =>
      rw [List.replicate_succ, doubled_cons, ih]
      rfl

/-- A closing quote with another character behind it is no doubled one. -/
theorem doubled_append_ne {x c : Char} (hc : c ≠ '"') (xs r r' : List Char) :
    doubled (x :: xs) ++ r ≠ '"' :: c :: r' := by
  by_cases hx : x = '"'
  · simp [doubled_cons, hx, hc.symm]
  · simp [doubled_cons, hx]

theorem doubled_inj {c : Char} (hc : c ≠ '"') :
    ∀ (xs ys r r' : List Char),
      doubled xs ++ '"' :: c :: r = doubled ys ++ '"' :: c :: r' → xs = ys
  | [], [], _, _, _ => rfl
  -- one literal is closed where the other goes on
  | [], y :: ys, _, _, h => absurd h.symm (doubled_append_ne hc ys _ _)
  | x :: xs, [], _, _, h => absurd h (doubled_append_ne hc xs _ _)
  | x :: xs, y :: ys, r, r', h => by
      by_cases hx : x = '"'
      · by_cases hy : y = '"'
        · simp only [doubled_cons, hx, hy, if_true, List.append_assoc,
            List.append_cancel_left_eq] at h
          rw [hx, hy, doubled_inj hc xs ys r r' h]
        · simp [doubled_cons, hx, hy, eq_comm] at h
      · by_cases hy : y = '"'
        · simp [doubled_cons, hx, hy] at h
        · simp only [doubled_cons, hx, hy, if_false, List.cons_append,
            List.cons.injEq] at h
          rw [h.1, doubled_inj hc xs ys r r' h.2]

/-- A string literal and a mark that is no quote. -/
theorem readable_quoted (mark : String) {c : Char} {cs : List Char}
    (hmark : mark.toList = c :: cs) (hc : c ≠ '"') (s : String) :
    Readable (fun s => quoted s ++ mark) s := by
  intro t r r' h
  simp only [String.toList_append, toList_quoted, hmark, List.append_assoc,
    List.cons_append, List.nil_append, List.cons.injEq, true_and] at h
  exact String.toList_inj.mp (doubled_inj hc _ _ _ _ h)

/-! ## §3. Lists. -/

variable {α : Type}

/-- The items of a list after the first, each behind its separator. -/
def tailItems (code : α → String) (as : List α) : List Char :=
  as.flatMap fun a => ';' :: ' ' :: (code a).toList

theorem tailItems_nil (code : α → String) : tailItems code [] = [] := rfl

theorem tailItems_cons (code : α → String) (a : α) (as : List α) :
    tailItems code (a :: as)
      = ';' :: ' ' :: ((code a).toList ++ tailItems code as) := by
  simp [tailItems]

theorem toList_list_nil (code : α → String) :
    (list (([] : List α).map code)).toList = ['[', ']'] := by
  simp [list]

theorem toList_list_cons (code : α → String) (a : α) (as : List α) :
    (list ((a :: as).map code)).toList
      = '[' :: ((code a).toList ++ (tailItems code as ++ [']'])) := by
  have htail : ∀ (as : List α) (first : List Char),
      [';', ' '].intercalate (first :: as.map fun a => (code a).toList)
        = first ++ tailItems code as := by
    intro as
    induction as with
    | nil => intro first; simp [tailItems_nil]
    | cons a as ih =>
        intro first
        rw [List.map_cons, List.intercalate_cons_cons, ih]
        simp [tailItems_cons]
  simp only [list, String.toList_append, String.toList_intercalate, List.map_cons,
    List.map_map, Function.comp_def]
  show '[' :: ([';', ' '].intercalate _ ++ [']']) = _
  rw [htail, List.append_assoc]

theorem tailItems_inj {code : α → String} :
    ∀ {as bs : List α} {r r' : List Char}, (∀ a ∈ as, Readable code a) →
      tailItems code as ++ ']' :: r = tailItems code bs ++ ']' :: r' → as = bs
  | [], [], _, _, _, _ => rfl
  -- one list is closed where the other has a separator
  | [], b :: bs, _, _, _, h => by simp [tailItems_nil, tailItems_cons] at h
  | a :: as, [], _, _, _, h => by simp [tailItems_nil, tailItems_cons] at h
  | a :: as, b :: bs, r, r', hread, h => by
      simp only [tailItems_cons, List.cons_append, List.append_assoc,
        List.cons.injEq, true_and] at h
      obtain ⟨rfl, hrest⟩ := (hread a List.mem_cons_self).rest h
      rw [tailItems_inj (fun x hx => hread x (List.mem_cons_of_mem a hx)) hrest]

/-- A list of readable items that begin with a parenthesis. -/
theorem readable_list (code : α → String)
    (hparen : ∀ a, ∃ cs, (code a).toList = '(' :: cs) {as : List α}
    (hread : ∀ a ∈ as, Readable code a) : Readable (fun as => list (as.map code)) as := by
  intro bs r r' h
  cases as with
  | nil =>
      cases bs with
      | nil => rfl
      | cons b bs =>
          obtain ⟨cs, hb⟩ := hparen b
          rw [toList_list_nil, toList_list_cons, hb] at h
          simp at h
  | cons a as =>
      cases bs with
      | nil =>
          obtain ⟨cs, ha⟩ := hparen a
          rw [toList_list_nil, toList_list_cons, ha] at h
          simp at h
      | cons b bs =>
          simp only [toList_list_cons, List.cons_append, List.append_assoc,
            List.cons.injEq, true_and, List.nil_append] at h
          obtain ⟨rfl, hrest⟩ := (hread a List.mem_cons_self).rest h
          rw [tailItems_inj (fun x hx => hread x (List.mem_cons_of_mem a hx)) hrest]

end DeclExport.Term
