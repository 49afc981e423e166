/-
  DeclExport.Proofs.Json.Scanning
  ────────────────────────────────
  **SCANNING WHAT HAS BEEN WRITTEN.**

  A written word is scanned to its tokens in front of every rest, so a text is
  scanned word by word:

      scan (w ++ rest)  =  the tokens of w, then the scan of rest

  A number alone does not say where it ends.  The rest must not go on with it,
  which holds of everything that is written behind a number (`Terminates`).
-/
import Mathlib.Tactic.IntervalCases
import DeclExport.Json.Text
import DeclExport.Json.Token

namespace DeclExport.Json

open Text (digit?)

/-! ## §1. Words in front of a rest. -/

/-- The tokens, if the scan goes on with the given characters. -/
def Scan.run (s : Scan) (cs : List Char) : List Token := (cs.foldl step s).finish

/-- Nothing that goes on with a number. -/
def Terminates (rest : List Char) : Prop :=
  ∀ c ∈ rest.head?, digit? c = none ∧ c ≠ '.' ∧ c ≠ 'e' ∧ c ≠ 'E'

/-- `w` is scanned to `ts`, whatever follows. -/
def Delimited (w : List Char) (ts : List Token) : Prop :=
  ∀ (before : List Token) (rest : List Char),
    Scan.run ⟨.between, before⟩ (w ++ rest) = Scan.run ⟨.between, ts.reverse ++ before⟩ rest

/-- `w` is scanned to `ts` if what follows does not go on with a number. -/
def ScansTo (w : List Char) (ts : List Token) : Prop :=
  ∀ (before : List Token) (rest : List Char), Terminates rest →
    Scan.run ⟨.between, before⟩ (w ++ rest) = Scan.run ⟨.between, ts.reverse ++ before⟩ rest

namespace Delimited

variable {v w : List Char} {ts us : List Token}

/-- A word that is read to its end has said so itself. -/
theorem of_foldl (h : ∀ before : List Token,
    w.foldl Scan.step ⟨.between, before⟩ = ⟨.between, ts.reverse ++ before⟩) :
    Delimited w ts := by
  intro before rest
  rw [Scan.run, List.foldl_append, h, Scan.run]

theorem scansTo (h : Delimited w ts) : ScansTo w ts := fun before rest _ => h before rest

theorem append (hv : Delimited v ts) (hw : Delimited w us) : Delimited (v ++ w) (ts ++ us) := by
  intro before rest
  rw [List.append_assoc, hv, hw, List.reverse_append, List.append_assoc]

end Delimited

namespace ScansTo

variable {v w : List Char} {ts us : List Token}

/-- What follows closes a word that does not say where it ends. -/
theorem append (hv : ScansTo v ts) (hw : Delimited w us)
    (hends : ∀ rest, Terminates (w ++ rest)) : Delimited (v ++ w) (ts ++ us) := by
  intro before rest
  rw [List.append_assoc, hv before _ (hends rest), hw, List.reverse_append, List.append_assoc]

/-- A whole text is scanned to its tokens. -/
theorem tokens_eq (h : ScansTo w ts) : tokens w = ts := by
  have hrun := h [] [] (by simp [Terminates])
  rw [List.append_nil, List.append_nil] at hrun
  rw [tokens, Scan.start]
  exact hrun.trans (by simp [Scan.run, Scan.finish])

end ScansTo

/-! ## §2. Punctuation. -/

theorem delimited_openArray : Delimited ['['] [.openArray] := .of_foldl fun _ => rfl

theorem delimited_openObject : Delimited ['{'] [.openObject] := .of_foldl fun _ => rfl

theorem delimited_closeArray : Delimited [']'] [.closeArray] := .of_foldl fun _ => rfl

theorem delimited_closeObject : Delimited ['}'] [.closeObject] := .of_foldl fun _ => rfl

theorem delimited_comma : Delimited [','] [.comma] := .of_foldl fun _ => rfl

theorem delimited_colon : Delimited [':'] [.colon] := .of_foldl fun _ => rfl

/-- Punctuation goes on with no number, and a blank neither. -/
theorem terminates_cons {c : Char}
    (h : c ∈ [',', ']', '}', ':', '[', '{', ' ', '\t', '\n', '\r']) (rest : List Char) :
    Terminates (c :: rest) := by
  intro x hx
  cases hx
  simp only [List.mem_cons, List.not_mem_nil, or_false] at h
  obtain rfl | rfl | rfl | rfl | rfl | rfl | rfl | rfl | rfl | rfl := h <;>
    exact ⟨rfl, by decide, by decide, by decide⟩

/-! ## §3. Strings. -/

/-- A written character is collected as itself. -/
theorem foldl_step_escape {t : TextState} (h : t.high = none) (before : List Token) (c : Char) :
    (escape c).foldl Scan.step ⟨.text t, before⟩ = ⟨.text (t.push c), before⟩ := by
  obtain ⟨chars, high, sound⟩ := t
  cases h
  rw [escape]
  split_ifs with hquote hback hb ht hn hf hr hcontrol
  · subst hquote; rfl
  · subst hback; rfl
  · subst hb; rfl
  · subst ht; rfl
  · subst hn; rfl
  · subst hf; rfl
  · subst hr; rfl
  · -- the other control characters, one by one: four hexadecimal digits are read back
    have hlt : c.toNat < 32 := hcontrol
    have hc : c = Char.ofNat c.toNat := c.ofNat_toNat.symm
    generalize c.toNat = k at hlt hc
    subst hc
    interval_cases k <;> rfl
  · simp [Scan.step, hquote, hback, hcontrol]

theorem foldl_step_escapes (before : List Token) (cs : List Char) :
    ∀ chars : List Char, (cs.flatMap escape).foldl Scan.step ⟨.text ⟨chars, none, true⟩, before⟩
      = ⟨.text ⟨cs.reverse ++ chars, none, true⟩, before⟩ := by
  induction cs with
  | nil => intro chars; rfl
  | cons c cs ih =>
      intro chars
      rw [List.flatMap_cons, List.foldl_append, foldl_step_escape rfl, List.reverse_cons,
        List.append_assoc]
      exact ih (c :: chars)

/-- A written string is scanned to itself. -/
theorem delimited_stringText (s : String) :
    Delimited (stringText s) [.scalar (.string (some s))] := by
  refine .of_foldl fun before => ?_
  have hquote : Scan.step ⟨.between, before⟩ '"' = ⟨.text .start, before⟩ := rfl
  rw [stringText, List.cons_append, List.foldl_cons, hquote, List.foldl_append,
    TextState.start, foldl_step_escapes]
  simp [Scan.step, Scan.emit, TextState.close, String.ofList_toList]

/-! ## §4. Integers. -/

/-- Where the digits of a number begin: at its start, or after the sign. -/
def Mode.beforeDigits (negative : Bool) : Mode := if negative then .minus else .between

theorem digit?_digitChar {d : Nat} (h : d < 10) : digit? d.digitChar = some d := by
  interval_cases d <;> rfl

/-- The first digit of a number that has more than zeros. -/
theorem step_firstDigit (negative : Bool) (before : List Token) {d : Nat} (h : d < 10)
    (hpos : 0 < d) :
    Scan.step ⟨.beforeDigits negative, before⟩ d.digitChar
      = ⟨.whole ⟨negative, d, 0, false⟩, before⟩ := by
  interval_cases d <;> cases negative <;> rfl

/-- The next digit of a number that still fits a word. -/
theorem step_nextDigit (negative : Bool) (before : List Token) {n d : Nat} (h : d < 10)
    (hfits : 10 * n + d < UInt64.size) :
    Scan.step ⟨.whole ⟨negative, n, 0, false⟩, before⟩ d.digitChar
      = ⟨.whole ⟨negative, 10 * n + d, 0, false⟩, before⟩ := by
  have hgrown : n * 10 + d < UInt64.size := by omega
  simp [Scan.step, digit?_digitChar h, Digits.whole, Digits.absorb, hgrown, Nat.mul_comm]

/-- The digits of a number that fits a word are collected to the number. -/
theorem foldl_step_toDigits (negative : Bool) (before : List Token) (n : Nat) (hpos : 0 < n)
    (hfits : n < UInt64.size) :
    (Nat.toDigits 10 n).foldl Scan.step ⟨.beforeDigits negative, before⟩
      = ⟨.whole ⟨negative, n, 0, false⟩, before⟩ := by
  induction n using Nat.strong_induction_on with
  | _ n ih =>
    rw [Nat.toDigits_eq_if (by decide)]
    split_ifs with hsmall
    · exact step_firstDigit negative before hsmall hpos
    · have hd : n % 10 < 10 := Nat.mod_lt n (by decide)
      have hsplit : 10 * (n / 10) + n % 10 = n := Nat.div_add_mod n 10
      rw [List.foldl_append, ih (n / 10) (by omega) (by omega) (by omega)]
      exact (step_nextDigit negative before hd (by omega)).trans (by rw [hsplit])

/-- The number that is complete if the text ends in this mode. -/
def Mode.numeral? : Mode → Option Numeral
  | .zero n | .whole n => some n.integer
  | .fraction n => some n.decimal
  | .exponentDigits n negative m => some (n.exponent negative m).decimal
  | _ => none

theorem finish_of_numeral {m : Mode} {n : Numeral} (hm : m.numeral? = some n)
    (ts : List Token) : Scan.finish ⟨m, ts⟩ = ts.reverse ++ [.scalar (.number n)] := by
  match m, hm with
  | .zero _, rfl | .whole _, rfl | .fraction _, rfl | .exponentDigits _ _ _, rfl =>
      exact List.reverse_cons

/-- A number that is complete is a token where the rest does not go on with it. -/
theorem run_number {m : Mode} {n : Numeral} (hm : m.numeral? = some n)
    (before : List Token) {rest : List Char} (h : Terminates rest) :
    Scan.run ⟨m, before⟩ rest = Scan.run ⟨.between, .scalar (.number n) :: before⟩ rest := by
  cases rest with
  | nil => exact (finish_of_numeral hm before).trans List.reverse_cons.symm
  | cons c rest =>
      obtain ⟨hdigit, hpoint, he, hE⟩ := h c rfl
      have hstep : Scan.step ⟨m, before⟩ c
          = Scan.step ⟨.between, .scalar (.number n) :: before⟩ c := by
        match m, hm with
        | .zero _, rfl | .whole _, rfl | .fraction _, rfl | .exponentDigits _ _ _, rfl =>
            simp [Scan.step, hdigit, hpoint, he, hE, Scan.afterNumber, Scan.emit]
      rw [Scan.run, List.foldl_cons, hstep, Scan.run, List.foldl_cons]

/-- A written integer that fits a word is scanned to itself. -/
theorem scansTo_intText {i : Int} (h : i.natAbs < UInt64.size) :
    ScansTo (intText i) [.scalar (.number (.whole i))] := by
  intro before rest hrest
  cases i with
  | ofNat n =>
      rw [intText, Scan.run, List.foldl_append]
      cases n with
      | zero => exact run_number rfl before hrest
      | succ n =>
          have hdigits := foldl_step_toDigits false before (n + 1) n.succ_pos h
          rw [show (⟨.between, before⟩ : Scan) = ⟨.beforeDigits false, before⟩ from rfl, hdigits]
          exact run_number rfl before hrest
  | negSucc n =>
      have hdigits := foldl_step_toDigits true before (n + 1) n.succ_pos h
      have hminus : Scan.step ⟨.between, before⟩ '-' = ⟨.beforeDigits true, before⟩ := rfl
      rw [intText, Scan.run, List.foldl_append, List.foldl_cons, hminus, hdigits]
      exact run_number rfl before hrest

/-! ## §5. Scalars. -/

/-- A scalar with a text of its own: the number is an integer that fits a word, the
string has no surrogate that is left alone. -/
def Scalar.IsSpelt : Scalar → Prop
  | .null | .bool _ => True
  | .number (.whole i) => i.natAbs < UInt64.size
  | .number _ => False
  | .string s => s.isSome

/-- A written scalar is scanned to itself. -/
theorem scansTo_scalar : ∀ {s : Scalar}, s.IsSpelt → ScansTo s.text [.scalar s]
  | .null, _ => (Delimited.of_foldl fun _ => rfl).scansTo
  | .bool true, _ => (Delimited.of_foldl fun _ => rfl).scansTo
  | .bool false, _ => (Delimited.of_foldl fun _ => rfl).scansTo
  | .number (.whole _), h => scansTo_intText h
  | .string (some s), _ => (delimited_stringText s).scansTo

end DeclExport.Json
