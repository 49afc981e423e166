/-
  DeclExport.Proofs.Json.Lexemes
  ────────────────────────────────
  **TEXTS OF TOKENS, WITH ANY BLANKS.**

  A text is spaced out of lexemes (`Spaced`): blanks, the characters of a token, and
  so on, with blanks after the last one.  The scanner and this grammar agree:

      spaced out of ts, no two scalars beside each other   →  scanned to ts
      scanned to ts, and no break among them               →  spaced out of ts

  Everything about the scanner is taken from what one character does (`Scan.turn`).
-/
import Mathlib.Data.List.Chain
import DeclExport.Proofs.Json.Scanning

namespace DeclExport.Json

open Text (digit?)

/-! ## §1. The grammar. -/

/-- The characters are nothing but blanks. -/
def Blank (w : List Char) : Prop := ∀ c ∈ w, isBlank c = true

/-- The characters of one token: a scalar is whatever is scanned to it by itself. -/
inductive Lexeme : Token → List Char → Prop
  | punctuation {c : Char} {t : Token} : Scan.punctuation? c = some t → Lexeme t [c]
  | scalar {w : List Char} {s : Scalar} : tokens w = [.scalar s] → Lexeme (.scalar s) w

/-- The text of these tokens, with any blanks around them. -/
inductive Spaced : List Token → List Char → Prop
  | nil {blanks : List Char} : Blank blanks → Spaced [] blanks
  | cons {blanks w rest : List Char} {t : Token} {ts : List Token} :
      Blank blanks → Lexeme t w → Spaced ts rest → Spaced (t :: ts) (blanks ++ (w ++ rest))

namespace Spaced

variable {ts : List Token} {p w : List Char} {c : Char} {t : Token}

theorem empty : Spaced [] [] := .nil fun _ hx => absurd hx List.not_mem_nil

/-- A blank after the text. -/
theorem blank (h : Spaced ts p) (hc : isBlank c = true) : Spaced ts (p ++ [c]) := by
  induction h with
  | nil hblanks =>
      refine .nil fun x hx => ?_
      obtain hx | hx := List.mem_append.mp hx
      · exact hblanks x hx
      · rwa [List.mem_singleton.mp hx]
  | cons hblanks hw _ ih =>
      rw [List.append_assoc, List.append_assoc]
      exact .cons hblanks hw ih

/-- A token after the text. -/
theorem snoc (h : Spaced ts p) (hw : Lexeme t w) : Spaced (ts ++ [t]) (p ++ w) := by
  induction h with
  | nil hblanks => simpa using Spaced.cons hblanks hw .empty
  | cons hblanks hv _ ih =>
      rw [List.append_assoc, List.append_assoc]
      exact .cons hblanks hv ih

end Spaced

/-! ## §2. What one character does. -/

/-- What one character does in a mode, whatever tokens there are already. -/
inductive Turn (c : Char) : Mode → Prop
  /-- A blank between two tokens. -/
  | blank (hc : isBlank c = true) (h : ∀ ts, Scan.step ⟨.between, ts⟩ c = ⟨.between, ts⟩) :
      Turn c .between
  | punctuation (t : Token) (hc : Scan.punctuation? c = some t)
      (h : ∀ ts, Scan.step ⟨.between, ts⟩ c = ⟨.between, t :: ts⟩) : Turn c .between
  /-- The character begins a scalar or goes on with it. -/
  | inside {m : Mode} (m' : Mode) (h : ∀ ts, Scan.step ⟨m, ts⟩ c = ⟨m', ts⟩)
      (hbetween : m' ≠ .between := by simp) (hhalted : m' ≠ .halted := by simp) : Turn c m
  /-- The character is the last one of a scalar. -/
  | closes {m : Mode} (s : Scalar)
      (h : ∀ ts, Scan.step ⟨m, ts⟩ c = ⟨.between, .scalar s :: ts⟩) : Turn c m
  /-- A number has ended before the character. -/
  | ends {m : Mode} (n : Numeral) (hm : m.numeral? = some n)
      (h : ∀ ts, Scan.step ⟨m, ts⟩ c = Scan.step ⟨.between, .scalar (.number n) :: ts⟩ c)
      (next : Turn c .between) : Turn c m
  | breaks {m : Mode} (b : Break)
      (h : ∀ ts, Scan.step ⟨m, ts⟩ c = ⟨.halted, .broken b :: ts⟩) : Turn c m
  | halted : Turn c .halted

namespace Scan

theorem turn_between (c : Char) : Turn c .between := by
  by_cases hblank : isBlank c = true
  · exact .blank hblank fun ts => by simp [step, between, hblank]
  by_cases hquote : c = '"'
  · subst hquote
    exact .inside (.text .start) fun _ => rfl
  by_cases hminus : c = '-'
  · subst hminus
    exact .inside .minus fun _ => rfl
  -- what is left is decided by the three tables
  cases hp : punctuation? c with
  | some t =>
      exact .punctuation t hp fun ts => by
        simp [step, between, emit, hblank, hquote, hminus, hp]
  | none =>
      cases hl : literal? c with
      | some l =>
          exact .inside (.literal l.1 l.2) fun ts => by
            simp [step, between, hblank, hquote, hminus, hp, hl]
      | none =>
          rcases hd : digit? c with _ | _ | d
          · exact .breaks .stray fun ts => by
              simp [step, between, halt, emit, hblank, hquote, hminus, hp, hl, hd]
          · exact .inside (.zero (.start false)) fun ts => by
              simp [step, between, hblank, hquote, hminus, hp, hl, hd]
          · exact .inside (.whole ((Digits.start false).whole (d + 1))) fun ts => by
              simp [step, between, hblank, hquote, hminus, hp, hl, hd]

/-- After the first digit of a number: it goes on, or it has ended. -/
theorem turn_numeral {m : Mode} {n : Numeral} (hm : m.numeral? = some n) (c : Char) :
    Turn c m := by
  match m, hm with
  | .zero n, _ =>
      by_cases hdigit : (digit? c).isSome = true
      · exact .breaks (.number .malformed) fun _ => by simp [step, hdigit, halt, emit]
      by_cases hpoint : c = '.'
      · subst hpoint
        exact .inside (.point n.point) fun _ => rfl
      by_cases he : c = 'e' ∨ c = 'E'
      · exact .inside (.exponent n) fun _ => by simp [step, hdigit, hpoint, he]
      · refine .ends n.integer rfl (fun _ => ?_) (turn_between c)
        simp only [step, hdigit, hpoint, he, afterNumber, emit, ↓reduceIte, Bool.false_eq_true]
  | .whole n, _ =>
      cases hdigit : digit? c with
      | some d => exact .inside (.whole (n.whole d)) fun _ => by simp [step, hdigit]
      | none =>
          by_cases hpoint : c = '.'
          · subst hpoint
            exact .inside (.point n.point) fun _ => rfl
          by_cases he : c = 'e' ∨ c = 'E'
          · exact .inside (.exponent n) fun _ => by simp [step, hdigit, hpoint, he]
          · refine .ends n.integer rfl (fun _ => ?_) (turn_between c)
            simp only [step, hdigit, hpoint, he, afterNumber, emit, ↓reduceIte]
  | .fraction n, _ =>
      cases hdigit : digit? c with
      | some d => exact .inside (.fraction (n.fraction d)) fun _ => by simp [step, hdigit]
      | none =>
          by_cases he : c = 'e' ∨ c = 'E'
          · exact .inside (.exponent n) fun _ => by simp [step, hdigit, he]
          · refine .ends n.decimal rfl (fun _ => ?_) (turn_between c)
            simp only [step, hdigit, he, afterNumber, emit, ↓reduceIte]
  | .exponentDigits n negative k, _ =>
      cases hdigit : digit? c with
      | some d =>
          exact .inside (.exponentDigits n negative (10 * k + d)) fun _ => by
            simp only [step, hdigit]
      | none =>
          refine .ends (n.exponent negative k).decimal rfl (fun _ => ?_) (turn_between c)
          simp only [step, hdigit, afterNumber, emit]

/-- Where a digit must come. -/
theorem turn_digit {m : Mode} {c : Char} (next : Nat → Mode)
    (hnext : ∀ d, next d ≠ .between ∧ next d ≠ .halted)
    (h : ∀ ts, step ⟨m, ts⟩ c = match digit? c with
      | some d => ⟨next d, ts⟩
      | none => ⟨.halted, .broken (.number .malformed) :: ts⟩) : Turn c m := by
  revert h
  cases digit? c with
  | some d => exact fun h => .inside (next d) h (hnext d).1 (hnext d).2
  | none => exact .breaks (.number .malformed)

/-- Where a string goes wrong. -/
theorem turn_fail {m : Mode} {c : Char} (t : TextState)
    (h : ∀ ts, step ⟨m, ts⟩ c = ⟨.halted, t.fail .malformed :: ts⟩) : Turn c m :=
  .breaks _ h

theorem turn_text (t : TextState) (c : Char) : Turn c (.text t) := by
  by_cases hquote : c = '"'
  · subst hquote
    exact .closes _ fun _ => rfl
  by_cases hback : c = '\\'
  · subst hback
    exact .inside (.escape t) fun _ => rfl
  by_cases hcontrol : c < ' '
  · exact turn_fail t fun _ => by simp only [step, hquote, hback, hcontrol, ↓reduceIte, emit]
  · exact .inside (.text (t.push c)) fun _ => by
      simp only [step, hquote, hback, hcontrol, ↓reduceIte]

theorem turn_escape (t : TextState) (c : Char) : Turn c (.escape t) := by
  by_cases hu : c = 'u'
  · subst hu
    exact .inside (.unit t []) fun _ => rfl
  cases he : escaped? c with
  | some e => exact .inside (.text (t.push e)) fun _ => by simp only [step, hu, he, ↓reduceIte]
  | none =>
      exact turn_fail t fun _ => by simp only [step, hu, he, ↓reduceIte, emit]

theorem turn_unit (t : TextState) (seen : List Char) (c : Char) : Turn c (.unit t seen) := by
  by_cases hshort : (c :: seen).foldr (fun c n => c.utf8Size + n) 0 < 4
  · exact .inside (.unit t (c :: seen)) fun _ => by simp only [step, hshort, ↓reduceIte]
  cases hu : Text.hexNumber? (c :: seen).reverse with
  | some u =>
      exact .inside (.text (t.pushUnit u)) fun _ => by simp only [step, hshort, ↓reduceIte, hu]
  | none =>
      exact turn_fail t fun _ => by simp only [step, hshort, ↓reduceIte, hu, emit]

theorem turn_literal (v : Scalar) (owed : List Char) (c : Char) : Turn c (.literal v owed) := by
  match owed with
  | [] => exact .inside (.literal v []) fun _ => rfl
  | o :: more =>
      by_cases hc : c = o
      · match more with
        | [] => exact .closes v fun _ => by simp [step, hc, emit]
        | a :: more => exact .inside (.literal v (a :: more)) fun _ => by simp [step, hc]
      · exact .breaks (.literal (v = .null) .malformed) fun _ => by
          simp only [step, hc, ↓reduceIte, halt, emit]

theorem turn_exponent (n : Digits) (c : Char) : Turn c (.exponent n) := by
  by_cases hplus : c = '+'
  · subst hplus
    exact .inside (.exponentSign n false) fun _ => rfl
  by_cases hminus : c = '-'
  · subst hminus
    exact .inside (.exponentSign n true) fun _ => rfl
  · exact turn_digit (.exponentDigits n false) (by simp) fun _ => by
      simp only [step, hplus, hminus, ↓reduceIte]; rfl

theorem turn_minus (c : Char) : Turn c .minus := by
  refine turn_digit
    (fun d => if d = 0 then .zero (.start true) else .whole ((Digits.start true).whole d))
    (fun d => by split <;> simp) fun ts => ?_
  simp only [step]
  rcases digit? c with _ | _ | d <;> rfl

/-- **What one character does**, in every mode. -/
theorem turn (m : Mode) (c : Char) : Turn c m := by
  cases m with
  | between => exact turn_between c
  | literal v owed => exact turn_literal v owed c
  | minus => exact turn_minus c
  | zero _ | whole _ | fraction _ | exponentDigits _ _ _ => exact turn_numeral rfl c
  | point n => exact turn_digit (fun d => .fraction (n.fraction d)) (by simp) fun _ => rfl
  | exponent n => exact turn_exponent n c
  | exponentSign n negative =>
      exact turn_digit (.exponentDigits n negative) (by simp) fun _ => rfl
  | text t => exact turn_text t c
  | escape t => exact turn_escape t c
  | unit t seen => exact turn_unit t seen c
  | halted => exact .halted

/-! ## §3. Scans do not look back. -/

/-- The tokens that are there already are kept as they are. -/
theorem exists_step (m : Mode) (c : Char) :
    ∃ m' new, ∀ ts, step ⟨m, ts⟩ c = ⟨m', new ++ ts⟩ := by
  induction turn m c with
  | blank _ h => exact ⟨.between, [], h⟩
  | punctuation t _ h => exact ⟨.between, [t], h⟩
  | inside m' h => exact ⟨m', [], h⟩
  | closes s h => exact ⟨.between, [.scalar s], h⟩
  | ends n _ h _ ih =>
      obtain ⟨m', new, hnew⟩ := ih
      exact ⟨m', new ++ [.scalar (.number n)], fun ts => by simp [h, hnew]⟩
  | breaks b h => exact ⟨.halted, [.broken b], h⟩
  | halted => exact ⟨.halted, [], fun _ => rfl⟩

theorem exists_foldl_step (w : List Char) (m : Mode) :
    ∃ m' new, ∀ ts, w.foldl step ⟨m, ts⟩ = ⟨m', new ++ ts⟩ := by
  induction w generalizing m with
  | nil => exact ⟨m, [], fun _ => rfl⟩
  | cons c w ih =>
      obtain ⟨m', new, hstep⟩ := exists_step m c
      obtain ⟨m'', new', hfold⟩ := ih m'
      exact ⟨m'', new' ++ new, fun ts => by
        rw [List.foldl_cons, hstep, hfold, List.append_assoc]⟩

/-- A scan has broken off only at a break. -/
def Sound (s : Scan) : Prop := s.mode = .halted → ∃ b, .broken b ∈ s.tokens

theorem Sound.step {s : Scan} (hs : s.Sound) (c : Char) : (s.step c).Sound := by
  obtain ⟨m, ts⟩ := s
  induction turn m c generalizing ts with
  | blank _ h => simp [h, Sound]
  | punctuation t _ h => simp [h, Sound]
  | inside m' h _ hhalted => simp [h, Sound, hhalted]
  | closes s h => simp [h, Sound]
  | ends n _ h _ ih =>
      rw [h]
      exact ih _ (by simp [Sound])
  | breaks b h => exact fun _ => ⟨b, by simp [h]⟩
  | halted => exact hs

theorem Sound.foldl {s : Scan} (hs : s.Sound) (w : List Char) : (w.foldl Scan.step s).Sound := by
  induction w generalizing s with
  | nil => exact hs
  | cons c w ih => exact ih (hs.step c)

theorem sound_foldl_start (w : List Char) : (w.foldl Scan.step .start).Sound :=
  Sound.foldl (s := .start) (fun h => nomatch h) w

/-- A scan without a token has not broken off. -/
theorem ne_halted_of_foldl {w : List Char} {m : Mode} (hw : w.foldl step .start = ⟨m, []⟩) :
    m ≠ .halted := by
  intro hm
  obtain ⟨b, hb⟩ := sound_foldl_start w (by rw [hw, hm])
  simp [hw] at hb

/-- How a scan can end: between two tokens, after a break, with a number, or with a
token that is not finished. -/
theorem finish_cases (m : Mode) :
    ((m = .between ∨ m = .halted) ∧ ∀ ts, finish ⟨m, ts⟩ = ts.reverse)
      ∨ (∃ n, m.numeral? = some n)
      ∨ ∃ b, ∀ ts, finish ⟨m, ts⟩ = ts.reverse ++ [.broken b] := by
  cases m with
  | between => exact .inl ⟨.inl rfl, fun _ => rfl⟩
  | halted => exact .inl ⟨.inr rfl, fun _ => rfl⟩
  | zero _ | whole _ | fraction _ | exponentDigits _ _ _ => exact .inr (.inl ⟨_, rfl⟩)
  | literal _ _ | minus | point _ | exponent _ | exponentSign _ _ | text _ | escape _ | unit _ _ =>
      exact .inr (.inr ⟨_, fun _ => List.reverse_cons⟩)

end Scan

/-! ## §4. From the grammar to the tokens. -/

/-- A blank goes on with no number, and punctuation neither. -/
theorem terminates_of_turn {c : Char} {rest : List Char}
    (h : isBlank c = true ∨ ∃ t, Scan.punctuation? c = some t) : Terminates (c :: rest) := by
  refine terminates_cons ?_ rest
  obtain h | ⟨t, h⟩ := h
  · simp only [isBlank, Bool.or_eq_true, decide_eq_true_eq] at h
    obtain ((rfl | rfl) | rfl) | rfl := h <;> decide
  · unfold Scan.punctuation? at h
    split at h <;> first | decide | exact nomatch h

/-- Scalars do not stand beside each other. -/
def Apart : Token → Token → Prop
  | .scalar _, .scalar _ => False
  | _, _ => True

/-- What may stand behind a scalar goes on with no number. -/
theorem Spaced.terminates {s : Scalar} {ts : List Token} {text : List Char}
    (h : Spaced ts text) (hapart : ∀ t ∈ ts.head?, Apart (.scalar s) t) : Terminates text := by
  have hblanks : ∀ {blanks rest : List Char}, Blank blanks → Terminates rest →
      Terminates (blanks ++ rest) := by
    intro blanks rest hb hrest
    cases blanks with
    | nil => exact hrest
    | cons c blanks => exact terminates_of_turn (.inl (hb c List.mem_cons_self))
  cases h with
  | nil hb =>
      have hend : Terminates [] := by simp [Terminates]
      simpa using hblanks hb hend
  | cons hb hw _ =>
      refine hblanks hb ?_
      cases hw with
      | punctuation hc => exact terminates_of_turn (.inr ⟨_, hc⟩)
      | scalar _ => exact (hapart _ rfl).elim

/-- A scalar that is scanned by itself is scanned in front of every rest. -/
theorem scansTo_of_tokens {w : List Char} {s : Scalar} (h : tokens w = [.scalar s]) :
    ScansTo w [.scalar s] := by
  intro before rest hrest
  obtain ⟨m, new, hfold⟩ := Scan.exists_foldl_step w .between
  have hsound : Scan.Sound ⟨m, new⟩ := by
    have hsound := Scan.sound_foldl_start w
    rwa [Scan.start, hfold, List.append_nil] at hsound
  have hfinish : Scan.finish ⟨m, new⟩ = [.scalar s] := by
    rw [← h, tokens, Scan.start, hfold, List.append_nil]
  have hrun : Scan.run ⟨.between, before⟩ (w ++ rest) = Scan.run ⟨m, new ++ before⟩ rest := by
    rw [Scan.run, List.foldl_append, hfold, Scan.run]
  rw [hrun]
  -- the scan of the word ends with one scalar, so it has not broken off: it stands behind
  -- the scalar, or in a number that the rest does not go on with
  obtain ⟨hm | hm, hts⟩ | ⟨n, hm⟩ | ⟨b, hts⟩ := Scan.finish_cases m
  · rw [hts, List.reverse_eq_cons_iff] at hfinish
    rw [hm, hfinish]
    rfl
  · -- a scan that has broken off has left a break
    obtain ⟨b, hb⟩ := hsound hm
    rw [← List.mem_reverse, ← hts, hfinish] at hb
    simp at hb
  · rw [finish_of_numeral hm] at hfinish
    obtain ⟨hnew, hs⟩ := List.append_inj' (hfinish.trans (List.nil_append _).symm) rfl
    rw [List.reverse_eq_nil_iff] at hnew
    rw [hnew, List.nil_append, run_number hm before hrest, List.singleton_inj.mp hs]
    rfl
  · rw [hts] at hfinish
    have hs := (List.append_inj' (hfinish.trans (List.nil_append _).symm) rfl).2
    simp at hs

/-- Blanks in front of the rest are passed over. -/
theorem run_blank {blanks : List Char} (hb : Blank blanks) (before : List Token)
    (rest : List Char) :
    Scan.run ⟨.between, before⟩ (blanks ++ rest) = Scan.run ⟨.between, before⟩ rest := by
  induction blanks with
  | nil => rfl
  | cons c blanks ih =>
      obtain ⟨hc, hb⟩ := List.forall_mem_cons.mp hb
      have hstep : Scan.step ⟨.between, before⟩ c = ⟨.between, before⟩ := by
        simp [Scan.step, Scan.between, hc]
      rw [List.cons_append, Scan.run, List.foldl_cons, hstep]
      exact ih hb

theorem delimited_punctuation {c : Char} {t : Token} (h : Scan.punctuation? c = some t) :
    Delimited [c] [t] := by
  refine .of_foldl fun before => ?_
  unfold Scan.punctuation? at h
  split at h <;> cases h <;> rfl

/-- **What is spaced out of tokens is scanned to them**, if no two scalars stand beside
each other. -/
theorem Spaced.run_eq {ts : List Token} {text : List Char} (h : Spaced ts text)
    (hapart : ts.IsChain Apart) (before : List Token) :
    Scan.run ⟨.between, before⟩ text = before.reverse ++ ts := by
  induction h generalizing before with
  | @nil blanks hb =>
      rw [← List.append_nil blanks, run_blank hb, List.append_nil]
      rfl
  | @cons blanks w rest t ts hb hw hrest ih =>
      obtain ⟨hnext, htail⟩ := List.isChain_cons.mp hapart
      have hword : Scan.run ⟨.between, before⟩ (w ++ rest)
          = Scan.run ⟨.between, t :: before⟩ rest := by
        cases hw with
        | punctuation hc => exact delimited_punctuation hc before rest
        | scalar hw => exact scansTo_of_tokens hw before rest (hrest.terminates hnext)
      rw [run_blank hb, hword, ih htail, List.reverse_cons, List.append_assoc]
      rfl

theorem Spaced.tokens_eq {ts : List Token} {text : List Char} (h : Spaced ts text)
    (hapart : ts.IsChain Apart) : tokens text = ts := h.run_eq hapart []

/-! ## §5. From the tokens to the grammar. -/

/-- What a scan has taken so far: the text of its tokens, and the beginning of one more.
A scan that has broken off has a break among its tokens. -/
inductive Scanned : List Char → Scan → Prop
  | within {text w : List Char} {m : Mode} {ts : List Token} : Spaced ts.reverse text →
      w.foldl Scan.step .start = ⟨m, []⟩ → (m = .between → w = []) →
      Scanned (text ++ w) ⟨m, ts⟩
  | halted {text : List Char} {ts : List Token} {b : Break} : .broken b ∈ ts →
      Scanned text ⟨.halted, ts⟩

/-- A number that nothing follows. -/
theorem Lexeme.number {w : List Char} {m : Mode} {n : Numeral}
    (hw : w.foldl Scan.step .start = ⟨m, []⟩) (hm : m.numeral? = some n) :
    Lexeme (.scalar (.number n)) w := by
  refine .scalar ?_
  rw [tokens, hw, finish_of_numeral hm]
  rfl

namespace Scanned

/-- Between two tokens nothing has begun. -/
theorem between {text : List Char} {ts : List Token} (h : Spaced ts.reverse text) :
    Scanned text ⟨.between, ts⟩ := by
  simpa using Scanned.within (w := []) h rfl fun _ => rfl

/-- One more character. -/
theorem step {text : List Char} {s : Scan} (h : Scanned text s) (c : Char) :
    Scanned (text ++ [c]) (s.step c) := by
  cases h with
  | halted hb => exact .halted hb
  | @within text w m ts htext hw hbetween =>
      rw [List.append_assoc]
      have hword : (w ++ [c]).foldl Scan.step .start = Scan.step ⟨m, []⟩ c := by
        rw [List.foldl_append, hw]
        rfl
      -- where a number has ended, the same character is taken once more (`ends`)
      induction Scan.turn m c generalizing text w ts with
      | blank hc hstep =>
          rw [hstep, hbetween rfl]
          exact .between (htext.blank hc)
      | punctuation t hc hstep =>
          rw [hstep, hbetween rfl]
          exact .between (List.reverse_cons ▸ htext.snoc (.punctuation hc))
      | inside m' hstep hm' _ =>
          rw [hstep]
          exact .within htext (hword.trans (hstep [])) fun h => absurd h hm'
      | closes s hstep =>
          have hlexeme : Lexeme (.scalar s) (w ++ [c]) :=
            .scalar (by rw [tokens, hword, hstep]; rfl)
          rw [hstep]
          exact .between (List.reverse_cons ▸ htext.snoc hlexeme)
      | @ends m n hm hstep _ ih =>
          have hnumber : Spaced (List.reverse (.scalar (.number n) :: ts)) (text ++ w) :=
            List.reverse_cons ▸ htext.snoc (.number hw hm)
          rw [hstep, ← List.append_assoc]
          exact ih hnumber (w := []) rfl (fun _ => rfl) rfl
      | breaks b hstep =>
          rw [hstep]
          exact .halted List.mem_cons_self
      | halted => exact absurd rfl (Scan.ne_halted_of_foldl hw)

theorem foldl {text : List Char} {s : Scan} (h : Scanned text s) (w : List Char) :
    Scanned (text ++ w) (w.foldl Scan.step s) := by
  induction w generalizing text s with
  | nil => simpa using h
  | cons c w ih => simpa using ih (h.step c)

end Scanned

/-- **A text without a break is spaced out of its tokens.** -/
theorem spaced_tokens {text : List Char} (h : ∀ b, .broken b ∉ tokens text) :
    Spaced (tokens text) text := by
  have hstart : Scanned [] ⟨.between, []⟩ := .between .empty
  have hscanned : Scanned text (text.foldl Scan.step .start) := hstart.foldl text
  rw [tokens] at h ⊢
  generalize text.foldl Scan.step .start = s at h hscanned
  cases hscanned with
  | @halted _ ts b hb => exact absurd (List.mem_reverse.mpr hb) (h b)
  | @within text w m ts htext hw hbetween =>
      obtain ⟨hm | hm, hts⟩ | ⟨n, hm⟩ | ⟨b, hts⟩ := Scan.finish_cases m
      · rw [hts, hbetween hm, List.append_nil]
        exact htext
      · exact absurd hm (Scan.ne_halted_of_foldl hw)
      · rw [finish_of_numeral hm]
        exact htext.snoc (.number hw hm)
      · exact absurd (by simp [hts]) (h b)

end DeclExport.Json
