/-
  DeclExport.Json.Token
  ────────────────────────────────
  **FROM CHARACTERS TO TOKENS.**

  The scanner is a machine: one step per character, and one look at the mode
  it ends in.  `scan` is the fold of the step over the text, so scanning a
  concatenation is scanning its first part and going on (`List.foldl_append`).

  A scan never fails.  Where the text stops being a sequence of tokens, the
  last token is a *break*, and the rest of the text is not looked at.

  Strings are read for two readers at once: `TextState.sound` says whether a
  reader that rejects lone surrogates is still content.
-/
import DeclExport.Json.Tree
import DeclExport.Text.Basic

namespace DeclExport.Json

open Text (digit? hexNumber?)

/-! ## §1. Tokens. -/

/-- The lexemes of a JSON text. -/
inductive Token where
  | openArray
  | closeArray
  | openObject
  | closeObject
  | comma
  | colon
  | scalar (value : Scalar)
  /-- The text breaks off here; always the last token. -/
  | broken (what : Break)
  deriving Repr, DecidableEq

/-- Blanks between tokens: space, tab, line feed and carriage return. -/
def isBlank (c : Char) : Bool := c = ' ' || c = '\t' || c = '\n' || c = '\r'

/-! ## §2. Strings under collection. -/

/-- A string between its quotes. -/
structure TextState where
  /-- The characters so far, the last one first. -/
  chars : List Char
  /-- A high surrogate that waits for its low one. -/
  high : Option Nat
  /-- No surrogate has been left alone so far. -/
  sound : Bool
  deriving Repr, DecidableEq

namespace TextState

/-- The string just opened. -/
def start : TextState := ⟨[], none, true⟩

/-- One more character.  A waiting high surrogate is left alone by it. -/
def push (t : TextState) (c : Char) : TextState :=
  match t.high with
  | none => { t with chars := c :: t.chars }
  | some _ => { t with high := none, sound := false }

/-- One more escaped 16-bit unit.  A high surrogate waits for the low one that
follows it; any other surrogate is left alone. -/
def pushUnit (t : TextState) (u : Nat) : TextState :=
  match t.high with
  | none =>
      if 0xD800 ≤ u ∧ u < 0xDC00 then { t with high := some u }
      else if 0xDC00 ≤ u ∧ u < 0xE000 then { t with sound := false }
      else { t with chars := Char.ofNat u :: t.chars }
  | some h =>
      if 0xDC00 ≤ u ∧ u < 0xE000 then
        let c := Char.ofNat (0x10000 + (h - 0xD800) * 0x400 + (u - 0xDC00))
        { t with chars := c :: t.chars, high := none }
      else { t with high := none, sound := false }

/-- The token at the closing quote. -/
def close (t : TextState) : Token :=
  .scalar (.string (if t.sound && t.high.isNone then some (String.ofList t.chars.reverse)
    else none))

/-- The break where the string goes wrong. -/
def fail (t : TextState) (f : Flaw) : Token :=
  .broken (.string (if t.sound then f else .malformed) f)

end TextState

/-- The character meant by a one-letter escape. -/
def escaped? (c : Char) : Option Char :=
  match c with
  | '"' => some '"'
  | '\\' => some '\\'
  | '/' => some '/'
  | 'b' => some '\x08'
  | 'f' => some '\x0c'
  | 'n' => some '\n'
  | 'r' => some '\r'
  | 't' => some '\t'
  | _ => none

/-! ## §3. The machine. -/

/-- What the scanner is in the middle of. -/
inductive Mode where
  /-- Between two tokens. -/
  | between
  /-- In `null`, `true` or `false`, with these letters owed. -/
  | literal (value : Scalar) (owed : List Char)
  /-- After a minus sign. -/
  | minus
  /-- After a leading zero. -/
  | zero (n : Digits)
  /-- In the digits before the point. -/
  | whole (n : Digits)
  /-- After the point, before its first digit. -/
  | point (n : Digits)
  /-- In the digits after the point. -/
  | fraction (n : Digits)
  /-- After the `e`, before sign and digits. -/
  | exponent (n : Digits)
  /-- After the sign of the exponent, before its first digit. -/
  | exponentSign (n : Digits) (negative : Bool)
  /-- In the digits of the exponent. -/
  | exponentDigits (n : Digits) (negative : Bool) (magnitude : Nat)
  /-- In a string. -/
  | text (t : TextState)
  /-- In a string, after a backslash. -/
  | escape (t : TextState)
  /-- In a string, after `\u` and these characters, the last one first. -/
  | unit (t : TextState) (seen : List Char)
  /-- After a break. -/
  | halted
  deriving Repr, DecidableEq

/-- A scan in progress: the mode, and the tokens so far, the last one first. -/
structure Scan where
  mode : Mode
  tokens : List Token
  deriving Repr, DecidableEq

namespace Scan

/-- The scan before the first character. -/
def start : Scan := ⟨.between, []⟩

/-- Emit a token and go on in the given mode. -/
def emit (s : Scan) (t : Token) (mode : Mode) : Scan := ⟨mode, t :: s.tokens⟩

/-- Stop at a break. -/
def halt (s : Scan) (b : Break) : Scan := s.emit (.broken b) .halted

/-- A literal that is no other: the letters it owes after its first one. -/
def literal? (c : Char) : Option (Scalar × List Char) :=
  match c with
  | 'n' => some (.null, ['u', 'l', 'l'])
  | 't' => some (.bool true, ['r', 'u', 'e'])
  | 'f' => some (.bool false, ['a', 'l', 's', 'e'])
  | _ => none

/-- The punctuation tokens. -/
def punctuation? (c : Char) : Option Token :=
  match c with
  | '[' => some .openArray
  | ']' => some .closeArray
  | '{' => some .openObject
  | '}' => some .closeObject
  | ',' => some .comma
  | ':' => some .colon
  | _ => none

/-- The first character of a token, or a blank before it. -/
def between (s : Scan) (c : Char) : Scan :=
  if isBlank c then { s with mode := .between }
  else if c = '"' then { s with mode := .text .start }
  else if c = '-' then { s with mode := .minus }
  else match punctuation? c, literal? c, digit? c with
    | some t, _, _ => s.emit t .between
    | _, some (v, owed), _ => { s with mode := .literal v owed }
    | _, _, some 0 => { s with mode := .zero (.start false) }
    | _, _, some d => { s with mode := .whole ((Digits.start false).whole d) }
    | _, _, _ => s.halt .stray

/-- The character after a number: the number ends before it. -/
def afterNumber (s : Scan) (n : Numeral) (c : Char) : Scan :=
  (s.emit (.scalar (.number n)) .between).between c

/-- One character of the text. -/
def step (s : Scan) (c : Char) : Scan :=
  match s.mode with
  | .between => s.between c
  | .literal v owed =>
      match owed with
      | [] => s
      | o :: more =>
          if c = o then
            if more.isEmpty then s.emit (.scalar v) .between
            else { s with mode := .literal v more }
          else s.halt (.literal (v = .null) .malformed)
  | .minus =>
      match digit? c with
      | some 0 => { s with mode := .zero (.start true) }
      | some d => { s with mode := .whole ((Digits.start true).whole d) }
      | none => s.halt (.number .malformed)
  | .zero n =>
      if (digit? c).isSome then s.halt (.number .malformed)
      else if c = '.' then { s with mode := .point n.point }
      else if c = 'e' ∨ c = 'E' then { s with mode := .exponent n }
      else s.afterNumber n.integer c
  | .whole n =>
      match digit? c with
      | some d => { s with mode := .whole (n.whole d) }
      | none =>
          if c = '.' then { s with mode := .point n.point }
          else if c = 'e' ∨ c = 'E' then { s with mode := .exponent n }
          else s.afterNumber n.integer c
  | .point n =>
      match digit? c with
      | some d => { s with mode := .fraction (n.fraction d) }
      | none => s.halt (.number .malformed)
  | .fraction n =>
      match digit? c with
      | some d => { s with mode := .fraction (n.fraction d) }
      | none =>
          if c = 'e' ∨ c = 'E' then { s with mode := .exponent n }
          else s.afterNumber n.decimal c
  | .exponent n =>
      if c = '+' then { s with mode := .exponentSign n false }
      else if c = '-' then { s with mode := .exponentSign n true }
      else match digit? c with
        | some d => { s with mode := .exponentDigits n false d }
        | none => s.halt (.number .malformed)
  | .exponentSign n negative =>
      match digit? c with
      | some d => { s with mode := .exponentDigits n negative d }
      | none => s.halt (.number .malformed)
  | .exponentDigits n negative m =>
      match digit? c with
      | some d => { s with mode := .exponentDigits n negative (10 * m + d) }
      | none => s.afterNumber (n.exponent negative m).decimal c
  | .text t =>
      if c = '"' then s.emit t.close .between
      else if c = '\\' then { s with mode := .escape t }
      else if c < ' ' then s.emit (t.fail .malformed) .halted
      else { s with mode := .text (t.push c) }
  | .escape t =>
      if c = 'u' then { s with mode := .unit t [] }
      else match escaped? c with
        | some e => { s with mode := .text (t.push e) }
        | none => s.emit (t.fail .malformed) .halted
  | .unit t seen =>
      -- Four bytes are taken before they are looked at.
      let seen := c :: seen
      if seen.foldr (fun c n => c.utf8Size + n) 0 < 4 then { s with mode := .unit t seen }
      else match hexNumber? seen.reverse with
        | some u => { s with mode := .text (t.pushUnit u) }
        | none => s.emit (t.fail .malformed) .halted
  | .halted => s

/-- The tokens once the text has ended. -/
def finish (s : Scan) : List Token :=
  let last : Option Token :=
    match s.mode with
    | .between => none
    | .literal v _ => some (.broken (.literal (v = .null) .cutShort))
    | .zero n | .whole n => some (.scalar (.number n.integer))
    | .fraction n => some (.scalar (.number n.decimal))
    | .exponentDigits n negative m =>
        some (.scalar (.number (n.exponent negative m).decimal))
    | .minus | .point _ | .exponent _ | .exponentSign _ _ =>
        some (.broken (.number .cutShort))
    | .text t | .escape t | .unit t _ => some (t.fail .cutShort)
    | .halted => none
  (last.toList ++ s.tokens).reverse

end Scan

/-- The tokens of a text. -/
def tokens (text : List Char) : List Token :=
  (text.foldl Scan.step .start).finish

end DeclExport.Json
