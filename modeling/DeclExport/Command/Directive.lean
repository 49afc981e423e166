/-
  DeclExport.Command.Directive
  ────────────────────────────────
  **LOG DIRECTIVES.**

  A directive is a target, a span between brackets, or both, and then possibly
  `=` and a level; or a level alone.  A span may list fields between braces,
  each with a value to be matched.  A comma may end it.  Only whether a text is
  a directive is decided here.

  Blanks around a directive do not count, but its parts are cut out of the whole
  text, at the places that they have without the blanks.  A cut that goes
  through a character breaks off the run.
-/
import DeclExport.Command.Pattern
import DeclExport.Text.Basic

namespace DeclExport.Command.Directive

open Text

/-! ## §1. Levels. -/

/-- The names of levels, in lower case. -/
def levelNames : List String := ["error", "warn", "info", "debug", "trace", "off"]

/-- The number that a text of digits denotes; a plus sign may come first. -/
def number? (cs : List Char) : Option Nat :=
  let digits := match cs with
    | '+' :: ds => ds
    | ds => ds
  if digits.isEmpty ∨ digits.any (fun c => !c.isDigit) then none
  else some (digits.foldl (fun n c => 10 * n + (c.toNat - '0'.toNat)) 0)

/-- Whether a text is a level: a name in any case, or a number up to five. -/
def isLevel (cs : List Char) : Bool :=
  levelNames.contains (String.ofList (cs.map Char.toLower))
    || (number? cs).any (· ≤ 5)

/-! ## §2. Fields. -/

/-- A text without the sign at its beginning. -/
def unsigned : List Char → List Char
  | '+' :: cs => cs
  | '-' :: cs => cs
  | cs => cs

/-- Whether a text is the rest of a decimal number after its digits: nothing, or
an exponent. -/
def isExponent : List Char → Bool
  | [] => true
  | c :: cs => (c = 'e' || c = 'E') && unsigned cs ≠ [] && (unsigned cs).all Char.isDigit

/-- Whether a text is a decimal number without a sign. -/
def isDecimal (cs : List Char) : Bool :=
  let rest := cs.dropWhile Char.isDigit
  let fraction :=
    match rest with
    | '.' :: cs => cs
    | _ => []
  (cs.takeWhile Char.isDigit ≠ [] || fraction.takeWhile Char.isDigit ≠ []) &&
    isExponent (if rest.head? = some '.' then fraction.dropWhile Char.isDigit else rest)

/-- Whether a text is a number, a number word, or a pattern. -/
def isValue (cs : List Char) : Bool :=
  isDecimal (unsigned cs)
    || ["inf", "infinity", "nan"].contains (String.ofList ((unsigned cs).map Char.toLower))
    || Pattern.isValid cs

/-- Whether a text is a field: a name, and possibly `=` and a value.  A second
`=` ends the value. -/
def isField (cs : List Char) : Bool :=
  match cs, pieces '=' cs with
  | [], _ => false
  | _, _ :: value :: _ => isValue value
  | _, _ => true

/-! ## §3. Directives. -/

/-- What comes of a text. -/
inductive Outcome where
  | accepted
  | refused
  /-- A part would end inside a character. -/
  | broken
  deriving Repr, DecidableEq

/-- The characters of a text from one byte to another; `none` if one of the two
is inside a character. -/
def cut? : Nat → Nat → List Char → Option (List Char)
  | 0, 0, _ => some []
  | _, _, [] => some []
  | 0, stop, c :: cs =>
      if c.utf8Size ≤ stop then (cut? 0 (stop - c.utf8Size) cs).map (c :: ·) else none
  | start, stop, c :: cs =>
      if c.utf8Size ≤ start then cut? (start - c.utf8Size) (stop - c.utf8Size) cs else none

/-- Where the reading of a directive stands.  Numbers are the bytes where a part
begins. -/
inductive State where
  | start
  /-- In a level or a target. -/
  | word
  /-- In the name of a span. -/
  | span (first : Nat)
  /-- In a field of a span. -/
  | field (first : Nat)
  /-- After the fields of a span. -/
  | fields
  /-- After a target with a span. -/
  | target
  | level (first : Nat)
  /-- After a comma. -/
  | complete
  /-- No more is read. -/
  | over (outcome : Outcome)
  deriving Repr, DecidableEq

/-- Whether a directive may begin with the character. -/
def mayBegin (c : Char) : Bool :=
  c = '-' || c = ':' || c = '_' || isAlphabetic c || isNumeric c

/-- Go on with a part of the text, if it can be cut out and is as wanted. -/
def expect (part : Option (List Char)) (isWanted : List Char → Bool) (next : State) : State :=
  match part with
  | none => .over .broken
  | some cs => if isWanted cs then next else .over .refused

/-- Whether a text can be the level of a directive; without one there is no
limit. -/
def isLevelPart (cs : List Char) : Bool := cs.isEmpty || isLevel cs

/-- The state after one more character, which begins at the byte `i`; `part`
cuts parts out of the whole text. -/
def State.next (part : Nat → Nat → Option (List Char)) (i : Nat) (c : Char) : State → State
  | .start => if c = '[' then .span (i + 1) else if mayBegin c then .word else .over .refused
  | .word =>
      if c = '=' then expect (part 0 i) (fun _ => true) (.level (i + 1))
      else if c = '[' then expect (part 0 i) (fun _ => true) (.span (i + 1))
      else if c = ',' then .complete
      else .word
  | .span first =>
      if c = ']' then expect (part first i) (fun _ => true) .target
      else if c = '\x7b' then expect (part first i) (fun _ => true) (.field (i + 1))
      else .span first
  | .field first =>
      if c = '\x7d' then expect (part first i) isField .fields
      else if c = ',' then expect (part first i) isField (.field (i + 1))
      else .field first
  | .fields => if c = ']' then .target else .over .refused
  | .target => if c = '=' then .level (i + 1) else .over .refused
  | .level first =>
      if c = ',' then expect (part first i) isLevelPart .complete else .level first
  | .complete => .over .refused
  | .over outcome => .over outcome

/-- The outcome at the end of the text. -/
def State.finish (part : Nat → Nat → Option (List Char)) (size : Nat) : State → Outcome
  | .word | .target | .complete => .accepted
  | .level first =>
      match expect (part first size) isLevelPart .complete with
      | .over outcome => outcome
      | _ => .accepted
  | .over outcome => outcome
  | _ => .refused

/-- The states along a text that begins at the byte `i`. -/
def State.run (part : Nat → Nat → Option (List Char)) : Nat → State → List Char → State
  | _, s, [] => s
  | i, s, c :: cs => State.run part (i + c.utf8Size) (s.next part i c) cs

/-- What comes of a text that is meant as a directive. -/
def read (directive : String) : Outcome :=
  let text := directive.toList
  let part (start stop : Nat) := cut? start stop text
  (State.run part 0 .start (trim text)).finish part directive.utf8ByteSize

/-- What comes of the directives in a list with commas between them: those that
are refused are passed over. -/
def readAll (directives : String) : Outcome :=
  if (pieces ',' directives.toList).any fun cs =>
      cs ≠ [] && read (String.ofList cs) = .broken then .broken
  else .accepted

end DeclExport.Command.Directive
