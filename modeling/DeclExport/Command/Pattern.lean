/-
  DeclExport.Command.Pattern
  ────────────────────────────────
  **PATTERNS OF FIELD VALUES.**

  A field of a log directive may be matched against a regular expression.  Only
  whether a text is one that can be used is decided here:

      it is written as one     — groups and sets are closed, escapes are known,
                                 repetitions repeat something
      it needs no tables       — classes, cases and words by Unicode properties
                                 are not at hand
      it matches whole characters, also where it is read byte by byte

  Texts of values hold no closing brace behind an opening one, so a construct
  that is written between braces is never closed.
-/
import DeclExport.Text.Alphabetic
import DeclExport.Text.Basic
import DeclExport.Text.Numeric

namespace DeclExport.Command.Pattern

open Text

/-! ## §1. Modes. -/

/-- How a part of a pattern is read. -/
structure Mode where
  /-- Letters match in either case. -/
  ignoreCase : Bool := false
  /-- The pattern is about characters, not about bytes. -/
  unicode : Bool := true
  /-- Blanks and comments do not count. -/
  verbose : Bool := false
  deriving Repr, DecidableEq

/-- A text after the blanks and comments at its beginning; `comment` in one. -/
def skipVerbose (comment : Bool) : List Char → List Char
  | [] => []
  | c :: cs =>
      if comment then skipVerbose (c ≠ '\n') cs
      else if isBlank c then skipVerbose false cs
      else if c = '#' then skipVerbose true cs
      else c :: cs

/-- A text after what does not count at its beginning. -/
def skip (m : Mode) (cs : List Char) : List Char :=
  if m.verbose then skipVerbose false cs else cs

/-! ## §2. Elements. -/

/-- What matches a single character or a place between two. -/
inductive Element where
  /-- A character; `byte` if it is written as a byte of two digits. -/
  | literal (c : Char) (byte : Bool)
  | dot
  /-- The begin or the end of a line or of the text. -/
  | anchor
  /-- A place inside or at the edge of a word. -/
  | wordPlace
  /-- Digits, blanks or word characters, or all but those. -/
  | classOf (negated : Bool)
  deriving Repr, DecidableEq

/-- Whether an element can be used outside of sets. -/
def Element.isUsable (m : Mode) : Element → Bool
  | .literal c byte => if m.unicode then !m.ignoreCase else !(byte && 0x7F < c.toNat)
  | .dot => m.unicode
  | .anchor => true
  | .wordPlace => !m.unicode
  | .classOf negated => !m.unicode && !negated

/-- Whether an element can be used in a set. -/
def Element.isUsableInSet (m : Mode) : Element → Bool
  | .literal c _ => if m.unicode then !m.ignoreCase else c.toNat ≤ 0x7F
  | .classOf negated => !m.unicode && !negated
  | _ => false

/-- A number of hexadecimal digits, and what follows them. -/
def hexDigits (m : Mode) : Nat → List Char → Option (List Char × List Char)
  | 0, cs => some ([], cs)
  | _ + 1, [] => none
  | n + 1, c :: cs =>
      if (hexDigit? c).isSome then (hexDigits m n (skip m cs)).map fun r => (c :: r.1, r.2)
      else none

/-- The character with a code point of so many digits, and what follows it. -/
def codePoint (m : Mode) (digits : Nat) (cs : List Char) : Option (Char × List Char) :=
  match hexDigits m digits (skip m cs) with
  | none => none
  | some (ds, rest) =>
      match hexNumber? ds with
      | none => none
      | some n => if n.isValidChar then some (Char.ofNat n, rest) else none

/-- The element after a backslash, and what follows it. -/
def escape (m : Mode) : List Char → Option (Element × List Char)
  | [] => none
  | 'x' :: cs => (codePoint m 2 cs).map fun r => (.literal r.1 true, r.2)
  | 'u' :: cs => (codePoint m 4 cs).map fun r => (.literal r.1 false, r.2)
  | 'U' :: cs => (codePoint m 8 cs).map fun r => (.literal r.1 false, r.2)
  | c :: cs =>
      if ['d', 's', 'w'].contains c then some (.classOf false, cs)
      else if ['D', 'S', 'W'].contains c then some (.classOf true, cs)
      else if ['A', 'z'].contains c then some (.anchor, cs)
      else if ['b', 'B', '<', '>'].contains c then some (.wordPlace, cs)
      else match c with
        | 'a' => some (.literal '\x07' false, cs)
        | 'f' => some (.literal '\x0c' false, cs)
        | 'n' => some (.literal '\n' false, cs)
        | 'r' => some (.literal '\r' false, cs)
        | 't' => some (.literal '\t' false, cs)
        | 'v' => some (.literal '\x0b' false, cs)
        | c => if c.toNat ≤ 0x7F ∧ !c.isAlphanum then some (.literal c false, cs) else none

/-! ## §3. Sets.

What is parsed is measured by its *nesting*: how deep groups, repetitions,
sequences, alternatives and sets stand in each other. -/

/-- The nesting of parts that follow each other; one alone is no sequence. -/
def nestingOf : List Nat → Nat
  | [] => 0
  | [d] => d
  | ds => ds.foldl max 0 + 1

/-- What is open around the items of a set. -/
inductive SetFrame where
  /-- A bracket, after these items of the set around it. -/
  | bracket (items : List Nat)
  /-- An operator between sets, after an operand. -/
  | operator (left : Nat)
  deriving Repr, DecidableEq

/-- The names of the classes that are written between brackets and colons. -/
def classNames : List String :=
  ["alnum", "alpha", "ascii", "blank", "cntrl", "digit", "graph", "lower", "print", "punct",
    "space", "upper", "word", "xdigit"]

/-- The class by its name that follows an opening bracket: whether it is
negated, and what follows it. -/
def namedClass? : List Char → Option (Bool × List Char)
  | ':' :: cs =>
      let (negated, cs) :=
        match cs with
        | '^' :: cs => (true, cs)
        | cs => (false, cs)
      match cs.dropWhile (· ≠ ':') with
      | ':' :: ']' :: rest =>
          if classNames.contains (String.ofList (cs.takeWhile (· ≠ ':'))) then
            some (negated, rest)
          else none
      | _ => none
  | _ => none

/-- Whether a class by its name can be used. -/
def isClassUsable (m : Mode) (negated : Bool) : Bool :=
  if m.unicode then !m.ignoreCase else !negated

/-- The text after the opening bracket of a set and the sign that negates it,
if a set may be negated. -/
def openSet (m : Mode) (cs : List Char) : Option (List Char) :=
  match skip m cs with
  | '^' :: cs => if m.unicode then some (skip m cs) else none
  | cs => some cs

/-- The character that follows the first one, blanks and the sign of a comment
not counted. -/
def peek (m : Mode) (rest : List Char) : Option Char :=
  if m.verbose then
    match rest.dropWhile isBlank with
    | [] => rest.head?
    | '#' :: cs => (cs.dropWhile isBlank).head? <|> rest.head?
    | c :: _ => some c
  else rest.head?

/-- One element of a set as it is written, and what follows it. -/
def setElement (m : Mode) : List Char → Option (Element × List Char)
  | [] => none
  | '\\' :: cs => escape m cs
  | c :: cs => some (.literal c false, cs)

/-- An element or a range of a set: what follows it, if it can be used. -/
def setItem (m : Mode) (cs : List Char) : Option (List Char) :=
  match setElement m cs with
  | none => none
  | some (first, cs) =>
      let single : Option (List Char) := if first.isUsableInSet m then some cs else none
      match skip m cs with
      | [] => none
      | '-' :: rest =>
          if peek m rest = some ']' ∨ peek m rest = some '-' then single
          else match setElement m (skip m rest), first with
            | some (.literal high byte, rest), .literal low _ =>
                if low ≤ high ∧ first.isUsableInSet m ∧
                    (Element.literal high byte).isUsableInSet m then some rest
                else none
            | _, _ => none
      | _ :: _ => single

/-- The nesting of the operators that end with the last operand, and the frames
around them. -/
def closeOperator (operand : Nat) : List SetFrame → Nat × List SetFrame
  | .operator left :: frames => (max left operand + 1, frames)
  | frames => (operand, frames)

/-- The rest of a set, and of the sets around it: their nesting, and what
follows the last bracket.  `fresh` before the first item that is no dash.  Every
round takes a character, so as much fuel as there are characters is enough. -/
def setFrom (m : Mode) :
    Nat → List SetFrame → List Nat → Bool → List Char → Option (Nat × List Char)
  | 0, _, _, _, _ => none
  | fuel + 1, frames, items, fresh, cs =>
      let operate (rest : List Char) :=
        match closeOperator (nestingOf items) frames with
        | (left, frames) => setFrom m fuel (.operator left :: frames) [] false rest
      match skip m cs with
      | [] => none
      | '[' :: rest =>
          match namedClass? rest with
          | some (negated, rest) =>
              if isClassUsable m negated then setFrom m fuel frames (0 :: items) false rest
              else none
          | none =>
              match openSet m rest with
              | none => none
              | some rest => setFrom m fuel (.bracket items :: frames) [] true rest
      | ']' :: rest =>
          if fresh && items.isEmpty then
            if (Element.literal ']' false).isUsableInSet m then
              setFrom m fuel frames [0] false rest
            else none
          else
            match closeOperator (nestingOf items) frames with
            | (d, .bracket [] :: []) => some (d + 1, rest)
            | (d, .bracket outer :: frames) =>
                setFrom m fuel frames ((d + 1) :: outer) false rest
            | _ => none
      | '&' :: '&' :: rest => operate rest
      | '~' :: '~' :: rest => operate rest
      | '-' :: rest =>
          if fresh then
            if (Element.literal '-' false).isUsableInSet m then
              setFrom m fuel frames (0 :: items) true rest
            else none
          else
            match rest with
            | '-' :: rest => operate rest
            | rest =>
                match setItem m ('-' :: rest) with
                | none => none
                | some rest => setFrom m fuel frames (0 :: items) false rest
      | cs =>
          match setItem m cs with
          | none => none
          | some rest => setFrom m fuel frames (0 :: items) false rest

/-- The set after an opening bracket: its nesting, and what follows it. -/
def set (m : Mode) (cs : List Char) : Option (Nat × List Char) :=
  match openSet m cs with
  | none => none
  | some cs => setFrom m (cs.length + 1) [.bracket []] [] true cs

/-! ## §4. Groups. -/

/-- The flags that a mode is set by, with what each is set to. -/
abbrev Flags := List (Char × Bool)

/-- The flags up to a colon or a closing parenthesis, that character, and what
follows it.  `negated` after a minus sign, `dangling` right after it. -/
def flagsFrom (negated dangling : Bool) (flags : Flags) :
    List Char → Option (Flags × Char × List Char)
  | [] => none
  | c :: cs =>
      if c = ':' ∨ c = ')' then (if dangling then none else some (flags, c, cs))
      else if c = '-' then (if negated then none else flagsFrom true true flags cs)
      else if ['i', 'm', 's', 'U', 'u', 'R', 'x'].contains c ∧ (flags.lookup c).isNone then
        flagsFrom negated false ((c, !negated) :: flags) cs
      else none

/-- The mode after flags. -/
def Mode.flagged (m : Mode) (flags : Flags) : Mode where
  ignoreCase := (flags.lookup 'i').getD m.ignoreCase
  unicode := (flags.lookup 'u').getD m.unicode
  verbose := (flags.lookup 'x').getD m.verbose

/-- Whether a text can name a group. -/
def isGroupName : List Char → Bool
  | [] => false
  | c :: cs =>
      (c = '_' || isAlphabetic c) &&
        cs.all fun c => c = '_' || c = '.' || c = '[' || c = ']' || isAlphabetic c || isNumeric c

/-- What an opening parenthesis begins. -/
inductive Opening where
  /-- A group, which may have a name, in a mode. -/
  | group (name : Option (List Char)) (mode : Mode)
  /-- No group: the mode is set for what follows. -/
  | setting (mode : Mode)
  deriving Repr, DecidableEq

/-- What the text after an opening parenthesis begins, and what follows. -/
def opening (m : Mode) (cs : List Char) : Option (Opening × List Char) :=
  let named (cs : List Char) : Option (Opening × List Char) :=
    match cs.dropWhile (· ≠ '>') with
    | [] => none
    | _ :: rest =>
        let name := cs.takeWhile (· ≠ '>')
        if isGroupName name then some (.group (some name) m, rest) else none
  match skip m cs with
  | '?' :: 'P' :: '<' :: rest => named rest
  | '?' :: '<' :: '=' :: _ => none
  | '?' :: '<' :: '!' :: _ => none
  | '?' :: '<' :: rest => named rest
  | '?' :: rest =>
      match flagsFrom false false [] rest with
      | none => none
      | some (flags, ')', rest) =>
          if flags.isEmpty then none else some (.setting (m.flagged flags), rest)
      | some (flags, _, rest) => some (.group none (m.flagged flags), rest)
  | cs => some (.group none m, cs)

/-! ## §5. Patterns. -/

/-- A part of a sequence: its nesting, or `none` if it cannot be repeated. -/
abbrev Part := Option Nat

/-- The parts of a group that is being read, the last one first, after these
alternatives. -/
structure Branches where
  done : List Nat := []
  parts : List Part := []

namespace Branches

/-- One more part. -/
def add (b : Branches) (p : Part) : Branches := { b with parts := p :: b.parts }

/-- The nesting of the sequence that is being read. -/
def sequence (b : Branches) : Nat := nestingOf (b.parts.map (·.getD 0))

/-- The next alternative. -/
def next (b : Branches) : Branches := ⟨b.sequence :: b.done, []⟩

/-- The nesting of all alternatives. -/
def nesting (b : Branches) : Nat := nestingOf (b.sequence :: b.done)

/-- The last part repeated, if there is one that can be. -/
def repeat? (b : Branches) : Option Branches :=
  match b.parts with
  | some d :: parts => some { b with parts := some (d + 1) :: parts }
  | _ => none

end Branches

/-- A group around the one that is being read, and its mode. -/
structure Group where
  outer : Branches
  mode : Mode

/-- The nesting of the rest of a pattern with all that was read before it.
Every round takes a character, so as much fuel as there are characters, and one
round for the end, is enough. -/
def nestingFrom : Nat → List Group → List (List Char) → Mode → Branches → List Char → Option Nat
  | 0, _, _, _, _, _ => none
  | fuel + 1, groups, names, m, b, cs =>
      match skip m cs with
      | [] => if groups.isEmpty then some b.nesting else none
      | '(' :: rest =>
          match opening m rest with
          | none => none
          | some (.setting mode, rest) => nestingFrom fuel groups names mode (b.add none) rest
          | some (.group none mode, rest) =>
              nestingFrom fuel (⟨b, m⟩ :: groups) names mode {} rest
          | some (.group (some name) mode, rest) =>
              if names.contains name then none
              else nestingFrom fuel (⟨b, m⟩ :: groups) (name :: names) mode {} rest
      | ')' :: rest =>
          match groups with
          | [] => none
          | g :: groups =>
              nestingFrom fuel groups names g.mode (g.outer.add (some (b.nesting + 1))) rest
      | '|' :: rest => nestingFrom fuel groups names m b.next rest
      | '[' :: rest =>
          match set m rest with
          | none => none
          | some (d, rest) => nestingFrom fuel groups names m (b.add (some d)) rest
      | '{' :: _ => none
      | c :: rest =>
          if c = '?' ∨ c = '*' ∨ c = '+' then
            let rest :=
              match rest with
              | '?' :: rest => rest
              | rest => rest
            match b.repeat? with
            | none => none
            | some b => nestingFrom fuel groups names m b rest
          else
            let element : Option (Element × List Char) :=
              match c with
              | '\\' => escape m rest
              | '.' => some (.dot, rest)
              | '^' => some (.anchor, rest)
              | '$' => some (.anchor, rest)
              | c => some (.literal c false, rest)
            match element with
            | none => none
            | some (e, rest) =>
                if e.isUsable m then nestingFrom fuel groups names m (b.add (some 0)) rest
                else none

/-- How deep a pattern may be nested. -/
def maxNesting : Nat := 250

/-- Whether a text is a pattern that can be used. -/
def isValid (text : List Char) : Bool :=
  (nestingFrom (text.length + 1) [] [] {} {} text).any (· ≤ maxNesting)

end DeclExport.Command.Pattern
