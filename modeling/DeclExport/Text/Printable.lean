/-
  DeclExport.Text.Printable
  ────────────────────────────────
  **TEXTS IN MESSAGES.**

  A text that is shown between double quotes has its quotes, backslashes and
  characters without a shape of their own escaped, so that it can be told where
  it ends and what is in it.
-/
import DeclExport.Text.Extending
import DeclExport.Text.Unprintable

namespace DeclExport.Text

/-- A character by its code point. -/
def byCodePoint (c : Char) : List Char :=
  ['\\', 'u', '\x7b'] ++ Nat.toDigits 16 c.toNat ++ ['\x7d']

/-- The halfwidth sound marks.  They join the character before them, but have a
width of their own. -/
def isHalfwidthMark (c : Char) : Bool := c = '\uff9e' || c = '\uff9f'

/-- Whether a character has no shape of its own. -/
def isShapeless (c : Char) : Bool := isUnprintable c || isExtending c && !isHalfwidthMark c

/-- A character as it is shown between quotes. -/
def shown (c : Char) : List Char :=
  if c = '"' || c = '\\' then ['\\', c]
  else if c = '\n' then ['\\', 'n']
  else if c = '\r' then ['\\', 'r']
  else if c = '\t' then ['\\', 't']
  else if c.toNat = 0 then ['\\', '0']
  else if isShapeless c then byCodePoint c
  else [c]

/-- A text as it is shown between quotes. -/
def display (s : String) : String :=
  String.ofList ('"' :: s.toList.flatMap shown ++ ['"'])

end DeclExport.Text
