/-
  DeclExport.Json.Text
  ────────────────────────────────
  **THE COMPACT TEXT OF A TREE.**

  No blanks; members in the order of the tree; strings with the two-character
  escapes where there is one, `\u00xx` for the other control characters, and
  every other character as it is.  Only complete trees have a text that reads
  back; a break has none.
-/
import DeclExport.Json.Tree

namespace DeclExport.Json

/-! ## §1. Strings. -/

/-- A hexadecimal digit, in lower case. -/
def hexDigit (n : Nat) : Char := if n < 10 then Char.ofNat (48 + n) else Char.ofNat (87 + n)

/-- A character as it is written between quotes. -/
def escape (c : Char) : List Char :=
  if c = '"' then ['\\', '"']
  else if c = '\\' then ['\\', '\\']
  else if c = '\x08' then ['\\', 'b']
  else if c = '\t' then ['\\', 't']
  else if c = '\n' then ['\\', 'n']
  else if c = '\x0c' then ['\\', 'f']
  else if c = '\r' then ['\\', 'r']
  else if c < ' ' then ['\\', 'u', '0', '0', hexDigit (c.toNat / 16), hexDigit (c.toNat % 16)]
  else [c]

/-- A string between its quotes. -/
def stringText (s : String) : List Char := '"' :: s.toList.flatMap escape ++ ['"']

/-! ## §2. Trees. -/

/-- An integer in decimal digits. -/
def intText : Int → List Char
  | .ofNat n => Nat.toDigits 10 n
  | .negSucc n => '-' :: Nat.toDigits 10 (n + 1)

/-- The text of a scalar; numbers that are no integers have none. -/
def Scalar.text : Scalar → List Char
  | .null => ['n', 'u', 'l', 'l']
  | .bool true => ['t', 'r', 'u', 'e']
  | .bool false => ['f', 'a', 'l', 's', 'e']
  | .number (.whole i) => intText i
  | .number _ => []
  | .string (some s) => stringText s
  | .string none => []

/-- The text of a member name. -/
def Key.text : Key → List Char
  | .name (some s) => stringText s
  | _ => []

mutual

/-- The text of a tree. -/
def Tree.text : Tree → List Char
  | .scalar s => s.text
  | .array .close => ['[', ']']
  | .array (.stop _) => ['[']
  | .array (.more item rest) => '[' :: item.text ++ rest.text
  | .object .close => ['{', '}']
  | .object (.stop _) => ['{']
  | .object (.more key value rest) => '{' :: key.text ++ ':' :: value.text ++ rest.text
  | .broken _ => []

/-- The text after an item. -/
def Items.text : Items → List Char
  | .close => [']']
  | .stop _ => []
  | .more item rest => ',' :: item.text ++ rest.text

/-- The text after a member. -/
def Members.text : Members → List Char
  | .close => ['}']
  | .stop _ => []
  | .more key value rest => ',' :: key.text ++ ':' :: value.text ++ rest.text

end

end DeclExport.Json
