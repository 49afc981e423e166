/-
  DeclExport.Json.Tree
  ────────────────────────────────
  **JSON TREES THAT REMEMBER WHERE THE TEXT BREAKS OFF.**

  Reading a text never fails: it yields a tree whose leaves may be *breaks*,
  the places where the text stops being JSON.  Whoever consumes the tree from
  left to right meets a break exactly when a reader of the text would, so a
  complaint about a value that stands before the break comes first.

  What a break amounts to depends on who meets it.  Three readers do:

      a value reader   — wants a value of some type
      a name reader    — wants a member name, or the tag of a union
      a skipper        — only wants well-formed text, and is laxer

  A tree without breaks is *complete*.
-/
import DeclExport.Json.Numeral

namespace DeclExport.Json

/-! ## §1. Flaws and breaks. -/

/-- The two ways a text can fail to be JSON. -/
inductive Flaw where
  /-- A character stands where none of its kind may stand. -/
  | malformed
  /-- The text ends too early. -/
  | cutShort
  deriving Repr, DecidableEq

/-- What is found where a value or a member name breaks off. -/
inductive Break where
  /-- The text ends before the first character. -/
  | absent
  /-- A character that starts no value. -/
  | stray
  /-- One of `null`, `true` and `false`, misspelt or unfinished. -/
  | literal (null : Bool) (flaw : Flaw)
  /-- A number token, misspelt or unfinished. -/
  | number (flaw : Flaw)
  /-- A string token; `strict` is the flaw for a reader that rejects lone
  surrogates, `lax` for one that lets them pass. -/
  | string (strict lax : Flaw)
  deriving Repr, DecidableEq

namespace Break

/-- The flaw that a reader of a plain value reports. -/
def asValue : Break → Flaw
  | .absent => .cutShort
  | .stray => .malformed
  | .literal _ f => f
  | .number f => f
  | .string strict _ => strict

/-- The flaw that a reader of a string or an object reports: it looks no further
than the first character of anything else. -/
def asTagged : Break → Flaw
  | .absent => .cutShort
  | .string strict _ => strict
  | _ => .malformed

/-- The flaw that a skipper of values reports. -/
def asSkipped : Break → Flaw
  | .absent => .cutShort
  | .literal _ f => f
  | .string _ lax => lax
  | _ => .malformed

/-- The flaw that a skipper of member names reports. -/
def asSkippedName : Break → Flaw
  | .absent => .cutShort
  | .string _ lax => lax
  | _ => .malformed

end Break

/-! ## §2. Trees. -/

/-- A complete token that is a value by itself. -/
inductive Scalar where
  | null
  | bool (value : Bool)
  | number (value : Numeral)
  /-- A string; `none` if it holds a lone surrogate. -/
  | string (value : Option String)
  deriving Repr, DecidableEq

/-- What stands in the place of a member name. -/
inductive Key where
  /-- A string; `none` if it holds a lone surrogate. -/
  | name (value : Option String)
  /-- A complete token, or an opening bracket, of another kind. -/
  | misplaced
  | broken (what : Break)
  deriving Repr, DecidableEq

mutual

/-- A value as it was found in a text. -/
inductive Tree where
  | scalar (value : Scalar)
  | array (items : Items)
  | object (members : Members)
  | broken (what : Break)

/-- What follows the opening bracket or an item of an array. -/
inductive Items where
  /-- The closing bracket. -/
  | close
  /-- Neither a comma nor the closing bracket. -/
  | stop (flaw : Flaw)
  | more (item : Tree) (rest : Items)

/-- What follows the opening brace or a member of an object. -/
inductive Members where
  /-- The closing brace. -/
  | close
  /-- Neither a comma nor the closing brace. -/
  | stop (flaw : Flaw)
  | more (key : Key) (value : Tree) (rest : Members)

end

/-- The items of a closed array. -/
def Items.ofList : List Tree → Items
  | [] => .close
  | t :: ts => .more t (Items.ofList ts)

/-- The members of a closed object. -/
def Members.ofList : List (String × Tree) → Members
  | [] => .close
  | (k, t) :: ms => .more (.name (some k)) t (Members.ofList ms)

/-- A string value. -/
def Tree.string (s : String) : Tree := .scalar (.string (some s))

/-- An integer value. -/
def Tree.int (i : Int) : Tree := .scalar (.number (.whole i))

/-- The array of the given items. -/
def Tree.ofItems (ts : List Tree) : Tree := .array (Items.ofList ts)

/-- The object of the given members. -/
def Tree.ofMembers (ms : List (String × Tree)) : Tree := .object (Members.ofList ms)

/-! ## §3. Skipping.

A skipped value must be well-formed, but neither its nesting nor its numbers nor
the surrogates of its strings are looked at. -/

/-- The flaw in a skipped member name. -/
def Key.skipFlaw? : Key → Option Flaw
  | .name _ => none
  | .misplaced => some .malformed
  | .broken b => some b.asSkippedName

mutual

/-- The first flaw in a skipped value, if there is one. -/
def Tree.skipFlaw? : Tree → Option Flaw
  | .scalar _ => none
  | .array items => items.skipFlaw?
  | .object members => members.skipFlaw?
  | .broken b => some b.asSkipped

/-- The first flaw in the items of a skipped array. -/
def Items.skipFlaw? : Items → Option Flaw
  | .close => none
  | .stop f => some f
  | .more item rest => item.skipFlaw? <|> rest.skipFlaw?

/-- The first flaw in the members of a skipped object: names count as well. -/
def Members.skipFlaw? : Members → Option Flaw
  | .close => none
  | .stop f => some f
  | .more key value rest => key.skipFlaw? <|> value.skipFlaw? <|> rest.skipFlaw?

end

/-! ## §4. Nesting. -/

mutual

/-- How deep arrays and objects are nested in a value. -/
def Tree.depth : Tree → Nat
  | .scalar _ => 0
  | .array items => items.depth + 1
  | .object members => members.depth + 1
  | .broken _ => 0

/-- How deep the deepest item is nested. -/
def Items.depth : Items → Nat
  | .close => 0
  | .stop _ => 0
  | .more item rest => max item.depth rest.depth

/-- How deep the deepest member is nested. -/
def Members.depth : Members → Nat
  | .close => 0
  | .stop _ => 0
  | .more _ value rest => max value.depth rest.depth

end

end DeclExport.Json
