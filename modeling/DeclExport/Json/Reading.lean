/-
  DeclExport.Json.Reading
  ────────────────────────────────
  **FROM TOKENS TO TREES.**

  Tokens are assembled by a machine with an explicit stack of the brackets that
  are open.  One step per token; the tree is whole when the stack is empty
  again.  A token out of place, a break, or the end of the text closes every
  open bracket around the break, and nothing behind it is looked at.

      read text  =  the tree, and whether anything follows it
-/
import DeclExport.Json.Token

namespace DeclExport.Json

/-! ## §1. Brackets that are open. -/

/-- A bracket around the value that is being read.  What it already holds is
listed with the last one first. -/
inductive Frame where
  | array (items : List Tree)
  /-- An object whose member with the given key is being read. -/
  | object (members : List (Key × Tree)) (key : Key)

/-- The array with these items, the last one first, and this end. -/
def arrayOf (items : List Tree) (ending : Items) : Tree :=
  .array (items.foldl (fun rest t => .more t rest) ending)

/-- The object with these members, the last one first, and this end. -/
def objectOf (members : List (Key × Tree)) (ending : Members) : Tree :=
  .object (members.foldl (fun rest m => .more m.1 m.2 rest) ending)

/-- The whole tree if `t` is broken: no bracket around it is ever closed. -/
def breakOff (t : Tree) : List Frame → Tree
  | [] => t
  | .array items :: outer => breakOff (arrayOf items (.more t (.stop .cutShort))) outer
  | .object members key :: outer =>
      breakOff (objectOf members (.more key t (.stop .cutShort))) outer

/-! ## §2. The machine. -/

/-- Where the assembly stands.  `outer` are the open brackets, innermost first. -/
inductive Assembly where
  /-- A value must come. -/
  | value (outer : List Frame)
  /-- After an opening bracket: a value, or the closing bracket. -/
  | firstItem (outer : List Frame)
  /-- After an item: a comma, or the closing bracket. -/
  | afterItem (items : List Tree) (outer : List Frame)
  /-- After an opening brace: a name, or the closing brace. -/
  | firstName (outer : List Frame)
  /-- After a comma in an object: a name. -/
  | name (members : List (Key × Tree)) (outer : List Frame)
  /-- After a name: a colon. -/
  | colon (members : List (Key × Tree)) (key : Key) (outer : List Frame)
  /-- After a member: a comma, or the closing brace. -/
  | afterMember (members : List (Key × Tree)) (outer : List Frame)
  /-- The tree is there; `trailing` if a token followed it. -/
  | complete (tree : Tree) (trailing : Bool)

namespace Assembly

/-- A value has been read inside the given brackets. -/
def settle (t : Tree) : List Frame → Assembly
  | [] => .complete t false
  | .array items :: outer => .afterItem (t :: items) outer
  | .object members key :: outer => .afterMember ((key, t) :: members) outer

/-- The value that is due breaks off. -/
def breakValue (b : Break) (outer : List Frame) : Assembly :=
  .complete (breakOff (.broken b) outer) false

/-- The member name that is due is this key, which is no name. -/
def breakName (k : Key) (members : List (Key × Tree)) (outer : List Frame) : Assembly :=
  .complete (breakOff (objectOf members (.more k (.broken .absent) (.stop .cutShort))) outer)
    false

/-- A token where a value is due. -/
def stepValue (outer : List Frame) : Token → Assembly
  | .scalar s => settle (.scalar s) outer
  | .openArray => .firstItem outer
  | .openObject => .firstName outer
  | .broken b => breakValue b outer
  | .closeArray | .closeObject | .comma | .colon => breakValue .stray outer

/-- A token where a member name is due. -/
def stepName (members : List (Key × Tree)) (outer : List Frame) : Token → Assembly
  | .scalar (.string s) => .colon members (.name s) outer
  | .scalar _ | .openArray | .openObject => breakName .misplaced members outer
  | .broken b => breakName (.broken b) members outer
  | .closeArray | .closeObject | .comma | .colon => breakName (.broken .stray) members outer

/-- One token. -/
def step : Assembly → Token → Assembly
  | .value outer, t => stepValue outer t
  | .firstItem outer, .closeArray => settle (.array .close) outer
  | .firstItem outer, t => stepValue (.array [] :: outer) t
  | .afterItem items outer, .comma => .value (.array items :: outer)
  | .afterItem items outer, .closeArray => settle (arrayOf items .close) outer
  | .afterItem items outer, _ =>
      .complete (breakOff (arrayOf items (.stop .malformed)) outer) false
  | .firstName outer, .closeObject => settle (.object .close) outer
  | .firstName outer, t => stepName [] outer t
  | .name members outer, t => stepName members outer t
  | .colon members key outer, .colon => .value (.object members key :: outer)
  | .colon members key outer, _ => breakValue .stray (.object members key :: outer)
  | .afterMember members outer, .comma => .name members outer
  | .afterMember members outer, .closeObject => settle (objectOf members .close) outer
  | .afterMember members outer, _ =>
      .complete (breakOff (objectOf members (.stop .malformed)) outer) false
  | .complete t _, _ => .complete t true

/-- The tree once the text has ended, and whether a token followed it. -/
def finish : Assembly → Tree × Bool
  | .value outer => (breakOff (.broken .absent) outer, false)
  | .firstItem outer => (breakOff (.array (.stop .cutShort)) outer, false)
  | .afterItem items outer => (breakOff (arrayOf items (.stop .cutShort)) outer, false)
  | .firstName outer =>
      (breakOff (.object (.more (.broken .absent) (.broken .absent) (.stop .cutShort))) outer,
        false)
  | .name members outer =>
      (breakOff (objectOf members
        (.more (.broken .absent) (.broken .absent) (.stop .cutShort))) outer, false)
  | .colon members key outer =>
      (breakOff (.broken .absent) (.object members key :: outer), false)
  | .afterMember members outer => (breakOff (objectOf members (.stop .cutShort)) outer, false)
  | .complete t trailing => (t, trailing)

end Assembly

/-- The tree of a text, and whether anything but blanks follows it. -/
def read (text : List Char) : Tree × Bool :=
  ((tokens text).foldl Assembly.step (.value [])).finish

end DeclExport.Json
