/-
  DeclExport.Export.Module
  ────────────────────────────────
  **MODULES: NAMED TERMS IN ORDER.**

  A module holds entries in the order of insertion, one per name.  Inserting
  under a name that the same declaration owns changes nothing; under a name
  that another declaration owns it is a collision.

  An indexed module keeps the position of every name beside the entries, and
  finds an entry by going to its position.  The two are written one after the
  other, and a position without an entry is an error.
-/
import DeclExport.Failure

namespace DeclExport

/-! ## §1. Modules. -/

/-- A named term. -/
structure Entry where
  name : String
  term : String
  /-- The declaration that the entry was rendered from. -/
  origin : DeclId
  deriving Repr, DecidableEq

/-- Entries in the order of insertion. -/
structure Module where
  entries : List Entry
  deriving Repr, DecidableEq

namespace Module

/-- The module without entries. -/
def empty : Module := ⟨[]⟩

/-- The entry of a name. -/
def get? (m : Module) (name : String) : Option Entry :=
  m.entries.find? fun e => e.name = name

/-- Insert an entry at the end, unless its name is taken. -/
def insert (m : Module) (e : Entry) : Except Failure Module :=
  match m.get? e.name with
  | none => .ok ⟨m.entries ++ [e]⟩
  | some owner =>
      if owner.origin = e.origin then .ok m
      else .error (.collision e.name owner.origin e.origin)

/-- The number of entries. -/
def size (m : Module) : Nat := m.entries.length

end Module

/-! ## §2. Modules with an index. -/

/-- Entries, and beside them the position of every name. -/
structure IndexedModule where
  entries : List Entry
  positions : List (String × Nat)
  deriving Repr, DecidableEq

namespace IndexedModule

/-- Nothing, at no position. -/
def empty : IndexedModule := ⟨[], []⟩

/-- The entry at the position of a name; an error if there is no entry there. -/
def find (ix : IndexedModule) (name : String) : Except Nat (Option Entry) :=
  match ix.positions.lookup name with
  | none => .ok none
  | some i =>
      match ix.entries[i]? with
      | none => .error i
      | some e => .ok (some e)

/-- Note the position behind the last entry and put the entry there, unless the name has
a position. -/
def insert (ix : IndexedModule) (e : Entry) : Except Nat (IndexedModule × Option Failure) :=
  match ix.find e.name with
  | .error i => .error i
  | .ok none => .ok (⟨ix.entries ++ [e], (e.name, ix.entries.length) :: ix.positions⟩, none)
  | .ok (some owner) =>
      .ok (ix, if owner.origin = e.origin then none
        else some (.collision e.name owner.origin e.origin))

/-- The calls one after the other, with what they fail with. -/
def run (ix : IndexedModule) :
    List Entry → Except Nat (IndexedModule × List (Option Failure))
  | [] => .ok (ix, [])
  | e :: calls =>
      match ix.insert e with
      | .error i => .error i
      | .ok (ix, refusal) => (ix.run calls).map fun (ix, refusals) => (ix, refusal :: refusals)

end IndexedModule

end DeclExport
