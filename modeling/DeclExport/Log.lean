/-
  DeclExport.Log
  ────────────────────────────────
  **WHAT A RUN REPORTS.**

  Events are values, collected in the order in which they happen, and kept also
  when the run fails.
-/
import DeclExport.Selection.Verdict
import DeclExport.Source.Decl

namespace DeclExport

/-- Something that a run has done. -/
inductive Event where
  /-- A filter has judged a declaration. -/
  | judged (decl : DeclId) (verdict : Verdict) (filter : String)
  /-- Annotations were found in the comment of a declaration. -/
  | collected (decl : DeclId) (count : Nat)
  | skipping (decl : DeclId) (name : String) (verdict : Verdict)
  /-- A declaration was rendered and is about to enter the module. -/
  | adding (decl : DeclId) (name : String) (verdict : Verdict)
  | assembled (declarations annotated exported : Nat)
  deriving Repr, DecidableEq

namespace Event

/-- How important an event is. -/
inductive Level where
  | trace
  | debug
  | info
  deriving Repr, DecidableEq

/-- The level an event is reported at. -/
def level : Event → Level
  | .judged _ _ _ | .collected _ _ => .trace
  | .skipping _ _ _ | .adding _ _ _ => .debug
  | .assembled _ _ _ => .info

/-- The text an event is reported under. -/
def message : Event → String
  | .judged _ _ _ => "filter verdict"
  | .collected _ _ => "collected annotations"
  | .skipping _ _ _ => "skipping declaration"
  | .adding _ _ _ => "adding declaration"
  | .assembled _ _ _ => "module assembled"

end Event

end DeclExport
