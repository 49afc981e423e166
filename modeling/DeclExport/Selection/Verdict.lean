/-
  DeclExport.Selection.Verdict
  ────────────────────────────────
  **VERDICTS AND THEIR REDUCTIONS.**

  A verdict says how much of a declaration is exported.  Verdicts are a chain

      exclude < unspecified < declaration < definition

  and a list of verdicts is reduced to its least or its greatest, the empty list
  to the verdict that changes nothing.
-/

namespace DeclExport

/-! ## §1. Verdicts. -/

/-- How much of a declaration is exported. -/
inductive Verdict where
  | exclude
  /-- No opinion; still below the threshold of inclusion. -/
  | unspecified
  /-- Only the signature is exported. -/
  | declaration
  /-- The full definition is exported. -/
  | definition
  deriving Repr, DecidableEq

namespace Verdict

/-- The position of a verdict in the chain. -/
def rank : Verdict → Nat
  | .exclude => 0
  | .unspecified => 1
  | .declaration => 2
  | .definition => 3

/-- Verdicts are ordered by their position in the chain. -/
instance : LE Verdict := ⟨fun v w => v.rank ≤ w.rank⟩

/-- The order is decided on positions. -/
instance (v w : Verdict) : Decidable (v ≤ w) := inferInstanceAs (Decidable (v.rank ≤ w.rank))

/-- The one of two verdicts that stands first in the chain. -/
instance : Min Verdict := ⟨fun v w => if v ≤ w then v else w⟩

/-- The one of two verdicts that stands last in the chain. -/
instance : Max Verdict := ⟨fun v w => if v ≤ w then w else v⟩

/-- Whether a declaration with this verdict is exported at all. -/
def isIncluded (v : Verdict) : Bool := Verdict.declaration ≤ v

/-- Whether a declaration with this verdict is exported in full. -/
def isFull (v : Verdict) : Bool := Verdict.definition ≤ v

/-- The name of a verdict in log events. -/
def text : Verdict → String
  | .exclude => "Exclude"
  | .unspecified => "Unspecified"
  | .declaration => "Declaration"
  | .definition => "Definition"

end Verdict

/-! ## §2. Reductions. -/

/-- How several verdicts become one. -/
inductive Reduction where
  /-- The least: any exclusion wins. -/
  | min
  /-- The greatest: any inclusion wins. -/
  | max
  deriving Repr, DecidableEq

namespace Reduction

/-- The verdict that reducing with changes nothing. -/
def identity : Reduction → Verdict
  | .min => .definition
  | .max => .exclude

/-- Two verdicts reduced. -/
def reduce (r : Reduction) (v w : Verdict) : Verdict :=
  match r with
  | .min => Min.min v w
  | .max => Max.max v w

/-- A list of verdicts reduced. -/
def fold (r : Reduction) (vs : List Verdict) : Verdict :=
  vs.foldl r.reduce r.identity

end Reduction

end DeclExport
