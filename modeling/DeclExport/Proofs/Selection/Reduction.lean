/-
  DeclExport.Proofs.Selection.Reduction
  ────────────────────────────────
  **WHAT A REDUCED VERDICT IS AT LEAST.**

  Verdicts are a chain, so a verdict is known from the verdicts that it is at
  least.  Reduced to the least, a list is at least `v` if all of it is; reduced to
  the greatest, if some of it is.  The verdict that an empty list is reduced to is
  the one exception that is none: every verdict is at least `exclude`, so that
  question is not asked of the greatest.

      v ≤ min of vs   ↔  ∀ w ∈ vs, v ≤ w
      v ≤ max of vs   ↔  ∃ w ∈ vs, v ≤ w        (v ≠ exclude)
-/
import DeclExport.Selection.Filter

namespace DeclExport

namespace Verdict

theorem le_min_iff (u v w : Verdict) : u ≤ min v w ↔ u ≤ v ∧ u ≤ w := by
  cases u <;> cases v <;> cases w <;> decide

theorem le_max_iff (u v w : Verdict) : u ≤ max v w ↔ u ≤ v ∨ u ≤ w := by
  cases u <;> cases v <;> cases w <;> decide

theorem le_definition (v : Verdict) : v ≤ .definition := by
  cases v <;> decide

theorem le_exclude_iff (v : Verdict) : v ≤ .exclude ↔ v = .exclude := by
  cases v <;> decide

end Verdict

namespace Reduction

/-- A statement about verdicts, of all or of some of them. -/
def Holds (r : Reduction) (P : Verdict → Prop) (vs : List Verdict) : Prop :=
  match r with
  | .min => ∀ v ∈ vs, P v
  | .max => ∃ v ∈ vs, P v

theorem le_foldl_min (v : Verdict) (vs : List Verdict) :
    ∀ acc, v ≤ vs.foldl Reduction.min.reduce acc ↔ v ≤ acc ∧ ∀ w ∈ vs, v ≤ w := by
  induction vs with
  | nil => intro acc; simp
  | cons w vs ih =>
      intro acc
      have hstep : v ≤ Reduction.min.reduce acc w ↔ v ≤ acc ∧ v ≤ w := Verdict.le_min_iff v acc w
      rw [List.foldl_cons, ih, hstep, List.forall_mem_cons, and_assoc]

theorem le_foldl_max (v : Verdict) (vs : List Verdict) :
    ∀ acc, v ≤ vs.foldl Reduction.max.reduce acc ↔ v ≤ acc ∨ ∃ w ∈ vs, v ≤ w := by
  induction vs with
  | nil => intro acc; simp
  | cons w vs ih =>
      intro acc
      have hstep : v ≤ Reduction.max.reduce acc w ↔ v ≤ acc ∨ v ≤ w := Verdict.le_max_iff v acc w
      rw [List.foldl_cons, ih, hstep, or_assoc]
      simp [or_and_right, exists_or]

/-- **A reduced verdict is at least `v`** if all of the verdicts are, or some. -/
theorem le_fold_iff (r : Reduction) {v : Verdict} (hv : v ≠ .exclude) (vs : List Verdict) :
    v ≤ r.fold vs ↔ r.Holds (v ≤ ·) vs := by
  cases r with
  | min =>
      have hall := le_foldl_min v vs .definition
      simpa [fold, identity, Holds, Verdict.le_definition] using hall
  | max =>
      have hsome := le_foldl_max v vs .exclude
      simpa [fold, identity, Holds, Verdict.le_exclude_iff, hv] using hsome

end Reduction

namespace Filter

theorem verdicts_eq_map (cx : Context) (d : Decl) (fs : List Filter) :
    verdicts cx d fs = fs.map (verdict cx d) := by
  induction fs with
  | nil => rfl
  | cons f fs ih => rw [verdicts, ih, List.map_cons]

/-- **A combination is at least `v`** if all of its filters are, or some. -/
theorem le_verdict_combine_iff (cx : Context) (d : Decl) (r : Reduction) (fs : List Filter)
    {v : Verdict} (hv : v ≠ .exclude) :
    v ≤ (combine r fs).verdict cx d ↔ r.Holds (v ≤ ·) (fs.map (verdict cx d)) := by
  rw [verdict, verdicts_eq_map]
  exact r.le_fold_iff hv _

end Filter

end DeclExport
