/-
  DeclExport.Proofs.Selection.Tightening
  ────────────────────────────────
  **FILTERS THAT ARE TIGHTENED.**

  A filter can be given more to object to: more roots that count as system regions, or a
  table with fewer annotations.  Either way no verdict of a leaf rises.  Both reductions
  are monotone, so no verdict of a tree rises, however deep the leaf is
  (`verdict_combine_le`):

      more roots, same table          verdict_le_of_rootsAdded
      same roots, fewer annotations   verdict_le_of_has_imp

  A custom judge is bound to nothing, and may take fewer annotations for a reason to
  include; so the second asks for a tree that is built in.
-/
import Mathlib.Data.List.Forall2
import Mathlib.Logic.Relation
import DeclExport.Proofs.Selection.Formula
import DeclExport.Proofs.Source.Regions

namespace DeclExport

/-! ## §1. Verdicts that rise together. -/

namespace Verdict

theorem le_refl (v : Verdict) : v ≤ v := Nat.le_refl v.rank

theorem le_trans {u v w : Verdict} (huv : u ≤ v) (hvw : v ≤ w) : u ≤ w := Nat.le_trans huv hvw

/-- A verdict is at most another one that reaches every level above `exclude` that it
does. -/
theorem le_of_forall_le_imp {v w : Verdict} (h : ∀ l ≠ exclude, l ≤ v → l ≤ w) : v ≤ w := by
  by_cases hv : v = .exclude
  · rw [hv]
    exact exclude_le w
  · exact h v hv (le_refl v)

/-- Whoever is included is included by every verdict above. -/
theorem isIncluded_of_le {v w : Verdict} (h : v ≤ w) (hv : v.isIncluded = true) :
    w.isIncluded = true := by
  rw [isIncluded, decide_eq_true_iff] at hv ⊢
  exact le_trans hv h

end Verdict

namespace Reduction

/-- What holds of all or of some verdicts is handed on one by one. -/
theorem Holds.imp {r : Reduction} {P Q : Verdict → Prop} {vs ws : List Verdict}
    (hvs : r.Holds P vs) (h : List.Forall₂ (fun v w => P v → Q w) vs ws) : r.Holds Q ws := by
  induction h with
  | nil =>
      cases r with
      | min => exact List.forall_mem_nil Q
      | max => simp [Holds] at hvs
  | @cons v w _ _ hvw _ ih =>
      cases r with
      | min =>
          obtain ⟨hv, hrest⟩ := List.forall_mem_cons.mp hvs
          exact List.forall_mem_cons.mpr ⟨hvw hv, ih hrest⟩
      | max =>
          obtain ⟨x, hx, hPx⟩ := hvs
          rcases List.mem_cons.mp hx with rfl | hrest
          · exact ⟨w, List.mem_cons_self .., hvw hPx⟩
          · obtain ⟨y, hy, hQy⟩ := ih ⟨x, hrest, hPx⟩
            exact ⟨y, List.mem_cons_of_mem w hy, hQy⟩

/-- **Reductions are monotone.** -/
theorem fold_le_fold (r : Reduction) {vs ws : List Verdict} (h : List.Forall₂ (· ≤ ·) vs ws) :
    r.fold vs ≤ r.fold ws := by
  refine Verdict.le_of_forall_le_imp fun l hl hvs => ?_
  rw [le_fold_iff r hl] at hvs ⊢
  exact hvs.imp (h.imp fun _ _ hvw hv => Verdict.le_trans hv hvw)

end Reduction

namespace Filter

/-! ## §2. Trees whose leaves are tightened. -/

/-- Filters without a custom judge in them. -/
inductive IsBuiltIn : Filter → Prop
  | everything (v : Verdict) : IsBuiltIn (.everything v)
  | noSystemHeaders (roots : List String) : IsBuiltIn (.noSystemHeaders roots)
  | annotatedWith (key : String) : IsBuiltIn (.annotatedWith key)
  | combine {r : Reduction} {fs : List Filter} :
      (∀ f ∈ fs, IsBuiltIn f) → IsBuiltIn (.combine r fs)

/-- A tree of which one leaf, at any place, is given more roots. -/
inductive RootsAdded : Filter → Filter → Prop
  | leaf {roots roots' : List String} :
      roots ⊆ roots' → RootsAdded (.noSystemHeaders roots) (.noSystemHeaders roots')
  /-- Inside of a filter of a combination. -/
  | inside {r : Reduction} {f g : Filter} (before after : List Filter) :
      RootsAdded f g →
      RootsAdded (.combine r (before ++ f :: after)) (.combine r (before ++ g :: after))

/-- Combinations of filters none of which says more. -/
theorem verdict_combine_le {cx cx' : Context} {d : Decl} (r : Reduction) {fs gs : List Filter}
    (h : List.Forall₂ (fun f g => g.verdict cx' d ≤ f.verdict cx d) fs gs) :
    (combine r gs).verdict cx' d ≤ (combine r fs).verdict cx d := by
  rw [verdict, verdict, verdicts_eq_map, verdicts_eq_map]
  refine r.fold_le_fold ?_
  rw [List.forall₂_map_left_iff, List.forall₂_map_right_iff]
  exact h.flip

/-- The verdict of a gate that is open to whoever meets a condition. -/
theorem gate_le {p q : Bool} (h : p = true → q = true) :
    (if p then Verdict.definition else .exclude) ≤ if q then .definition else .exclude := by
  revert h
  cases p <;> cases q <;> decide

/-! ## §3. More roots. -/

theorem isSystemLocation_of_subset {u : SourceUnit} {l : Location} {roots roots' : List String}
    (h : roots ⊆ roots') (hl : u.isSystemLocation l roots = true) :
    u.isSystemLocation l roots' = true := by
  obtain ⟨f, hreach, hf⟩ := SourceUnit.isSystemLocation_iff.mp hl
  refine SourceUnit.isSystemLocation_iff.mpr ⟨f, hreach, ?_⟩
  rw [SourceFile.isSystem, Bool.or_eq_true, List.any_eq_true] at hf ⊢
  refine hf.imp_right ?_
  rintro ⟨root, hroot, hunder⟩
  exact ⟨root, h hroot, hunder⟩

/-- **Roots that are added** make no verdict rise, custom judges or not. -/
theorem verdict_le_of_rootsAdded {f g : Filter} (h : RootsAdded f g) (cx : Context) (d : Decl) :
    g.verdict cx d ≤ f.verdict cx d := by
  induction h with
  | @leaf roots roots' hroots =>
      rw [verdict, verdict]
      cases d.location with
      | none => exact Verdict.le_refl _
      | some l =>
          dsimp only
          by_cases hl : cx.unit.isSystemLocation l roots = true
          · rw [if_pos (isSystemLocation_of_subset hroots hl)]
            exact Verdict.exclude_le _
          · rw [if_neg hl]
            exact Verdict.le_definition _
  | @inside r f g before after _ ih =>
      -- the filters around the one that is tightened say what they said
      have hsame : ∀ fs : List Filter,
          List.Forall₂ (fun f g => g.verdict cx d ≤ f.verdict cx d) fs fs := fun fs =>
        List.forall₂_same.mpr fun f _ => Verdict.le_refl _
      exact verdict_combine_le r (List.rel_append (hsame before) (.cons ih (hsame after)))

/-! ## §4. Fewer annotations. -/

/-- **Annotations that are taken away** make no verdict of a built-in tree rise. -/
theorem verdict_le_of_has_imp {f : Filter} (hf : f.IsBuiltIn) {t t' : AnnotationTable}
    (h : ∀ id key, t'.has id key = true → t.has id key = true) (u : SourceUnit) (d : Decl) :
    f.verdict ⟨u, t'⟩ d ≤ f.verdict ⟨u, t⟩ d := by
  induction hf with
  | everything v => exact Verdict.le_refl v
  | noSystemHeaders roots => exact Verdict.le_refl _
  | annotatedWith key => exact gate_le (h d.id key)
  | @combine r fs _ ih => exact verdict_combine_le r (List.forall₂_same.mpr ih)

/-- **Filters that are tightened at leaves and in their table** let no more through. -/
theorem verdict_le_of_tightened {f g : Filter} (hf : f.IsBuiltIn)
    (hroots : Relation.ReflTransGen RootsAdded f g) {t t' : AnnotationTable}
    (htable : ∀ id key, t'.has id key = true → t.has id key = true) (u : SourceUnit) (d : Decl) :
    g.verdict ⟨u, t'⟩ d ≤ f.verdict ⟨u, t⟩ d := by
  refine Verdict.le_trans ?_ (verdict_le_of_has_imp hf htable u d)
  induction hroots with
  | refl => exact Verdict.le_refl _
  | tail _ hstep ih => exact Verdict.le_trans (verdict_le_of_rootsAdded hstep _ d) ih

end Filter

end DeclExport
