/-
  DeclExport.Proofs.Selection.Formula
  ────────────────────────────────
  **FILTERS ARE MONOTONE FORMULAS.**

  Asked for one level of the chain of verdicts, a tree of filters answers like a
  formula without negation:

      combine min fs    all of fs
      combine max fs    some of fs
      a leaf            its verdict is at least the level

  There is one formula for each level above `exclude`, which every verdict is at
  least.  Formulas do not care for the order of their parts, for repetitions, or for
  brackets between equal connectives, and a verdict is known from the levels that it
  is at least; so none of that can change a verdict, at any place of the tree.
-/
import Mathlib.Logic.Basic
import Mathlib.Logic.Relation
import DeclExport.Proofs.Selection.Reduction

namespace DeclExport

/-! ## §1. Verdicts from their levels. -/

namespace Verdict

theorem exclude_le (v : Verdict) : .exclude ≤ v := by
  cases v <;> decide

/-- A verdict is known from the levels above `exclude` that it is at least. -/
theorem eq_of_forall_le_iff {v w : Verdict} (h : ∀ l ≠ exclude, l ≤ v ↔ l ≤ w) : v = w := by
  have hunspecified := h .unspecified (by decide)
  have hdeclaration := h .declaration (by decide)
  have hdefinition := h .definition (by decide)
  revert hunspecified hdeclaration hdefinition
  cases v <;> cases w <;> decide

end Verdict

namespace Filter

variable (cx : Context) (d : Decl) (v : Verdict)

/-! ## §2. The formula of a level. -/

mutual

/-- What a filter says as a formula about the level `v`. -/
def passes : Filter → Bool
  | .combine .min fs => allPass fs
  | .combine .max fs => somePasses fs
  | f => v ≤ f.verdict cx d

/-- All of several filters. -/
def allPass : List Filter → Bool
  | [] => true
  | f :: fs => passes f && allPass fs

/-- Some of several filters. -/
def somePasses : List Filter → Bool
  | [] => false
  | f :: fs => passes f || somePasses fs

end

theorem allPass_eq_all (fs : List Filter) : allPass cx d v fs = fs.all (passes cx d v) := by
  induction fs with
  | nil => rfl
  | cons f fs ih => rw [allPass, List.all_cons, ih]

theorem somePasses_eq_any (fs : List Filter) :
    somePasses cx d v fs = fs.any (passes cx d v) := by
  induction fs with
  | nil => rfl
  | cons f fs ih => rw [somePasses, List.any_cons, ih]

/-- A combination says of its filters what its reduction says of verdicts. -/
theorem passes_min (fs : List Filter) :
    passes cx d v (.combine .min fs) = fs.all (passes cx d v) := by
  rw [passes, allPass_eq_all]

theorem passes_max (fs : List Filter) :
    passes cx d v (.combine .max fs) = fs.any (passes cx d v) := by
  rw [passes, somePasses_eq_any]

variable {cx d v}

mutual

/-- Above `exclude`, the verdict of a tree is at least the level that its formula is
about, if the formula holds. -/
theorem passes_iff (hv : v ≠ .exclude) :
    ∀ f : Filter, passes cx d v f = true ↔ v ≤ f.verdict cx d
  | .everything _ => decide_eq_true_iff
  | .noSystemHeaders _ => decide_eq_true_iff
  | .annotatedWith _ => decide_eq_true_iff
  | .custom _ => decide_eq_true_iff
  | .combine .min fs => by
      rw [passes_min, le_verdict_combine_iff cx d _ fs hv, List.all_eq_true]
      show _ ↔ ∀ w ∈ fs.map (verdict cx d), v ≤ w
      rw [List.forall_mem_map]
      exact forall₂_congr (passes_iff_of_mem hv fs)
  | .combine .max fs => by
      rw [passes_max, le_verdict_combine_iff cx d _ fs hv, List.any_eq_true]
      show _ ↔ ∃ w ∈ fs.map (verdict cx d), v ≤ w
      simp only [List.mem_map, exists_exists_and_eq_and]
      exact exists_congr fun f => and_congr_right (passes_iff_of_mem hv fs f)

theorem passes_iff_of_mem (hv : v ≠ .exclude) :
    ∀ fs : List Filter, ∀ f ∈ fs, passes cx d v f = true ↔ v ≤ f.verdict cx d
  | f :: fs, g, hg => by
      rcases List.mem_cons.mp hg with hhead | hrest
      · rw [hhead]
        exact passes_iff hv f
      · exact passes_iff_of_mem hv fs g hrest

end

/-! ## §3. Trees that are rearranged. -/

/-- One change to a tree, at any place of it, that leaves what it is a formula of. -/
inductive Rearranged : Filter → Filter → Prop
  /-- The filters of a combination in another order. -/
  | reordered {r : Reduction} {fs gs : List Filter} :
      fs.Perm gs → Rearranged (.combine r fs) (.combine r gs)
  /-- A filter of a combination once more. -/
  | repeated {r : Reduction} {f : Filter} {fs : List Filter} :
      f ∈ fs → Rearranged (.combine r fs) (.combine r (f :: fs))
  /-- The filters of a combination in its place, in one of the same reduction. -/
  | spliced {r : Reduction} (before fs after : List Filter) :
      Rearranged (.combine r (before ++ .combine r fs :: after))
        (.combine r (before ++ fs ++ after))
  /-- Inside of a filter of a combination. -/
  | inside {r : Reduction} {f g : Filter} (before after : List Filter) :
      Rearranged f g →
      Rearranged (.combine r (before ++ f :: after)) (.combine r (before ++ g :: after))

/-- A change leaves the formula of every level as it is. -/
theorem passes_eq_of_rearranged {f g : Filter} (h : Rearranged f g) :
    passes cx d v f = passes cx d v g := by
  induction h with
  | @reordered r fs gs hperm =>
      cases r with
      | min => rw [passes_min, passes_min, hperm.all_eq]
      | max => rw [passes_max, passes_max, hperm.any_eq]
  | @repeated r f fs hf =>
      cases r with
      | min =>
          have hfs : fs.all (passes cx d v) = true → passes cx d v f = true := fun h =>
            List.all_eq_true.mp h f hf
          rw [Bool.eq_iff_iff, passes_min, passes_min, List.all_cons, Bool.and_eq_true]
          exact (and_iff_right_of_imp hfs).symm
      | max =>
          have hfs : passes cx d v f = true → fs.any (passes cx d v) = true := fun h =>
            List.any_eq_true.mpr ⟨f, hf, h⟩
          rw [Bool.eq_iff_iff, passes_max, passes_max, List.any_cons, Bool.or_eq_true]
          exact (or_iff_right_of_imp hfs).symm
  | @spliced r before fs after =>
      cases r with
      | min => simp [passes_min]
      | max => simp [passes_max]
  | @inside r f g before after _ ih =>
      cases r with
      | min => simp [passes_min, ih]
      | max => simp [passes_max, ih]

/-! ## §4. THE FORMULA THEOREM. -/

/-- **A tree of filters is a monotone formula**: its verdict is at least a level if and
only if the level is `exclude` or the formula of the level holds, whatever its leaves
are and however they are combined.  So trees that come out of one another by
reordering and repeating filters of combinations, and by splicing combinations into
others of the same reduction, at any places and any number of times, agree on every
declaration. -/
theorem verdict_is_formula (cx : Context) (d : Decl) :
    (∀ (f : Filter) (v : Verdict),
        v ≤ f.verdict cx d ↔ v = .exclude ∨ passes cx d v f = true)
      ∧ ∀ f g : Filter, Relation.EqvGen Rearranged f g → f.verdict cx d = g.verdict cx d := by
  refine ⟨fun f v => ?_, fun f g h => ?_⟩
  · by_cases hv : v = .exclude
    · simp [hv, Verdict.exclude_le]
    · simp [hv, passes_iff hv f]
  · induction h with
    | rel f g hstep =>
        refine Verdict.eq_of_forall_le_iff fun l hl => ?_
        rw [← passes_iff hl f, ← passes_iff hl g, passes_eq_of_rearranged hstep]
    | refl f => rfl
    | symm f g _ ih => exact ih.symm
    | trans f g h _ _ ih ih' => exact ih.trans ih'

/-- A tree with both reductions and its rearrangement: a combination that is spliced, two
filters that change places, and one that is repeated. -/
theorem verdict_is_formula_of_mixed :
    let cx : Context := ⟨⟨[], []⟩, .empty⟩
    let d : Decl := ⟨⟨1⟩, "t", [], none, none, .typedef .void⟩
    let judge : Filter := .custom fun d _ => if d.isDefinition then .definition else .exclude
    let f : Filter := .combine .min
      [.everything .declaration, .combine .max [.combine .max [.noSystemHeaders []], judge]]
    let g : Filter := .combine .min
      [.combine .max [judge, .noSystemHeaders [], judge], .everything .declaration]
    Relation.EqvGen Rearranged f g ∧ f.verdict cx d = .declaration
      ∧ g.verdict cx d = .declaration := by
  intro cx d judge f g
  have hspliced : Rearranged f (.combine .min
      [.everything .declaration, .combine .max [.noSystemHeaders [], judge]]) :=
    .inside [_] [] (.spliced [] [_] [_])
  have hrepeated : Rearranged (.combine .min
        [.everything .declaration, .combine .max [.noSystemHeaders [], judge]])
      (.combine .min
        [.everything .declaration, .combine .max [judge, .noSystemHeaders [], judge]]) :=
    .inside [_] [] (.repeated (by simp))
  have hrearranged : Relation.EqvGen Rearranged f g :=
    .trans _ _ _ (.rel _ _ hspliced)
      (.trans _ _ _ (.rel _ _ hrepeated) (.rel _ _ (.reordered (.swap _ _ _))))
  have hlevel : g.verdict cx d = .declaration := rfl
  obtain ⟨-, hagree⟩ := verdict_is_formula cx d
  exact ⟨hrearranged, (hagree f g hrearranged).trans hlevel, hlevel⟩

end Filter

end DeclExport
