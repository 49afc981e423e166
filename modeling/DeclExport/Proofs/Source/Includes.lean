/-
  DeclExport.Proofs.Source.Includes
  ────────────────────────────────
  **INCLUDE CHAINS AGAINST REACHABILITY.**

  A file stands in at most one file, so from every file on there is one way up.
  The include chain walks it for a bounded number of steps:

      f  ⟶  includer of f  ⟶  includer of that  ⟶  …

  Where no cycle is reached, no file is met twice, and there are no more files
  on the way than in the unit (`length_includeChain_le`).  Where one is, every
  file on the way has an includer, and the walk uses up all of its steps
  (`length_includeChain_of_reachesCycle`).  So one step more than there are
  files tells the two apart, which is `isCyclicFrom_iff`.
-/
import Mathlib.Data.List.Chain
import Mathlib.Data.List.Nodup
import Mathlib.Data.List.Perm.Subperm
import Mathlib.Logic.Relation
import DeclExport.Source.Unit

namespace DeclExport.SourceUnit

open Relation

/-! ## §1. Files that are known. -/

theorem mem_of_file? {u : SourceUnit} {id : FileId} {f : SourceFile}
    (h : u.file? id = some f) : f ∈ u.files :=
  List.mem_of_find?_eq_some h

theorem id_of_file? {u : SourceUnit} {id : FileId} {f : SourceFile}
    (h : u.file? id = some f) : f.id = id := by
  have hfound := List.find?_some h
  simpa using hfound

/-- Where identities are distinct, a file is found under its own. -/
theorem file?_id {u : SourceUnit} (hnodup : (u.files.map (·.id)).Nodup) {f : SourceFile}
    (hf : f ∈ u.files) : u.file? f.id = some f := by
  have hsome : (u.file? f.id).isSome = true :=
    List.find?_isSome.mpr ⟨f, hf, by simp⟩
  obtain ⟨g, hg⟩ := Option.isSome_iff_exists.mp hsome
  -- the file that is found may be another one, but not with the same identity
  have hgf : g = f :=
    List.inj_on_of_nodup_map hnodup (mem_of_file? hg) hf (id_of_file? hg)
  rw [hg, hgf]

/-! ## §2. Inclusion as a relation. -/

/-- `g` is the file that included `f`: the first one with the identity that `f`
names as its includer. -/
def IncludedFrom (u : SourceUnit) (f g : SourceFile) : Prop :=
  ∃ id, f.includedFrom = some id ∧ u.file? id = some g

/-- Following the includers from a file on leads to a file that is met again:
`f` is on a cycle, or off it and leads into it. -/
def ReachesCycle (u : SourceUnit) (f : SourceFile) : Prop :=
  ∃ g, ReflTransGen u.IncludedFrom f g ∧ TransGen u.IncludedFrom g g

/-- A file that reaches a cycle has an includer that does. -/
theorem ReachesCycle.includer {u : SourceUnit} {f : SourceFile} (h : u.ReachesCycle f) :
    ∃ g, u.IncludedFrom f g ∧ u.ReachesCycle g := by
  obtain ⟨c, hfc, hcycle⟩ := h
  rcases ReflTransGen.cases_head hfc with rfl | ⟨g, hfg, hgc⟩
  · -- on the cycle: one step along it
    obtain ⟨g, hfg, hgf⟩ := TransGen.head'_iff.mp hcycle
    exact ⟨g, hfg, f, hgf, hcycle⟩
  · exact ⟨g, hfg, c, hgc, hcycle⟩

/-! ## §3. The chain follows the relation. -/

theorem includeChain_succ {u : SourceUnit} {id : FileId} {f : SourceFile}
    (h : u.file? id = some f) (k : Nat) :
    u.includeChain (k + 1) id
      = f :: (f.includedFrom.map (u.includeChain k)).getD [] := by
  rw [includeChain, h]
  cases hf : f.includedFrom with
  | none => simp [hf]
  | some parent => simp [hf]

theorem includeChain_of_unknown {u : SourceUnit} {id : FileId} (h : u.file? id = none)
    (k : Nat) : u.includeChain k id = [] := by
  cases k with
  | zero => rfl
  | succ k => rw [includeChain, h]

/-- A chain begins with the file that it is asked for. -/
theorem file?_of_head? {u : SourceUnit} {k : Nat} {id : FileId} {f : SourceFile}
    (h : (u.includeChain k id).head? = some f) : u.file? id = some f := by
  cases k with
  | zero => simp [includeChain] at h
  | succ k =>
      cases hid : u.file? id with
      | none => simp [includeChain_of_unknown hid] at h
      | some g =>
          rw [includeChain_succ hid, List.head?_cons] at h
          exact h

/-- Every file of a chain is included from the next. -/
theorem isChain_includeChain (u : SourceUnit) :
    ∀ (k : Nat) (id : FileId), (u.includeChain k id).IsChain u.IncludedFrom
  | 0, _ => List.isChain_nil
  | k + 1, id => by
      cases hid : u.file? id with
      | none =>
          rw [includeChain_of_unknown hid]
          exact List.isChain_nil
      | some f =>
          rw [includeChain_succ hid, List.isChain_cons]
          cases hf : f.includedFrom with
          | none => simp
          | some parent =>
              refine ⟨fun g hg => ⟨parent, hf, file?_of_head? hg⟩, ?_⟩
              exact isChain_includeChain u k parent

theorem includeChain_subset (u : SourceUnit) :
    ∀ (k : Nat) (id : FileId), u.includeChain k id ⊆ u.files
  | 0, _ => List.nil_subset _
  | k + 1, id => by
      cases hid : u.file? id with
      | none =>
          rw [includeChain_of_unknown hid]
          exact List.nil_subset _
      | some f =>
          rw [includeChain_succ hid]
          refine List.cons_subset.mpr ⟨mem_of_file? hid, ?_⟩
          cases f.includedFrom with
          | none => exact List.nil_subset _
          | some parent => exact includeChain_subset u k parent

/-- Earlier files of a chain lead to the later ones. -/
theorem pairwise_includeChain (u : SourceUnit) (k : Nat) (id : FileId) :
    (u.includeChain k id).Pairwise (TransGen u.IncludedFrom) :=
  ((isChain_includeChain u k id).imp fun _ _ h => .single h).pairwise

/-- All files of a chain are reached from the one that it begins with. -/
theorem reached_of_mem_includeChain {u : SourceUnit} {k : Nat} {id : FileId}
    {f g : SourceFile} (hid : u.file? id = some f) (hg : g ∈ u.includeChain k id) :
    ReflTransGen u.IncludedFrom f g := by
  have hpairs := pairwise_includeChain u k id
  cases hchain : u.includeChain k id with
  | nil => simp [hchain] at hg
  | cons f' rest =>
      have hf' : u.file? id = some f' := file?_of_head? (k := k) (by rw [hchain]; rfl)
      obtain rfl : f' = f := Option.some.inj (hf'.symm.trans hid)
      rw [hchain] at hg hpairs
      rcases List.mem_cons.mp hg with rfl | hrest
      · exact .refl
      · exact ((List.pairwise_cons.mp hpairs).1 g hrest).to_reflTransGen

/-! ## §4. How long chains are. -/

/-- **Pigeonhole**: a chain that reaches no cycle meets no file twice, so it is no
longer than the unit has files. -/
theorem length_includeChain_le {u : SourceUnit} {id : FileId} {f : SourceFile}
    (hid : u.file? id = some f) (hf : ¬ u.ReachesCycle f) (k : Nat) :
    (u.includeChain k id).length ≤ u.files.length := by
  have hnodup : (u.includeChain k id).Nodup := by
    refine (pairwise_includeChain u k id).imp_of_mem fun {g h} hg _ hgh heq => ?_
    -- a file met twice would lead back to itself
    subst heq
    exact hf ⟨g, reached_of_mem_includeChain hid hg, hgh⟩
  exact (hnodup.subperm (includeChain_subset u k id)).length_le

/-- A chain that reaches a cycle never ends. -/
theorem length_includeChain_of_reachesCycle {u : SourceUnit} :
    ∀ (k : Nat) {id : FileId} {f : SourceFile}, u.file? id = some f → u.ReachesCycle f →
      (u.includeChain k id).length = k
  | 0, _, _, _, _ => rfl
  | k + 1, id, f, hid, hf => by
      -- the includer reaches the cycle too, so the rest of the chain is as long as it can be
      obtain ⟨g, ⟨parent, hparent, hg⟩, hgcycle⟩ := hf.includer
      have hrest := length_includeChain_of_reachesCycle k hg hgcycle
      rw [includeChain_succ hid, hparent, List.length_cons]
      show (u.includeChain k parent).length + 1 = k + 1
      rw [hrest]

/-- **The bounded test is exact**: one step more than there are files is used up
exactly if a cycle is reached. -/
theorem isCyclicFrom_iff {u : SourceUnit} {id : FileId} {f : SourceFile}
    (hid : u.file? id = some f) : u.isCyclicFrom id = true ↔ u.ReachesCycle f := by
  rw [isCyclicFrom, decide_eq_true_iff]
  constructor
  · intro hlong
    by_contra hf
    have hshort := length_includeChain_le hid hf (u.files.length + 1)
    omega
  · intro hf
    rw [length_includeChain_of_reachesCycle _ hid hf]
    omega

end DeclExport.SourceUnit
