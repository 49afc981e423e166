/-
  DeclExport.Proofs.Source.Regions
  ────────────────────────────────
  **SYSTEM REGIONS AGAINST REACHABILITY.**

  A place is in a system region if a system header is reached from its file by
  following the includers.  The include chain that is searched for one is cut
  after as many files as the unit has, whether the unit is valid or not.  The cut
  hides nothing: a file that is reached at all is reached without meeting any file
  twice (`exists_nodup_chain`), hence within that many files, and the chain goes
  the only way there is (`isPrefix_includeChain`).

      g ∈ includeChain (files.length + more) id  ↔  g is reached from id
-/
import DeclExport.Proofs.Source.Includes

namespace DeclExport

open Relation

/-- What is reached at all is reached without coming by anything twice. -/
theorem exists_nodup_chain {α : Type} {r : α → α → Prop} {a b : α} (h : ReflTransGen r a b) :
    ∃ l, (a :: l).IsChain r ∧ (a :: l).Nodup ∧ (a :: l).getLast? = some b := by
  induction h using ReflTransGen.head_induction_on with
  | refl => exact ⟨[], by simp, by simp, by simp⟩
  | @head a c hac _ ih =>
      obtain ⟨l, hchain, hnodup, hlast⟩ := ih
      by_cases ha : a ∈ c :: l
      · -- the way comes by `a` again, so it is begun there
        obtain ⟨xs, ys, hsplit⟩ := List.append_of_mem ha
        rw [hsplit] at hchain hnodup hlast
        refine ⟨ys, (List.isChain_append.mp hchain).2.1, (List.nodup_append.mp hnodup).2.1, ?_⟩
        rwa [List.getLast?_append_of_ne_nil _ (List.cons_ne_nil a ys)] at hlast
      · refine ⟨c :: l, List.isChain_cons_cons.mpr ⟨hac, hchain⟩,
          List.nodup_cons.mpr ⟨ha, hnodup⟩, ?_⟩
        rwa [List.getLast?_cons_cons]

namespace SourceUnit

/-! ## §1. Files that are reached. -/

/-- A file is reached from an identity: it is the file with the identity, or one
that is come to from there by following the includers. -/
def Reaches (u : SourceUnit) (id : FileId) (f : SourceFile) : Prop :=
  ∃ g, u.file? id = some g ∧ ReflTransGen u.IncludedFrom g f

/-- The include chain goes the only way there is, as far as it goes. -/
theorem isPrefix_includeChain {u : SourceUnit} :
    ∀ (fs : List SourceFile) {id : FileId} {f : SourceFile} {k : Nat},
      u.file? id = some f → (f :: fs).IsChain u.IncludedFrom → fs.length < k →
        (f :: fs) <+: u.includeChain k id
  | [], id, f, k + 1, hid, _, _ => by
      rw [includeChain_succ hid]
      exact List.cons_prefix_cons.mpr ⟨rfl, List.nil_prefix⟩
  | g :: fs, id, f, k + 1, hid, hchain, hk => by
      obtain ⟨⟨parent, hparent, hg⟩, hrest⟩ := List.isChain_cons_cons.mp hchain
      have hshort : fs.length < k := by simpa using hk
      rw [includeChain_succ hid, hparent]
      exact List.cons_prefix_cons.mpr ⟨rfl, isPrefix_includeChain fs hg hrest hshort⟩

/-- **No cut hides a file**: a walk of as many steps as the unit has files, or of any
more, holds the files that are reached and no others. -/
theorem mem_includeChain_add_iff {u : SourceUnit} {id : FileId} {f : SourceFile} (more : Nat) :
    f ∈ u.includeChain (u.files.length + more) id ↔ u.Reaches id f := by
  constructor
  · intro hf
    cases hid : u.file? id with
    | none => simp [includeChain_of_unknown hid] at hf
    | some g => exact ⟨g, hid, reached_of_mem_includeChain hid hf⟩
  · rintro ⟨g, hid, hreach⟩
    obtain ⟨fs, hchain, hnodup, hlast⟩ := exists_nodup_chain hreach
    -- no file is met twice, so there are no more of them than in the unit
    have hlong := isPrefix_includeChain fs hid hchain (Nat.lt_succ_self _)
    have hfiles : (g :: fs) ⊆ u.files :=
      fun x hx => includeChain_subset u _ id (hlong.subset hx)
    have hshort : fs.length < u.files.length := (hnodup.subperm hfiles).length_le
    exact (isPrefix_includeChain fs hid hchain (Nat.lt_add_right more hshort)).subset
      (List.mem_of_getLast? hlast)

/-! ## §2. System regions. -/

/-- A place is in a system region exactly if a system header is reached from its
file. -/
theorem isSystemLocation_iff {u : SourceUnit} {l : Location} {roots : List String} :
    u.isSystemLocation l roots = true
      ↔ ∃ f, u.Reaches l.file f ∧ f.isSystem roots = true := by
  rw [isSystemLocation, List.any_eq_true]
  exact exists_congr fun f => and_congr_left fun _ => mem_includeChain_add_iff 0

/-- Outside of all system regions: the declaration has a place, and no file that is
reached from there is a system header or lies under one of the roots. -/
def IsOutside (u : SourceUnit) (roots : List String) (d : Decl) : Prop :=
  ∃ l, d.location = some l ∧ ∀ f, u.Reaches l.file f →
    f.provenance ≠ .system ∧ ∀ root ∈ roots, ¬ Path.isUnder f.path root = true

theorem isOutside_iff {u : SourceUnit} {roots : List String} {d : Decl} :
    u.IsOutside roots d ↔ ∃ l, d.location = some l ∧ u.isSystemLocation l roots = false := by
  refine exists_congr fun l => and_congr_right fun _ => ?_
  rw [← Bool.not_eq_true, isSystemLocation_iff]
  simp [SourceFile.isSystem]

/-- Whether a declaration is outside is decided by its include chain. -/
instance (u : SourceUnit) (roots : List String) (d : Decl) : Decidable (u.IsOutside roots d) :=
  match h : d.location with
  | none => .isFalse fun houtside => by
      obtain ⟨l, hl, _⟩ := houtside
      exact absurd (h.symm.trans hl) (by simp)
  | some l =>
      decidable_of_iff (u.isSystemLocation l roots = false) <| by
        rw [isOutside_iff, h]
        simp

/-! ## §3. THE REGION THEOREM. -/

/-- An identity stands for the first file that carries it. -/
theorem file?_eq_some_iff {u : SourceUnit} {id : FileId} {f : SourceFile} :
    u.file? id = some f ↔ f.id = id
      ∧ ∃ before after, u.files = before ++ f :: after ∧ ∀ g ∈ before, g.id ≠ id := by
  simp [file?, List.find?_eq_some_iff_append]

/-- A longer walk begins with the shorter one. -/
theorem take_includeChain (u : SourceUnit) :
    ∀ (k more : Nat) (id : FileId),
      (u.includeChain (k + more) id).take k = u.includeChain k id
  | 0, _, _ => List.take_zero
  | k + 1, more, id => by
      cases hid : u.file? id with
      | none => simp [includeChain_of_unknown hid]
      | some f =>
          rw [Nat.add_right_comm, includeChain_succ hid, includeChain_succ hid, List.take_succ_cons]
          cases f.includedFrom with
          | none => simp
          | some parent => simpa using take_includeChain u k more parent

theorem length_includeChain_le_steps (u : SourceUnit) (k : Nat) (id : FileId) :
    (u.includeChain k id).length ≤ k := by
  rw [← take_includeChain u k 0 id]
  exact List.length_take_le _ _

/-- **System regions are exact**, in every unit, valid or not: a place is in one if and
only if some file that is reached from its file by following the includers, each
identity standing for the first file that carries it, is a system header or lies
under one of the roots, component by component.  The walk that is searched ends after
as many files as the unit has; every longer walk begins with it, and holds the files
that are reached and no others, as it does itself. -/
theorem isSystemLocation_exact (u : SourceUnit) (l : Location) (roots : List String) :
    (u.isSystemLocation l roots = true
      ↔ ∃ f, u.Reaches l.file f ∧ (f.provenance = .system
          ∨ ∃ root ∈ roots, Path.components root <+: Path.components f.path))
    ∧ (∀ id f, u.file? id = some f ↔ f.id = id
        ∧ ∃ before after, u.files = before ++ f :: after ∧ ∀ g ∈ before, g.id ≠ id)
    ∧ (u.includeChain u.files.length l.file).length ≤ u.files.length
    ∧ ∀ more, (u.includeChain (u.files.length + more) l.file).take u.files.length
          = u.includeChain u.files.length l.file
        ∧ ∀ f, f ∈ u.includeChain (u.files.length + more) l.file ↔ u.Reaches l.file f := by
  refine ⟨?_, fun _ _ => file?_eq_some_iff, length_includeChain_le_steps u _ _,
    fun more => ⟨take_includeChain u _ more _, fun _ => mem_includeChain_add_iff more⟩⟩
  rw [isSystemLocation_iff]
  simp [SourceFile.isSystem, Path.isUnder]

/-- Two files that include each other, and a system header that hides behind the identity
of the second: the walk ends, and comes to no more than the two. -/
example : [[], ["lib"]].map (isSystemLocation ⟨[⟨⟨0⟩, "a", .user, some ⟨1⟩⟩,
      ⟨⟨1⟩, "lib/b", .user, some ⟨0⟩⟩, ⟨⟨1⟩, "c", .system, none⟩], []⟩ ⟨⟨0⟩, 1, 1⟩)
    = [false, true] := by
  decide

end SourceUnit

end DeclExport
